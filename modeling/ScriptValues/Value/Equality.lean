import ScriptValues.Value.Reading

/-! Equality of values.

Handles to one cell are equal, except that the absent value equals nothing. Otherwise values of
different types differ, unless one of them is an encapsulated field, which is compared by what it
holds. -/

namespace ScriptValues

namespace World

variable {E : Type}

def samePayload (w : World E) (v u : Value) : Bool :=
  !(w.payload v).isNull && !(w.payload u).isNull && (w.payload v).same (w.payload u)

def elementAt? (m : MapBox) (key : Payload) : Option Value :=
  (m.index.find? fun row => key.same row.1).bind fun row =>
    m.entries[row.2]?.map Prod.snd

def indexed (index : List Payload) (p : Payload) : Bool := index.any (p.same ·)

def sameWithin (w : World E) : Nat → Value → Value → Bool
  | 0, _, _ => false
  | bound + 1, v, u =>
      if w.isAbsent v || w.isAbsent u then false
      else if v = u then true
      else if w.family v == .field || w.family u == .field then w.samePayload v u
      else if !(w.ty v).same (w.ty u) then false
      else
        match w.backing v, w.backing u with
        | .aggregate p s, .aggregate q t => decide (s = t) && !p.isNull && !q.isNull && p.same q
        | .list l, .list k =>
            decide (l = k) ||
              ((w.list l).items.length == (w.list k).items.length &&
                ((w.list l).items.zip (w.list k).items).all fun pair =>
                  w.sameWithin bound pair.1 pair.2)
        | .set s, .set t =>
            decide (s = t) ||
              ((w.set s).items.length == (w.set t).items.length &&
                (w.set t).items.all fun item => indexed (w.set s).index (w.payload item))
        | .map m, .map n =>
            decide (m = n) ||
              ((w.map m).entries.length == (w.map n).entries.length &&
                (w.map m).entries.all fun entry =>
                  (elementAt? (w.map n) (w.payload entry.1)).any fun found =>
                    w.sameWithin bound found entry.2)
        | _, _ => w.samePayload v u

/-- Equality of values: sets and maps by what they hold, whatever the order. -/
def same (w : World E) (v u : Value) : Bool := w.sameWithin w.walkBound v u

end World

end ScriptValues
