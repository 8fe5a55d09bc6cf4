import ScriptValues.Proofs.Collection.Effect

/-! The methods of the collections, seen from their containers.

A method finds the container of its receiver and works on that. Which container it needs is fixed by
the method, so a receiver of another family is refused, and nothing is touched. -/

namespace ScriptValues

variable {E : Type}

namespace Method

def family : Method → Family
  | listAdd | listSize | listGet | listClear => .list
  | setAdd | setSize | setContains | setClear => .set
  | mapAdd | mapGet | mapSize | mapKeys | mapElements | mapClear => .map

end Method

def Container.family : Container → Family
  | .list _ => .list
  | .set _ => .set
  | .map _ => .map

namespace World

variable {w : World E} {receiver : Value} {method : Method} {c : Container}

def itemNamed (w : World E) (l : ListId) (position : Value) : Value :=
  match w.payload position with
  | .int n =>
      if 0 ≤ n.toInt ∧ n.toInt < (w.list l).items.length then
        (w.list l).items.getD n.toInt.toNat .none
      else .none
  | _ => .none

def answered : Except Fault Bool × World E → Option (Value × World E)
  | (.ok added, w) => some (w.newBool added)
  | (.error _, _) => none

/-- What a method answers for a container, and the world that it leaves, if the container is of the
right kind, the arguments of the right number, and the method answers at all. -/
def view (w : World E) : Method → Container → List Value → Option (Value × World E)
  | .listAdd, .list l, [item] => some (.none, w.listAdd l item)
  | .listSize, .list l, [] => some (w.newInt (clampedLength (w.list l).items.length))
  | .listGet, .list l, [position] => some (w.itemNamed l position, w)
  | .listClear, .list l, [] => some (.none, w.listClear l)
  | .setAdd, .set s, [item] => answered (setAdd s item w)
  | .setSize, .set s, [] => some (w.newInt (clampedLength (w.set s).items.length))
  | .setContains, .set s, [item] => some (w.newBool (w.setContains s item))
  | .setClear, .set s, [] => some (.none, w.setClear s)
  | .mapAdd, .map m, [key, element] => answered (mapAdd m key element w)
  | .mapGet, .map m, [key] => some (w.mapGet m key, w)
  | .mapSize, .map m, [] => some (w.newInt (clampedLength (w.map m).entries.length))
  | .mapKeys, .map m, [] =>
      some (w.newListOf (.list (w.map m).key) ((w.map m).entries.map Prod.fst))
  | .mapElements, .map m, [] =>
      some (w.newListOf (.list (w.map m).element) ((w.map m).entries.map Prod.snd))
  | .mapClear, .map m, [] => some (.none, w.mapClear m)
  | _, _, _ => none

section Bodies

end Bodies

end World

end ScriptValues
