import ScriptValues.Proofs.Equality.Contents
import ScriptValues.Proofs.World.Run
import ScriptValues.TableHost.Embedding

/-! A value prints as its payload.

There are two printers: one walks through the values and the containers behind them, and one is given
the payload, a snapshot of the whole value. Both put the text of a collection together from the texts
of what it holds, and differ only in what they print for an aggregate. -/

namespace ScriptValues

namespace Payload

theorem texts_eq_map (items : List Payload) : texts items = items.map text := by
  induction items with
  | nil => rfl
  | cons p rest ih => rw [texts, ih, List.map_cons]

theorem entryTexts_eq_map (entries : List (Payload × Payload)) :
    entryTexts entries = entries.map fun entry => entryText entry.1.text entry.2.text := by
  induction entries with
  | nil => rfl
  | cons entry rest ih => rw [entryTexts, ih, List.map_cons]

theorem text_list (items : List Payload) : (list items).text = listText (items.map text) := by
  rw [text, texts_eq_map]

theorem text_set (items : List Payload) : (set items).text = setText (items.map text) := by
  rw [text, texts_eq_map]

theorem text_map (entries : List (Payload × Payload)) :
    (map entries).text =
      listText (entries.map fun entry => entryText entry.1.text entry.2.text) := by
  rw [text, entryTexts_eq_map]

end Payload

namespace World

variable {E : Type} {w : World E} {v : Value} {t : String} {n : Nat}

/-- `t` is the text of `v` if `leaf` is printed for each value that has no container behind it. -/
inductive Prints (w : World E) (leaf : Value → String) : Value → String → Prop
  | leaf {v : Value} (plain : (w.backing v).container? = none) : Prints w leaf v (leaf v)
  | list {v : Value} {l : ListId} (each : Value → String) (held : w.backing v = .list l)
      (items : ∀ x ∈ (w.list l).items, Prints w leaf x (each x)) :
      Prints w leaf v (listText ((w.list l).items.map each))
  | set {v : Value} {s : SetId} (each : Value → String) (held : w.backing v = .set s)
      (items : ∀ x ∈ (w.set s).items, Prints w leaf x (each x)) :
      Prints w leaf v (setText ((w.set s).items.map each))
  | map {v : Value} {m : MapId} (each : Value → String) (held : w.backing v = .map m)
      (keys : ∀ entry ∈ (w.map m).entries, Prints w leaf entry.1 (each entry.1))
      (elements : ∀ entry ∈ (w.map m).entries, Prints w leaf entry.2 (each entry.2)) :
      Prints w leaf v
        (listText ((w.map m).entries.map fun entry => entryText (each entry.1) (each entry.2)))

/-- Aggregates, those that the host holds included, are shown by their type. -/
def ShownByType (w : World E) (v : Value) : Prop :=
  w.family v = .aggregate ∨ w.family v = .aggregateProperty

instance : Decidable (w.ShownByType v) :=
  inferInstanceAs (Decidable (_ ∨ _))

def payloadText (w : World E) (v : Value) : String := (w.payload v).text

def leafText (w : World E) (v : Value) : String :=
  if w.ShownByType v then (w.ty v).text else w.payloadText v

namespace Prints

variable {leaf other : Value → String}

theorem unique (prints : w.Prints leaf v t) {t' : String} (again : w.Prints leaf v t') : t' = t := by
  induction prints generalizing t' with
  | leaf plain =>
      cases again with
      | leaf => rfl
      | list _ held | set _ held | map _ held =>
          rw [held] at plain
          cases plain
  | list each held _ ih =>
      cases again with
      | leaf plain =>
          rw [held] at plain
          cases plain
      | list _ held' items =>
          cases held.symm.trans held'
          rw [List.map_congr_left fun x item => ih x item (items x item)]
      | set _ held' | map _ held' => cases held.symm.trans held'
  | set each held _ ih =>
      cases again with
      | leaf plain =>
          rw [held] at plain
          cases plain
      | set _ held' items =>
          cases held.symm.trans held'
          rw [List.map_congr_left fun x item => ih x item (items x item)]
      | list _ held' | map _ held' => cases held.symm.trans held'
  | map each held _ _ ihKey ihElement =>
      cases again with
      | leaf plain =>
          rw [held] at plain
          cases plain
      | map _ held' keys elements =>
          cases held.symm.trans held'
          refine congrArg listText (List.map_congr_left fun entry member => ?_)
          rw [ihKey entry member (keys entry member), ihElement entry member (elements entry member)]
      | list _ held' | set _ held' => cases held.symm.trans held'

theorem congr (prints : w.Prints leaf v t)
    (same : ∀ x, w.Spans v x → (w.backing x).container? = none → leaf x = other x) :
    w.Prints other v t := by
  induction prints with
  | @leaf v plain =>
      rw [same v (spans_refl w v) plain]
      exact .leaf plain
  | list each held _ ih =>
      exact .list _ held fun x item => ih x item fun y path =>
        same y (path.of_contains (contains_of_list held item))
  | set each held _ ih =>
      exact .set _ held fun x item => ih x item fun y path =>
        same y (path.of_contains (contains_of_set held item))
  | map each held _ _ ihKey ihElement =>
      refine .map _ held (fun entry member => ?_) (fun entry member => ?_)
      · exact ihKey entry member fun y path =>
          same y (path.of_contains (contains_of_map held member).1)
      · exact ihElement entry member fun y path =>
          same y (path.of_contains (contains_of_map held member).2)

end Prints

theorem textWithin_leaf (plain : (w.backing v).container? = none) :
    w.textWithin (n + 1) v = w.leafText v := by
  cases held : w.backing v with
  | list | set | map =>
      rw [held] at plain
      cases plain
  | absent =>
      have nothing : w.payload v = .null := by
        rw [payload, walkBound, payloadWithin]
        simp only [held]
      simp [textWithin, leafText, ShownByType, family, payloadText, nothing, held, Backing.family,
        Payload.text]
  | _ => simp [textWithin, leafText, ShownByType, family, payloadText, held, Backing.family]

theorem payloadWithin_leaf (plain : (w.backing v).container? = none) :
    w.payloadWithin (n + 1) v = w.payload v := by
  rw [payload, walkBound]
  cases held : w.backing v with
  | list | set | map =>
      rw [held] at plain
      cases plain
  | enum variant => cases variant <;> simp only [payloadWithin, held]
  | function callable => cases callable <;> simp only [payloadWithin, held]
  | _ => simp only [payloadWithin, held]

/-- A walk of bounded depth that prints `leaf` for each value that has no container behind it. -/
structure Renders (w : World E) (leaf : Value → String) (walk : Nat → Value → String) : Prop where
  leaf : ∀ {v} n, (w.backing v).container? = none → walk (n + 1) v = leaf v
  list : ∀ {v l} n, w.backing v = .list l →
    walk (n + 1) v = listText ((w.list l).items.map (walk n))
  set : ∀ {v s} n, w.backing v = .set s → walk (n + 1) v = setText ((w.set s).items.map (walk n))
  map : ∀ {v m} n, w.backing v = .map m →
    walk (n + 1) v =
      listText ((w.map m).entries.map fun entry => entryText (walk n entry.1) (walk n entry.2))

/-- A walk that is not cut off comes to the end of every branch. -/
theorem Renders.prints {leaf : Value → String} {walk : Nat → Value → String}
    (renders : w.Renders leaf walk) (shallow : Shallow w.Contains n v) :
    w.Prints leaf v (walk n v) := by
  induction n generalizing v with
  | zero => exact shallow.elim
  | succ n ih =>
      have within : ∀ x, w.Contains v x → w.Prints leaf x (walk n x) :=
        fun x step => ih (shallow x step)
      cases held : w.backing v with
      | list l =>
          rw [renders.list n held]
          exact .list (walk n) held fun x item => within x (contains_of_list held item)
      | set s =>
          rw [renders.set n held]
          exact .set (walk n) held fun x item => within x (contains_of_set held item)
      | map m =>
          rw [renders.map n held]
          exact .map (walk n) held (fun entry member => within _ (contains_of_map held member).1)
            fun entry member => within _ (contains_of_map held member).2
      | _ =>
          have plain : (w.backing v).container? = none := by rw [held]; rfl
          rw [renders.leaf n plain]
          exact .leaf plain

theorem renders_text (w : World E) : w.Renders w.leafText w.textWithin where
  leaf _ plain := textWithin_leaf plain
  list _ held := by rw [textWithin, held]
  set _ held := by rw [textWithin, held]
  map _ held := by rw [textWithin, held]

theorem renders_payload (w : World E) :
    w.Renders w.payloadText fun n v => (w.payloadWithin n v).text where
  leaf _ plain := congrArg Payload.text (payloadWithin_leaf plain)
  list _ held := by
    rw [payloadWithin, held, Payload.text_list, List.map_map]
    rfl
  set _ held := by
    rw [payloadWithin, held, Payload.text_set, List.map_map]
    rfl
  map _ held := by
    rw [payloadWithin, held, Payload.text_map, List.map_map]
    rfl

/-- Each value has one text, in which aggregates are shown by their type, and one that is the text of
its payload. Nothing but the aggregates makes the two differ. -/
theorem text_eq_payload_text (w : World E) (v : Value) (loopless : Loopless w.Contains v) :
    (∀ t, w.Prints w.payloadText v t ↔ t = (w.payload v).text) ∧
      (∀ t, w.Prints w.leafText v t ↔ t = w.text v) ∧
        ((∀ x, w.Spans v x → ¬ w.ShownByType x) → w.text v = (w.payload v).text) := by
  have shallow : Shallow w.Contains w.walkBound v := shallow_of_loopless loopless
  have payload : w.Prints w.payloadText v (w.payload v).text :=
    (renders_payload w).prints shallow
  have text : w.Prints w.leafText v (w.text v) := (renders_text w).prints shallow
  refine ⟨fun t => ⟨payload.unique, ?_⟩, fun t => ⟨text.unique, ?_⟩, fun plain => ?_⟩
  · rintro rfl
    exact payload
  · rintro rfl
    exact text
  · have same : ∀ x, w.Spans v x → (w.backing x).container? = none →
        w.leafText x = w.payloadText x := fun x path _ => if_neg (plain x path)
    exact payload.unique (text.congr same)

/-- A map to a set, the items of which were made equal after they were added, and a list in which an
aggregate is shown by its type. -/
theorem text_eq_payload_text_rewritten :
    let w := (World.initial 4 (Outside.initial "host" Table.empty)).after TableHost.embedding
      [.newBasic .int (.int 1) true, .newBasic .int (.int 2) true, .newSet (.set .int),
        .setAdd ⟨0⟩ ⟨2⟩, .setAdd ⟨0⟩ ⟨3⟩, .newMap (.map .int (.set .int)), .mapAdd ⟨0⟩ ⟨2⟩ ⟨4⟩,
        .write ⟨2⟩ (.int 2), .newAggregate (.aggregate "Point" [] false) ⟨0⟩ (.int 7),
        .newList (.list (.aggregate "Point" [] false)), .listAdd ⟨0⟩ ⟨6⟩, .listAdd ⟨0⟩ ⟨2⟩]
    w.text ⟨5⟩ = "[2 -> <2, 2>]" ∧ w.text ⟨5⟩ = (w.payload ⟨5⟩).text ∧
      w.text ⟨7⟩ = "[Point, 2]" ∧ (w.payload ⟨7⟩).text = "[7, 2]" ∧
        w.Prints w.leafText ⟨7⟩ (w.text ⟨7⟩) ∧ w.Prints w.payloadText ⟨7⟩ (w.payload ⟨7⟩).text := by
  intro w
  have earlier : ∀ i < w.cells.size, ∀ u ∈ w.contents ⟨i⟩, u.index < i := by decide +kernel
  obtain ⟨-, -, plain⟩ := text_eq_payload_text w ⟨5⟩ (loopless_of_earlier earlier ⟨5⟩)
  obtain ⟨payloads, texts, -⟩ := text_eq_payload_text w ⟨7⟩ (loopless_of_earlier earlier ⟨7⟩)
  have basic : ∀ i < 6, ¬ w.ShownByType ⟨i⟩ := by decide +kernel
  have apart : ∀ x, w.Spans ⟨5⟩ x → ¬ w.ShownByType x := fun x path =>
    basic x.index (Nat.lt_succ_of_le (index_le_of_spans earlier path))
  exact ⟨by decide +kernel, plain apart, by decide +kernel, by decide +kernel,
    (texts _).mpr rfl, (payloads _).mpr rfl⟩

end World

end ScriptValues
