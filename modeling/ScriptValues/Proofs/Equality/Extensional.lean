import ScriptValues.Proofs.Equality.Duplicates

/-! Sets and maps are equal when they hold the same, in whatever order it was added.

The comparison counts, and looks for what the one holds in the other. Nothing is repeated in either,
so as many items that are all found leave nothing over on the other side. -/

namespace ScriptValues

namespace Log

variable {α β : Type} {rows : Log α} {others : Log β} {f : α → Payload} {g : β → Payload}

theorem Tidy.length_le (tidy : rows.Tidy f) (tidy' : others.Tidy g)
    (found : ∀ row ∈ rows, ∃ other ∈ others, (f row.1).same other.2 = true) :
    rows.length ≤ others.length := by
  refine length_le_of_matched (tidy.apart.imp_of_mem fun {a b} _ there apart other known => ?_) found
  intro first second
  have back := ((tidy.now b there).same_iff (tidy'.clean other known)).mp second
  rw [Payload.same_trans first back] at apart
  cases apart

theorem Tidy.length_eq (tidy : rows.Tidy f) (tidy' : others.Tidy g)
    (found : ∀ row ∈ rows, ∃ other ∈ others, (f row.1).same other.2 = true)
    (back : ∀ other ∈ others, ∃ row ∈ rows, (g other.1).same row.2 = true) :
    rows.length = others.length :=
  Nat.le_antisymm (tidy.length_le tidy' found) (tidy'.length_le tidy back)

end Log

namespace World

variable {E : Type} {w : World E} {v u a b : Value} {R S : Value → Value → Prop} {s t : SetId}
  {m n : MapId}

/-- Whatever payload one of the sets contains, the other contains too. -/
def SetsAlike (w : World E) (s t : SetId) : Prop :=
  ∀ p, indexed (w.set s).index p = indexed (w.set t).index p

structure MapsAlike (w : World E) (m n : MapId) : Prop where
  keys : ∀ p, ((w.map m).position? p).isSome = ((w.map n).position? p).isSome
  elements : ∀ p e e', p.Clean → elementAt? (w.map m) p = some e →
    elementAt? (w.map n) p = some e' → w.same e e' = true

/-! The comparison does not depend on how far a walk may go -/

theorem exists_entry_of_elementAt? {box : MapBox} {p : Payload} {e : Value}
    (found : elementAt? box p = some e) : ∃ entry ∈ box.entries, entry.2 = e := by
  obtain ⟨row, _, known⟩ := Option.bind_eq_some_iff.mp found
  obtain ⟨entry, there, same⟩ := Option.map_eq_some_iff.mp known
  exact ⟨entry, List.mem_of_getElem? there, same⟩

theorem Matches.imp
    (inside : ∀ a b, w.Contains v a → w.Contains u b → (R a b → S a b) ∧ (R b a → S b a))
    (matched : w.Matches R v u) : w.Matches S v u := by
  cases matched with
  | itself present same => exact .itself present same
  | field present other field equal => exact .field present other field equal
  | payload typed outside equal => exact .payload typed outside equal
  | aggregate typed held held' equal => exact .aggregate typed held held' equal
  | set typed held held' items => exact .set typed held held' items
  | list typed held held' items =>
      refine .list typed held held' (items.imp id fun items => ?_)
      obtain ⟨size, pairs⟩ := List.forall₂_iff_get.mp items
      refine List.forall₂_iff_get.mpr ⟨size, fun i h h' => ?_⟩
      have here := contains_of_list held (List.get_mem _ ⟨i, h⟩)
      have there := contains_of_list held' (List.get_mem _ ⟨i, h'⟩)
      exact (inside _ _ here there).1 (pairs i h h')
  | map typed held held' entries =>
      refine .map typed held held' (entries.imp id fun ⟨size, covered⟩ => ⟨size, ?_⟩)
      intro entry member
      obtain ⟨found, known, related⟩ := covered entry member
      obtain ⟨other, there, same⟩ := exists_entry_of_elementAt? known
      have here := (contains_of_map held member).2
      have there := (contains_of_map held' there).2
      rw [same] at there
      exact ⟨found, known, (inside _ _ here there).2 related⟩

/-- Two comparisons that are not cut off have one outcome. -/
theorem sameWithin_eq {k l : Nat} (shallow : Shallow w.Contains k v)
    (shallow' : Shallow w.Contains k u) (enough : k ≤ l) :
    w.sameWithin l v u = w.sameWithin k v u := by
  induction k generalizing v u l with
  | zero => exact shallow.elim
  | succ k ih =>
      obtain ⟨l, rfl⟩ : ∃ j, l = j + 1 := ⟨l - 1, by omega⟩
      have within : ∀ a b, w.Contains v a → w.Contains u b →
          w.sameWithin l a b = w.sameWithin k a b ∧ w.sameWithin l b a = w.sameWithin k b a := by
        intro a b step step'
        have fewer := Nat.le_of_succ_le_succ enough
        exact ⟨ih (shallow a step) (shallow' b step') fewer,
          ih (shallow' b step') (shallow a step) fewer⟩
      refine Bool.eq_iff_iff.mpr ⟨fun equal => ?_, fun equal => ?_⟩
      · refine sameWithin_of_matches ((matches_of_sameWithin equal).imp fun a b step step' => ?_)
        obtain ⟨there, back⟩ := within a b step step'
        exact ⟨there ▸ id, back ▸ id⟩
      · refine sameWithin_of_matches ((matches_of_sameWithin equal).imp fun a b step step' => ?_)
        obtain ⟨there, back⟩ := within a b step step'
        exact ⟨there ▸ id, back ▸ id⟩

/-- Values are equal if they match in one step, where what they contain is compared as values. -/
theorem same_iff_matches (loopless : Loopless w.Contains v) (loopless' : Loopless w.Contains u) :
    w.same v u = true ↔ w.Matches (fun a b => w.same a b = true) v u := by
  have within : ∀ a b, w.Contains v a → w.Contains u b →
      w.same a b = w.sameWithin w.cells.size a b ∧ w.same b a = w.sameWithin w.cells.size b a := by
    intro a b step step'
    have shallow : Shallow w.Contains w.cells.size a := shallow_of_loopless loopless a step
    have shallow' : Shallow w.Contains w.cells.size b := shallow_of_loopless loopless' b step'
    exact ⟨sameWithin_eq shallow shallow' (Nat.le_succ _),
      sameWithin_eq shallow' shallow (Nat.le_succ _)⟩
  constructor
  · intro equal
    refine (matches_of_sameWithin equal).imp fun a b step step' => ?_
    obtain ⟨there, back⟩ := within a b step step'
    exact ⟨there ▸ id, back ▸ id⟩
  · intro matched
    refine sameWithin_of_matches (matched.imp fun a b step step' => ?_)
    obtain ⟨there, back⟩ := within a b step step'
    exact ⟨there ▸ id, back ▸ id⟩

/-! One step between two sets or two maps -/

theorem typed_of_containers {c d : Container} (behind : (w.backing a).container? = some c)
    (behind' : (w.backing b).container? = some d) (other : a ≠ b)
    (types : (w.ty a).same (w.ty b) = true) : w.Typed a b := by
  have family : ∀ {x e}, (w.backing x).container? = some e →
      w.isAbsent x = false ∧ w.family x ≠ .field := by
    intro x e there
    rw [World.isAbsent, World.family]
    cases held : w.backing x with
    | list | set | map =>
        refine ⟨rfl, fun same => ?_⟩
        cases same
    | _ =>
        rw [held] at there
        cases there
  exact ⟨⟨(family behind).1, (family behind').1⟩, other, ⟨(family behind).2, (family behind').2⟩,
    types⟩

theorem matches_sets_iff (held : w.backing a = .set s) (held' : w.backing b = .set t)
    (types : (w.ty a).same (w.ty b) = true) :
    w.Matches R a b ↔ s = t ∨ (w.set s).items.length = (w.set t).items.length ∧
      ∀ item ∈ (w.set t).items, indexed (w.set s).index (w.payload item) = true := by
  have behind : (w.backing a).container? = some (.set s) := by rw [held]; rfl
  have behind' : (w.backing b).container? = some (.set t) := by rw [held']; rfl
  constructor
  · intro matched
    cases matched with
    | itself _ same =>
        subst same
        cases held.symm.trans held'
        exact .inl rfl
    | field _ other field _ =>
        have typed := typed_of_containers behind behind' other types
        exact (field.elim typed.fields.1 typed.fields.2).elim
    | payload _ outside _ =>
        rw [comparedInside, held, held'] at outside
        cases outside
    | set _ here here' items =>
        cases held.symm.trans here
        cases held'.symm.trans here'
        exact items
    | aggregate _ here _ _ | list _ here _ _ | map _ here _ _ => cases held.symm.trans here
  · intro items
    by_cases same : a = b
    · subst same
      refine .itself ?_ rfl
      rw [World.isAbsent, World.family, held]
      rfl
    · exact .set (typed_of_containers behind behind' same types) held held' items

theorem matches_maps_iff (held : w.backing a = .map m) (held' : w.backing b = .map n)
    (types : (w.ty a).same (w.ty b) = true) :
    w.Matches R a b ↔ m = n ∨ (w.map m).entries.length = (w.map n).entries.length ∧
      ∀ entry ∈ (w.map m).entries,
        ∃ found, elementAt? (w.map n) (w.payload entry.1) = some found ∧ R found entry.2 := by
  have behind : (w.backing a).container? = some (.map m) := by rw [held]; rfl
  have behind' : (w.backing b).container? = some (.map n) := by rw [held']; rfl
  constructor
  · intro matched
    cases matched with
    | itself _ same =>
        subst same
        cases held.symm.trans held'
        exact .inl rfl
    | field _ other field _ =>
        have typed := typed_of_containers behind behind' other types
        exact (field.elim typed.fields.1 typed.fields.2).elim
    | payload _ outside _ =>
        rw [comparedInside, held, held'] at outside
        cases outside
    | map _ here here' entries =>
        cases held.symm.trans here
        cases held'.symm.trans here'
        exact entries
    | aggregate _ here _ _ | list _ here _ _ | set _ here _ _ => cases held.symm.trans here
  · intro entries
    by_cases same : a = b
    · subst same
      refine .itself ?_ rfl
      rw [World.isAbsent, World.family, held]
      rfl
    · exact .map (typed_of_containers behind behind' same types) held held' entries

theorem same_sets_iff (held : w.backing a = .set s) (held' : w.backing b = .set t)
    (types : (w.ty a).same (w.ty b) = true) :
    w.same a b = true ↔ s = t ∨ (w.set s).items.length = (w.set t).items.length ∧
      ∀ item ∈ (w.set t).items, indexed (w.set s).index (w.payload item) = true := by
  constructor
  · intro equal
    exact (matches_sets_iff held held' types).mp (matches_of_sameWithin equal)
  · intro items
    exact sameWithin_of_matches ((matches_sets_iff held held' types).mpr items)

/-! Extensionality -/

section Sound

variable (boxes : w.BoxesSound)
include boxes

theorem SetsAlike.exists_row (alike : w.SetsAlike s t) (tidy : (w.set s).log.Tidy w.payload)
    {row : Value × Payload} (member : row ∈ (w.set s).log) :
    ∃ other ∈ (w.set t).log, (w.payload row.1).same other.2 = true := by
  have inside : indexed (w.set s).index (w.payload row.1) = true := by
    rw [(boxes.sets s).indexed, Log.holds_iff]
    exact ⟨row, member, tidy.current row member⟩
  rwa [alike, (boxes.sets t).indexed, Log.holds_iff] at inside

theorem same_iff_setsAlike (orderly : w.Orderly a) (orderly' : w.Orderly b)
    (held : w.backing a = .set s) (held' : w.backing b = .set t)
    (types : (w.ty a).same (w.ty b) = true) : w.same a b = true ↔ w.SetsAlike s t := by
  have tidy := orderly.tidy_set boxes held
  have tidy' := orderly'.tidy_set boxes held'
  rw [same_sets_iff held held' types]
  constructor
  · rintro (same | ⟨size, covered⟩)
    · subst same
      exact fun _ => rfl
    intro p
    rw [(boxes.sets s).indexed, (boxes.sets t).indexed]
    refine Bool.eq_iff_iff.mpr ⟨fun there => ?_, fun there => ?_⟩
    · obtain ⟨row, member, equal⟩ := Log.holds_iff.mp there
      obtain ⟨other, known, found⟩ :=
        exists_row_of_covered boxes tidy tidy' size covered (item_of_log boxes member)
      have back := ((tidy'.now other known).same_iff (tidy.now row member)).mp found
      have turned := Payload.same_trans back (tidy'.current other known)
      exact Log.holds_iff.mpr ⟨other, known,
        Payload.same_trans equal (Payload.same_trans (tidy.back member) turned)⟩
    · obtain ⟨row, member, equal⟩ := Log.holds_iff.mp there
      have inside := covered row.1 (item_of_log boxes member)
      rw [(boxes.sets s).indexed, Log.holds_iff] at inside
      obtain ⟨other, known, found⟩ := inside
      exact Log.holds_iff.mpr ⟨other, known,
        Payload.same_trans equal (Payload.same_trans (tidy'.back member) found)⟩
  · intro alike
    have back : w.SetsAlike t s := fun p => (alike p).symm
    refine .inr ⟨?_, fun item member => ?_⟩
    · rw [(boxes.sets s).items, (boxes.sets t).items, List.length_map, List.length_map]
      exact tidy.length_eq tidy' (fun row member => alike.exists_row boxes tidy member)
        fun row member => back.exists_row boxes tidy' member
    · obtain ⟨row, known, same⟩ := exists_row_of_item boxes member
      subst same
      rw [alike, (boxes.sets t).indexed, Log.holds_iff]
      exact ⟨row, known, tidy'.current row known⟩

theorem same_iff_payload_same (orderly : w.Orderly a) (orderly' : w.Orderly b)
    (held : w.backing a = .set s) (held' : w.backing b = .set t)
    (types : (w.ty a).same (w.ty b) = true) :
    w.same a b = true ↔ (w.payload a).same (w.payload b) = true := by
  refine ⟨payload_same_of_sameWithin boxes _ orderly orderly', fun equal => ?_⟩
  have clean := orderly.clean boxes
  have clean' := orderly'.clean boxes
  rw [clean.same_comm clean', payload_of_set orderly.loopless held,
    payload_of_set orderly'.loopless held', Payload.same_set_iff, List.length_map,
    List.length_map] at equal
  obtain ⟨size, found⟩ := equal
  refine (same_sets_iff held held' types).mpr (.inr ⟨size.symm, fun item member => ?_⟩)
  obtain ⟨p, there, equal⟩ := found _ (List.mem_map_of_mem member)
  obtain ⟨x, item', same⟩ := List.mem_map.mp there
  subst same
  obtain ⟨row, known, same⟩ := exists_row_of_item boxes item'
  subst same
  have now := (orderly'.of_contains (contains_of_set held' member)).clean boxes
  have tidy := orderly.tidy_set boxes held
  have back := ((tidy.now row known).same_iff now).mp equal
  rw [(boxes.sets s).indexed, Log.holds_iff]
  exact ⟨row, known, Payload.same_trans back (tidy.current row known)⟩

theorem elementAt?_isSome (m : MapId) (p : Payload) :
    (elementAt? (w.map m) p).isSome = ((w.map m).position? p).isSome := by
  rw [(boxes.maps m).elementAt?, Option.isSome_map, Log.find?_isSome, (boxes.maps m).position?]

theorem exists_row_of_keys
    (keys : ∀ p, ((w.map m).position? p).isSome = ((w.map n).position? p).isSome)
    (tidy : (w.map m).log.Tidy fun entry => w.payload entry.1) {row : (Value × Value) × Payload}
    (member : row ∈ (w.map m).log) :
    ∃ other ∈ (w.map n).log, (w.payload row.1.1).same other.2 = true := by
  have inside : ((w.map m).position? (w.payload row.1.1)).isSome = true := by
    rw [(boxes.maps m).position?, Log.holds_iff]
    exact ⟨row, member, tidy.current row member⟩
  rwa [keys, (boxes.maps n).position?, Log.holds_iff] at inside

theorem same_iff_mapsAlike (orderly : w.Orderly a) (orderly' : w.Orderly b)
    (held : w.backing a = .map m) (held' : w.backing b = .map n)
    (types : (w.ty a).same (w.ty b) = true) : w.same a b = true ↔ m = n ∨ w.MapsAlike m n := by
  have tidy := orderly.tidy_map boxes held
  have tidy' := orderly'.tidy_map boxes held'
  rw [same_iff_matches orderly.loopless orderly'.loopless, matches_maps_iff held held' types]
  refine or_congr_right ⟨fun ⟨size, covered⟩ => ?_, fun alike => ?_⟩
  · refine ⟨fun p => ?_, fun p e e' clean element element' => ?_⟩
    · rw [(boxes.maps m).position?, (boxes.maps n).position?]
      refine Bool.eq_iff_iff.mpr ⟨fun there => ?_, fun there => ?_⟩
      · obtain ⟨row, member, equal⟩ := Log.holds_iff.mp there
        obtain ⟨found, known, _⟩ := covered row.1 (entry_of_log boxes member)
        obtain ⟨other, there', under, _⟩ := exists_row_of_elementAt? boxes known
        exact Log.holds_iff.mpr ⟨other, there',
          Payload.same_trans equal (Payload.same_trans (tidy.back member) under)⟩
      · obtain ⟨row, member, equal⟩ := Log.holds_iff.mp there
        obtain ⟨other, there', under, _⟩ :=
          exists_row_of_found (R := fun x y => w.same x y = true) boxes tidy tidy' size covered
            (entry_of_log boxes member)
        exact Log.holds_iff.mpr ⟨other, there',
          Payload.same_trans equal (Payload.same_trans (tidy'.back member) under)⟩
    · obtain ⟨row, member, equal, same⟩ := exists_row_of_elementAt? boxes element
      subst same
      have inside := contains_of_map held (entry_of_log boxes member)
      obtain ⟨found, known, related⟩ := covered row.1 (entry_of_log boxes member)
      -- The key under which the element was found leads to the same element of the other map.
      have there := Payload.same_trans equal (tidy.back member)
      have back := (clean.same_iff (tidy.now row member)).mp there
      have alike : p.same = (w.payload row.1.1).same := funext (Payload.same_congr there back)
      rw [elementAt?, alike] at element'
      cases known.symm.trans element'
      obtain ⟨entry, member', same⟩ := exists_entry_of_elementAt? known
      have inside' := contains_of_map held' member'
      rw [same] at inside'
      exact sameWithin_symm boxes _ (orderly'.of_contains inside'.2) (orderly.of_contains inside.2)
        related
  · refine ⟨?_, fun entry member => ?_⟩
    · rw [(boxes.maps m).entries, (boxes.maps n).entries, List.length_map, List.length_map]
      exact tidy.length_eq tidy' (fun row member => exists_row_of_keys boxes alike.keys tidy member)
        fun row member => exists_row_of_keys boxes (fun p => (alike.keys p).symm) tidy' member
    · obtain ⟨row, there, same⟩ := exists_row_of_entry boxes member
      subst same
      have now := tidy.now row there
      have element : elementAt? (w.map m) (w.payload row.1.1) = some row.1.2 := by
        rw [(boxes.maps m).elementAt?, tidy.find?_of_mem there now (tidy.current row there)]
        rfl
      have known : (elementAt? (w.map n) (w.payload row.1.1)).isSome = true := by
        rw [elementAt?_isSome boxes, ← alike.keys, ← elementAt?_isSome boxes, element]
        rfl
      obtain ⟨found, element'⟩ := Option.isSome_iff_exists.mp known
      obtain ⟨other, member', same⟩ := exists_entry_of_elementAt? element'
      have inside := contains_of_map held member
      have inside' := contains_of_map held' member'
      rw [same] at inside'
      exact ⟨found, element', sameWithin_symm boxes _ (orderly.of_contains inside.2)
        (orderly'.of_contains inside'.2) (alike.elements _ _ _ now element element')⟩

end Sound

end World

end ScriptValues
