import ScriptValues.Proofs.Equality.Orderly
import ScriptValues.Proofs.TableHost.Tracking

/-! Equality of values goes both ways.

Sets and maps ask only whether one of two containers covers the other, a set the other way round
than a map. Where both hold as much, and everything is filed under its payload, the other direction
follows. -/

namespace ScriptValues

namespace World

variable {E : Type} {w : World E} {v u : Value} {R : Value → Value → Prop}

/-- Two different values that are there, of one type, and not told apart by what a field holds. -/
structure Typed (w : World E) (v u : Value) : Prop where
  present : w.isAbsent v = false ∧ w.isAbsent u = false
  other : v ≠ u
  fields : w.family v ≠ .field ∧ w.family u ≠ .field
  types : (w.ty v).same (w.ty u) = true

theorem Typed.symm (typed : w.Typed v u) : w.Typed u v :=
  ⟨typed.present.symm, typed.other.symm, typed.fields.symm, Ty.same_comm _ _ ▸ typed.types⟩

/-- Aggregates, lists, sets and maps among each other are not compared by their payload alone. -/
def comparedInside (w : World E) (v u : Value) : Bool :=
  match w.backing v, w.backing u with
  | .aggregate _ _, .aggregate _ _ | .list _, .list _ | .set _, .set _ | .map _, .map _ => true
  | _, _ => false

/-- One step of the comparison of values, where `R` compares what they contain. -/
inductive Matches (w : World E) (R : Value → Value → Prop) (v u : Value) : Prop
  | itself (present : w.isAbsent v = false) (same : v = u)
  | field (present : w.isAbsent v = false ∧ w.isAbsent u = false) (other : v ≠ u)
      (field : w.family v = .field ∨ w.family u = .field) (equal : w.samePayload v u = true)
  | payload (typed : w.Typed v u) (outside : w.comparedInside v u = false)
      (equal : w.samePayload v u = true)
  | aggregate (typed : w.Typed v u) {p q : Payload} {space : SpaceId}
      (held : w.backing v = .aggregate p space) (held' : w.backing u = .aggregate q space)
      (equal : p.isNull = false ∧ q.isNull = false ∧ p.same q = true)
  | list (typed : w.Typed v u) {l k : ListId} (held : w.backing v = .list l)
      (held' : w.backing u = .list k)
      (items : l = k ∨ List.Forall₂ R (w.list l).items (w.list k).items)
  | set (typed : w.Typed v u) {s t : SetId} (held : w.backing v = .set s)
      (held' : w.backing u = .set t)
      (items : s = t ∨ (w.set s).items.length = (w.set t).items.length ∧
        ∀ item ∈ (w.set t).items, indexed (w.set s).index (w.payload item) = true)
  | map (typed : w.Typed v u) {m n : MapId} (held : w.backing v = .map m)
      (held' : w.backing u = .map n)
      (entries : m = n ∨ (w.map m).entries.length = (w.map n).entries.length ∧
        ∀ entry ∈ (w.map m).entries,
          ∃ found, elementAt? (w.map n) (w.payload entry.1) = some found ∧ R found entry.2)

theorem sameWithin_of_typed (n : Nat) (typed : w.Typed v u) :
    w.sameWithin (n + 1) v u =
      match w.backing v, w.backing u with
      | .aggregate p s, .aggregate q t => decide (s = t) && !p.isNull && !q.isNull && p.same q
      | .list l, .list k =>
          decide (l = k) ||
            ((w.list l).items.length == (w.list k).items.length &&
              ((w.list l).items.zip (w.list k).items).all fun pair => w.sameWithin n pair.1 pair.2)
      | .set s, .set t =>
          decide (s = t) ||
            ((w.set s).items.length == (w.set t).items.length &&
              (w.set t).items.all fun item => indexed (w.set s).index (w.payload item))
      | .map m, .map k =>
          decide (m = k) ||
            ((w.map m).entries.length == (w.map k).entries.length &&
              (w.map m).entries.all fun entry =>
                (elementAt? (w.map k) (w.payload entry.1)).any fun found =>
                  w.sameWithin n found entry.2)
      | _, _ => w.samePayload v u := by
  have fields : (w.family v == .field || w.family u == .field) = false := by
    simp [typed.fields.1, typed.fields.2]
  rw [sameWithin, typed.present.1, typed.present.2, fields, typed.types, if_neg typed.other]
  rfl

theorem typed_or_matches {n : Nat} (equal : w.sameWithin (n + 1) v u = true) :
    w.Typed v u ∨ w.Matches R v u := by
  rw [sameWithin] at equal
  by_cases absent : (w.isAbsent v || w.isAbsent u) = true
  · rw [if_pos absent] at equal
    cases equal
  have present : w.isAbsent v = false ∧ w.isAbsent u = false := by simpa using absent
  rw [if_neg absent] at equal
  by_cases same : v = u
  · exact .inr (.itself present.1 same)
  rw [if_neg same] at equal
  by_cases field : (w.family v == .field || w.family u == .field) = true
  · rw [if_pos field] at equal
    exact .inr (.field present same (by simpa using field) equal)
  rw [if_neg field] at equal
  have fields : w.family v ≠ .field ∧ w.family u ≠ .field := by simpa using field
  cases types : (w.ty v).same (w.ty u) with
  | true => exact .inl ⟨present, same, fields, types⟩
  | false =>
      rw [types] at equal
      cases equal

theorem matches_of_sameWithin {n : Nat} (equal : w.sameWithin (n + 1) v u = true) :
    w.Matches (fun a b => w.sameWithin n a b = true) v u := by
  rcases typed_or_matches equal with typed | matched
  · rw [sameWithin_of_typed n typed] at equal
    split at equal
    case h_1 p s q t held held' =>
      simp only [Bool.and_eq_true, decide_eq_true_eq, Bool.not_eq_true'] at equal
      obtain ⟨⟨⟨here, first⟩, second⟩, equal⟩ := equal
      subst here
      exact .aggregate typed held held' ⟨first, second, equal⟩
    case h_2 l k held held' =>
      refine .list typed held held' ?_
      rw [List.forall₂_iff_zip]
      simpa using equal
    case h_3 s t held held' =>
      refine .set typed held held' ?_
      simpa using equal
    case h_4 m k held held' =>
      refine .map typed held held' ?_
      simpa [Option.any_eq_true] using equal
    case h_5 aggregate list set map =>
      refine .payload typed ?_ equal
      unfold comparedInside
      split
      · exact (aggregate _ _ _ _ ‹_› ‹_›).elim
      · exact (list _ _ ‹_› ‹_›).elim
      · exact (set _ _ ‹_› ‹_›).elim
      · exact (map _ _ ‹_› ‹_›).elim
      · rfl
  · exact matched

theorem sameWithin_of_matches {n : Nat}
    (matched : w.Matches (fun a b => w.sameWithin n a b = true) v u) :
    w.sameWithin (n + 1) v u = true := by
  cases matched with
  | itself present same =>
      subst same
      rw [sameWithin, present, if_pos rfl]
      rfl
  | field present other field equal =>
      have either : (w.family v == .field || w.family u == .field) = true := by simpa using field
      rw [sameWithin, present.1, present.2, either, if_neg other]
      exact equal
  | payload typed outside equal =>
      rw [sameWithin_of_typed n typed]
      unfold comparedInside at outside
      split
      case h_5 => exact equal
      all_goals
        rename_i held held'
        rw [held, held'] at outside
        cases outside
  | aggregate typed held held' equal =>
      rw [sameWithin_of_typed n typed, held, held']
      simp [equal]
  | list typed held held' items =>
      rw [sameWithin_of_typed n typed, held, held']
      rw [List.forall₂_iff_zip] at items
      simpa using items
  | set typed held held' items =>
      rw [sameWithin_of_typed n typed, held, held']
      simpa using items
  | map typed held held' entries =>
      rw [sameWithin_of_typed n typed, held, held']
      simpa [Option.any_eq_true] using entries

theorem samePayload_comm (clean : (w.payload v).Clean) (clean' : (w.payload u).Clean) :
    w.samePayload v u = w.samePayload u v := by
  rw [samePayload, samePayload, clean.same_comm clean', Bool.and_comm (!(w.payload v).isNull)]

theorem comparedInside_comm (w : World E) (v u : Value) :
    w.comparedInside v u = w.comparedInside u v := by
  unfold comparedInside
  cases w.backing v <;> cases w.backing u <;> rfl

theorem exists_row_of_item (boxes : w.BoxesSound) {s : SetId} {x : Value}
    (item : x ∈ (w.set s).items) : ∃ row ∈ (w.set s).log, row.1 = x := by
  rw [(boxes.sets s).items] at item
  exact List.mem_map.mp item

theorem exists_row_of_entry (boxes : w.BoxesSound) {m : MapId} {entry : Value × Value}
    (member : entry ∈ (w.map m).entries) : ∃ row ∈ (w.map m).log, row.1 = entry := by
  rw [(boxes.maps m).entries] at member
  exact List.mem_map.mp member

theorem exists_row_of_elementAt? (boxes : w.BoxesSound) {m : MapId} {p : Payload} {found : Value}
    (element : elementAt? (w.map m) p = some found) :
    ∃ row ∈ (w.map m).log, p.same row.2 = true ∧ row.1.2 = found := by
  rw [(boxes.maps m).elementAt?] at element
  obtain ⟨entry, known, same⟩ := Option.map_eq_some_iff.mp element
  obtain ⟨q, before, after, split, equal, _⟩ := Log.find?_eq_some_iff.mp known
  refine ⟨(entry, q), ?_, equal, same⟩
  rw [split]
  exact List.mem_append_right _ List.mem_cons_self

/-- A set that covers another one and holds no more than that is covered by it. -/
theorem exists_row_of_covered (boxes : w.BoxesSound) {s t : SetId}
    (tidy : (w.set s).log.Tidy w.payload) (tidy' : (w.set t).log.Tidy w.payload)
    (size : (w.set s).items.length = (w.set t).items.length)
    (covered : ∀ item ∈ (w.set t).items, indexed (w.set s).index (w.payload item) = true)
    {x : Value} (item : x ∈ (w.set s).items) :
    ∃ other ∈ (w.set t).log, (w.payload other.1).same (w.payload x) = true := by
  have found : ∀ other ∈ (w.set t).log, ∃ row ∈ (w.set s).log,
      (w.payload other.1).same row.2 = true := by
    intro other there
    have inside := covered other.1 (item_of_log boxes there)
    rwa [(boxes.sets s).indexed, Log.holds_iff] at inside
  rw [(boxes.sets s).items, (boxes.sets t).items, List.length_map, List.length_map] at size
  obtain ⟨row, member, same⟩ := exists_row_of_item boxes item
  obtain ⟨other, there, equal⟩ :=
    tidy.exists_partner tidy' (fun _ _ => id) (Nat.le_of_eq size) found row member
  exact ⟨other, there, same ▸ Payload.same_trans equal (tidy.back member)⟩

theorem exists_row_of_found (boxes : w.BoxesSound) {m n : MapId}
    (tidy : (w.map m).log.Tidy fun entry => w.payload entry.1)
    (tidy' : (w.map n).log.Tidy fun entry => w.payload entry.1)
    (size : (w.map m).entries.length = (w.map n).entries.length)
    (covered : ∀ entry ∈ (w.map m).entries,
      ∃ found, elementAt? (w.map n) (w.payload entry.1) = some found ∧ R found entry.2)
    {entry : Value × Value} (member : entry ∈ (w.map n).entries) :
    ∃ row ∈ (w.map m).log, (w.payload entry.1).same row.2 = true ∧ R entry.2 row.1.2 := by
  have found : ∀ row ∈ (w.map m).log, ∃ other ∈ (w.map n).log,
      (w.payload row.1.1).same other.2 = true ∧ R other.1.2 row.1.2 := by
    intro row there
    obtain ⟨element, known, related⟩ := covered row.1 (entry_of_log boxes there)
    obtain ⟨other, there', equal, same⟩ := exists_row_of_elementAt? boxes known
    exact ⟨other, there', equal, same ▸ related⟩
  rw [(boxes.maps m).entries, (boxes.maps n).entries, List.length_map, List.length_map] at size
  obtain ⟨other, there', same⟩ := exists_row_of_entry boxes member
  subst same
  obtain ⟨row, there, equal, related⟩ :=
    tidy'.exists_partner tidy (fun _ _ both => both.1) (Nat.le_of_eq size.symm) found other there'
  have back := ((tidy.now row there).same_iff (tidy'.clean other there')).mp equal
  refine ⟨row, there, ?_, related⟩
  exact Payload.same_trans (Payload.same_trans (tidy'.current other there') back)
    (tidy.current row there)

/-- One step of the comparison goes both ways if the comparison of what lies inside does. -/
theorem Matches.symm (boxes : w.BoxesSound) (orderly : w.Orderly v) (orderly' : w.Orderly u)
    (turn : ∀ {a b}, w.Orderly a → w.Orderly b → R a b → R b a) (matched : w.Matches R v u) :
    w.Matches R u v := by
  have clean := orderly.clean boxes
  have clean' := orderly'.clean boxes
  cases matched with
  | itself present same =>
      subst same
      exact .itself present rfl
  | field present other field equal =>
      rw [samePayload_comm clean clean'] at equal
      exact .field present.symm other.symm field.symm equal
  | payload typed outside equal =>
      rw [comparedInside_comm] at outside
      rw [samePayload_comm clean clean'] at equal
      exact .payload typed.symm outside equal
  | aggregate typed held held' equal =>
      rw [payload_of_aggregate held] at clean
      rw [payload_of_aggregate held'] at clean'
      rw [clean.same_comm clean'] at equal
      exact .aggregate typed.symm held' held ⟨equal.2.1, equal.1, equal.2.2⟩
  | list typed held held' items =>
      refine .list typed.symm held' held (items.imp Eq.symm fun items => ?_)
      obtain ⟨size, pairs⟩ := List.forall₂_iff_get.mp items
      refine List.forall₂_iff_get.mpr ⟨size.symm, fun i h h' => ?_⟩
      exact turn (orderly.of_contains (contains_of_list held (List.get_mem _ _)))
        (orderly'.of_contains (contains_of_list held' (List.get_mem _ _))) (pairs i h' h)
  | set typed held held' items =>
      refine .set typed.symm held' held (items.imp Eq.symm fun ⟨size, covered⟩ => ?_)
      refine ⟨size.symm, fun x item => ?_⟩
      have tidy' := orderly'.tidy_set boxes held'
      obtain ⟨other, there, equal⟩ :=
        exists_row_of_covered boxes (orderly.tidy_set boxes held) tidy' size covered item
      have clean := (orderly.of_contains (contains_of_set held item)).clean boxes
      have back := ((tidy'.now other there).same_iff clean).mp equal
      rw [(boxes.sets _).indexed, Log.holds_iff]
      exact ⟨other, there, Payload.same_trans back (tidy'.current other there)⟩
  | map typed held held' entries =>
      refine .map typed.symm held' held (entries.imp Eq.symm fun ⟨size, covered⟩ => ?_)
      refine ⟨size.symm, fun entry member => ?_⟩
      have tidy := orderly.tidy_map boxes held
      obtain ⟨row, there, equal, related⟩ :=
        exists_row_of_found boxes tidy (orderly'.tidy_map boxes held') size covered member
      have inside := contains_of_map held (entry_of_log boxes there)
      have inside' := contains_of_map held' member
      have clean := (orderly'.of_contains inside'.1).clean boxes
      have turned := turn (orderly'.of_contains inside'.2) (orderly.of_contains inside.2) related
      refine ⟨row.1.2, ?_, turned⟩
      rw [(boxes.maps _).elementAt?, tidy.find?_of_mem there clean equal]
      rfl

theorem sameWithin_symm (boxes : w.BoxesSound) (n : Nat) {v u : Value} (orderly : w.Orderly v)
    (orderly' : w.Orderly u) (equal : w.sameWithin n v u = true) : w.sameWithin n u v = true := by
  induction n generalizing v u with
  | zero => cases equal
  | succ n ih =>
      have matched := matches_of_sameWithin equal
      exact sameWithin_of_matches (matched.symm boxes orderly orderly' ih)

/-- After every run, equality of values in order goes both ways. Every value but the absent one
equals itself, and the absent one equals nothing. -/
theorem equality_symmetric {embedding : Embedding E} {maxDepth : Nat} {outside : E}
    {operations : List (Operation E)}
    (kept : embedding.Within fun u w => u.BoxesSound → w.BoxesSound)
    (run : (World.initial maxDepth outside).after embedding operations = w) :
    (∀ v u, w.Orderly v → w.Orderly u → (w.same v u = true ↔ w.same u v = true)) ∧
      (∀ v, w.isAbsent v = false → w.same v v = true) ∧
      ∀ v u, w.isAbsent v = true → w.same v u = false ∧ w.same u v = false := by
  have boxes : w.BoxesSound := run ▸ boxesSound_after kept maxDepth outside operations
  refine ⟨fun v u orderly orderly' => ?_, fun v present => ?_, fun v u absent => ?_⟩
  · exact ⟨sameWithin_symm boxes _ orderly orderly', sameWithin_symm boxes _ orderly' orderly⟩
  · exact sameWithin_of_matches (.itself present rfl)
  · rw [same, same, walkBound, sameWithin, sameWithin, absent, Bool.or_true]
    exact ⟨rfl, rfl⟩

/-- Two sets that were filled in different orders. -/
theorem equality_symmetric_sets :
    let w := (World.initial 4 (Outside.initial "host" Table.empty)).after TableHost.embedding
      [.newSet (.set .int), .newSet (.set .int), .newBasic .int (.int 1) true,
        .newBasic .int (.int 2) true, .setAdd ⟨0⟩ ⟨4⟩, .setAdd ⟨0⟩ ⟨5⟩, .setAdd ⟨1⟩ ⟨5⟩,
        .setAdd ⟨1⟩ ⟨4⟩]
    w.same ⟨2⟩ ⟨3⟩ = true ∧ w.same ⟨3⟩ ⟨2⟩ = true := by
  intro w
  have first : w.Orderly ⟨2⟩ := orderly_of_leaves rfl (by decide +kernel) (by decide +kernel)
  have second : w.Orderly ⟨3⟩ := orderly_of_leaves rfl (by decide +kernel) (by decide +kernel)
  have equal : w.same ⟨2⟩ ⟨3⟩ = true := by decide +kernel
  have symmetric := equality_symmetric (TableHost.embedding_within tracks_boxesSound) (rfl : _ = w)
  exact ⟨equal, (symmetric.1 ⟨2⟩ ⟨3⟩ first second).mp equal⟩

end World

end ScriptValues
