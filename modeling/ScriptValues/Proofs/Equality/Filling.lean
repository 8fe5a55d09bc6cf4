import ScriptValues.Proofs.Collection.Firsts
import ScriptValues.Proofs.Collection.Maps
import ScriptValues.Proofs.Equality.Extensional

/-! Sets and maps that are filled with the same, in whatever order, are equal. -/

namespace ScriptValues

variable {E : Type}

namespace World

variable {α : Type} {w u : World E} {a b : Value} {s t : SetId} {m n : MapId} {c d : Container}
  {key : α → Value} {add add' : α → Operation E} {embedding : Embedding E}
  {adds : List (Operation E)}

/-- The operations add the same to two containers, in any order and as often as they like. What they
add is filed under the payload of its key, and neither container lies within such a key. -/
structure FillsAlike (w : World E) (c d : Container) (key : α → Value) (add add' : α → Operation E)
    (adds : List (Operation E)) : Prop where
  only : ∀ operation ∈ adds, ∃ x, operation = add x ∨ operation = add' x
  both : ∀ x, add x ∈ adds ↔ add' x ∈ adds
  clean : ∀ x, add x ∈ adds → (w.payload (key x)).Clean
  apart : ∀ x, add x ∈ adds → ¬ w.Inside c (key x) ∧ ¬ w.Inside d (key x)

structure FillsSets (w : World E) (s t : SetId) (adds : List (Operation E)) : Prop
    extends w.FillsAlike (.set s) (.set t) id (.setAdd s) (.setAdd t) adds where
  there : s.index < w.sets.size ∧ t.index < w.sets.size
  empty : (w.set s).items = [] ∧ (w.set t).items = []

/-- The operations add the same entries to two empty maps. Under one key payload there is one
element, which is not the absent value. -/
structure FillsMaps (w : World E) (m n : MapId) (adds : List (Operation E)) : Prop
    extends w.FillsAlike (.map m) (.map n) Prod.fst (fun entry => .mapAdd m entry.1 entry.2)
      (fun entry => .mapAdd n entry.1 entry.2) adds where
  there : m.index < w.maps.size ∧ n.index < w.maps.size
  empty : (w.map m).entries = [] ∧ (w.map n).entries = []
  present : ∀ key element, .mapAdd m key element ∈ adds → w.isAbsent element = false
  single : ∀ key element key' element', .mapAdd m key element ∈ adds →
    .mapAdd m key' element' ∈ adds → (w.payload key).same (w.payload key') = true →
    element = element'

/-- How a container records additions: its own, and no others. -/
structure Logs (embedding : Embedding E) (c d : Container) (key : α → Value)
    (add add' : α → Operation E) (Recorded : World E → Log α → Prop) : Prop where
  injective : Function.Injective add
  distinct : ∀ {u rows}, Recorded u rows → rows.Distinct
  own : ∀ {u rows} x, ¬ u.Inside c (key x) → Recorded u rows →
    Recorded ((add x).step embedding u).2 (rows.add x (u.payload (key x)))
  other : ∀ {u rows} x, (∀ y, add' x ≠ add y) → Recorded u rows →
    Recorded ((add' x).step embedding u).2 rows
  writes : ∀ u x, WritesOnly (· = c) u ((add x).step embedding u).2
  writes' : ∀ u x, WritesOnly (· = d) u ((add' x).step embedding u).2

section FillsAlike

variable {Recorded : World E → Log α → Prop}

theorem FillsAlike.symm (fills : w.FillsAlike c d key add add' adds) :
    w.FillsAlike d c key add' add adds where
  only operation member := by
    obtain ⟨x, either⟩ := fills.only operation member
    exact ⟨x, either.symm⟩
  both x := (fills.both x).symm
  clean x member := fills.clean x ((fills.both x).mpr member)
  apart x member := (fills.apart x ((fills.both x).mpr member)).symm

variable (fills : w.FillsAlike c d key add add' adds)
include fills

theorem FillsAlike.outside {x : α} (added : add x ∈ adds) :
    ∀ e, e = c ∨ e = d → ¬ w.Inside e (key x) := by
  rintro e (rfl | rfl)
  · exact (fills.apart x added).1
  · exact (fills.apart x added).2

theorem FillsAlike.payload (written : WritesOnly (fun e => e = c ∨ e = d) w u) {x : α}
    (added : add x ∈ adds) : u.payload (key x) = w.payload (key x) :=
  written.payload (fills.outside added)

theorem FillsAlike.rows_from (logs : Logs embedding c d key add add' Recorded)
    {rest : List (Operation E)} (these : ∀ operation ∈ rest, operation ∈ adds)
    (written : WritesOnly (fun e => e = c ∨ e = d) w u) {rows : Log α} (recorded : Recorded u rows)
    (own : ∀ row ∈ rows, add row.1 ∈ adds ∧ row.2 = w.payload (key row.1)) :
    ∃ rows', WritesOnly (fun e => e = c ∨ e = d) w (u.after embedding rest) ∧
      Recorded (u.after embedding rest) rows' ∧
      (∀ row ∈ rows', add row.1 ∈ adds ∧ row.2 = w.payload (key row.1)) ∧
      (∀ p, rows.holds p = true → rows'.holds p = true) ∧
      ∀ x, add x ∈ rest → rows'.holds (w.payload (key x)) = true := by
  induction rest generalizing u rows with
  | nil => exact ⟨rows, written, recorded, own, fun _ => id, nofun⟩
  | cons operation rest ih =>
      have member := these operation List.mem_cons_self
      have later : ∀ operation ∈ rest, operation ∈ adds :=
        fun next there => these next (List.mem_cons_of_mem _ there)
      by_cases mine : ∃ x, operation = add x
      · obtain ⟨x, rfl⟩ := mine
        have outside := written.apart (fills.outside member) c (.inl rfl)
        have added := logs.own x outside recorded
        rw [fills.payload written member] at added
        have owned : ∀ row ∈ rows.add x (w.payload (key x)),
            add row.1 ∈ adds ∧ row.2 = w.payload (key row.1) := by
          intro row there
          rcases Log.mem_add there with before | same
          · exact own row before
          · exact same ▸ ⟨member, rfl⟩
        obtain ⟨rows', written, recorded, own, kept, all⟩ :=
          ih later (written.trans ((logs.writes u x).mono fun e => .inl)) added owned
        refine ⟨rows', written, recorded, own, fun p there => ?_, fun y there => ?_⟩
        · exact kept p (Log.holds_add_of_holds there x _)
        · rcases List.mem_cons.mp there with same | there
          · obtain rfl := logs.injective same
            exact kept _ (Log.holds_add (Payload.same_refl _) y)
          · exact all y there
      · obtain ⟨x, either⟩ := fills.only operation member
        obtain rfl := either.resolve_left fun same => mine ⟨x, same⟩
        have beside := logs.other x (fun y same => mine ⟨y, same⟩) recorded
        obtain ⟨rows', written, recorded, own, kept, all⟩ :=
          ih later (written.trans ((logs.writes' u x).mono fun e => .inr)) beside own
        refine ⟨rows', written, recorded, own, kept, fun y there => ?_⟩
        exact all y ((List.mem_cons.mp there).resolve_left fun same => mine ⟨y, same.symm⟩)

/-- After the additions a container stands for rows of what was added to it, under payloads that have
not changed since, and there is one for each addition. -/
theorem FillsAlike.exists_rows (logs : Logs embedding c d key add add' Recorded)
    (start : Recorded w []) :
    ∃ rows, WritesOnly (fun e => e = c ∨ e = d) w (w.after embedding adds) ∧
      Recorded (w.after embedding adds) rows ∧
      rows.Tidy (fun x => (w.after embedding adds).payload (key x)) ∧
      (∀ row ∈ rows, add row.1 ∈ adds ∧ row.2 = w.payload (key row.1)) ∧
      ∀ x, add x ∈ adds →
        ∃ row ∈ rows, ((w.after embedding adds).payload (key x)).same row.2 = true := by
  obtain ⟨rows, written, recorded, own, _, all⟩ :=
    fills.rows_from logs (fun _ => id) (.refl _ w) start nofun
  have filed : ∀ row ∈ rows, row.2 = (w.after embedding adds).payload (key row.1) :=
    fun row member => (own row member).2.trans (fills.payload written (own row member).1).symm
  have clean : ∀ row ∈ rows, row.2.Clean :=
    fun row member => (own row member).2 ▸ fills.clean row.1 (own row member).1
  refine ⟨rows, written, recorded, ⟨⟨fun row member => ?_, clean⟩, logs.distinct recorded,
    fun row member => filed row member ▸ clean row member⟩, own, fun x added => ?_⟩
  · rw [filed row member]
    exact Payload.same_refl _
  · rw [fills.payload written added]
    exact Log.holds_iff.mp (all x added)

end FillsAlike

theorem logs_sets (embedding : Embedding E) (s t : SetId) :
    Logs embedding (.set s) (.set t) id (.setAdd s) (.setAdd t)
      fun u rows => u.SetRecords s rows where
  injective x y same := by cases same; rfl
  distinct recorded := recorded.records.distinct
  own {u rows} x outside recorded := by
    rw [Operation.step, Operation.dropped, Step.map_snd]
    have unread : u.reads (.set s) x = false := reads_eq_false_iff.mpr outside
    have added := recorded.setAdd x
    rwa [unread, if_neg Bool.false_ne_true] at added
  other {u rows} x others recorded := by
    rw [Operation.step, Operation.dropped, Step.map_snd]
    refine recorded.keep (setAdd_within (tracks_keepsBox (.set s)).follows u (fun same => ?_) x)
    cases same
    exact others x rfl
  writes u x := by
    rw [Operation.step, Operation.dropped, Step.map_snd]
    exact writesOnly_setAdd u s x
  writes' u x := by
    rw [Operation.step, Operation.dropped, Step.map_snd]
    exact writesOnly_setAdd u t x

section Sets

variable (fills : w.FillsSets s t adds)
include fills

theorem FillsSets.symm : w.FillsSets t s adds :=
  ⟨fills.toFillsAlike.symm, fills.there.symm, fills.empty.symm⟩

theorem FillsSets.start (boxes : w.BoxesSound) : w.SetRecords s [] := by
  have empty : (w.set s).log = [] := by rw [SetBox.log, fills.empty.1, List.zip_nil_left]
  exact ⟨fills.there.1, empty ▸ boxes.sets s⟩

theorem FillsSets.same (embedding : Embedding E) (boxes : w.BoxesSound)
    (held : w.backing a = .set s) (held' : w.backing b = .set t)
    (types : (w.ty a).same (w.ty b) = true) :
    (w.after embedding adds).same a b = true := by
  obtain ⟨rows, written, recorded, tidy, own, found⟩ :=
    fills.exists_rows (logs_sets embedding s t) (fills.start boxes)
  obtain ⟨others, _, recorded', tidy', own', found'⟩ :=
    fills.symm.exists_rows (logs_sets embedding t s) (fills.symm.start boxes)
  generalize w.after embedding adds = u at *
  have alike : (u.ty a).same (u.ty b) = true := by
    rw [World.ty, World.ty, written.cell, written.cell]
    exact types
  refine (same_sets_iff ((written.backing a).trans held) ((written.backing b).trans held')
    alike).mpr (.inr ⟨?_, fun item member => ?_⟩)
  · rw [recorded.records.items, recorded'.records.items, List.length_map, List.length_map]
    refine tidy.length_eq tidy' (fun row member => ?_) fun other member => ?_
    · exact found' row.1 ((fills.both row.1).mp (own row member).1)
    · exact found other.1 ((fills.both other.1).mpr (own' other member).1)
  · rw [recorded'.records.items] at member
    obtain ⟨other, there, same⟩ := List.mem_map.mp member
    subst same
    rw [recorded.records.indexed, Log.holds_iff]
    exact found other.1 ((fills.both other.1).mpr (own' other there).1)

end Sets

theorem logs_maps (embedding : Embedding E) (m n : MapId) :
    Logs embedding (.map m) (.map n) Prod.fst (fun entry => .mapAdd m entry.1 entry.2)
      (fun entry => .mapAdd n entry.1 entry.2) fun u rows => u.MapRecords m rows where
  injective x y same := by
    cases x
    cases y
    cases same
    rfl
  distinct recorded := recorded.records.distinct
  own {u rows} x outside recorded := by
    rw [Operation.step, Operation.dropped, Step.map_snd]
    have unread : u.reads (.map m) x.1 = false := reads_eq_false_iff.mpr outside
    have added := recorded.mapAdd x.1 x.2
    rwa [unread, if_neg Bool.false_ne_true] at added
  other {u rows} x others recorded := by
    rw [Operation.step, Operation.dropped, Step.map_snd]
    refine recorded.keep
      (mapAdd_within (tracks_keepsBox (.map m)).follows u (fun same => ?_) x.1 x.2)
    cases same
    exact others x rfl
  writes u x := by
    rw [Operation.step, Operation.dropped, Step.map_snd]
    exact writesOnly_mapAdd u m x.1 x.2
  writes' u x := by
    rw [Operation.step, Operation.dropped, Step.map_snd]
    exact writesOnly_mapAdd u n x.1 x.2

section Maps

variable (fills : w.FillsMaps m n adds)
include fills

theorem FillsMaps.symm : w.FillsMaps n m adds where
  toFillsAlike := fills.toFillsAlike.symm
  there := fills.there.symm
  empty := fills.empty.symm
  present key element member := fills.present key element ((fills.both (key, element)).mpr member)
  single key element key' element' member member' :=
    fills.single key element key' element' ((fills.both (key, element)).mpr member)
      ((fills.both (key', element')).mpr member')

theorem FillsMaps.start (boxes : w.BoxesSound) : w.MapRecords m [] := by
  have empty : (w.map m).log = [] := by rw [MapBox.log, fills.empty.1, List.zip_nil_left]
  exact ⟨fills.there.1, empty ▸ boxes.maps m⟩

omit fills in
theorem sameWithin_self {v : Value} (present : w.isAbsent v = false) :
    w.sameWithin w.cells.size v v = true := by
  have there : v.index < w.cells.size := by
    refine present_of_backing fun absent => ?_
    rw [World.isAbsent, World.family, absent] at present
    cases present
  obtain ⟨k, size⟩ := Nat.exists_eq_succ_of_ne_zero (Nat.ne_of_gt (Nat.zero_lt_of_lt there))
  rw [size]
  exact sameWithin_of_matches (.itself present rfl)

theorem FillsMaps.same (embedding : Embedding E) (boxes : w.BoxesSound)
    (held : w.backing a = .map m) (held' : w.backing b = .map n)
    (types : (w.ty a).same (w.ty b) = true) :
    (w.after embedding adds).same a b = true := by
  obtain ⟨rows, written, recorded, tidy, own, found⟩ :=
    fills.exists_rows (logs_maps embedding m n) (fills.start boxes)
  obtain ⟨others, _, recorded', tidy', own', found'⟩ :=
    fills.symm.exists_rows (logs_maps embedding n m) (fills.symm.start boxes)
  generalize w.after embedding adds = u at *
  have alike : (u.ty a).same (u.ty b) = true := by
    rw [World.ty, World.ty, written.cell, written.cell]
    exact types
  refine sameWithin_of_matches ((matches_maps_iff ((written.backing a).trans held)
    ((written.backing b).trans held') alike).mpr (.inr ⟨?_, fun entry member => ?_⟩))
  · rw [recorded.records.entries, recorded'.records.entries, List.length_map, List.length_map]
    refine tidy.length_eq tidy' (fun row member => ?_) fun other member => ?_
    · exact found' row.1 ((fills.both row.1).mp (own row member).1)
    · exact found other.1 ((fills.both other.1).mpr (own' other member).1)
  · rw [recorded.records.entries] at member
    obtain ⟨row, there, same⟩ := List.mem_map.mp member
    subst same
    have mine := (own row there).1
    obtain ⟨entry, known⟩ : ∃ entry, others.find? (u.payload row.1.1) = some entry := by
      rw [← Option.isSome_iff_exists, Log.find?_isSome, Log.holds_iff]
      exact found' row.1 ((fills.both row.1).mp mine)
    obtain ⟨q, before, after, split, equal, _⟩ := Log.find?_eq_some_iff.mp known
    have other : (entry, q) ∈ others := by
      rw [split]
      exact List.mem_append_right _ List.mem_cons_self
    obtain ⟨theirs, filed⟩ : .mapAdd n entry.1 entry.2 ∈ adds ∧ q = w.payload entry.1 :=
      own' (entry, q) other
    rw [filed, fills.payload written mine] at equal
    have same := fills.single _ _ _ _ mine ((fills.both entry).mpr theirs) equal
    refine ⟨row.1.2, ?_, ?_⟩
    · rw [recorded'.records.elementAt?, known, same]
      rfl
    · have present : u.isAbsent row.1.2 = false := by
        rw [World.isAbsent, World.family, written.backing]
        exact fills.present _ _ mine
      exact sameWithin_self present

end Maps

structure Extensional (embedding : Embedding E) (w : World E) : Prop where
  sets : ∀ a b s t, w.backing a = .set s → w.backing b = .set t →
    (w.ty a).same (w.ty b) = true → w.Orderly a → w.Orderly b →
    (w.same a b = true ↔ w.SetsAlike s t) ∧
      (w.same a b = true ↔ (w.payload a).same (w.payload b) = true)
  maps : ∀ a b m n, w.backing a = .map m → w.backing b = .map n →
    (w.ty a).same (w.ty b) = true → w.Orderly a → w.Orderly b →
    (w.same a b = true ↔ m = n ∨ w.MapsAlike m n)
  filledSets : ∀ a b s t adds, w.backing a = .set s → w.backing b = .set t →
    (w.ty a).same (w.ty b) = true → w.FillsSets s t adds →
    (w.after embedding adds).same a b = true
  filledMaps : ∀ a b m n adds, w.backing a = .map m → w.backing b = .map n →
    (w.ty a).same (w.ty b) = true → w.FillsMaps m n adds →
    (w.after embedding adds).same a b = true

/-- In every world that a run leads to, sets of one type that are in order are equal if and only if
they contain the same payloads, and if and only if their payloads are equal; maps, if and only if
they have the same key payloads with equal elements or share their container. So it does not matter
in which order they were filled, or how often something was added. -/
theorem equality_extensional {embedding : Embedding E} {maxDepth : Nat} {outside : E}
    {operations : List (Operation E)}
    (kept : embedding.Within fun u w => u.BoxesSound → w.BoxesSound)
    (run : (World.initial maxDepth outside).after embedding operations = w) :
    w.Extensional embedding := by
  have boxes : w.BoxesSound := run ▸ boxesSound_after kept maxDepth outside operations
  refine ⟨?_, ?_, ?_, ?_⟩
  · intro a b s t held held' types orderly orderly'
    exact ⟨same_iff_setsAlike boxes orderly orderly' held held' types,
      same_iff_payload_same boxes orderly orderly' held held' types⟩
  · intro a b m n held held' types orderly orderly'
    exact same_iff_mapsAlike boxes orderly orderly' held held' types
  · intro a b s t adds held held' types fills
    exact fills.same embedding boxes held held' types
  · intro a b m n adds held held' types fills
    exact fills.same embedding boxes held held' types

/-- Two sets are filled in turns, in different orders, one of them with a repetition. -/
theorem equality_extensional_inTurns :
    let w := (World.initial 4 (Outside.initial "host" Table.empty)).after TableHost.embedding
      [.newSet (.set .int), .newSet (.set .int), .newBasic .int (.int 1) true,
        .newBasic .int (.int 2) true]
    let adds : List (Operation Outside) := [.setAdd ⟨0⟩ ⟨4⟩, .setAdd ⟨1⟩ ⟨5⟩, .setAdd ⟨0⟩ ⟨5⟩,
      .setAdd ⟨1⟩ ⟨4⟩, .setAdd ⟨1⟩ ⟨5⟩]
    w.FillsSets ⟨0⟩ ⟨1⟩ adds ∧ (w.after TableHost.embedding adds).same ⟨2⟩ ⟨3⟩ = true := by
  intro w adds
  have values : ∀ x, .setAdd ⟨0⟩ x ∈ adds ↔ x = ⟨4⟩ ∨ x = ⟨5⟩ := by
    intro x
    simp [adds]
  have values' : ∀ x, .setAdd ⟨1⟩ x ∈ adds ↔ x = ⟨4⟩ ∨ x = ⟨5⟩ := by
    intro x
    simp [adds]
    tauto
  have leaf : ∀ x, .setAdd ⟨0⟩ x ∈ adds →
      (w.payload x).isLeaf = true ∧ (w.backing x).container? = none := by
    intro x member
    rcases (values x).mp member with same | same
    · subst same
      decide +kernel
    · subst same
      decide +kernel
  have fills : w.FillsSets ⟨0⟩ ⟨1⟩ adds := by
    refine ⟨⟨?_, ?_, ?_, ?_⟩, by decide +kernel, by decide +kernel⟩
    · simp [adds]
    · exact fun x => (values x).trans (values' x).symm
    · exact fun x member => .leaf (leaf x member).1
    · exact fun x member => ⟨not_inside_of_plain (leaf x member).2 _,
        not_inside_of_plain (leaf x member).2 _⟩
  exact ⟨fills, (equality_extensional (TableHost.embedding_within tracks_boxesSound)
    (rfl : _ = w)).filledSets ⟨2⟩ ⟨3⟩ ⟨0⟩ ⟨1⟩ adds rfl rfl (by decide +kernel) fills⟩

end World

end ScriptValues
