import ScriptValues.Proofs.Collection.Firsts
import ScriptValues.Proofs.Collection.Maps
import ScriptValues.Proofs.Collection.Sets
import ScriptValues.Proofs.Equality.Contents
import ScriptValues.Proofs.World.Fillable
import ScriptValues.Proofs.World.Lasting

/-! Payloads that are written to collections, and read back.

A payload that fits is brought into a normal form: null becomes the empty payload of the family, and
of the items of a set or the entries of a map the first ones with their payload or key stay. The
collection is filled with fresh values that read as this form. -/

namespace ScriptValues

open Step

/-- How a payload reads after it was written to a collection with the container. There is no such
reading if the collection does not take the payload. -/
def Container.normal? : Container → Payload → Option Payload
  | .list _, .null => some (.list [])
  | .list _, .list items => some (.list items)
  | .set _, .null => some (.set [])
  | .set _, .set items | .set _, .list items => some (.set (items.eraseDupsBy Payload.same))
  | .map _, .null => some (.map [])
  | .map _, .map entries => some (.map (entries.eraseDupsBy fun a b => a.1.same b.1))
  | _, _ => none

theorem Container.normal?_idem {c : Container} {p q : Payload} (normal : c.normal? p = some q) :
    c.normal? q = some q := by
  -- Among the first items with their payloads nothing is left to erase.
  have items := firsts_firsts (id : Payload → Payload)
  have entries := firsts_firsts (Prod.fst : Payload × Payload → Payload)
  simp only [firsts_nil_eq, id] at items entries
  cases c with
  | list l =>
      cases p with
      | null | list =>
          cases normal
          rfl
      | _ => cases normal
  | set s =>
      cases p with
      | null =>
          cases normal
          rfl
      | set ps | list ps =>
          cases normal
          exact congrArg (some ∘ Payload.set) (items ps)
      | _ => cases normal
  | map m =>
      cases p with
      | null =>
          cases normal
          rfl
      | map ps =>
          cases normal
          exact congrArg (some ∘ Payload.map) (entries ps)
      | _ => cases normal

namespace World

variable {E : Type} {w u : World E} {v y : Value} {c : Container} {start : Nat} {declared : Ty}
  {p q : Payload}

structure FreshBasic (start : Nat) (w : World E) (declared : Ty) (y : Value) (p : Payload) :
    Prop where
  fresh : start ≤ y.index
  ty : (w.ty y).same declared = true
  mutable : (w.cell y).mutable = true
  backing : w.backing y = .basic p

theorem freshBasic_newBasic {ty : Ty} (behind : start ≤ w.cells.size)
    (typed : ty.same declared = true) (p : Payload) :
    (w.newBasic ty p).2.FreshBasic start declared (w.newBasic ty p).1 p := by
  have made : (w.newBasic ty p).2.cell (w.newBasic ty p).1 =
      { ty, mutable := true, backing := .basic p } := Heap.read_push_self w.cells _
  refine ⟨behind, ?_, ?_, ?_⟩
  · rw [World.ty, made]
    exact typed
  · rw [made]
  · rw [World.backing, made]

theorem FreshBasic.congr (basic : w.FreshBasic start declared y p) (same : u.cell y = w.cell y) :
    u.FreshBasic start declared y p := by
  obtain ⟨fresh, ty, mutable, backing⟩ := basic
  simp only [World.ty, World.backing, ← same] at ty mutable backing
  exact ⟨fresh, ty, mutable, backing⟩

theorem FreshBasic.retained (basic : w.FreshBasic start declared y p) (retained : w.Retains u) :
    u.FreshBasic start declared y p := by
  have there : y.index < w.cells.size := by
    refine present_of_backing fun absent => ?_
    rw [basic.backing] at absent
    cases absent
  exact basic.congr (retained.cells.read (Nat.zero_le _) there)

/-! Fresh values for lists, sets and maps -/

theorem newBasics_fresh {ty : Ty} (behind : start ≤ w.cells.size)
    (typed : ty.same declared = true) (ps : List Payload) :
    List.Forall₂ ((w.newBasics ty ps).2.FreshBasic start declared) (w.newBasics ty ps).1 ps := by
  induction ps generalizing w with
  | nil => exact .nil
  | cons p rest ih =>
      have first := freshBasic_newBasic behind typed p
      have later := admits_newBasics overlooks_retains.tolerates.admits (w.newBasic ty p).2 ty rest
      refine .cons (first.retained later) (ih (Nat.le_trans behind ?_))
      exact Nat.le_of_lt (Nat.lt_of_lt_of_eq (Nat.lt_succ_self _) (Heap.size_push w.cells _).symm)

theorem element_setInsert (w : World E) (s : SetId) (v : Value) :
    ((w.setInsert s v).2.set s).element = (w.set s).element := by
  have added : ((w.set s).add v (w.payload v)).2.element = (w.set s).element := by
    rw [SetBox.add]
    split
    · rfl
    · rfl
  change ((w.sets.write s.index _).read s.index).element = _
  rw [Heap.read_write]
  split
  · exact added
  · rfl

theorem setFill_fresh {s : SetId} (behind : start ≤ w.cells.size)
    (typed : (w.set s).element.same declared = true) (items : List Payload) :
    List.Forall₂
      (fun row p => (items.foldl (addFresh s) w).FreshBasic start declared row.1 p ∧ row.2 = p)
      (freshRows w.cells.size items) items := by
  induction items generalizing w with
  | nil => exact .nil
  | cons p rest ih =>
      let made := w.newBasic (w.set s).element p
      have size : (addFresh s w p).cells.size = w.cells.size + 1 := Heap.size_push w.cells _
      have first : (addFresh s w p).FreshBasic start declared made.1 p :=
        (freshBasic_newBasic behind typed p).congr rfl
      have element : ((addFresh s w p).set s).element = (w.set s).element :=
        element_setInsert made.2 s made.1
      have later := ih (w := addFresh s w p) (by omega) (element ▸ typed)
      have retained : (addFresh s w p).Retains (rest.foldl (addFresh s) (addFresh s w p)) :=
        composes_retains.foldl (admits_addFresh overlooks_retains.tolerates.admits s) rest _
      rw [size] at later
      exact .cons ⟨first.retained retained, rfl⟩ later

theorem types_mapInsert (w : World E) (m : MapId) (key element : Value) :
    ((w.mapInsert m key element).2.map m).key = (w.map m).key ∧
      ((w.mapInsert m key element).2.map m).element = (w.map m).element := by
  have added : ((w.map m).add key element (w.payload key)).2.key = (w.map m).key ∧
      ((w.map m).add key element (w.payload key)).2.element = (w.map m).element := by
    rw [MapBox.add]
    split
    · exact ⟨rfl, rfl⟩
    · exact ⟨rfl, rfl⟩
  change ((w.maps.write m.index _).read m.index).key = _ ∧
    ((w.maps.write m.index _).read m.index).element = _
  rw [Heap.read_write]
  split
  · exact added
  · exact ⟨rfl, rfl⟩

theorem mapFill_fresh {m : MapId} {keys elements : Ty} (behind : start ≤ w.cells.size)
    (keyed : (w.map m).key.same keys = true) (typed : (w.map m).element.same elements = true)
    (entries : List (Payload × Payload)) :
    List.Forall₂
      (fun row entry =>
        ((entries.foldl (addFreshEntry m) w).FreshBasic start keys row.1.1 entry.1 ∧
          (entries.foldl (addFreshEntry m) w).FreshBasic start elements row.1.2 entry.2) ∧
        row.2 = entry.1)
      (freshEntries w.cells.size entries) entries := by
  induction entries generalizing w with
  | nil => exact .nil
  | cons entry rest ih =>
      let key := w.newBasic (w.map m).key entry.1
      let element := key.2.newBasic (key.2.map m).element entry.2
      have one : key.2.cells.size = w.cells.size + 1 := Heap.size_push w.cells _
      have size : (addFreshEntry m w entry).cells.size = w.cells.size + 2 :=
        (Heap.size_push key.2.cells _).trans (congrArg (· + 1) one)
      have second : element.1 = ⟨w.cells.size + 1⟩ := congrArg Value.mk one
      have made : key.2.Retains element.2 := overlooks_retains.tolerates.admits.pushPlain rfl rfl rfl rfl
      have first : (addFreshEntry m w entry).FreshBasic start keys key.1 entry.1 :=
        ((freshBasic_newBasic behind keyed entry.1).retained made).congr rfl
      have paired : (addFreshEntry m w entry).FreshBasic start elements element.1 entry.2 :=
        (freshBasic_newBasic (by omega) typed entry.2).congr rfl
      obtain ⟨sameKey, sameElement⟩ := types_mapInsert element.2 m key.1 element.1
      have later := ih (w := addFreshEntry m w entry) (by omega) (sameKey ▸ keyed)
        (sameElement ▸ typed)
      rw [size] at later
      rw [second] at paired
      have retained : (addFreshEntry m w entry).Retains
          (rest.foldl (addFreshEntry m) (addFreshEntry m w entry)) :=
        composes_retains.foldl (admits_addFreshEntry overlooks_retains.tolerates.admits m) rest _
      exact .cons ⟨⟨first.retained retained, paired.retained retained⟩, rfl⟩ later

/-! What a write leaves behind -/

/-- The container holds values that were made at or after `start`, with the key and element types
that `ty` declares, one for each item or entry of the payload. -/
def Rebuilt (start : Nat) (w : World E) (ty : Ty) : Container → Payload → Prop
  | .list l, .list items =>
      List.Forall₂ (w.FreshBasic start (ty.element?.getD .noType)) (w.list l).items items
  | .set s, .set items =>
      List.Forall₂ (w.FreshBasic start (ty.element?.getD .noType)) (w.set s).items items
  | .map m, .map entries =>
      List.Forall₂
        (fun held entry => w.FreshBasic start (ty.key?.getD .noType) held.1 entry.1 ∧
          w.FreshBasic start (ty.element?.getD .noType) held.2 entry.2)
        (w.map m).entries entries
  | _, _ => False

theorem payloadWithin_fresh (basic : w.FreshBasic start declared y p) (n : Nat) :
    w.payloadWithin (n + 1) y = p := by
  rw [payloadWithin]
  simp only [basic.backing]

theorem Rebuilt.payload {ty : Ty} (rebuilt : w.Rebuilt start ty c q)
    (behind : (w.backing v).container? = some c) : w.payload v = q := by
  have there : v.index < w.cells.size := by
    refine present_of_backing fun absent => ?_
    rw [absent] at behind
    cases behind
  obtain ⟨n, bound⟩ : ∃ n, w.cells.size = n + 1 := ⟨w.cells.size - 1, by omega⟩
  have reads : ∀ {ty : Ty} {ys : List Value} {ps : List Payload},
      List.Forall₂ (w.FreshBasic start ty) ys ps → ys.map (w.payloadWithin (n + 1)) = ps := by
    intro ty ys ps basics
    rw [← List.forall₂_eq_eq_eq, List.forall₂_map_left_iff]
    exact basics.imp fun y p basic => payloadWithin_fresh basic n
  rw [World.payload, walkBound, bound, payloadWithin, Backing.eq_of_container? behind]
  cases c with
  | list l =>
      cases q with
      | list items => exact congrArg Payload.list (reads rebuilt)
      | _ => exact rebuilt.elim
  | set s =>
      cases q with
      | set items => exact congrArg Payload.set (reads rebuilt)
      | _ => exact rebuilt.elim
  | map m =>
      cases q with
      | map entries =>
          refine congrArg Payload.map ?_
          rw [← List.forall₂_eq_eq_eq, List.forall₂_map_left_iff]
          refine List.Forall₂.imp (fun held entry both => ?_) rebuilt
          exact Prod.ext (payloadWithin_fresh both.1 n) (payloadWithin_fresh both.2 n)
      | _ => exact rebuilt.elim

theorem Rebuilt.setDirty {ty : Ty} (rebuilt : w.Rebuilt start ty c q) (older : v.index < start) :
    (w.setDirty v).Rebuilt start ty c q := by
  have basic : ∀ {ty : Ty} {y : Value} {p : Payload}, w.FreshBasic start ty y p →
      (w.setDirty v).FreshBasic start ty y p := by
    intro ty y p basic
    refine basic.congr ?_
    rw [World.setDirty, cell_writeCell, if_neg]
    have fresh := basic.fresh
    omega
  cases c <;> cases q <;> try exact rebuilt
  · exact List.Forall₂.imp (fun _ _ => basic) rebuilt
  · exact List.Forall₂.imp (fun _ _ => basic) rebuilt
  · exact List.Forall₂.imp (fun _ _ => And.imp basic basic) rebuilt

theorem rebuilt_listRefill {l : ListId} {ty : Ty} (there : l.index < w.lists.size)
    (typed : (w.list l).element.same (ty.element?.getD .noType) = true) (items : List Payload) :
    (w.listRefill l items).Rebuilt w.cells.size ty (.list l) (.list items) := by
  obtain ⟨still, _⟩ := newBasics_within (tracks_keepsBox (.list l)).follows w (w.list l).element
    items there
  have filled : ((w.listRefill l items).list l).items = (w.newBasics (w.list l).element items).1 :=
    congrArg ListBox.items (Heap.read_write_self _ _ still)
  rw [Rebuilt, filled]
  exact (newBasics_fresh (Nat.le_refl _) typed items).imp fun y p basic => basic.congr rfl

theorem rebuilt_setRefill {s : SetId} {ty : Ty} {rows : Log Value}
    (recorded : w.SetRecords s rows)
    (typed : (w.set s).element.same (ty.element?.getD .noType) = true) (items : List Payload) :
    (w.setRefill s items).Rebuilt w.cells.size ty (.set s)
      (.set (items.eraseDupsBy Payload.same)) := by
  have cleared : (w.setClear s).set s = (w.set s).cleared :=
    Heap.read_write_self w.sets _ recorded.there
  have rows := setFill_fresh (w := w.setClear s) (Nat.le_refl w.cells.size)
    (congrArg SetBox.element cleared ▸ typed) items
  rw [Rebuilt, (recorded.setRefill items).records.items]
  exact Log.ofRows_forall₂ rows

theorem rebuilt_mapRefill {m : MapId} {ty : Ty} {rows : Log (Value × Value)}
    (recorded : w.MapRecords m rows)
    (keyed : (w.map m).key.same (ty.key?.getD .noType) = true)
    (typed : (w.map m).element.same (ty.element?.getD .noType) = true)
    (entries : List (Payload × Payload)) :
    (w.mapRefill m entries).Rebuilt w.cells.size ty (.map m)
      (.map (entries.eraseDupsBy fun a b => a.1.same b.1)) := by
  have cleared : (w.mapClear m).map m = (w.map m).cleared :=
    Heap.read_write_self w.maps _ recorded.there
  have rows := mapFill_fresh (w := w.mapClear m) (Nat.le_refl w.cells.size)
    (congrArg MapBox.key cleared ▸ keyed) (congrArg MapBox.element cleared ▸ typed) entries
  rw [Rebuilt, (recorded.mapRefill entries).records.entries]
  exact Log.ofRows_forall₂ rows

section Write

variable (behind : (w.backing v).container? = some c)
include behind

theorem accept_eq (p : Payload) :
    w.accept v p =
      if (c.normal? p).isSome then (.ok true, w.perform c (.write p))
      else (.error (payloadMismatch (w.ty v) p), w) := by
  unfold accept
  rw [Backing.eq_of_container? behind]
  cases c <;> cases p <;> rfl

theorem rebuilt_perform (fitting : w.Fitting) (boxes : w.BoxesSound)
    (normal : c.normal? p = some q) :
    (w.perform c (.write p)).Rebuilt w.cells.size (w.ty v) c q := by
  have held := Backing.eq_of_container? behind
  cases c with
  | list l =>
      obtain ⟨there, typed⟩ := fitting.list held
      cases p with
      | null =>
          cases normal
          exact rebuilt_listRefill there typed []
      | list items =>
          cases normal
          exact rebuilt_listRefill there typed items
      | _ => cases normal
  | set s =>
      obtain ⟨there, typed⟩ := fitting.set held
      have recorded : w.SetRecords s (w.set s).log := ⟨there, boxes.sets s⟩
      cases p with
      | null =>
          cases normal
          exact rebuilt_setRefill recorded typed []
      | set items | list items =>
          cases normal
          exact rebuilt_setRefill recorded typed items
      | _ => cases normal
  | map m =>
      obtain ⟨there, keyed, typed⟩ := fitting.map held
      have recorded : w.MapRecords m (w.map m).log := ⟨there, boxes.maps m⟩
      cases p with
      | null =>
          cases normal
          exact rebuilt_mapRefill recorded keyed typed []
      | map entries =>
          cases normal
          exact rebuilt_mapRefill recorded keyed typed entries
      | _ => cases normal

/-- A payload that fits is taken: it is written to the container, and the collection reads as its
normal form. -/
theorem write_normal (fitting : w.Fitting) (boxes : w.BoxesSound) (fillable : w.Fillable)
    (normal : c.normal? p = some q) :
    ∃ u, write v p w = (.ok true, u) ∧ (u.backing v).container? = some c ∧ u.payload v = q ∧
      u.Rebuilt w.cells.size (w.ty v) c q := by
  have collection : ((w.backing v).container?).isSome = true := Option.isSome_of_mem behind
  have mutable : (w.cell v).mutable = true := fillable v collection
  have there := present_of_mutable mutable
  have accepted : w.accept v p = (.ok true, w.perform c (.write p)) := by
    rw [accept_eq behind, normal]
    rfl
  have retained := admits_accept overlooks_retains.tolerates.admits collection p
  rw [accepted] at retained
  have rebuilt := (rebuilt_perform behind fitting boxes normal).setDirty there
  generalize w.perform c (.write p) = u at accepted retained rebuilt
  have still : ((u.setDirty v).backing v).container? = some c := by
    have same : u.cell v = w.cell v := retained.cells.read (Nat.zero_le _) there
    have behind : (u.cell v).backing.container? = some c := same ▸ behind
    rw [World.backing, World.setDirty, cell_writeCell]
    split
    · exact behind
    · exact behind
  exact ⟨u.setDirty v, write_accepted mutable accepted, still, rebuilt.payload still, rebuilt⟩

theorem write_abnormal (fillable : w.Fillable) (abnormal : c.normal? p = none) :
    write v p w = (.error (payloadMismatch (w.ty v) p), w) := by
  have faulted : w.accept v p = (.error (payloadMismatch (w.ty v) p), w) := by
    rw [accept_eq behind, abnormal]
    rfl
  exact write_faulted (fillable v (Option.isSome_of_mem behind)) faulted

theorem normal?_payload : ∃ q, c.normal? (w.payload v) = some q := by
  rw [payload, walkBound, payloadWithin, Backing.eq_of_container? behind]
  cases c <;> exact ⟨_, rfl⟩

theorem normal?_payload_list {l : ListId} (list : c = .list l) :
    c.normal? (w.payload v) = some (w.payload v) := by
  rw [payload, walkBound, payloadWithin, Backing.eq_of_container? behind, list]
  rfl

end Write

def TellsApart (w : World E) : Container → Prop
  | .list _ => True
  | .set s => (w.set s).items.Pairwise fun a b => (w.payload b).same (w.payload a) = false
  | .map m =>
      (w.map m).entries.Pairwise fun a b => (w.payload b.1).same (w.payload a.1) = false

/-- A collection that tells apart what it holds reads as a payload in normal form. -/
theorem TellsApart.normal? (behind : (w.backing v).container? = some c) (apart : w.TellsApart c)
    (loopless : Loopless w.Contains v) : c.normal? (w.payload v) = some (w.payload v) := by
  have held := Backing.eq_of_container? behind
  cases c with
  | list l => exact normal?_payload_list behind rfl
  | set s =>
      rw [payload_of_set loopless held, Container.normal?]
      refine congrArg (some ∘ Payload.set) ((firsts_nil_eq id _).symm.trans ?_)
      exact firsts_eq_self (List.pairwise_map.mpr apart) fun _ _ => rfl
  | map m =>
      rw [payload_of_map loopless held, Container.normal?]
      refine congrArg (some ∘ Payload.map) ((firsts_nil_eq Prod.fst _).symm.trans ?_)
      exact firsts_eq_self (List.pairwise_map.mpr apart) fun _ _ => rfl

/-- The collection `v` with the container takes payloads in their normal form and reads as it, and
turns away the others. -/
structure Normalises (w : World E) (v : Value) (c : Container) : Prop where
  takes : ∀ p q, c.normal? p = some q →
    ∃ u, write v p w = (.ok true, u) ∧ u.payload v = q ∧
      u.Rebuilt w.cells.size (w.ty v) c q
  refuses : ∀ p, c.normal? p = none → write v p w = (.error (payloadMismatch (w.ty v) p), w)
  reads : ∃ q, c.normal? (w.payload v) = some q
  restores : w.TellsApart c → Loopless w.Contains v →
    ∃ u, write v (w.payload v) w = (.ok true, u) ∧ u.payload v = w.payload v
  restoresList : ∀ l, c = .list l →
    ∃ u, write v (w.payload v) w = (.ok true, u) ∧ u.payload v = w.payload v
  settles : ∀ p u, write v p w = (.ok true, u) → ∀ r, r = p ∨ r = u.payload v →
    ∃ x, write v r u = (.ok true, x) ∧ x.payload v = u.payload v

section Reached

variable {embedding : Embedding E} (lawful : embedding.Within (Through Deed.any))
  (fillable : embedding.Within KeepsFillable) (reached : w.Reached embedding)
include lawful fillable reached

theorem write_reached (behind : (w.backing v).container? = some c) (p : Payload) :
    (∀ q, c.normal? p = some q → ∃ u, write v p w = (.ok true, u) ∧
        (u.backing v).container? = some c ∧ u.payload v = q ∧
        u.Rebuilt w.cells.size (w.ty v) c q) ∧
      (c.normal? p = none → write v p w = (.error (payloadMismatch (w.ty v) p), w)) := by
  have fitting := fitting_of_reached lawful reached
  obtain ⟨maxDepth, outside, operations, rfl⟩ := reached
  have boxes := boxesSound_after (lawful.follow tracks_boxesSound) maxDepth outside operations
  have filled := fillable_after fillable maxDepth outside operations
  exact ⟨fun q => write_normal behind fitting boxes filled, write_abnormal behind filled⟩

theorem write_again (behind : (w.backing v).container? = some c) {r : Payload}
    (written : write v p w = (.ok true, u)) (again : r = p ∨ r = u.payload v) :
    ∃ x, write v r u = (.ok true, x) ∧ x.payload v = u.payload v := by
  obtain ⟨takes, refuses⟩ := write_reached lawful fillable reached behind p
  have after : u.Reached embedding := by
    have stepped := reached.step (.write v p)
    rw [Operation.step, Operation.dropped, map_snd, written] at stepped
    exact stepped
  cases normal : c.normal? p with
  | none =>
      rw [refuses normal] at written
      cases written
  | some q =>
      obtain ⟨x, known, still, reads, _⟩ := takes q normal
      cases written.symm.trans known
      have settled : c.normal? r = some q := by
        rcases again with same | same
        · rw [same, normal]
        · rw [same, reads, Container.normal?_idem normal]
      obtain ⟨y, rewritten, _, unchanged, _⟩ :=
        (write_reached lawful fillable after still r).1 q settled
      exact ⟨y, rewritten, unchanged.trans reads.symm⟩

/-- In every world that a run leads to, lists, sets and maps take payloads in their normal form and are
rebuilt from fresh values. What is read of them can be written back, and changes nothing where the
payloads of what they hold differ. -/
theorem collections_normalise (behind : (w.backing v).container? = some c) :
    w.Normalises v c := by
  have writes := write_reached lawful fillable reached behind
  have takes : ∀ p q, c.normal? p = some q →
      ∃ u, write v p w = (.ok true, u) ∧ u.payload v = q ∧
        u.Rebuilt w.cells.size (w.ty v) c q := by
    intro p q normal
    obtain ⟨u, written, _, reads⟩ := (writes p).1 q normal
    exact ⟨u, written, reads⟩
  have restores : c.normal? (w.payload v) = some (w.payload v) →
      ∃ u, write v (w.payload v) w = (.ok true, u) ∧ u.payload v = w.payload v := by
    intro normal
    obtain ⟨u, written, reads, _⟩ := takes _ _ normal
    exact ⟨u, written, reads⟩
  refine ⟨takes, fun p => (writes p).2, normal?_payload behind, ?_, ?_, ?_⟩
  · exact fun apart loopless => restores (apart.normal? behind loopless)
  · exact fun l list => restores (normal?_payload_list behind list)
  · exact fun p u written r again => write_again lawful fillable reached behind written again

end Reached

/-- A list with a repetition is written to a set of numbers, and a number, which it does not take. -/
theorem collections_normalise_repetition :
    let w := (World.initial 4 (Outside.initial "host" Table.empty)).after TableHost.embedding
      [.newSet (.set .int)]
    (∃ u, write ⟨2⟩ (.list [.int 1, .int 1, .int 2]) w = (.ok true, u) ∧
        u.payload ⟨2⟩ = .set [.int 1, .int 2]) ∧
      write ⟨2⟩ (.int 1) w = (.error (.payloadMismatch "int<>" "int"), w) := by
  intro w
  have normalises := collections_normalise (TableHost.embedding_within (tracks_through Deed.any))
    tableHost_keepsFillable ⟨_, _, _, rfl⟩ (rfl : (w.backing ⟨2⟩).container? = some (.set ⟨0⟩))
  have normal : (Container.set ⟨0⟩).normal? (.list [.int 1, .int 1, .int 2]) =
      some (.set [.int 1, .int 2]) := by
    simp [Container.normal?, List.eraseDupsBy, List.eraseDupsBy.loop, Payload.same]
  obtain ⟨u, written, reads, _⟩ := normalises.takes _ _ normal
  exact ⟨⟨u, written, reads⟩, normalises.refuses (.int 1) rfl⟩

end World

end ScriptValues
