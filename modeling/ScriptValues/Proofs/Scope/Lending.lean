import ScriptValues.Proofs.Scope.Run
import Mathlib.Algebra.BigOperators.Group.List.Basic
import Mathlib.Algebra.GroupWithZero.Nat

/-! The shared space, lent to one value after another.

A value without a space of its own is lent the shared one, and then nothing but the value is bound
there. The loan touches no other space and is never refused, and as long as the shared space is not
released it is the same one for every value. -/

namespace ScriptValues

namespace Arena

variable {a : Arena} {id : SpaceId} {v : Value}

structure Lends (a : Arena) (v : Value) (id : SpaceId) (b : Arena) : Prop where
  shared : b.Shares id
  filled : id ≠ SpaceId.empty
  bound : (b.bindings id).rows = [(selfName, v)]
  others : ∀ x, x ≠ id → b.space? x = a.space? x
  allocated : b.slots.size = a.slots.size + if a.Shares id then 0 else 1

theorem sharedSpace_size (a : Arena) :
    a.sharedSpace.2.slots.size = a.slots.size + if a.Shares a.sharedSpace.1 then 0 else 1 := by
  rcases a.sharedSpace_cases with ⟨id, shared, there⟩ | ⟨absent, new⟩
  · rw [there, if_pos shared, Nat.add_zero]
  · rw [if_neg (absent _), new]
    exact allocate_size a none 0

theorem space?_sharedSpace {x : SpaceId} (other : x ≠ a.sharedSpace.1) :
    a.sharedSpace.2.space? x = a.space? x := by
  rcases a.sharedSpace_cases with ⟨id, _, there⟩ | ⟨_, new⟩
  · rw [there]
  · rw [new] at other ⊢
    have old : x.index ≠ a.slots.size := fun same => other (SpaceId.eq_of_index same)
    change (a.allocate none 0).2.space? x = a.space? x
    rw [space?_allocate, if_neg old]

theorem Sound.lends (sound : a.Sound) (v : Value) :
    a.Lends v (a.lendSharedSpace v).1 (a.lendSharedSpace v).2 := by
  obtain ⟨kept, own, s, live⟩ := sound.sharedSpace
  have lent : a.lendSharedSpace v = (a.sharedSpace.1, a.sharedSpace.2.writeSlot a.sharedSpace.1
      (some { s with bindings := Table.empty.insert selfName v })) := by
    simp only [Arena.lendSharedSpace, live]
  have written := space?_writeSlot_live a.sharedSpace.2 live
  rw [lent]
  constructor
  case shared =>
    refine ⟨own, ?_⟩
    rw [contains, written, if_pos rfl]
    rfl
  case filled => exact (kept.shared _ own).2.1
  case bound =>
    rw [bindings, written, if_pos rfl]
    rfl
  case others =>
    intro x other
    rw [written, if_neg other.symm, space?_sharedSpace other]
  case allocated =>
    rw [writeSlot_size]
    exact a.sharedSpace_size

theorem Lends.lookupLocal {b : Arena} (lends : a.Lends v id b) (name : String) :
    b.lookupLocal id name = if name = selfName then some v else none := by
  obtain ⟨s, live⟩ := (contains_iff b id).mp lends.shared.2
  have rows := lends.bound
  rw [bindings, live] at rows
  rw [Arena.lookupLocal, live, Option.bind_some, Table.get?, rows]
  by_cases own : name = selfName
  · rw [own, List.lookup_cons_self, if_pos rfl]
  · rw [List.lookup_cons, beq_false_of_ne own, if_neg own]
    rfl

end Arena

namespace World

variable {E : Type} {embedding : Embedding E} {u w : World E} {v : Value} {space : SpaceId}

/-- The value is there and has no space of its own: it is neither an aggregate nor an aggregate
property. -/
def Borrows (w : World E) (v : Value) : Prop :=
  w.family v ≠ .absent ∧ w.family v ≠ .aggregate ∧ w.family v ≠ .aggregateProperty

instance (w : World E) (v : Value) : Decidable (w.Borrows v) :=
  inferInstanceAs (Decidable (_ ∧ _))

theorem memberSpace_borrows (borrows : w.Borrows v) :
    memberSpace embedding v w =
      (.ok (w.arena.lendSharedSpace v).1, w.withArena (w.arena.lendSharedSpace v).2) := by
  change memberSpaceWithin embedding (w.cells.size + 1) v w = _
  rw [memberSpaceWithin, Step.bind_apply, Step.get_apply]
  obtain ⟨present, own, translated⟩ := borrows
  rw [family] at present own translated
  cases held : w.backing v with
  | absent => simp [held, Backing.family] at present
  | aggregate p space => simp [held, Backing.family] at own
  | aggregateProperty b parent translator => simp [held, Backing.family] at translated
  | _ =>
      simp only [held]
      rfl

theorem member_borrows (sound : w.arena.Sound) (borrows : w.Borrows v) (name : String) :
    member embedding v name w =
      (.ok (if name = selfName then v else .none),
        w.withArena (w.arena.lendSharedSpace v).2) := by
  rw [member, Step.bind_apply, memberSpace_borrows borrows]
  change (Except.ok (((w.arena.lendSharedSpace v).2.lookupLocal
    (w.arena.lendSharedSpace v).1 name).getD .none), _) = _
  rw [(sound.lends v).lookupLocal name]
  split <;> rfl

end World

/-! Runs -/

/-- A call that has the shared space lent to a value: its answer, and how many spaces it made. -/
structure Loan where
  answer : Except Fault SpaceId
  made : Nat

namespace Operation

variable {E : Type} {embedding : Embedding E} {w : World E} {v : Value} {operation : Operation E}
  {loan : Loan} {space : SpaceId}

def SparesShared (w : World E) (operation : Operation E) : Prop :=
  ∀ space, operation = .free space → ¬ w.arena.Shares space

def borrower? (w : World E) : Operation E → Option Value
  | memberSpace v | member v _ => if w.Borrows v then some v else none
  | _ => none

def loan? (embedding : Embedding E) (w : World E) (operation : Operation E) : Option Loan :=
  (operation.borrower? w).map fun v =>
    ⟨(ScriptValues.memberSpace embedding v w).1,
      (operation.step embedding w).2.arena.slots.size - w.arena.slots.size⟩

theorem arena_of_borrower? (borrower : operation.borrower? w = some v) :
    w.Borrows v ∧ (operation.step embedding w).2.arena = (w.arena.lendSharedSpace v).2 := by
  cases operation with
  | memberSpace x =>
      obtain ⟨borrows, same⟩ := Option.ite_none_right_eq_some.mp borrower
      cases same
      refine ⟨borrows, ?_⟩
      rw [step, dropped, Step.map_snd, World.memberSpace_borrows borrows]
      rfl
  | member x name =>
      obtain ⟨borrows, same⟩ := Option.ite_none_right_eq_some.mp borrower
      cases same
      refine ⟨borrows, ?_⟩
      rw [step, dropped, Step.map_snd, member_snd, World.memberSpace_borrows borrows]
      rfl
  | _ => cases borrower

theorem loan_of_sound (sound : w.arena.Sound) (lent : operation.loan? embedding w = some loan) :
    ∃ space, (operation.step embedding w).2.arena.Shares space ∧
      loan = ⟨.ok space, if w.arena.Shares space then 0 else 1⟩ := by
  obtain ⟨v, borrower, rfl⟩ := Option.map_eq_some_iff.mp lent
  obtain ⟨borrows, arena⟩ : w.Borrows v ∧
      (operation.step embedding w).2.arena = (w.arena.lendSharedSpace v).2 :=
    arena_of_borrower? borrower
  have lends := sound.lends v
  refine ⟨_, arena ▸ lends.shared, ?_⟩
  rw [World.memberSpace_borrows borrows, arena, lends.allocated, Nat.add_sub_cancel_left]

end Operation

namespace World

variable {E : Type} {embedding : Embedding E} {u w : World E} {v : Value} {space : SpaceId}

def SharedStays (u w : World E) : Prop := u.arena.KeepsShared w.arena

theorem follows_sharedStays : Follows Deed.any (SharedStays (E := E)) where
  refl w := Arena.KeepsShared.refl w.arena
  trans first second := Arena.KeepsShared.trans first second
  change _ kept := kept

/-- The loans of a run, in the order of the calls. -/
def loans (embedding : Embedding E) : List (Operation E) → World E → List Loan
  | [], _ => []
  | operation :: rest, w =>
      (operation.loan? embedding w).toList ++ loans embedding rest (operation.step embedding w).2

theorem sum_made_eq_zero {lent : List Loan} (none : ∀ loan ∈ lent, loan = ⟨.ok space, 0⟩) :
    (lent.map Loan.made).sum = 0 := by
  apply List.sum_eq_zero
  intro n member
  obtain ⟨loan, inside, rfl⟩ := List.mem_map.mp member
  rw [none loan inside]

section Spared

variable (kept : embedding.Within SharedStays)

include kept

theorem sharedStays_step {operation : Operation E} (spared : operation.SparesShared w) :
    SharedStays w (operation.step embedding w).2 := by
  apply operation_follows follows_sharedStays kept w operation fun _ _ => trivial
  rintro space rfl sound
  refine ⟨sound.free space, fun id shared => shared.free ?_⟩
  rintro rfl
  exact spared space rfl shared

theorem loans_of_shares {operations : List (Operation E)} (sound : w.arena.Sound)
    (shared : w.arena.Shares space)
    (spared : Throughout embedding Operation.SparesShared operations w) :
    ∀ loan ∈ loans embedding operations w, loan = ⟨.ok space, 0⟩ := by
  induction operations generalizing w with
  | nil => nofun
  | cons operation rest ih =>
      obtain ⟨sound', stays⟩ := sharedStays_step kept spared.1 sound
      intro loan member
      rcases List.mem_append.mp member with here | later
      · obtain ⟨x, shared', rfl⟩ := Operation.loan_of_sound sound (Option.mem_toList.mp here)
        have same : x = space := shared'.unique (stays space shared)
        rw [same, if_pos shared]
      · exact ih sound' (stays space shared) spared.2 loan later

/-- Between two releases of the shared space all loans are of one space, which is made once. -/
theorem loans_of_spared {operations : List (Operation E)} (sound : w.arena.Sound)
    (spared : Throughout embedding Operation.SparesShared operations w) :
    (∃ space, ∀ loan ∈ loans embedding operations w, loan.answer = .ok space) ∧
      ((loans embedding operations w).map Loan.made).sum ≤ 1 := by
  induction operations generalizing w with
  | nil => exact ⟨⟨SpaceId.empty, nofun⟩, Nat.zero_le 1⟩
  | cons operation rest ih =>
      have sound' := (sharedStays_step kept spared.1 sound).1
      rw [loans]
      cases lent : operation.loan? embedding w with
      | none => exact ih sound' spared.2
      | some loan =>
          obtain ⟨space, shared, rfl⟩ := Operation.loan_of_sound sound lent
          have later := loans_of_shares kept sound' shared spared.2
          refine ⟨⟨space, ?_⟩, ?_⟩
          · intro x member
            rcases List.mem_cons.mp member with rfl | inside
            · rfl
            · rw [later x inside]
          · rw [Option.toList_some, List.singleton_append, List.map_cons, List.sum_cons,
              sum_made_eq_zero later]
            dsimp only
            split <;> omega

end Spared

/-- In every world that a run can reach, a value that is there and has no space of its own is lent the
shared one, whatever the depth limit is. The space is live and not the empty one, nothing but the
value is bound in it then, and no other space is touched. In every part of a run in which neither an
operation nor the embedding program releases the shared space, all calls answer with one space, and
together they make one at most. -/
theorem values_share_one_space (kept : embedding.Within ScopesEvolve)
    (reached : w.Reached embedding) :
    (∀ v, w.Borrows v → ∃ space a, w.arena.Lends v space a ∧
      memberSpace embedding v w = (.ok space, w.withArena a) ∧
      ∀ name, member embedding v name w =
        (.ok (if name = selfName then v else .none), w.withArena a)) ∧
    (embedding.Within SharedStays → ∀ operations,
      Throughout embedding Operation.SparesShared operations w →
      (∃ space, ∀ loan ∈ loans embedding operations w, loan.answer = .ok space) ∧
        ((loans embedding operations w).map Loan.made).sum ≤ 1) := by
  have sound := reached.sound kept
  refine ⟨fun v borrows => ?_, fun spared operations throughout => ?_⟩
  · exact ⟨_, _, sound.lends v, memberSpace_borrows borrows, member_borrows sound borrows⟩
  · exact loans_of_spared spared sound throughout

/-- Two numbers in a world without room for nested spaces. The first was lent the shared space, and a
name was bound there afterwards. -/
def lentBefore : World Outside :=
  (World.initial 0 (Outside.initial "host" Table.empty)).after TableHost.embedding
    [.newBasic (.scalar .int) (.int 1) false, .newBasic (.scalar .int) (.int 2) false,
      .memberSpace ⟨2⟩, .bind ⟨1⟩ "x" ⟨2⟩]

/-- The second number is lent the same space, and so is the first one again after the release of a
subtree has passed the space over. -/
theorem values_share_one_space_lentBefore :
    (∃ a, lentBefore.arena.Lends ⟨3⟩ ⟨1⟩ a ∧
      member TableHost.embedding ⟨3⟩ "x" lentBefore = (.ok .none, lentBefore.withArena a)) ∧
    (∃ space, ∀ loan ∈ loans TableHost.embedding
        [.memberSpace ⟨3⟩, .freeSubtree ⟨1⟩, .member ⟨2⟩ "x"] lentBefore,
      loan.answer = .ok space) := by
  have reached : lentBefore.Reached TableHost.embedding := ⟨_, _, _, rfl⟩
  obtain ⟨lent, shared⟩ := values_share_one_space
    (TableHost.embedding_within tracks_scopesEvolve) reached
  refine ⟨?_, ?_⟩
  · obtain ⟨space, a, lends, answer, members⟩ := lent ⟨3⟩ (by decide)
    have first : (memberSpace TableHost.embedding ⟨3⟩ lentBefore).1 = .ok ⟨1⟩ := rfl
    rw [answer] at first
    cases first
    exact ⟨a, lends, members "x"⟩
  · exact (shared (TableHost.embedding_follows follows_sharedStays)
      [.memberSpace ⟨3⟩, .freeSubtree ⟨1⟩, .member ⟨2⟩ "x"] ⟨nofun, nofun, nofun, trivial⟩).1

end World

end ScriptValues
