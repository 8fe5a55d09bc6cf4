import ScriptValues.Value.Handle
import Mathlib.Data.List.Chain
import Mathlib.Data.List.Nodup
import Mathlib.Data.List.Perm.Subperm
import Mathlib.Logic.Relation

/-! How deep a walk goes that never comes back to where it was.

A walk along a relation without loops visits no place twice, so it is over when it has visited all
places there are. -/

namespace ScriptValues

variable {α : Type} {r : α → α → Prop} {a b : α}

/-- No path down from `a` has more than `n` places. -/
def Shallow (r : α → α → Prop) : Nat → α → Prop
  | 0, _ => False
  | n + 1, a => ∀ b, r a b → Shallow r n b

/-- Nothing below `a` leads back to itself. -/
def Loopless (r : α → α → Prop) (a : α) : Prop :=
  ∀ b, Relation.ReflTransGen r a b → ¬ Relation.TransGen r b b

theorem Shallow.mono {n m : Nat} (shallow : Shallow r n a) (more : n ≤ m) : Shallow r m a := by
  induction n generalizing m a with
  | zero => exact shallow.elim
  | succ n ih =>
      cases m with
      | zero => exact absurd more (Nat.not_succ_le_zero n)
      | succ m => exact fun b step => ih (shallow b step) (Nat.le_of_succ_le_succ more)

theorem exists_path_of_not_shallow {n : Nat} (deep : ¬ Shallow r n a) :
    ∃ path : List α, path.length = n ∧ List.IsChain r (a :: path) := by
  induction n generalizing a with
  | zero => exact ⟨[], rfl, .singleton a⟩
  | succ n ih =>
      have more : ∃ b, r a b ∧ ¬ Shallow r n b := by
        by_contra none
        apply deep
        intro b step
        by_contra deeper
        exact none ⟨b, step, deeper⟩
      obtain ⟨b, step, deeper⟩ := more
      obtain ⟨path, length, chain⟩ := ih deeper
      exact ⟨b :: path, by rw [List.length_cons, length], .cons_cons step chain⟩

theorem reach_of_mem_path {path : List α} (chain : List.IsChain r (a :: path))
    (member : b ∈ a :: path) : Relation.ReflTransGen r a b := by
  induction path generalizing a with
  | nil =>
      rw [List.mem_singleton] at member
      subst member
      exact .refl
  | cons c rest ih =>
      rw [List.isChain_cons_cons] at chain
      rcases List.mem_cons.mp member with here | later
      · subst here
        exact .refl
      · exact .head chain.1 (ih chain.2 later)

/-- What can be reached at all is reached on a path that visits nothing twice. -/
theorem exists_nodup_path (reach : Relation.ReflTransGen r a b) :
    ∃ path, List.IsChain r (a :: path) ∧ (a :: path).Nodup ∧ (a :: path).getLast? = some b := by
  induction reach using Relation.ReflTransGen.head_induction_on with
  | refl => exact ⟨[], .singleton b, List.nodup_singleton b, rfl⟩
  | @head a c step _ ih =>
      obtain ⟨path, chain, distinct, last⟩ := ih
      by_cases again : a ∈ c :: path
      · -- The path comes through `a`, so what is before that is left out.
        obtain ⟨before, after, split⟩ := List.append_of_mem again
        rw [split] at chain distinct last
        refine ⟨after, chain.right_of_append, distinct.of_append_right, ?_⟩
        rw [← last, List.getLast?_append_of_ne_nil _ (List.cons_ne_nil a after)]
      · exact ⟨c :: path, .cons_cons step chain, List.nodup_cons.mpr ⟨again, distinct⟩, last⟩

theorem Loopless.of_step (loopless : Loopless r a) (step : r a b) : Loopless r b :=
  fun c path => loopless c (.head step path)

theorem loopless_of_lt (place : α → Nat) (falls : ∀ a b, r a b → place b < place a) (a : α) :
    Loopless r a := by
  intro b _ cycle
  have lower : ∀ c, Relation.TransGen r b c → place c < place b := by
    intro c path
    induction path with
    | single step => exact falls _ _ step
    | tail _ step ih => exact (falls _ _ step).trans ih
  exact Nat.lt_irrefl _ (lower b cycle)

theorem Loopless.nodup_path (loopless : Loopless r a) {path : List α}
    (chain : List.IsChain r (a :: path)) : (a :: path).Nodup := by
  induction path generalizing a with
  | nil => exact List.nodup_cons.mpr ⟨List.not_mem_nil, List.nodup_nil⟩
  | cons b rest ih =>
      rw [List.isChain_cons_cons] at chain
      refine List.nodup_cons.mpr ⟨?_, ih (loopless.of_step chain.1) chain.2⟩
      intro again
      have back := reach_of_mem_path chain.2 again
      exact loopless a .refl (.head' chain.1 back)

theorem exists_step_of_mem_dropLast {path : List α} (chain : List.IsChain r path)
    (member : b ∈ path.dropLast) : ∃ c, r b c := by
  induction path with
  | nil => exact absurd member List.not_mem_nil
  | cons a rest ih =>
      cases rest with
      | nil => exact absurd member List.not_mem_nil
      | cons c rest =>
          rw [List.isChain_cons_cons] at chain
          rw [List.dropLast_cons_cons] at member
          rcases List.mem_cons.mp member with here | later
          · exact ⟨c, here ▸ chain.1⟩
          · exact ih chain.2 later

section Places

variable {place : α → Nat} (injective : Function.Injective place) {size : Nat}
include injective

theorem length_le_of_places {path : List α} (distinct : path.Nodup)
    (below : ∀ b ∈ path, place b < size) : path.length ≤ size := by
  have within : path.map place ⊆ List.range size := by
    intro i member
    obtain ⟨b, visited, same⟩ := List.mem_map.mp member
    rw [← same, List.mem_range]
    exact below b visited
  have few := ((List.Nodup.map injective distinct).subperm within).length_le
  rwa [List.length_map, List.length_range] at few

theorem Loopless.shallow (loopless : Loopless r a)
    (below : ∀ b, Relation.ReflTransGen r a b → place b < size) : Shallow r size a := by
  by_contra deep
  obtain ⟨path, length, chain⟩ := exists_path_of_not_shallow deep
  have few := length_le_of_places injective (loopless.nodup_path chain)
    fun b visited => below b (reach_of_mem_path chain visited)
  rw [List.length_cons, length] at few
  exact Nat.not_succ_le_self size few

/-- It is enough that places are numbered from which there is a step. -/
theorem Loopless.shallow_succ (loopless : Loopless r a) (below : ∀ b c, r b c → place b < size) :
    Shallow r (size + 1) a := by
  by_contra deep
  obtain ⟨path, length, chain⟩ := exists_path_of_not_shallow deep
  have distinct := (List.dropLast_sublist _).nodup (loopless.nodup_path chain)
  have few := length_le_of_places injective distinct fun b visited =>
    (exists_step_of_mem_dropLast chain visited).elim (below b)
  rw [List.length_dropLast, List.length_cons, length] at few
  exact Nat.not_succ_le_self size few

end Places

theorem Value.index_injective : Function.Injective Value.index := by
  rintro ⟨i⟩ ⟨j⟩ same
  exact congrArg Value.mk same

end ScriptValues
