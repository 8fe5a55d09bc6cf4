import ScriptValues.Proofs.World.Retained

/-! What is done to one value.

Writes, moves and assignments work on a value, and so do the record of its translation and the mark
that it has changed. A relation that permits the cell of the value to be written permits them all, and
one that permits it for every value follows every operation. -/

namespace ScriptValues

open Step World

variable {E : Type}

section Composes

variable {R : World E → World E → Prop} {w : World E} {v u : Value} {p : Payload} {space : SpaceId}

theorem composes_write (composes : Composes R) (accepted : R w (w.accept v p).2)
    (marked : ∀ x : World E, R x (x.setDirty v)) : R w (write v p w).2 := by
  rw [write, bind_apply, get_apply]
  by_cases mutable : (w.cell v).mutable = true
  · simp only [mutable, if_true]
    generalize w.accept v p = answer at accepted ⊢
    obtain ⟨fault | accepts, x⟩ := answer
    · exact composes.refl w
    · cases accepts with
      | false => exact accepted
      | true => exact composes.trans accepted (marked x)
  · simp only [mutable]
    exact composes.refl w

theorem composes_rehome (composes : Composes R)
    (moved : ∀ p old, w.backing v = .aggregate p old →
      R w ((w.setBacking v (.aggregate p space)).withArena
        ((w.arena.unbind space selfName).2.bind space selfName v).2)) :
    R w (rehome v space w).2 := by
  rw [rehome, bind_apply, get_apply]
  by_cases live : w.arena.contains space = true
  · simp only [live, if_true]
    cases held : w.backing v with
    | aggregate p old => exact moved p old held
    | _ => exact composes.refl w
  · simp only [live]
    exact composes.refl w

theorem composes_assign (composes : Composes R) (moved : ∀ space, R w (rehome v space w).2)
    (stored : ∀ (x : World E) b, b.container? = none → R x ((x.setBacking v b).setDirty v))
    (shared : ∀ b, (w.backing v).container?.isSome = true → R w ((w.setBacking v b).setDirty v))
    (written : R w (write v (w.payload u) w).2) : R w (assign v u w).2 := by
  rw [assign, bind_apply, get_apply]
  by_cases types : (w.ty v).same (w.ty u) = true
  · simp only [types, if_true]
    by_cases self : v = u
    · simp only [self, if_true]
      exact composes.refl w
    · by_cases mutable : (w.cell v).mutable = true
      · simp only [self, if_false, mutable, if_true]
        generalize held : w.backing v = b
        generalize given : w.backing u = c
        split
        · exact bind_within composes (moved _) fun _ x _ => stored x _ rfl
        · exact shared _ (by rw [held]; rfl)
        · exact shared _ (by rw [held]; rfl)
        · exact shared _ (by rw [held]; rfl)
        · exact stored w _ (by rw [given]; rfl)
        · exact written
      · simp only [self, mutable, if_false]
        exact composes.refl w
  · simp only [types]
    exact composes.refl w

end Composes

/-- A relation that admits that the cell of `v` is written, too, if `v` can be filled afterwards where it
could before, and that the outside state changes. -/
structure Permits (R : World E → World E → Prop) (v : Value) : Prop extends Admits R where
  writeCell : ∀ (w : World E) (c : Cell E), ((w.cell v).Fillable → c.Fillable) → R w (w.writeCell v c)
  outside : ∀ (w : World E) (outside : E), R w { w with outside }

section Permits

variable {R : World E → World E → Prop} {v : Value} (permits : Permits R v)
include permits

theorem Permits.setDirty (w : World E) : R w (w.setDirty v) :=
  permits.writeCell w _ fun fillable => fillable

theorem Permits.setTranslated (w : World E) (space : Option SpaceId) :
    R w (w.setTranslated v space) :=
  permits.writeCell w _ fun fillable => fillable

theorem Permits.store {b : Backing E} (plain : b.container? = none) (w : World E) :
    R w (w.setBacking v b) :=
  permits.writeCell w _ fun _ => Cell.fillable_of_plain plain

theorem Permits.share {w : World E} (collection : (w.backing v).container?.isSome = true)
    (b : Backing E) : R w (w.setBacking v b) :=
  permits.writeCell w _ fun fillable _ => fillable collection

namespace World

theorem permits_accept (w : World E) (p : Payload) : R w (w.accept v p).2 := by
  by_cases collection : ((w.backing v).container?).isSome = true
  · exact admits_accept permits.toAdmits collection p
  · unfold accept
    cases held : w.backing v with
    | absent => exact permits.refl w
    | basic | aggregate => exact permits.store rfl w
    | property | aggregateProperty | field =>
        dsimp only
        rw [writeHost]
        split
        · exact permits.outside w _
        · exact permits.outside w _
    | list | set | map =>
        rw [held] at collection
        exact absurd rfl collection
    | enum | function =>
        dsimp only
        split
        · exact permits.store rfl w
        · exact permits.store rfl w
        · exact permits.refl w
    | prototype =>
        dsimp only
        split
        · exact permits.store rfl w
        · exact permits.refl w

theorem permits_recordTranslated (w : World E) (space : SpaceId) :
    R w (w.recordTranslated v space) :=
  permits.toAdmits.recordTranslated permits.setTranslated w space

end World

theorem permits_write (w : World E) (p : Payload) : R w (write v p w).2 :=
  composes_write permits.toComposes (permits_accept permits w p) permits.setDirty

theorem permits_rehome (w : World E) (space : SpaceId) : R w (rehome v space w).2 :=
  composes_rehome permits.toComposes fun _ _ _ =>
    permits.trans (permits.store rfl w) (permits.beside rfl rfl rfl)

theorem permits_assign (w : World E) (u : Value) : R w (assign v u w).2 :=
  composes_assign permits.toComposes (permits_rehome permits w)
    (fun x _ plain => permits.trans (permits.store plain x) (permits.setDirty _))
    (fun b collection => permits.trans (permits.share collection b) (permits.setDirty _))
    (permits_write permits w _)

end Permits

/-- Every operation is followed, where the registration of a default is. -/
theorem permits_step {R : World E → World E → Prop} {embedding : Embedding E}
    {operation : Operation E} (permits : ∀ v, Permits R v) (kept : embedding.Within R) (w : World E)
    (registered : ∀ p name v, operation = .addDefault p name v → R w (w.addDefault p name v).2) :
    R w (operation.step embedding w).2 := by
  have space := fun v => admits_memberSpaceWithin (permits v).toAdmits kept
    (fun x u => permits_recordTranslated (permits u) x) w.walkBound v w
  by_cases idle : operation.idle = true
  · exact admits_step (permits .none).toAdmits kept idle w registered
  cases operation with
  | write v p =>
      rw [Operation.step, Operation.dropped, map_snd]
      exact permits_write (permits v) w p
  | assign v u =>
      rw [Operation.step, Operation.dropped, map_snd]
      exact permits_assign (permits v) w u
  | rehome v space => exact permits_rehome (permits v) w space
  | setDirty v => exact (permits v).setDirty w
  | memberSpace v =>
      rw [Operation.step, Operation.dropped, map_snd]
      exact space v
  | member v name =>
      rw [Operation.step, Operation.dropped, map_snd, member_snd]
      exact space v
  | release v => exact (permits v).toAdmits.releaseTranslated (permits v).setTranslated w
  | outside change => exact (permits .none).outside w _
  | _ => exact absurd rfl idle

end ScriptValues
