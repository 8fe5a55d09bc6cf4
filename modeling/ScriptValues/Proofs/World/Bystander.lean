import ScriptValues.Proofs.World.Depth
import ScriptValues.Proofs.World.Permitted

/-! One value while others are worked on.

What an operation may change of a value is told by a look at its cell: an operation that works on
another value changes nothing, a write changes what the value stores itself, and only an assignment or
a move changes what is behind it. -/

namespace ScriptValues

open Step World

variable {E α β : Type}

def Backing.shared : Backing E → Backing E
  | basic _ => basic .null
  | aggregate _ space => aggregate .null space
  | enum _ => enum none
  | function _ => function none
  | prototype _ => prototype ⟨⟨0⟩, .noType, none⟩
  | b => b

def Backing.stores : Backing E → Bool
  | basic _ | aggregate _ _ | enum _ | function _ | prototype _ => true
  | _ => false

namespace Operation

def target? : Operation E → Option Value
  | write v _ | assign v _ | setDirty v | rehome v _ | memberSpace v | member v _ | release v =>
      some v
  | _ => none

def written? : Operation E → Option Value
  | write v _ => some v
  | _ => none

def reassigned? : Operation E → Option Value
  | assign v _ | rehome v _ => some v
  | _ => none

end Operation

namespace World

variable {u v w : World E} {x y : Value} {look : Cell E → α}

/-! One cell -/

/-- If `x` is there it stays there, and `look` finds the same in its cell. -/
def KeepsCell (look : Cell E → α) (x : Value) (u w : World E) : Prop :=
  x.index < u.cells.size → x.index < w.cells.size ∧ look (w.cell x) = look (u.cell x)

theorem composes_keepsCell (look : Cell E → α) (x : Value) : Composes (KeepsCell look x) where
  refl _ there := ⟨there, rfl⟩
  trans first second there := by
    obtain ⟨still, same⟩ := first there
    obtain ⟨kept, same'⟩ := second still
    exact ⟨kept, same'.trans same⟩

theorem KeepsCell.map (kept : KeepsCell look x u w) (f : α → β) :
    KeepsCell (fun c => f (look c)) x u w :=
  fun there => ⟨(kept there).1, congrArg f (kept there).2⟩

theorem overlooks_keepsCell (look : Cell E → α) (x : Value) : Overlooks (KeepsCell look x) where
  toComposes := composes_keepsCell look x
  retains kept there :=
    ⟨Nat.lt_of_lt_of_le there kept.cells.size,
      congrArg look (kept.cells.read (Nat.zero_le _) there)⟩

theorem keepsCell_writeCell (w : World E) {c : Cell E} (same : y = x → look c = look (w.cell x)) :
    KeepsCell look x w (w.writeCell y c) := by
  intro there
  refine ⟨?_, ?_⟩
  · change x.index < (w.cells.write y.index c).size
    rwa [Heap.size_write]
  · rw [cell_writeCell]
    split
    · rename_i here
      exact same (Value.index_injective here.1)
    · rfl

def IgnoresTranslated (look : Cell E → α) : Prop :=
  ∀ c space, look { c with translated := space } = look c

def IgnoresDirty (look : Cell E → α) : Prop := ∀ c, look { c with dirty := true } = look c

def IgnoresStored (look : Cell E → α) : Prop :=
  ∀ (c : Cell E) (b : Backing E), b.shared = c.backing.shared →
    look { c with backing := b } = look c

theorem keepsCell_setDirty (w : World E) (ignores : y = x → IgnoresDirty look) :
    KeepsCell look x w (w.setDirty y) := by
  refine keepsCell_writeCell w fun same => ?_
  rw [ignores same, same]

theorem keepsCell_setTranslated (w : World E) (ignores : y = x → IgnoresTranslated look)
    (space : Option SpaceId) : KeepsCell look x w (w.setTranslated y space) := by
  refine keepsCell_writeCell w fun same => ?_
  rw [ignores same, same]

theorem keepsCell_recordTranslated (w : World E) (ignores : y = x → IgnoresTranslated look)
    (space : SpaceId) : KeepsCell look x w (w.recordTranslated y space) :=
  (overlooks_keepsCell look x).tolerates.admits.recordTranslated
    (fun u => keepsCell_setTranslated u ignores) w space

theorem keepsCell_releaseTranslated (w : World E) (ignores : y = x → IgnoresTranslated look) :
    KeepsCell look x w (w.releaseTranslated y) :=
  (overlooks_keepsCell look x).tolerates.admits.releaseTranslated
    (fun u => keepsCell_setTranslated u ignores) w

/-! Writes -/

theorem keepsCell_accept (w : World E) (ignores : y = x → IgnoresStored look) (p : Payload) :
    KeepsCell look x w (w.accept y p).2 := by
  have overlooks := overlooks_keepsCell look x
  have stored : ∀ b, b.shared = (w.backing y).shared → KeepsCell look x w (w.setBacking y b) := by
    intro b shared
    refine keepsCell_writeCell w fun same => ?_
    rw [ignores same _ b shared, same]
  have hosted : ∀ write, KeepsCell look x w (w.writeHost write p).2 := by
    intro write there
    rw [writeHost]
    split
    · exact ⟨there, rfl⟩
    · exact ⟨there, rfl⟩
  by_cases collection : ((w.backing y).container?).isSome = true
  · exact admits_accept overlooks.tolerates collection p
  · unfold accept
    cases held : w.backing y with
    | absent => exact overlooks.refl w
    | basic | aggregate => exact stored _ (by rw [held]; rfl)
    | property | aggregateProperty | field => exact hosted _
    | list | set | map =>
        rw [held] at collection
        exact absurd rfl collection
    | enum | function | prototype =>
        dsimp only
        split <;> first
          | exact stored _ (by rw [held]; rfl)
          | exact overlooks.refl w

theorem keepsCell_write (w : World E) (dirty : y = x → IgnoresDirty look)
    (stored : y = x → IgnoresStored look) (p : Payload) :
    KeepsCell look x w (write y p w).2 :=
  composes_write (composes_keepsCell look x) (keepsCell_accept w stored p) fun u =>
    keepsCell_setDirty u dirty

theorem permits_keepsCell (other : y ≠ x) : Permits (KeepsCell (E := E) look x) y where
  toAdmits := (overlooks_keepsCell look x).tolerates.admits
  writeCell w _ _ := keepsCell_writeCell w (absurd · other)
  outside _ _ there := ⟨there, rfl⟩

theorem keepsCell_rehome (w : World E) (other : y ≠ x) (space : SpaceId) :
    KeepsCell look x w (rehome y space w).2 :=
  permits_rehome (permits_keepsCell other) w space

theorem keepsCell_assign (w : World E) (other : y ≠ x) (z : Value) :
    KeepsCell look x w (assign y z w).2 :=
  permits_assign (permits_keepsCell other) w z

end World

/-! The embedding program -/

/-- Nothing that the embedding program does can be found by `look` in `x`, the translation of `x`
included: either `look` does not depend on it, or no translator answers with `x`. -/
structure Embedding.Keeps (embedding : Embedding E) (look : Cell E → α) (x : Value) : Prop where
  within : embedding.Within (World.KeepsCell look x)
  answers : IgnoresTranslated look ∨
    ∀ translator p parent (w u : World E) t, x.index < w.cells.size →
      embedding.translate translator p parent w = (.ok t, u) → t ≠ x

/-- The embedding program leaves `x` alone in all that it does, and no translator answers with it. -/
def Embedding.Spares (embedding : Embedding E) (x : Value) : Prop := embedding.Keeps id x

section Steps

variable {embedding : Embedding E} {x y : Value} {look : Cell E → α}

theorem Embedding.Keeps.map (keeps : embedding.Keeps look x) (f : α → β) :
    embedding.Keeps (fun c => f (look c)) x where
  within :=
    { translate := fun translator p parent w => (keeps.within.translate translator p parent w).map f
      routine := fun identity values receiver w =>
        (keeps.within.routine identity values receiver w).map f }
  answers := keeps.answers.imp (fun ignores c space => congrArg f (ignores c space)) id

variable (keeps : embedding.Keeps look x)

include keeps

theorem keepsCell_memberSpaceWithin (bound : Nat) (w : World E)
    (ignores : y = x → IgnoresTranslated look) :
    KeepsCell look x w (memberSpaceWithin embedding bound y w).2 := by
  have composes := composes_keepsCell look x
  induction bound generalizing y w with
  | zero => exact composes.refl w
  | succ bound ih =>
      cases held : w.backing y with
      | aggregateProperty b parent translator =>
          have made := keeps.within.translate translator (b.read w.outside) parent w
          have apart : ∀ t u, x.index < w.cells.size →
              embedding.translate translator (b.read w.outside) parent w = (.ok t, u) →
              t = x → IgnoresTranslated look := by
            intro t u there answered same
            exact keeps.answers.elim id fun never =>
              absurd same (never translator _ parent w u t there answered)
          rw [memberSpaceWithin_aggregateProperty embedding bound held]
          split
          · exact keepsCell_recordTranslated w ignores _
          · generalize embedding.translate _ _ parent w = answer at made apart ⊢
            rcases answer with ⟨_ | t, u⟩
            · exact made
            · intro there
              have reached : KeepsCell look x u (memberSpaceWithin embedding bound t u).2 :=
                ih u (apart t u there rfl)
              dsimp only
              generalize memberSpaceWithin embedding bound t u = outcome at reached ⊢
              rcases outcome with ⟨_ | space, z⟩
              · exact composes.trans made reached there
              · have recorded := keepsCell_recordTranslated z ignores space
                exact composes.trans (composes.trans made reached) recorded there
      | _ =>
          simp only [memberSpaceWithin, bind_apply, get_apply, held]
          exact (overlooks_keepsCell look x).retains (retains_of_same rfl rfl)

theorem keepsCell_memberSpace (w : World E) (ignores : y = x → IgnoresTranslated look) :
    KeepsCell look x w (memberSpace embedding y w).2 :=
  keepsCell_memberSpaceWithin keeps w.walkBound w ignores

/-- What an operation does to `x` is nothing that `look` could find. -/
structure Operation.Unseen (operation : Operation E) (look : Cell E → α) (x : Value) : Prop where
  flags : operation.target? = some x → IgnoresTranslated look ∧ IgnoresDirty look
  stored : operation.written? = some x → IgnoresStored look
  held : operation.reassigned? ≠ some x

theorem keepsCell_step {operation : Operation E} (unseen : operation.Unseen look x) (w : World E) :
    KeepsCell look x w (operation.step embedding w).2 := by
  have overlooks := overlooks_keepsCell look x
  have flags : ∀ y, operation.target? = some y → y = x → IgnoresTranslated look ∧ IgnoresDirty look :=
    fun y target same => unseen.flags (same ▸ target)
  by_cases idle : operation.idle = true
  · exact tolerates_step overlooks.tolerates keeps.within idle w
  cases operation with
  | write y p =>
      rw [Operation.step, Operation.dropped, map_snd]
      exact keepsCell_write w (fun same => (flags y rfl same).2)
        (fun same => unseen.stored (congrArg some same)) p
  | assign y z =>
      rw [Operation.step, Operation.dropped, map_snd]
      exact keepsCell_assign w (fun same => unseen.held (congrArg some same)) z
  | rehome y space =>
      exact keepsCell_rehome w (fun same => unseen.held (congrArg some same)) space
  | setDirty y => exact keepsCell_setDirty w fun same => (flags y rfl same).2
  | memberSpace y =>
      rw [Operation.step, Operation.dropped, map_snd]
      exact keepsCell_memberSpace keeps w fun same => (flags y rfl same).1
  | member y name =>
      rw [Operation.step, Operation.dropped, map_snd, member_snd]
      exact keepsCell_memberSpace keeps w fun same => (flags y rfl same).1
  | release y => exact keepsCell_releaseTranslated w fun same => (flags y rfl same).1
  | outside change => exact fun there => ⟨there, rfl⟩
  | _ => exact absurd rfl idle

theorem keepsCell_after {operations : List (Operation E)}
    (unseen : ∀ operation ∈ operations, operation.Unseen look x) (w : World E) :
    KeepsCell look x w (w.after embedding operations) := by
  induction operations generalizing w with
  | nil => exact (composes_keepsCell look x).refl w
  | cons operation rest ih =>
      have first := keepsCell_step keeps (unseen operation List.mem_cons_self) w
      have later := ih (fun other member => unseen other (List.mem_cons_of_mem _ member))
        (operation.step embedding w).2
      exact (composes_keepsCell look x).trans first later

end Steps

end ScriptValues
