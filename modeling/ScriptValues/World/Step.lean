import ScriptValues.World.Basic

/-! Operations on a world that may fail. -/

namespace ScriptValues

/-- An operation takes a world to its outcome and the world afterwards. What it changed before it
failed stays changed. -/
def Step (E α : Type) : Type := World E → Except Fault α × World E

namespace Step

variable {E α β : Type}

def andThen (first : Step E α) (next : α → Step E β) : Step E β := fun w =>
  match first w with
  | (.ok a, w) => next a w
  | (.error fault, w) => (.error fault, w)

/-- A handler goes on from the world that the failed operation left. -/
def orElse (first : Step E α) (handler : Fault → Step E α) : Step E α := fun w =>
  match first w with
  | (.ok a, w) => (.ok a, w)
  | (.error fault, w) => handler fault w

instance : Monad (Step E) where
  pure a := fun w => (.ok a, w)
  bind := andThen

instance : MonadStateOf (World E) (Step E) where
  get := fun w => (.ok w, w)
  set w := fun _ => (.ok (), w)
  modifyGet f := fun w => (.ok (f w).1, (f w).2)

instance : MonadExceptOf Fault (Step E) where
  throw fault := fun w => (.error fault, w)
  tryCatch := orElse

@[simp] theorem pure_apply (a : α) (w : World E) : (pure a : Step E α) w = (.ok a, w) := rfl

@[simp] theorem bind_apply (first : Step E α) (next : α → Step E β) (w : World E) :
    (first >>= next) w =
      match first w with
      | (.ok a, w) => next a w
      | (.error fault, w) => (.error fault, w) := rfl

@[simp] theorem map_apply (f : α → β) (first : Step E α) (w : World E) :
    (f <$> first) w =
      match first w with
      | (.ok a, w) => (.ok (f a), w)
      | (.error fault, w) => (.error fault, w) := rfl

@[simp] theorem get_apply (w : World E) : (get : Step E (World E)) w = (.ok w, w) := rfl

@[simp] theorem set_apply (u w : World E) : (set u : Step E PUnit) w = (.ok (), u) := rfl

@[simp] theorem modify_apply (f : World E → World E) (w : World E) :
    (modify f : Step E PUnit) w = (.ok (), f w) := rfl

@[simp] theorem throw_apply (fault : Fault) (w : World E) :
    (throw fault : Step E α) w = (.error fault, w) := rfl

@[simp] theorem tryCatch_apply (first : Step E α) (handler : Fault → Step E α) (w : World E) :
    (tryCatch first handler) w =
      match first w with
      | (.ok a, w) => (.ok a, w)
      | (.error fault, w) => handler fault w := rfl

theorem id_map_step (first : Step E α) : id <$> first = first := by
  funext w
  change (match first w with
    | (.ok a, w) => ((.ok a, w) : Except Fault α × World E)
    | (.error fault, w) => (.error fault, w)) = first w
  rcases first w with ⟨_ | a, u⟩ <;> rfl

theorem bind_assoc_step {γ : Type} (first : Step E α) (next : α → Step E β)
    (last : β → Step E γ) : first >>= next >>= last = first >>= fun a => next a >>= last := by
  funext w
  simp only [bind_apply]
  rcases first w with ⟨_ | a, u⟩ <;> rfl

instance : LawfulMonad (Step E) :=
  LawfulMonad.mk' _ id_map_step (fun _ _ => rfl) bind_assoc_step

def change (f : World E → α × World E) : Step E α := fun w => (.ok (f w).1, (f w).2)

def look (f : World E → α) : Step E α := fun w => (.ok (f w), w)

def changeArena (f : Arena → α × Arena) : Step E α :=
  change fun w => ((f w.arena).1, w.withArena (f w.arena).2)

def newSpace (parent : Option SpaceId) : Step E SpaceId := fun w =>
  match w.arena.newSpace parent with
  | .error fault => (.error fault, w)
  | .ok (space, a) => (.ok space, w.withArena a)

def bindName (space : SpaceId) (name : String) (v : Value) : Step E Bool :=
  changeArena fun a => a.bind space name v

end Step

end ScriptValues
