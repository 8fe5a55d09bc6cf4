import ScriptValues.Value.Reading
import ScriptValues.World.Embedding

/-! The space in which the members of a value are found.

An aggregate has its own. An aggregate property is translated anew at each access, and what it was
translated into before is released. Every other value is lent the shared space. -/

namespace ScriptValues

variable {E : Type}

namespace World

def releaseSubtree (w : World E) (space : SpaceId) : World E :=
  w.withArena (w.arena.freeSubtree space).2

/-- Puts `space` on record as what `v` was last translated into, in place of an earlier one. The
empty space is not kept on record. -/
def recordTranslated (w : World E) (v : Value) (space : SpaceId) : World E :=
  let w :=
    match (w.cell v).translated with
    | none => w
    | some previous => if previous = space then w else w.releaseSubtree previous
  w.setTranslated v (if space = SpaceId.empty then none else some space)

def releaseTranslated (w : World E) (v : Value) : World E :=
  match (w.cell v).translated with
  | none => w
  | some space => (w.setTranslated v none).releaseSubtree space

end World

/-- A translator may return an aggregate property, which is translated in its turn. A chain that
leads back to where it started never reaches a space. -/
def memberSpaceWithin (embedding : Embedding E) : Nat → Value → Step E SpaceId
  | 0, _ => throw .unknownSpace
  | bound + 1, v => do
      let w ← get
      match w.backing v with
      | .absent => return SpaceId.empty
      | .aggregate _ space => return space
      | .aggregateProperty b parent translator =>
          let p := b.read w.outside
          let space ←
            if p.isNull then pure SpaceId.empty
            else do
              let translated ← embedding.translate translator p parent
              memberSpaceWithin embedding bound translated
          modify fun w => w.recordTranslated v space
          return space
      | _ => Step.changeArena fun a => a.lendSharedSpace v

/-- The bound is taken before any translator runs. A chain of values that are there already fits into
it; a longer one, which leads through properties that translators make on the way, is cut off like a
chain without end. -/
def memberSpace (embedding : Embedding E) (v : Value) : Step E SpaceId := do
  memberSpaceWithin embedding (← get).walkBound v

def member (embedding : Embedding E) (v : Value) (name : String) : Step E Value := do
  let space ← memberSpace embedding v
  Step.look fun w => (w.arena.lookupLocal space name).getD .none

end ScriptValues
