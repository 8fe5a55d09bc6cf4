import ScriptValues.Collection.Basic

/-! Writes to values.

A write either puts a payload into the value or assigns another value to it. An immutable value is
never written. A host that refuses a write makes the write answer `false`, which is no fault. -/

namespace ScriptValues

variable {E : Type}

def payloadMismatch (ty : Ty) (p : Payload) : Fault := .payloadMismatch ty.name p.kindName

namespace World

/-- Passes a payload on to a host object; the answer says whether it was accepted. -/
def writeHost (w : World E) (write : Payload → E → Except Refusal Unit × E) (p : Payload) :
    Bool × World E :=
  match write p w.outside with
  | (.ok (), outside) => (true, { w with outside })
  | (.error _, outside) => (false, { w with outside })

/-- Puts a payload behind a value of any family, whether the value is mutable or not. -/
def accept (w : World E) (v : Value) (p : Payload) : Except Fault Bool × World E :=
  let refused := (Except.error (payloadMismatch (w.ty v) p), w)
  let stored (b : Backing E) := (Except.ok true, w.setBacking v b)
  match w.backing v with
  | .absent => (.error (.notMutable (w.ty v).name), w)
  | .basic _ => stored (.basic p)
  | .aggregate _ space => stored (.aggregate p space)
  | .property b | .aggregateProperty b _ _ =>
      let (accepted, w) := w.writeHost b.write p
      (.ok accepted, w)
  | .field b =>
      let (accepted, w) := w.writeHost b.writeAlways p
      (.ok accepted, w)
  | .list l =>
      match p with
      | .null => (.ok true, w.listClear l)
      | .list items => (.ok true, w.listRefill l items)
      | _ => refused
  | .set s =>
      match p with
      | .null => (.ok true, w.setClear s)
      | .set items | .list items => (.ok true, w.setRefill s items)
      | _ => refused
  | .map m =>
      match p with
      | .null => (.ok true, w.mapClear m)
      | .map entries => (.ok true, w.mapRefill m entries)
      | _ => refused
  | .enum _ =>
      match p with
      | .null => stored (.enum none)
      | .variant variant => stored (.enum (some variant))
      | _ => refused
  | .function _ =>
      match p with
      | .null => stored (.function none)
      | .callable c => stored (.function (some c))
      | _ => refused
  | .prototype _ =>
      match p with
      | .prototype prototype => stored (.prototype prototype)
      | _ => refused

end World

/-- Writes a payload; the value is dirty after an accepted write. -/
def write (v : Value) (p : Payload) : Step E Bool := do
  let w ← get
  unless (w.cell v).mutable do throw (.notMutable (w.ty v).name)
  let (outcome, w) := w.accept v p
  match outcome with
  | .error fault => throw fault
  | .ok accepted =>
      set (if accepted then w.setDirty v else w)
      return accepted

/-- Lets an aggregate live in another space, which binds the aggregate to its own name from then
on. -/
def rehome (v : Value) (space : SpaceId) : Step E Unit := do
  let w ← get
  unless w.arena.contains space do throw .unknownSpace
  match w.backing v with
  | .aggregate p _ =>
      let w := w.setBacking v (.aggregate p space)
      let (_, a) := w.arena.unbind space selfName
      set (w.withArena (a.bind space selfName v).2)
  | _ => throw (.notAggregate (w.ty v).name)

/-- Assigns `u` to `v`. Collections and functions then share what is behind `u`, aggregates share
its space, and all other values take over its payload. -/
def assign (v u : Value) : Step E Bool := do
  let w ← get
  unless (w.ty v).same (w.ty u) do
    throw (.incompatibleType (w.ty v).name (w.ty u).name)
  if v = u then return true
  unless (w.cell v).mutable do throw (.notMutable (w.ty v).name)
  match w.backing v, w.backing u with
  | .aggregate _ _, .aggregate p space =>
      rehome v space
      modify fun w => (w.setBacking v (.aggregate p space)).setDirty v
      return true
  | .list _, .list _ | .set _, .set _ | .map _, .map _ | .function _, .function _ =>
      modify fun w => (w.setBacking v (w.backing u)).setDirty v
      return true
  | _, _ => write v (w.payload u)

end ScriptValues
