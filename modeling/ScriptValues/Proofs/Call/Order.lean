import ScriptValues.Proofs.Collection.Effect

/-! The order in which a call of a native function checks, evaluates and runs. -/

namespace ScriptValues

variable {E : Type} {context : CallContext E} {u w x : World E} {values : List Value}

/-- The first arguments of a call, evaluated one after the other from `w` on: they gave `values`, and
left the second world. -/
inductive CallContext.Evaluates (context : CallContext E) (w : World E) :
    List Value → World E → Prop where
  | none : Evaluates context w [] w
  | next {values : List Value} {v : Value} {u x : World E} (before : Evaluates context w values u)
      (given : context.argument values.length u = (.ok v, x)) :
      Evaluates context w (values ++ [v]) x

inductive CallEvent where
  | argument (position : Nat)
  | body (values : List Value)
  deriving DecidableEq

def argumentEvents (count : Nat) : List CallEvent := (List.range count).map .argument

/-- How a call of a native function goes: what it does, in order, and how it ends. -/
inductive Native.Goes (native : Native E) (context : CallContext E) (w : World E) :
    Option Value → List CallEvent → Except Fault Value × World E → Prop where
  | miscounted (receiver : Option Value) (count : context.argumentCount ≠ native.arity) :
      Goes native context w receiver []
        (.error (.arityMismatch native.name native.arity context.argumentCount), w)
  | unreceived (count : context.argumentCount = native.arity) :
      Goes native context w none [] (.error (.missingReceiver native.name), w)
  | stopped {values : List Value} {u x : World E} {fault : Fault} (receiver : Value)
      (count : context.argumentCount = native.arity) (before : context.Evaluates w values u)
      (short : values.length < native.arity)
      (failed : context.argument values.length u = (.error fault, x)) :
      Goes native context w (some receiver) (argumentEvents (values.length + 1)) (.error fault, x)
  | ran {values : List Value} {u : World E} (receiver : Value)
      (count : context.argumentCount = native.arity) (before : context.Evaluates w values u)
      (all : values.length = native.arity) :
      Goes native context w (some receiver) (argumentEvents native.arity ++ [.body values])
        (native.body receiver values u)

/-- A trace in the world that each evaluation of an argument and each run of the body extends by
itself. -/
structure Native.Traced (native : Native E) (context : CallContext E)
    (trace : World E → List CallEvent) : Prop where
  argument : ∀ i w, trace (context.argument i w).2 = trace w ++ [.argument i]
  body : ∀ receiver values w, trace (native.body receiver values w).2 = trace w ++ [.body values]

def World.CallsNative (w : World E) (embedding : Embedding E) (f : Value) (native : Native E) :
    Prop :=
  ∃ callable, w.callable? f = some callable ∧
    match callable.routine with
    | .method method => native = method.native
    | .external _ => embedding.routine callable.identity = native.call

/-- A call goes in one way, and every trace shows what it does. -/
structure Native.CallsInOrder (native : Native E) (context : CallContext E)
    (receiver : Option Value) (w : World E) : Prop where
  goes : ∃ events, native.Goes context w receiver events (native.call context receiver w)
  only : ∀ events result, native.Goes context w receiver events result →
    native.call context receiver w = result
  traced : ∀ events result trace, native.Goes context w receiver events result →
    native.Traced context trace → trace result.2 = trace w ++ events

theorem argumentEvents_succ (count : Nat) :
    argumentEvents (count + 1) = argumentEvents count ++ [.argument count] := by
  rw [argumentEvents, List.range_succ, List.map_append]
  rfl

namespace CallContext

theorem mapM_range_succ (context : CallContext E) (n : Nat) (w : World E) :
    (List.range (n + 1)).mapM context.argument w =
      match (List.range n).mapM context.argument w with
      | (.error fault, u) => (.error fault, u)
      | (.ok values, u) =>
          match context.argument n u with
          | (.error fault, x) => (.error fault, x)
          | (.ok v, x) => (.ok (values ++ [v]), x) := by
  rw [List.range_succ, List.mapM_append, Step.bind_apply]
  rcases (List.range n).mapM context.argument w with ⟨fault | values, u⟩
  · rfl
  · dsimp only
    rw [Step.bind_apply, List.mapM_cons, Step.bind_apply]
    rcases context.argument n u with ⟨fault | v, x⟩
    · rfl
    · rfl

theorem Evaluates.mapM_range (before : context.Evaluates w values u) :
    (List.range values.length).mapM context.argument w = (.ok values, u) := by
  induction before with
  | none => rfl
  | next before given ih =>
      rw [List.length_append, List.length_singleton, mapM_range_succ, ih]
      dsimp only
      rw [given]

theorem mapM_range_stopped (before : context.Evaluates w values u) {fault : Fault}
    (failed : context.argument values.length u = (.error fault, x)) {n : Nat}
    (short : values.length < n) :
    (List.range n).mapM context.argument w = (.error fault, x) := by
  induction n with
  | zero => exact absurd short (Nat.not_lt_zero _)
  | succ n ih =>
      rw [mapM_range_succ]
      rcases Nat.lt_succ_iff_lt_or_eq.mp short with earlier | last
      · rw [ih earlier]
      · rw [← last, before.mapM_range]
        dsimp only
        rw [failed]

theorem evaluates_or_stops (context : CallContext E) (w : World E) (n : Nat) :
    (∃ values u, context.Evaluates w values u ∧ values.length = n) ∨
      ∃ values u fault x, context.Evaluates w values u ∧ values.length < n ∧
        context.argument values.length u = (.error fault, x) := by
  induction n with
  | zero => exact .inl ⟨[], w, .none, rfl⟩
  | succ n ih =>
      rcases ih with ⟨values, u, before, all⟩ | ⟨values, u, fault, x, before, short, failed⟩
      · rcases next : context.argument values.length u with ⟨fault | v, x⟩
        · exact .inr ⟨values, u, fault, x, before, all ▸ Nat.lt_succ_self n, next⟩
        · refine .inl ⟨values ++ [v], x, .next before next, ?_⟩
          rw [List.length_append, all, List.length_singleton]
      · exact .inr ⟨values, u, fault, x, before, Nat.lt_succ_of_lt short, failed⟩

theorem Evaluates.traced (before : context.Evaluates w values u) {trace : World E → List CallEvent}
    (argument : ∀ i w, trace (context.argument i w).2 = trace w ++ [.argument i]) :
    trace u = trace w ++ argumentEvents values.length := by
  induction before with
  | none => exact (List.append_nil _).symm
  | @next values v u x before given ih =>
      have shown := argument values.length u
      rw [given] at shown
      rw [shown, ih, List.length_append, List.length_singleton, argumentEvents_succ,
        List.append_assoc]

end CallContext

namespace Native

variable {native : Native E} {receiver : Option Value} {events : List CallEvent}
  {result : Except Fault Value × World E}

theorem call_unreceived (count : context.argumentCount = native.arity) (w : World E) :
    native.call context none w = (.error (.missingReceiver native.name), w) := by
  unfold call
  simp only [count, if_true]
  rfl

theorem call_received (count : context.argumentCount = native.arity) (r : Value) (w : World E) :
    native.call context (some r) w =
      match (List.range native.arity).mapM context.argument w with
      | (.ok values, u) => native.body r values u
      | (.error fault, u) => (.error fault, u) := by
  unfold call
  simp only [count, if_true]
  rw [Step.bind_apply, CallContext.evaluateAll, count]
  rcases (List.range native.arity).mapM context.argument w with ⟨_ | _, u⟩
  · rfl
  · rfl

theorem goes_call (native : Native E) (context : CallContext E) (receiver : Option Value)
    (w : World E) : ∃ events, native.Goes context w receiver events
      (native.call context receiver w) := by
  by_cases count : context.argumentCount = native.arity
  · cases receiver with
    | none =>
        rw [call_unreceived count]
        exact ⟨_, .unreceived count⟩
    | some r =>
        rw [call_received count]
        rcases context.evaluates_or_stops w native.arity with
          ⟨values, u, before, all⟩ | ⟨values, u, fault, x, before, short, failed⟩
        · rw [← all, before.mapM_range]
          exact ⟨_, .ran r count before all⟩
        · rw [CallContext.mapM_range_stopped before failed short]
          exact ⟨_, .stopped r count before short failed⟩
  · rw [nativeCall_miscounted native count]
    exact ⟨_, .miscounted receiver count⟩

theorem Goes.call_eq (goes : native.Goes context w receiver events result) :
    native.call context receiver w = result := by
  cases goes with
  | miscounted _ count => exact nativeCall_miscounted native count _ w
  | unreceived count => exact call_unreceived count w
  | stopped r count before short failed =>
      rw [call_received count, CallContext.mapM_range_stopped before failed short]
  | ran r count before all => rw [call_received count, ← all, before.mapM_range]

theorem Goes.traced (goes : native.Goes context w receiver events result)
    {trace : World E → List CallEvent} (shows : native.Traced context trace) :
    trace result.2 = trace w ++ events := by
  cases goes with
  | miscounted _ _ => exact (List.append_nil _).symm
  | unreceived _ => exact (List.append_nil _).symm
  | @stopped values u x fault r count before short failed =>
      have last := shows.argument values.length u
      rw [failed] at last
      rw [last, before.traced shows.argument, argumentEvents_succ, List.append_assoc]
  | ran r count before all =>
      rw [shows.body, before.traced shows.argument, all, List.append_assoc]

end Native

theorem call_callsNative {embedding : Embedding E} {f : Value} {native : Native E}
    (behind : w.CallsNative embedding f native) (context : CallContext E)
    (receiver : Option Value) :
    call embedding f context receiver w = native.call context receiver w := by
  obtain ⟨callable, held, routine⟩ := behind
  rw [call_apply, held]
  dsimp only
  cases kind : callable.routine with
  | method method =>
      rw [kind] at routine
      cases routine
      rfl
  | external name =>
      rw [kind] at routine
      exact congrFun (congrFun (congrFun routine context) receiver) w

/-- Native calls check before they evaluate, and evaluate in order: a call with a wrong number of
arguments fails for that, else a call without a receiver fails for that, with nothing evaluated and
the world as it was; else the arguments are evaluated from left to right, each once, up to the first
that fails, and the body runs, once, on the values of all of them. A function value calls its native
function in this way; the empty function value yields the absent value and evaluates nothing. -/
theorem native_calls_in_order (native : Native E) (context : CallContext E)
    (receiver : Option Value) (w : World E) :
    native.CallsInOrder context receiver w ∧
      (∀ embedding f, w.CallsNative embedding f native →
        call embedding f context receiver w = native.call context receiver w) ∧
      ∀ embedding f, w.backing f = .function none →
        call embedding f context receiver w = (.ok .none, w) := by
  refine ⟨⟨native.goes_call context receiver w, ?_, ?_⟩, ?_, ?_⟩
  · intro events result goes
    exact goes.call_eq
  · intro events result trace goes shows
    exact goes.traced shows
  · intro embedding f behind
    exact call_callsNative behind context receiver
  · intro embedding f held
    rw [call_apply, World.callable?, held]

def noteEvent (event : CallEvent) : Step (List CallEvent) Unit :=
  modify fun w => { w with outside := w.outside ++ [event] }

def notingNative (arity : Nat) : Native (List CallEvent) :=
  ⟨"noting", arity, fun _ values => do
    noteEvent (.body values)
    return .none⟩

def notingContext (count failing : Nat) : CallContext (List CallEvent) where
  argumentCount := count
  argument i := do
    noteEvent (.argument i)
    if i = failing then throw .unknownSpace else return .none

theorem traced_noting (arity count failing : Nat) :
    (notingNative arity).Traced (notingContext count failing) World.outside where
  argument i w := by
    by_cases fails : i = failing
    · simp [notingContext, noteEvent, fails]
    · simp [notingContext, noteEvent, fails]
  body _ values w := by simp [notingNative, noteEvent]

/-- Of three arguments the second fails: the third is not evaluated, and the body does not run. -/
theorem native_calls_in_order_secondFails :
    let w := World.initial 4 ([] : List CallEvent)
    let called := (notingNative 3).call (notingContext 3 1) (some .none) w
    called.1 = .error .unknownSpace ∧ called.2.outside = [.argument 0, .argument 1] := by
  intro w called
  have inOrder := (native_calls_in_order (notingNative 3) (notingContext 3 1) (some .none) w).1
  have goes : (notingNative 3).Goes (notingContext 3 1) w (some .none) [.argument 0, .argument 1]
      (.error .unknownSpace, { w with outside := [.argument 0, .argument 1] }) :=
    .stopped .none rfl (.next .none rfl) (by decide) rfl
  have ended : called = (.error .unknownSpace, _) := inOrder.only _ _ goes
  have shown := inOrder.traced _ _ World.outside goes (traced_noting 3 3 1)
  exact ⟨congrArg Prod.fst ended, ended ▸ shown⟩

end ScriptValues
