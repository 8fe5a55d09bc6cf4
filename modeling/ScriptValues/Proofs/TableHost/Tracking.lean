import ScriptValues.Proofs.World.Tracking
import ScriptValues.TableHost.Embedding

/-! The embedding program with table hosts changes a world only through the library. -/

namespace ScriptValues

namespace TableHost

open Step

variable {P : Deed → Prop} {R : World Outside → World Outside → Prop}

section Follows

variable (follows : Follows P R)

include follows

theorem within_countCall : Within R countCall :=
  within_change _ (fun _ => follows.change (.setOutside _) (.refl _))

theorem within_translateWithin (bound : Nat) (translator : TranslatorId) (p : Payload)
    (parent : SpaceId) : Within R (translateWithin bound translator p parent) := by
  induction bound generalizing translator p parent with
  | zero => exact within_throw follows _
  | succ bound ih =>
      apply within_bind follows (within_countCall follows)
      intro _
      apply within_get_bind
      intro w
      cases w.outside.translators.get? translator.index with
      | none => exact follows.refl w
      | some rule =>
          cases rule with
          | absent => exact follows.refl w
          | failing => exact follows.refl w
          | fixed v => exact follows.refl w
          | wrapping ty =>
              exact within_bind follows (within_newAggregate follows ty parent p)
                (fun made => within_pure follows made.1) w
          | byClass =>
              dsimp only
              cases classOf? w.outside p with
              | none => exact follows.refl w
              | some found =>
                  have inner : Embedding.Within
                      (⟨translateWithin bound, fun _ _ _ => return .none⟩ : Embedding Outside) R :=
                    ⟨ih, fun _ _ _ => within_pure follows _⟩
                  exact within_encapsulate follows inner found.1 found.2.ty _ translator parent w

theorem within_translate (translator : TranslatorId) (p : Payload) (parent : SpaceId) :
    Within R (translate translator p parent) :=
  within_get_bind (fun w => within_translateWithin follows _ translator p parent w)

theorem translators_within : translators.Within R :=
  ⟨within_translate follows, fun _ _ _ => within_pure follows _⟩

theorem within_throughScope (v : Value) : Within R (throughScope v) := by
  have made : ∀ a : Arena, a.newSpace none = .ok (a.allocate none 0) := fun _ => rfl
  refine within_bind follows (within_changeArena follows _ (fun a => ?_) (fun a => ?_))
    (fun space => ?_)
  · exact .newSpace (made a)
  · exact Arena.keepsShared_newSpace (made a)
  · exact within_bind follows (within_bindName follows space "x" v)
      (fun _ => within_look follows _)

end Follows

section Routines

variable (composes : Composes R) (made : ∀ (w : World Outside) (n : Int64), R w (w.newInt n).2)

include composes made

theorem within_runBody (named : ∀ v, Within R (throughScope v)) (values : List Value)
    (receiver : Option Value) (body : RoutineBody) :
    Within R (runBody (.ofValues values) receiver body) := by
  cases body with
  | sum =>
      apply within_bind composes (within_evaluateAll composes (within_ofValues composes values))
      exact fun _ => within_change _ fun w => made w _
  | count => exact within_change _ fun w => made w _
  | throughScope => exact within_bind composes (within_ofValues composes values 0) named
  | failing => exact within_throw composes _
  | argument i => exact within_ofValues composes values i
  | receiver | constant | double | second | self => exact within_pure composes _

theorem within_native (owned : ∀ v, Within R (member translators v selfName)) {body : RoutineBody}
    {native : Native Outside} (found : native? (member translators) body = some native)
    (receiver : Value) (arguments : List Value) : Within R (native.body receiver arguments) := by
  cases body with
  | double =>
      cases found
      exact within_change _ fun w => made w _
  | second =>
      cases found
      exact within_pure composes _
  | self =>
      cases found
      exact owned receiver
  | _ => cases found

theorem within_routine (named : ∀ v, Within R (throughScope v))
    (owned : ∀ v, Within R (member translators v selfName)) (identity : Nat) (values : List Value)
    (receiver : Option Value) : Within R (routine identity (.ofValues values) receiver) := by
  apply within_get_bind
  intro w
  cases w.outside.routines.lookup identity with
  | none => exact composes.refl w
  | some body =>
      dsimp only
      cases found : native? (member translators) body with
      | none => exact within_runBody composes made named values receiver body w
      | some native =>
          exact within_nativeCall composes native (within_ofValues composes values)
            (within_native composes made owned found) receiver w

end Routines

theorem embedding_follows (follows : Follows P R) : embedding.Within R where
  translate := within_translate follows
  routine := by
    refine within_routine follows (fun w n => follows.change (.addCell _ rfl) (.refl _))
      (within_throughScope follows) fun v => ?_
    exact within_member follows (translators_within follows) v selfName

theorem embedding_within (tracks : Tracks P R) : embedding.Within R :=
  embedding_follows tracks.follows

end TableHost

end ScriptValues
