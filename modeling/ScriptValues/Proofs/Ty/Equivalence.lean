import ScriptValues.Ty.Basic

/-! Equality of types is an equivalence, and equal types declare equal keys and elements. -/

namespace ScriptValues

namespace Ty

mutual

theorem same_refl (ty : Ty) : ty.same ty = true := by
  cases ty with
  | list element | set element => exact same_refl element
  | map key element => rw [same, same_refl key, same_refl element, Bool.and_self]
  | function parameters result =>
      rw [same, sameAll_refl parameters, same_refl result, Bool.and_self]
  | noType => rfl
  | _ => exact beq_self_eq_true _

theorem sameAll_refl (types : List Ty) : sameAll types types = true := by
  cases types with
  | nil => rfl
  | cons ty rest => rw [sameAll, same_refl ty, sameAll_refl rest, Bool.and_self]

end

mutual

theorem same_comm (a b : Ty) : a.same b = b.same a := by
  cases a with
  | list a =>
      cases b with
      | list b => exact same_comm a b
      | _ => rfl
  | set a =>
      cases b with
      | set b => exact same_comm a b
      | _ => rfl
  | map k a =>
      cases b with
      | map l b => rw [same, same, same_comm k l, same_comm a b]
      | _ => rfl
  | function ps a =>
      cases b with
      | function qs b => rw [same, same, sameAll_comm ps qs, same_comm a b]
      | _ => rfl
  | _ => cases b <;> first | rfl | exact Bool.beq_comm

theorem sameAll_comm (as bs : List Ty) : sameAll as bs = sameAll bs as := by
  cases as with
  | nil => cases bs <;> rfl
  | cons a as =>
      cases bs with
      | nil => rfl
      | cons b bs => rw [sameAll, sameAll, same_comm a b, sameAll_comm as bs]

end

mutual

/-- Only types of one form are equal, so the middle type decides the form of the outer two. -/
theorem same_trans {a b c : Ty} (first : a.same b = true) (second : b.same c = true) :
    a.same c = true := by
  cases b with
  | noType =>
      cases a with
      | noType => exact second
      | _ => cases first
  | scalar =>
      cases a with
      | scalar =>
          cases c with
          | scalar =>
              exact beq_iff_eq.mpr ((beq_iff_eq.mp first).trans (beq_iff_eq.mp second))
          | _ => cases second
      | _ => cases first
  | aggregate =>
      cases a with
      | aggregate =>
          cases c with
          | aggregate =>
              exact beq_iff_eq.mpr ((beq_iff_eq.mp first).trans (beq_iff_eq.mp second))
          | _ => cases second
      | _ => cases first
  | list b =>
      cases a with
      | list a =>
          cases c with
          | list c =>
              rw [same] at first second ⊢
              exact same_trans first second
          | _ => cases second
      | _ => cases first
  | set b =>
      cases a with
      | set a =>
          cases c with
          | set c =>
              rw [same] at first second ⊢
              exact same_trans first second
          | _ => cases second
      | _ => cases first
  | map l b =>
      cases a with
      | map k a =>
          cases c with
          | map m c =>
              rw [same, Bool.and_eq_true] at first second ⊢
              exact ⟨same_trans first.1 second.1, same_trans first.2 second.2⟩
          | _ => cases second
      | _ => cases first
  | function qs b =>
      cases a with
      | function ps a =>
          cases c with
          | function rs c =>
              rw [same, Bool.and_eq_true] at first second ⊢
              exact ⟨sameAll_trans first.1 second.1, same_trans first.2 second.2⟩
          | _ => cases second
      | _ => cases first
  | enum =>
      cases a with
      | enum =>
          cases c with
          | enum =>
              exact beq_iff_eq.mpr ((beq_iff_eq.mp first).trans (beq_iff_eq.mp second))
          | _ => cases second
      | _ => cases first
  | prototype =>
      cases a with
      | prototype =>
          cases c with
          | prototype =>
              exact beq_iff_eq.mpr ((beq_iff_eq.mp first).trans (beq_iff_eq.mp second))
          | _ => cases second
      | _ => cases first

theorem sameAll_trans {as bs cs : List Ty} (first : sameAll as bs = true)
    (second : sameAll bs cs = true) : sameAll as cs = true := by
  cases bs with
  | nil =>
      cases as with
      | nil => exact second
      | cons a as => cases first
  | cons b bs =>
      cases as with
      | nil => cases first
      | cons a as =>
          cases cs with
          | nil => cases second
          | cons c cs =>
              rw [sameAll, Bool.and_eq_true] at first second ⊢
              exact ⟨same_trans first.1 second.1, sameAll_trans first.2 second.2⟩

end

theorem same_symm {a b : Ty} (same : a.same b = true) : b.same a = true := same_comm a b ▸ same

theorem same_element {a b : Ty} (same : a.same b = true) :
    (a.element?.getD .noType).same (b.element?.getD .noType) = true := by
  cases a with
  | list a =>
      cases b with
      | list b => exact same
      | _ => cases same
  | set a =>
      cases b with
      | set b => exact same
      | _ => cases same
  | map k a =>
      cases b with
      | map l b =>
          rw [Ty.same, Bool.and_eq_true] at same
          exact same.2
      | _ => cases same
  | _ => cases b <;> first | rfl | cases same

theorem same_key {a b : Ty} (same : a.same b = true) :
    (a.key?.getD .noType).same (b.key?.getD .noType) = true := by
  cases a with
  | map k a =>
      cases b with
      | map l b =>
          rw [Ty.same, Bool.and_eq_true] at same
          exact same.1
      | _ => cases same
  | _ => cases b <;> first | rfl | cases same

end Ty

end ScriptValues
