import ScriptValues.Proofs.Ty.Reading
import ScriptValues.Ty.Feed
import Mathlib.Data.List.Forall2

/-! Equality of types is a congruence.

Equal types are written, named and hashed alike, and are made of equal types in the same places. What a
type feeds to a hasher can be read back, so types that are not equal feed something else. A comparison
that stops wherever it meets one type on both sides answers like one that goes on to the end. -/

namespace ScriptValues

namespace Ty

inductive OfOneForm : Ty → Ty → Prop
  | noType : OfOneForm noType noType
  | scalar (s t : Scalar) : OfOneForm (scalar s) (scalar t)
  | aggregate (a b : String) (members others : List Member) (adapted adapted' : Bool) :
      OfOneForm (aggregate a members adapted) (aggregate b others adapted')
  | list (a b : Ty) : OfOneForm (list a) (list b)
  | set (a b : Ty) : OfOneForm (set a) (set b)
  | map (k l a b : Ty) : OfOneForm (map k a) (map l b)
  | function (ps qs : List Ty) (a b : Ty) : OfOneForm (function ps a) (function qs b)
  | enum (d e : EnumType) : OfOneForm (enum d) (enum e)
  | prototype (k l : PrototypeKind) : OfOneForm (prototype k) (prototype l)

theorem ofOneForm {a b : Ty} (form : a.form = b.form) : OfOneForm a b := by
  cases a <;> cases b <;> first | constructor | cases form

theorem form_of_same {a b : Ty} (equal : a.same b = true) : a.form = b.form := by
  cases a <;> cases b <;> first | rfl | cases equal

theorem same_of_form {a b : Ty} (other : a.form ≠ b.form) : a.same b = false := by
  by_contra equal
  exact other (form_of_same (eq_true_of_ne_false equal))

theorem sameAll_iff {as bs : List Ty} :
    sameAll as bs = true ↔ List.Forall₂ (fun a b : Ty => a.same b = true) as bs := by
  induction as generalizing bs with
  | nil => cases bs <;> simp [sameAll]
  | cons a as ih => cases bs <;> simp [sameAll, ih]

/-! Comparisons that stop early -/

mutual

/-- What a comparison may answer that takes each type for equal to itself where it meets one on both
sides, and otherwise goes on to what the types are made of. -/
inductive Compares : Ty → Ty → Bool → Prop
  | itself (ty : Ty) : Compares ty ty true
  | apart {a b : Ty} (other : a.form ≠ b.form) : Compares a b false
  | noType : Compares noType noType true
  | scalar (s t : Scalar) : Compares (scalar s) (scalar t) (s == t)
  | aggregate (a b : String) (members others : List Member) (adapted adapted' : Bool) :
      Compares (aggregate a members adapted) (aggregate b others adapted') (a == b)
  | list {a b : Ty} {answer : Bool} (element : Compares a b answer) :
      Compares (list a) (list b) answer
  | set {a b : Ty} {answer : Bool} (element : Compares a b answer) :
      Compares (set a) (set b) answer
  | map {k l a b : Ty} {first second : Bool} (key : Compares k l first)
      (element : Compares a b second) : Compares (map k a) (map l b) (first && second)
  | function {ps qs : List Ty} {a b : Ty} {first second : Bool} (parameters : ComparesAll ps qs first)
      (result : Compares a b second) : Compares (function ps a) (function qs b) (first && second)
  | enum (d e : EnumType) : Compares (enum d) (enum e) (d.name == e.name)
  | prototype (k l : PrototypeKind) : Compares (prototype k) (prototype l) (k == l)

inductive ComparesAll : List Ty → List Ty → Bool → Prop
  | itself (types : List Ty) : ComparesAll types types true
  | nil : ComparesAll [] [] true
  | shorter (b : Ty) (bs : List Ty) : ComparesAll [] (b :: bs) false
  | longer (a : Ty) (as : List Ty) : ComparesAll (a :: as) [] false
  | cons {a b : Ty} {as bs : List Ty} {first second : Bool} (head : Compares a b first)
      (tail : ComparesAll as bs second) : ComparesAll (a :: as) (b :: bs) (first && second)

end

mutual

theorem Compares.answer {a b : Ty} {answer : Bool} (compares : Compares a b answer) :
    answer = a.same b := by
  cases compares with
  | itself => exact (same_refl a).symm
  | apart other => exact (same_of_form other).symm
  | list element | set element => exact element.answer
  | map key element => rw [same, key.answer, element.answer]
  | function parameters result => rw [same, parameters.answer, result.answer]
  | _ => rfl

theorem ComparesAll.answer {as bs : List Ty} {answer : Bool} (compares : ComparesAll as bs answer) :
    answer = sameAll as bs := by
  cases compares with
  | itself => exact (sameAll_refl as).symm
  | cons head tail => rw [sameAll, head.answer, tail.answer]
  | _ => rfl

end

mutual

theorem compares_same (a b : Ty) : Compares a b (a.same b) := by
  by_cases form : a.form = b.form
  · cases ofOneForm form with
    | noType => exact .noType
    | scalar s t => exact .scalar s t
    | aggregate => exact .aggregate ..
    | list a b => exact .list (compares_same a b)
    | set a b => exact .set (compares_same a b)
    | map k l a b => exact .map (compares_same k l) (compares_same a b)
    | function ps qs a b => exact .function (comparesAll_sameAll ps qs) (compares_same a b)
    | enum d e => exact .enum d e
    | prototype k l => exact .prototype k l
  · rw [same_of_form form]
    exact .apart form

theorem comparesAll_sameAll (as bs : List Ty) : ComparesAll as bs (sameAll as bs) := by
  cases as with
  | nil =>
      cases bs with
      | nil => exact .nil
      | cons b bs => exact .shorter b bs
  | cons a as =>
      cases bs with
      | nil => exact .longer a as
      | cons b bs => exact .cons (compares_same a b) (comparesAll_sameAll as bs)

end

/-- The answer does not depend on where the comparison stops. -/
theorem compares_iff {a b : Ty} {answer : Bool} : Compares a b answer ↔ answer = a.same b := by
  constructor
  · exact Compares.answer
  · rintro rfl
    exact compares_same a b

/-! What is fed to a hasher -/

mutual

theorem feed_of_same {a b : Ty} (equal : a.same b = true) : a.feed = b.feed := by
  cases ofOneForm (form_of_same equal) with
  | noType => rfl
  | scalar | prototype => rw [beq_iff_eq.mp equal]
  | aggregate =>
      simp only [feed, form]
      rw [beq_iff_eq.mp equal]
  | enum =>
      simp only [feed, form, EnumType.feed]
      rw [beq_iff_eq.mp equal]
  | list a b | set a b =>
      simp only [feed, form]
      rw [feed_of_same (a := a) (b := b) equal]
  | map k l a b =>
      rw [same, Bool.and_eq_true] at equal
      simp only [feed, form]
      rw [feed_of_same equal.1, feed_of_same equal.2]
  | function ps qs a b =>
      rw [same, Bool.and_eq_true] at equal
      have size : ps.length = qs.length := (sameAll_iff.mp equal.1).length_eq
      simp only [feed, form]
      rw [size, feeds_of_sameAll equal.1, feed_of_same equal.2]

theorem feeds_of_sameAll {as bs : List Ty} (equal : sameAll as bs = true) : feeds as = feeds bs := by
  cases as with
  | nil =>
      cases bs with
      | nil => rfl
      | cons => cases equal
  | cons a as =>
      cases bs with
      | nil => cases equal
      | cons b bs =>
          rw [sameAll, Bool.and_eq_true] at equal
          rw [feeds, feeds, feed_of_same equal.1, feeds_of_sameAll equal.2]

end

theorem head?_feed (ty : Ty) : ty.feed.head? = some (.tag ty.form) := by
  cases ty <;> rfl

theorem form_of_feed_append {a b : Ty} {x y : Feed} (equal : a.feed ++ x = b.feed ++ y) :
    a.form = b.form := by
  have heads := congrArg List.head? equal
  rw [List.head?_append, List.head?_append, head?_feed, head?_feed] at heads
  simpa using heads

mutual

/-- Whatever follows, what a type feeds is told from it, and only equal types feed the same. -/
theorem same_of_feed_append {a b : Ty} {x y : Feed} (equal : a.feed ++ x = b.feed ++ y) :
    a.same b = true ∧ x = y := by
  cases ofOneForm (form_of_feed_append equal) with
  | noType => simpa [feed, form, same] using equal
  | scalar s t =>
      cases s <;> cases t <;> simp_all [feed, form, same, Scalar.form]
  | prototype k l =>
      cases k <;> cases l <;> simp_all [feed, form, same, PrototypeKind.form]
  | aggregate => simpa [feed, form, same] using equal
  | enum => simpa [feed, form, same, EnumType.feed] using equal
  | list a b | set a b =>
      simp only [feed, form, List.cons_append, List.cons.injEq, true_and] at equal
      exact same_of_feed_append (a := a) (b := b) equal
  | map k l a b =>
      simp only [feed, form, List.cons_append, List.append_assoc, List.cons.injEq, true_and] at equal
      obtain ⟨keys, rest⟩ := same_of_feed_append equal
      obtain ⟨elements, rest⟩ := same_of_feed_append rest
      exact ⟨Bool.and_eq_true_iff.mpr ⟨keys, elements⟩, rest⟩
  | function ps qs a b =>
      simp only [feed, form, List.cons_append, List.append_assoc, List.cons.injEq, true_and,
        FeedPiece.count.injEq] at equal
      obtain ⟨parameters, rest⟩ := sameAll_of_feeds_append equal.1 equal.2
      obtain ⟨results, rest⟩ := same_of_feed_append rest
      exact ⟨Bool.and_eq_true_iff.mpr ⟨parameters, results⟩, rest⟩

theorem sameAll_of_feeds_append {as bs : List Ty} {x y : Feed} (size : as.length = bs.length)
    (equal : feeds as ++ x = feeds bs ++ y) : sameAll as bs = true ∧ x = y := by
  cases as with
  | nil =>
      cases bs with
      | nil => exact ⟨rfl, equal⟩
      | cons => cases size
  | cons a as =>
      cases bs with
      | nil => cases size
      | cons b bs =>
          rw [feeds, feeds, List.append_assoc, List.append_assoc] at equal
          obtain ⟨heads, rest⟩ := same_of_feed_append equal
          obtain ⟨tails, rest⟩ := sameAll_of_feeds_append (Nat.succ.inj size) rest
          exact ⟨Bool.and_eq_true_iff.mpr ⟨heads, tails⟩, rest⟩

end

theorem feed_eq_iff {a b : Ty} : a.feed = b.feed ↔ a.same b = true := by
  constructor
  · intro equal
    exact (same_of_feed_append (congrArg (· ++ []) equal)).1
  · exact feed_of_same

/-! What types are made of -/

def parameters? : Ty → Option (List Ty)
  | function parameters _ => some parameters
  | _ => none

structure Agrees (a b : Ty) : Prop where
  text : a.text = b.text
  name : a.name = b.name
  feed : a.feed = b.feed
  element : Option.Rel (fun x y : Ty => x.same y = true) a.element? b.element?
  key : Option.Rel (fun x y : Ty => x.same y = true) a.key? b.key?
  parameters : Option.Rel (List.Forall₂ fun x y : Ty => x.same y = true) a.parameters? b.parameters?
  result : Option.Rel (fun x y : Ty => x.same y = true) a.result? b.result?

theorem agrees_of_same {a b : Ty} (equal : a.same b = true) : a.Agrees b := by
  have text : a.text = b.text := text_of_same equal
  have feed : a.feed = b.feed := feed_of_same equal
  cases ofOneForm (form_of_same equal) with
  | list | set => exact ⟨text, text, feed, .some equal, .none, .none, .none⟩
  | map =>
      rw [same, Bool.and_eq_true] at equal
      exact ⟨text, text, feed, .some equal.2, .some equal.1, .none, .none⟩
  | function =>
      rw [same, Bool.and_eq_true] at equal
      exact ⟨text, text, feed, .none, .none, .some (sameAll_iff.mp equal.1), .some equal.2⟩
  | _ => exact ⟨text, text, feed, .none, .none, .none, .none⟩

theorem equivalence_same : Equivalence fun a b : Ty => a.same b = true where
  refl := same_refl
  symm := same_symm
  trans := same_trans

/-- Replacing what a type is made of by equal types gives an equal type. -/
structure Replaces (a b : Ty) : Prop where
  list : (Ty.list a).same (.list b) = true
  set : (Ty.set a).same (.set b) = true
  key : ∀ element : Ty, (Ty.map a element).same (.map b element) = true
  element : ∀ key : Ty, (Ty.map key a).same (.map key b) = true
  result : ∀ parameters : List Ty, (function parameters a).same (function parameters b) = true
  parameter : ∀ (before after : List Ty) (result : Ty),
    (function (before ++ a :: after) result).same (function (before ++ b :: after) result) = true

theorem replaces_of_same {a b : Ty} (equal : a.same b = true) : a.Replaces b where
  list := equal
  set := equal
  key element := by rw [same, equal, same_refl, Bool.and_self]
  element key := by rw [same, equal, same_refl, Bool.and_self]
  result parameters := by rw [same, equal, sameAll_refl, Bool.and_self]
  parameter before after result := by
    have all : sameAll (before ++ a :: after) (before ++ b :: after) = true := by
      induction before with
      | nil => rw [List.nil_append, List.nil_append, sameAll, equal, sameAll_refl, Bool.and_self]
      | cons first rest ih =>
          rw [List.cons_append, List.cons_append, sameAll, same_refl, ih, Bool.and_self]
    rw [same, all, same_refl, Bool.and_self]

/-- Equality of types is an equivalence, answered alike wherever a comparison stops for finding one
type on both sides. Equal types agree in all that is read off them and in what they are made of, one
takes the place of the other in every type, and no others feed a hasher the same. -/
theorem same_congruence :
    Equivalence (fun a b : Ty => a.same b = true) ∧
      (∀ (a b : Ty) (answer : Bool), Compares a b answer ↔ answer = a.same b) ∧
        (∀ a b : Ty, a.same b = true → a.Agrees b ∧ a.Replaces b) ∧
          ∀ a b : Ty, a.feed = b.feed ↔ a.same b = true := by
  constructor
  · exact equivalence_same
  constructor
  · intro a b answer
    exact compares_iff
  constructor
  · intro a b equal
    exact ⟨agrees_of_same equal, replaces_of_same equal⟩
  · intro a b
    exact feed_eq_iff

/-- Two aggregates of one name, one without members, within a function type. -/
theorem same_congruence_adapter :
    let plain : Ty := .aggregate "Point" [] false
    let adapter : Ty := .aggregate "Point" [⟨"x", .int, .property⟩] true
    let a : Ty := .function [.list plain, .int] (.map .string plain)
    let b : Ty := .function [.list adapter, .int] (.map .string adapter)
    a ≠ b ∧ a.same b = true ∧ a.Agrees b ∧ a.Replaces b ∧ Compares a b true ∧
      b.text = "fn(Point[], int) -> [string -> Point]" := by
  intro plain adapter a b
  have other : a ≠ b := by simp [a, b, plain, adapter]
  have equal : a.same b = true := by decide
  obtain ⟨-, comparisons, shared, -⟩ := same_congruence
  obtain ⟨agrees, replaces⟩ := shared a b equal
  exact ⟨other, equal, agrees, replaces, (comparisons a b true).mpr equal.symm, by decide⟩

end Ty

end ScriptValues
