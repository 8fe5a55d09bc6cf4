import ScriptValues.Payload.Feed
import ScriptValues.Proofs.Payload.Equality
import Mathlib.Data.List.Perm.Basic

/-! Equal payloads are fed to a hasher alike.

Equality takes sets and maps for equal whatever the order of their items, and hashing goes through
the items in the order in which they are stored. Where nothing is repeated, equality matches the
items one to one, so the sums of their hashes have the same summands. -/

namespace ScriptValues

variable {digest : Feed → UInt64}

/-- Items that are matched to different partners, as many as there are partners, and that agree with
their partners in `f` and `g`, show the same values in another order. -/
theorem map_perm_of_partners {α β γ : Type} {R : α → β → Prop} {f : α → γ} {g : β → γ} {as : List α}
    {bs : List β} (size : as.length = bs.length)
    (apart : as.Pairwise fun a a' => ∀ b ∈ bs, R a b → ¬ R a' b)
    (matched : ∀ a ∈ as, ∃ b ∈ bs, R a b) (agree : ∀ a ∈ as, ∀ b ∈ bs, R a b → f a = g b) :
    (as.map f).Perm (bs.map g) := by
  induction as generalizing bs with
  | nil =>
      rw [List.eq_nil_of_length_eq_zero size.symm]
      exact .refl _
  | cons a rest ih =>
      obtain ⟨first, later⟩ := List.pairwise_cons.mp apart
      obtain ⟨partner, taken, pair⟩ := matched a List.mem_cons_self
      obtain ⟨front, back, rfl⟩ := List.append_of_mem taken
      have kept : ∀ b ∈ front ++ back, b ∈ front ++ partner :: back := by
        intro b member
        simp only [List.mem_append, List.mem_cons] at member ⊢
        tauto
      have fewer : rest.length = (front ++ back).length := by
        simp only [List.length_append, List.length_cons] at size ⊢
        omega
      have elsewhere : ∀ a' ∈ rest, ∃ b ∈ front ++ back, R a' b := by
        intro a' member
        obtain ⟨b, there, related⟩ := matched a' (List.mem_cons_of_mem _ member)
        have other : b ≠ partner := by
          rintro rfl
          exact first a' member b taken pair related
        refine ⟨b, ?_, related⟩
        simp only [List.mem_append, List.mem_cons] at there ⊢
        tauto
      have others : (rest.map f).Perm ((front ++ back).map g) :=
        ih fewer (later.imp fun apart b member => apart b (kept b member)) elsewhere
          fun a' member b there => agree a' (List.mem_cons_of_mem _ member) b (kept b there)
      calc
        (a :: rest).map f = g partner :: rest.map f := by
          rw [List.map_cons, agree a List.mem_cons_self partner taken pair]
        List.Perm _ (g partner :: (front ++ back).map g) := others.cons _
        List.Perm _ ((front ++ partner :: back).map g) := List.perm_middle.symm.map g

theorem unorderedHash_perm {items others : List Feed} (perm : items.Perm others) :
    unorderedHash digest items = unorderedHash digest others := by
  have commutes : RightCommutative fun (sum : UInt64) (item : Feed) => sum + digest item :=
    ⟨fun sum a b => by rw [UInt64.add_assoc, UInt64.add_comm (digest a), ← UInt64.add_assoc]⟩
  exact perm.foldl_eq 0

namespace Double

theorem isZero_zero : (Double.mk 0).isZero = true := by decide

theorem isNaN_canonical : (Double.mk 0x7ff8000000000000).isNaN = true := by decide

theorem canonicalBits_cases (x : Double) :
    (x.isZero = true ∧ x.canonicalBits = 0) ∨
      (x.isNaN = true ∧ x.canonicalBits = 0x7ff8000000000000) ∨
        (x.isZero = false ∧ x.isNaN = false ∧ x.canonicalBits = x.bits) := by
  have apart := @isNaN_of_isZero x
  cases zero : x.isZero <;> cases none : x.isNaN <;> simp_all [canonicalBits]

theorem same_canonical (x : Double) : x.same ⟨x.canonicalBits⟩ = true := by
  rw [same_iff]
  rcases canonicalBits_cases x with ⟨zero, bits⟩ | ⟨none, bits⟩ | ⟨-, -, bits⟩
  · exact .inr (.inl ⟨zero, bits ▸ isZero_zero⟩)
  · exact .inr (.inr ⟨none, bits ▸ isNaN_canonical⟩)
  · exact .inl (congrArg Double.mk bits.symm)

theorem canonicalBits_eq_iff (x y : Double) : x.canonicalBits = y.canonicalBits ↔ x.same y = true := by
  constructor
  · intro equal
    exact same_trans (same_canonical x) (equal ▸ same_symm (same_canonical y))
  · intro equal
    have left := @isNaN_of_isZero x
    have right := @isNaN_of_isZero y
    rcases (same_iff x y).mp equal with rfl | ⟨zero, zero'⟩ | ⟨none, none'⟩
    · rfl
    · rw [canonicalBits, canonicalBits, if_pos zero, if_pos zero']
    · rw [canonicalBits, canonicalBits]
      simp_all

end Double

namespace Payload

theorem feeds_eq_map (items : List Payload) : feeds digest items = items.map (feed digest) := by
  induction items with
  | nil => rfl
  | cons p rest ih => rw [feeds, ih, List.map_cons]

theorem entryFeeds_eq_map (entries : List (Payload × Payload)) :
    entryFeeds digest entries =
      entries.map fun entry => entry.1.feed digest ++ entry.2.feed digest := by
  induction entries with
  | nil => rfl
  | cons entry rest ih => rw [entryFeeds, ih, List.map_cons]

theorem feed_list (items : List Payload) :
    (list items).feed digest =
      .tag 10 :: .count items.length :: (items.map (feed digest)).flatten := by
  rw [feed, feeds_eq_map, form]

theorem feed_set (items : List Payload) :
    (set items).feed digest =
      [.tag 11, .word (unorderedHash digest (items.map (feed digest)))] := by
  rw [feed, feeds_eq_map, form]

theorem feed_map (entries : List (Payload × Payload)) :
    (map entries).feed digest =
      [.tag 12, .word (unorderedHash digest
        (entries.map fun entry => entry.1.feed digest ++ entry.2.feed digest))] := by
  rw [feed, entryFeeds_eq_map, form]

theorem feed_set_perm {items others : List Payload} (perm : items.Perm others) :
    (set items).feed digest = (set others).feed digest := by
  rw [feed_set, feed_set, unorderedHash_perm (perm.map _)]

theorem feed_map_perm {entries others : List (Payload × Payload)} (perm : entries.Perm others) :
    (map entries).feed digest = (map others).feed digest := by
  rw [feed_map, feed_map, unorderedHash_perm (perm.map _)]

theorem feed_float_iff (x y : Double) :
    (float x).feed digest = (float y).feed digest ↔ x.same y = true := by
  simp [feed, form, Double.canonicalBits_eq_iff]

theorem feed_variant {v w : Variant} (equal : v.owner.name = w.owner.name ∧ v.ordinal = w.ordinal) :
    v.feed = w.feed := by
  rw [Variant.feed, Variant.feed, EnumType.feed, EnumType.feed, equal.1, equal.2]

theorem feed_of_leaf {p q : Payload} (leaf : p.isLeaf = true) (alike : Alike p q) :
    p.feed digest = q.feed digest := by
  cases alike with
  | list | set | map => cases leaf
  | float equal => exact (feed_float_iff _ _).mpr equal
  | variant equal => simp only [feed, form, feed_variant equal]
  | graph equal | callable equal | prototype equal => simp only [feed, form, equal]
  | _ => rfl

theorem feed_list_eq {as bs : List Payload}
    (items : List.Forall₂ (fun a b => a.feed digest = b.feed digest) as bs) :
    (list as).feed digest = (list bs).feed digest := by
  have same : as.map (feed digest) = bs.map (feed digest) := by
    rw [← List.forall₂_eq_eq_eq, List.forall₂_map_left_iff, List.forall₂_map_right_iff]
    exact items
  rw [feed_list, feed_list, same, items.length_eq]

theorem feed_set_eq {as bs : List Payload} (distinct : as.Pairwise fun a b => a.same b = false)
    (turn : ∀ a ∈ as, ∀ b ∈ bs, b.same a = true → a.same b = true ∧ a.feed digest = b.feed digest)
    (equal : (set as).same (set bs) = true) : (set as).feed digest = (set bs).feed digest := by
  obtain ⟨size, found⟩ := (same_set_iff as bs).mp equal
  have apart : as.Pairwise fun a a' => ∀ b ∈ bs, b.same a = true → ¬ b.same a' = true :=
    partners_apart (k := id) (l := id) distinct fun a member b there pair =>
      ⟨(turn a member b there pair).1, pair⟩
  have perm : (as.map (feed digest)).Perm (bs.map (feed digest)) :=
    map_perm_of_partners size apart found fun a member b there pair => (turn a member b there pair).2
  rw [feed_set, feed_set, unorderedHash_perm perm]

theorem feed_map_eq {as bs : List (Payload × Payload)}
    (distinct : as.Pairwise fun a b => a.1.same b.1 = false)
    (turn : ∀ a ∈ as, ∀ b ∈ bs,
      (b.1.same a.1 = true → a.1.same b.1 = true ∧ a.1.feed digest = b.1.feed digest) ∧
        (b.2.same a.2 = true → a.2.feed digest = b.2.feed digest))
    (equal : (map as).same (map bs) = true) : (map as).feed digest = (map bs).feed digest := by
  obtain ⟨size, found⟩ := (same_map_iff as bs).mp equal
  have apart : as.Pairwise fun a a' => ∀ b ∈ bs,
      (b.1.same a.1 = true ∧ b.2.same a.2 = true) → ¬ (b.1.same a'.1 = true ∧ b.2.same a'.2 = true) :=
    partners_apart (k := Prod.fst) (l := Prod.fst) distinct fun a member b there pair =>
      ⟨((turn a member b there).1 pair.1).1, pair.1⟩
  have perm : (as.map fun entry => entry.1.feed digest ++ entry.2.feed digest).Perm
      (bs.map fun entry => entry.1.feed digest ++ entry.2.feed digest) := by
    refine map_perm_of_partners size apart found fun a member b there pair => ?_
    rw [((turn a member b there).1 pair.1).2, (turn a member b there).2 pair.2]
  rw [feed_map, feed_map, unorderedHash_perm perm]

/-- Equal payloads feed the same, whatever hashes the items of sets and maps. -/
theorem Clean.feed_eq {p q : Payload} (first : p.Clean) (second : q.Clean)
    (equal : p.same q = true) : p.feed digest = q.feed digest := by
  induction first generalizing q with
  | leaf leaf => exact feed_of_leaf leaf ((same_iff_alike _ _).mp equal)
  | @list as _ ih =>
      cases q with
      | list bs =>
          have items := (same_list_iff as bs).mp equal
          have turned := (List.forall₂_and_left as bs).mpr ⟨ih, items⟩
          have both := (List.forall₂_and_left bs as).mpr ⟨second.of_list, turned.flip⟩
          exact feed_list_eq (both.flip.imp fun a b pair => pair.2.1 pair.1 pair.2.2)
      | _ => simp [same] at equal
  | @set as distinct each ih =>
      cases q with
      | set bs =>
          have clean := second.of_set.2
          refine feed_set_eq distinct (fun a member b there pair => ?_) equal
          have turned := ((each a member).same_iff (clean b there)).mpr pair
          exact ⟨turned, ih a member (clean b there) turned⟩
      | _ => simp [same] at equal
  | @map as distinct keys elements ihKey ihElement =>
      cases q with
      | map bs =>
          have clean := second.of_map.2
          refine feed_map_eq distinct (fun a member b there => ⟨fun pair => ?_, fun pair => ?_⟩) equal
          · have turned := ((keys a member).same_iff (clean b there).1).mpr pair
            exact ⟨turned, ihKey a member (clean b there).1 turned⟩
          · have turned := ((elements a member).same_iff (clean b there).2).mpr pair
            exact ihElement a member (clean b there).2 turned
      | _ => simp [same] at equal

end Payload

end ScriptValues
