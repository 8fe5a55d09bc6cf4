import ScriptValues.Payload.Basic
import Mathlib.Data.List.Forall2

/-! Equality of payloads is an equivalence where nothing is repeated.

Reflexivity and transitivity hold of all payloads. Sets and maps are compared in one direction only,
so symmetry needs payloads without repetitions: then a set that is covered by another of the same
size covers it. -/

namespace ScriptValues

/-- Items that are matched to different partners, as many as there are partners, leave none out. -/
theorem exists_partner {α β : Type} {R : α → β → Prop} {as : List α} {bs : List β}
    (few : bs.length ≤ as.length) (apart : as.Pairwise fun a a' => ∀ b ∈ bs, R a b → ¬ R a' b)
    (matched : ∀ a ∈ as, ∃ b ∈ bs, R a b) : ∀ b ∈ bs, ∃ a ∈ as, R a b := by
  induction as generalizing bs with
  | nil =>
      intro b member
      rw [List.length_nil, Nat.le_zero, List.length_eq_zero_iff] at few
      exact absurd (few ▸ member) List.not_mem_nil
  | cons a rest ih =>
      obtain ⟨first, later⟩ := List.pairwise_cons.mp apart
      obtain ⟨partner, taken, pair⟩ := matched a List.mem_cons_self
      obtain ⟨front, back, split⟩ := List.append_of_mem taken
      have kept : ∀ b ∈ front ++ back, b ∈ bs := by
        intro b member
        rw [split]
        simp only [List.mem_append, List.mem_cons] at member ⊢
        tauto
      have fewer : (front ++ back).length ≤ rest.length := by
        rw [split] at few
        simp only [List.length_append, List.length_cons] at few ⊢
        omega
      have elsewhere : ∀ a' ∈ rest, ∃ b ∈ front ++ back, R a' b := by
        intro a' member
        obtain ⟨b, there, related⟩ := matched a' (List.mem_cons_of_mem _ member)
        refine ⟨b, ?_, related⟩
        have other : b ≠ partner := by
          intro same
          subst same
          exact first a' member b there pair related
        rw [split] at there
        simp only [List.mem_append, List.mem_cons] at there ⊢
        tauto
      have covered := ih fewer (later.imp fun apart b member => apart b (kept b member)) elsewhere
      intro b member
      by_cases here : b = partner
      · exact ⟨a, List.mem_cons_self, here ▸ pair⟩
      · rw [split] at member
        have beside : b ∈ front ++ back := by
          simp only [List.mem_append, List.mem_cons] at member ⊢
          tauto
        obtain ⟨a', found, related⟩ := covered b beside
        exact ⟨a', List.mem_cons_of_mem _ found, related⟩

theorem length_le_of_matched {α β : Type} {R : α → β → Prop} {as : List α} {bs : List β}
    (apart : as.Pairwise fun a a' => ∀ b ∈ bs, R a b → ¬ R a' b)
    (matched : ∀ a ∈ as, ∃ b ∈ bs, R a b) : as.length ≤ bs.length := by
  cases as with
  | nil => exact Nat.zero_le _
  | cons a rest =>
      obtain ⟨first, later⟩ := List.pairwise_cons.mp apart
      obtain ⟨b, there, related⟩ := matched a List.mem_cons_self
      by_contra more
      have few : bs.length ≤ rest.length := Nat.le_of_lt_succ (Nat.lt_of_not_le more)
      -- The other items are enough for all partners, also for the one of the first.
      have others := exists_partner few later fun a' member =>
        matched a' (List.mem_cons_of_mem _ member)
      obtain ⟨a', member, related'⟩ := others b there
      exact first a' member b there related related'

namespace Double

theorem isNaN_of_isZero {x : Double} (zero : x.isZero = true) : x.isNaN = false := by
  simp only [isZero, isNaN, Bool.and_eq_true, beq_iff_eq] at zero ⊢
  simp [zero.1]

theorem same_iff (x y : Double) :
    x.same y = true ↔
      x = y ∨ (x.isZero = true ∧ y.isZero = true) ∨ (x.isNaN = true ∧ y.isNaN = true) := by
  have patterns : x.bits = y.bits ↔ x = y := by
    constructor
    · intro equal
      cases x
      cases y
      exact congrArg Double.mk equal
    · exact congrArg Double.bits
  have left := @isNaN_of_isZero x
  have right := @isNaN_of_isZero y
  simp only [same, numericallyEqual, Bool.or_eq_true, Bool.and_eq_true, Bool.not_eq_true',
    beq_iff_eq, patterns]
  by_cases equal : x = y
  · subst equal
    cases x.isNaN <;> simp
  · grind

theorem same_refl (x : Double) : x.same x = true := (same_iff x x).mpr (.inl rfl)

theorem same_symm {x y : Double} (equal : x.same y = true) : y.same x = true := by
  rw [same_iff] at equal ⊢
  tauto

theorem same_trans {x y z : Double} (first : x.same y = true) (second : y.same z = true) :
    x.same z = true := by
  have apart := @isNaN_of_isZero y
  rw [same_iff] at first second ⊢
  rcases first with same | ⟨zero, zero'⟩ | ⟨none, none'⟩
  · exact same ▸ second
  · rcases second with same | both | ⟨none, _⟩
    · exact .inr (.inl ⟨zero, same ▸ zero'⟩)
    · exact .inr (.inl ⟨zero, both.2⟩)
    · rw [apart zero'] at none
      cases none
  · rcases second with same | ⟨zero, _⟩ | both
    · exact .inr (.inr ⟨none, same ▸ none'⟩)
    · rw [apart zero] at none'
      cases none'
    · exact .inr (.inr ⟨none, both.2⟩)

end Double

namespace Variant

theorem same_iff (v w : Variant) :
    v.same w = true ↔ v.owner.name = w.owner.name ∧ v.ordinal = w.ordinal := by
  rw [same, Bool.and_eq_true, beq_iff_eq, beq_iff_eq]

end Variant

namespace Payload

/-- One step of the comparison: `p` and `q` are of one kind, and what they are made of is equal. -/
inductive Alike : Payload → Payload → Prop
  | null : Alike null null
  | bool (b : Bool) : Alike (bool b) (bool b)
  | int (n : Int64) : Alike (int n) (int n)
  | float {x y : Double} (equal : x.same y = true) : Alike (float x) (float y)
  | string (s : String) : Alike (string s) (string s)
  | graph {g h : Graph} (equal : g.identity = h.identity) : Alike (graph g) (graph h)
  | variant {v w : Variant} (equal : v.owner.name = w.owner.name ∧ v.ordinal = w.ordinal) :
      Alike (variant v) (variant w)
  | callable {c d : Callable} (equal : c.identity = d.identity) : Alike (callable c) (callable d)
  | prototype {a b : Prototype} (equal : a.id = b.id) : Alike (prototype a) (prototype b)
  | host (h : HostId) : Alike (host h) (host h)
  | list {as bs : List Payload} (items : List.Forall₂ (fun a b => a.same b = true) as bs) :
      Alike (list as) (list bs)
  | set {as bs : List Payload} (size : as.length = bs.length)
      (found : ∀ a ∈ as, ∃ b ∈ bs, b.same a = true) : Alike (set as) (set bs)
  | map {as bs : List (Payload × Payload)} (size : as.length = bs.length)
      (found : ∀ a ∈ as, ∃ b ∈ bs, b.1.same a.1 = true ∧ b.2.same a.2 = true) :
      Alike (map as) (map bs)

theorem same_list_iff (as bs : List Payload) :
    (list as).same (list bs) = true ↔ List.Forall₂ (fun a b => a.same b = true) as bs := by
  rw [same_list, List.forall₂_iff_zip]
  simp

theorem same_set_iff (as bs : List Payload) :
    (set as).same (set bs) = true ↔
      as.length = bs.length ∧ ∀ a ∈ as, ∃ b ∈ bs, b.same a = true := by
  simp [same_set]

theorem same_map_iff (as bs : List (Payload × Payload)) :
    (map as).same (map bs) = true ↔
      as.length = bs.length ∧ ∀ a ∈ as, ∃ b ∈ bs, b.1.same a.1 = true ∧ b.2.same a.2 = true := by
  simp [same_map]

theorem same_iff_alike (p q : Payload) : p.same q = true ↔ Alike p q := by
  constructor
  · intro equal
    have whole := equal
    unfold same at equal
    split at equal
    case h_1 => exact .null
    case h_2 a b => exact beq_iff_eq.mp equal ▸ .bool a
    case h_3 a b => exact beq_iff_eq.mp equal ▸ .int a
    case h_4 a b => exact .float equal
    case h_5 a b => exact beq_iff_eq.mp equal ▸ .string a
    case h_6 a b => exact .graph (beq_iff_eq.mp equal)
    case h_7 a b => exact .variant ((Variant.same_iff a b).mp equal)
    case h_8 a b => exact .callable (beq_iff_eq.mp equal)
    case h_9 a b => exact .prototype (beq_iff_eq.mp equal)
    case h_10 a b => exact beq_iff_eq.mp equal ▸ .host a
    case h_11 as bs => exact .list ((same_list_iff as bs).mp whole)
    case h_12 as bs =>
      obtain ⟨size, found⟩ := (same_set_iff as bs).mp whole
      exact .set size found
    case h_13 as bs =>
      obtain ⟨size, found⟩ := (same_map_iff as bs).mp whole
      exact .map size found
    case h_14 => cases equal
  · intro alike
    cases alike with
    | list items => exact (same_list_iff _ _).mpr items
    | set size found => exact (same_set_iff _ _).mpr ⟨size, found⟩
    | map size found => exact (same_map_iff _ _).mpr ⟨size, found⟩
    | variant equal =>
        rw [same]
        exact (Variant.same_iff _ _).mpr equal
    | _ => simp_all [same]

def isLeaf : Payload → Bool
  | list _ | set _ | map _ => false
  | _ => true

/-- What holds of a payload as soon as it holds of all payloads directly in it holds of all. -/
theorem inductionOn {motive : Payload → Prop} (p : Payload)
    (leaf : ∀ p, p.isLeaf = true → motive p)
    (list : ∀ items, (∀ p ∈ items, motive p) → motive (list items))
    (set : ∀ items, (∀ p ∈ items, motive p) → motive (set items))
    (map : ∀ entries, (∀ entry ∈ entries, motive entry.1 ∧ motive entry.2) → motive (map entries)) :
    motive p := by
  cases p with
  | list items =>
      refine list items (fun p member => ?_)
      have smaller := List.sizeOf_lt_of_mem member
      exact inductionOn p leaf list set map
  | set items =>
      refine set items (fun p member => ?_)
      have smaller := List.sizeOf_lt_of_mem member
      exact inductionOn p leaf list set map
  | map entries =>
      refine map entries (fun entry member => ?_)
      have smaller := sizeOf_lt_of_entry member
      exact ⟨inductionOn entry.1 leaf list set map, inductionOn entry.2 leaf list set map⟩
  | _ => exact leaf _ rfl
termination_by sizeOf p

theorem same_refl (p : Payload) : p.same p = true := by
  induction p using inductionOn with
  | leaf p leaf =>
      rw [same_iff_alike]
      cases p with
      | list | set | map => cases leaf
      | float x => exact .float (Double.same_refl x)
      | _ => constructor <;> first | rfl | exact ⟨rfl, rfl⟩
  | list items ih => exact (same_list_iff items items).mpr (List.forall₂_same.mpr ih)
  | set items ih =>
      exact (same_set_iff items items).mpr ⟨rfl, fun p member => ⟨p, member, ih p member⟩⟩
  | map entries ih =>
      refine (same_map_iff entries entries).mpr ⟨rfl, fun entry member => ?_⟩
      exact ⟨entry, member, ih entry member⟩

/-- Equality passes from one payload to the next, whatever is repeated in them. The induction is on
the payload in the middle, since sets and maps compare their items the other way round. -/
theorem same_trans {p q r : Payload} (first : p.same q = true) (second : q.same r = true) :
    p.same r = true := by
  induction q using inductionOn generalizing p r with
  | leaf q leaf =>
      rw [same_iff_alike] at first second ⊢
      cases first with
      | list | set | map => cases leaf
      | null | bool | int | string | host => exact second
      | float equal =>
          cases second with
          | float equal' => exact .float (Double.same_trans equal equal')
      | graph equal =>
          cases second with
          | graph equal' => exact .graph (equal.trans equal')
      | callable equal =>
          cases second with
          | callable equal' => exact .callable (equal.trans equal')
      | prototype equal =>
          cases second with
          | prototype equal' => exact .prototype (equal.trans equal')
      | variant equal =>
          cases second with
          | variant equal' => exact .variant ⟨equal.1.trans equal'.1, equal.2.trans equal'.2⟩
  | list items ih =>
      rw [same_iff_alike] at first second ⊢
      cases first with
      | list first =>
          cases second with
          | list second =>
              obtain ⟨size, pairs⟩ := List.forall₂_iff_get.mp first
              obtain ⟨size', pairs'⟩ := List.forall₂_iff_get.mp second
              refine .list (List.forall₂_iff_get.mpr ⟨size.trans size', fun i h h' => ?_⟩)
              have between : i < items.length := size ▸ h
              exact ih _ (List.get_mem items ⟨i, between⟩) (pairs i h between) (pairs' i between h')
  | set items ih =>
      rw [same_iff_alike] at first second ⊢
      cases first with
      | set size found =>
          cases second with
          | set size' found' =>
              refine .set (size.trans size') (fun a member => ?_)
              obtain ⟨b, there, equal⟩ := found a member
              obtain ⟨c, known, equal'⟩ := found' b there
              exact ⟨c, known, ih b there equal' equal⟩
  | map entries ih =>
      rw [same_iff_alike] at first second ⊢
      cases first with
      | map size found =>
          cases second with
          | map size' found' =>
              refine .map (size.trans size') (fun a member => ?_)
              obtain ⟨b, there, key, element⟩ := found a member
              obtain ⟨c, known, key', element'⟩ := found' b there
              exact ⟨c, known, (ih b there).1 key' key, (ih b there).2 element' element⟩

/-- No set in the payload has two equal items, and no map in it two entries with equal keys. -/
inductive Clean : Payload → Prop
  | leaf {p : Payload} (leaf : p.isLeaf = true) : Clean p
  | list {items : List Payload} (each : ∀ p ∈ items, Clean p) : Clean (list items)
  | set {items : List Payload} (distinct : items.Pairwise fun a b => a.same b = false)
      (each : ∀ p ∈ items, Clean p) : Clean (set items)
  | map {entries : List (Payload × Payload)}
      (distinct : entries.Pairwise fun a b => a.1.same b.1 = false)
      (keys : ∀ entry ∈ entries, Clean entry.1) (elements : ∀ entry ∈ entries, Clean entry.2) :
      Clean (map entries)

theorem Clean.of_list {items : List Payload} (clean : (Payload.list items).Clean) :
    ∀ p ∈ items, p.Clean := by
  cases clean with
  | leaf leaf => cases leaf
  | list each => exact each

theorem Clean.of_set {items : List Payload} (clean : (Payload.set items).Clean) :
    items.Pairwise (fun a b => a.same b = false) ∧ ∀ p ∈ items, p.Clean := by
  cases clean with
  | leaf leaf => cases leaf
  | set distinct each => exact ⟨distinct, each⟩

theorem Clean.of_map {entries : List (Payload × Payload)} (clean : (Payload.map entries).Clean) :
    entries.Pairwise (fun a b => a.1.same b.1 = false) ∧
      ∀ entry ∈ entries, entry.1.Clean ∧ entry.2.Clean := by
  cases clean with
  | leaf leaf => cases leaf
  | map distinct keys elements =>
      exact ⟨distinct, fun entry member => ⟨keys entry member, elements entry member⟩⟩

/-- Items with different keys have different partners where partners have equal keys. -/
theorem partners_apart {α β : Type} {R : α → β → Prop} {as : List α} {bs : List β}
    {k : α → Payload} {l : β → Payload}
    (distinct : as.Pairwise fun a a' => (k a).same (k a') = false)
    (keyed : ∀ a ∈ as, ∀ b ∈ bs, R a b → (k a).same (l b) = true ∧ (l b).same (k a) = true) :
    as.Pairwise fun a a' => ∀ b ∈ bs, R a b → ¬ R a' b := by
  refine distinct.imp_of_mem (fun {a a'} member member' apart b there first second => ?_)
  have equal := same_trans (keyed a member b there first).1 (keyed a' member' b there second).2
  rw [equal] at apart
  cases apart

theorem exists_partner_of_keys {α β : Type} {R : α → β → Prop} {as : List α} {bs : List β}
    {k : α → Payload} {l : β → Payload} (few : bs.length ≤ as.length)
    (distinct : as.Pairwise fun a a' => (k a).same (k a') = false)
    (keyed : ∀ a ∈ as, ∀ b ∈ bs, R a b → (k a).same (l b) = true ∧ (l b).same (k a) = true)
    (found : ∀ a ∈ as, ∃ b ∈ bs, R a b) : ∀ b ∈ bs, ∃ a ∈ as, R a b :=
  exists_partner few (partners_apart distinct keyed) found

theorem Alike.symm_of_leaf {p q : Payload} (alike : Alike p q)
    (leaf : p.isLeaf = true ∨ q.isLeaf = true) : Alike q p := by
  cases alike with
  | null => exact .null
  | bool b => exact .bool b
  | int n => exact .int n
  | float equal => exact .float (Double.same_symm equal)
  | string s => exact .string s
  | graph equal => exact .graph equal.symm
  | variant equal => exact .variant ⟨equal.1.symm, equal.2.symm⟩
  | callable equal => exact .callable equal.symm
  | prototype equal => exact .prototype equal.symm
  | host h => exact .host h
  | list | set | map => rcases leaf with leaf | leaf <;> cases leaf

theorem set_symm {as bs : List Payload} (distinct : as.Pairwise fun a b => a.same b = false)
    (turn : ∀ a ∈ as, ∀ b ∈ bs, a.same b = true ↔ b.same a = true)
    (equal : (set as).same (set bs) = true) : (set bs).same (set as) = true := by
  rw [same_set_iff] at equal ⊢
  obtain ⟨size, found⟩ := equal
  refine ⟨size.symm, fun b there => ?_⟩
  obtain ⟨a, member, pair⟩ := exists_partner_of_keys (k := id) (l := id) (Nat.le_of_eq size.symm)
    distinct (fun a member b there pair => ⟨(turn a member b there).mpr pair, pair⟩) found b there
  exact ⟨a, member, (turn a member b there).mpr pair⟩

theorem map_symm {as bs : List (Payload × Payload)}
    (distinct : as.Pairwise fun a b => a.1.same b.1 = false)
    (turn : ∀ a ∈ as, ∀ b ∈ bs,
      (a.1.same b.1 = true ↔ b.1.same a.1 = true) ∧ (a.2.same b.2 = true ↔ b.2.same a.2 = true))
    (equal : (map as).same (map bs) = true) : (map bs).same (map as) = true := by
  rw [same_map_iff] at equal ⊢
  obtain ⟨size, found⟩ := equal
  refine ⟨size.symm, fun b there => ?_⟩
  obtain ⟨a, member, key, element⟩ := exists_partner_of_keys (k := Prod.fst) (l := Prod.fst)
    (Nat.le_of_eq size.symm) distinct
    (fun a member b there pair => ⟨(turn a member b there).1.mpr pair.1, pair.1⟩) found b there
  exact ⟨a, member, (turn a member b there).1.mpr key, (turn a member b there).2.mpr element⟩

theorem Clean.same_iff {p q : Payload} (first : p.Clean) (second : q.Clean) :
    p.same q = true ↔ q.same p = true := by
  induction first generalizing q with
  | leaf leaf =>
      rw [same_iff_alike, same_iff_alike]
      exact ⟨fun alike => alike.symm_of_leaf (.inl leaf),
        fun alike => alike.symm_of_leaf (.inr leaf)⟩
  | @list as _ ih =>
      rw [same_iff_alike, same_iff_alike]
      constructor
      · intro alike
        cases alike with
        | @list _ bs items =>
            have turned := (List.forall₂_and_left as bs).mpr ⟨ih, items⟩
            have both := (List.forall₂_and_left bs as).mpr ⟨second.of_list, turned.flip⟩
            exact .list (both.imp fun b a pair => (pair.2.1 pair.1).mp pair.2.2)
      · intro alike
        cases alike with
        | @list bs _ items =>
            have both := (List.forall₂_and_left bs as).mpr ⟨second.of_list, items⟩
            have turned := (List.forall₂_and_left as bs).mpr ⟨ih, both.flip⟩
            exact .list (turned.imp fun a b pair => (pair.1 pair.2.1).mpr pair.2.2)
  | @set as distinct _ ih =>
      cases q with
      | set bs =>
          obtain ⟨distinct', clean⟩ := second.of_set
          constructor
          · exact set_symm distinct fun a member b there => ih a member (clean b there)
          · exact set_symm distinct' fun b there a member => (ih a member (clean b there)).symm
      | _ => simp [same]
  | @map as distinct _ _ keys elements =>
      cases q with
      | map bs =>
          obtain ⟨distinct', clean⟩ := second.of_map
          constructor
          · exact map_symm distinct fun a member b there =>
              ⟨keys a member (clean b there).1, elements a member (clean b there).2⟩
          · exact map_symm distinct' fun b there a member =>
              ⟨(keys a member (clean b there).1).symm, (elements a member (clean b there).2).symm⟩
      | _ => simp [same]

theorem Clean.same_comm {p q : Payload} (first : p.Clean) (second : q.Clean) :
    p.same q = q.same p :=
  Bool.eq_iff_iff.mpr (first.same_iff second)

/-! Leaves -/

theorem same_float (x y : Double) : (float x).same (float y) = x.same y := by rw [same]

theorem same_graph_iff (g h : Graph) :
    (graph g).same (graph h) = true ↔ g.identity = h.identity := by
  rw [same, beq_iff_eq]

theorem same_callable_iff (c d : Callable) :
    (callable c).same (callable d) = true ↔ c.identity = d.identity := by
  rw [same, beq_iff_eq]

theorem same_prototype_iff (a b : Prototype) :
    (prototype a).same (prototype b) = true ↔ a.id = b.id := by
  rw [same, beq_iff_eq]

theorem same_host_iff (h k : HostId) : (host h).same (host k) = true ↔ h = k := by
  rw [same, beq_iff_eq]

/-- Equality is an equivalence on the payloads in which nothing is repeated, at whatever depth. Two
numbers are equal if they have one pattern, are both zero, or are both no number, and what has an
identity is told apart by it. -/
theorem same_equivalence :
    Equivalence (fun p q : { p : Payload // p.Clean } => p.1.same q.1 = true) ∧
      (∀ x y, (float x).same (float y) = true ↔
        x = y ∨ (x.isZero = true ∧ y.isZero = true) ∨ (x.isNaN = true ∧ y.isNaN = true)) ∧
      (∀ g h, (graph g).same (graph h) = true ↔ g.identity = h.identity) ∧
      (∀ c d, (callable c).same (callable d) = true ↔ c.identity = d.identity) ∧
      (∀ a b, (prototype a).same (prototype b) = true ↔ a.id = b.id) ∧
      ∀ h k, (host h).same (host k) = true ↔ h = k := by
  refine ⟨⟨?refl, ?symm, ?trans⟩, fun x y => ?_, same_graph_iff, same_callable_iff,
    same_prototype_iff, same_host_iff⟩
  case refl =>
    intro p
    exact same_refl p.1
  case symm =>
    intro p q equal
    exact (p.2.same_iff q.2).mp equal
  case trans =>
    intro p q r first second
    exact same_trans first second
  · rw [same_float, Double.same_iff]

/-- A set that repeats an item covers less than it seems to, so equality goes one way only. -/
example : (set [int 1, int 1]).same (set [int 2, int 1]) = true ∧
    (set [int 2, int 1]).same (set [int 1, int 1]) = false := by
  decide +kernel

end Payload

end ScriptValues
