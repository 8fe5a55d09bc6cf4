import ScriptValues.Proofs.Collection.Firsts
import ScriptValues.Proofs.Copy.Allocation
import ScriptValues.Proofs.Copy.Content
import Mathlib.Data.List.Forall2

/-! What a copy looks like.

`CopyOf w u floor n v c` compares what `v` was in `w` with what `c` is in `u`, down to the bottom. A
set or map is filled anew by copying, so of several items that have the same payload by then only the
first is copied. -/

namespace ScriptValues

variable {α E : Type}

theorem exists_left_of_forall₂ {α β : Type} {R : α → β → Prop} {as : List α} {bs : List β}
    (related : List.Forall₂ R as bs) {b : β} (member : b ∈ bs) : ∃ a ∈ as, R a b := by
  induction related with
  | nil => exact absurd member List.not_mem_nil
  | cons first _ ih =>
      rcases List.mem_cons.mp member with here | later
      · subst here
        exact ⟨_, List.mem_cons_self, first⟩
      · obtain ⟨a, found, pair⟩ := ih later
        exact ⟨a, List.mem_cons_of_mem _ found, pair⟩

theorem exists_right_of_forall₂ {α β : Type} {R : α → β → Prop} {as : List α} {bs : List β}
    (related : List.Forall₂ R as bs) {a : α} (member : a ∈ as) : ∃ b ∈ bs, R a b := by
  obtain ⟨b, found, pair⟩ := exists_left_of_forall₂ related.flip member
  exact ⟨b, found, pair⟩

namespace World

def copyPayloadWithin (w : World E) : Nat → Value → Payload
  | 0, _ => .null
  | n + 1, v =>
      match w.backing v with
      | .list l => .list ((w.list l).items.map (w.copyPayloadWithin n))
      | .set s =>
          .set ((firsts (w.copyPayloadWithin n) [] (w.set s).items).map (w.copyPayloadWithin n))
      | .map m =>
          .map ((firsts (fun entry => w.copyPayloadWithin n entry.1) [] (w.map m).entries).map
            fun entry => (w.copyPayloadWithin n entry.1, w.copyPayloadWithin n entry.2))
      | _ => w.payloadWithin (n + 1) v

def keyPayload (w : World E) (n : Nat) (entry : Value × Value) : Payload :=
  w.copyPayloadWithin n entry.1

/-- `c` is a new cell of `u` that differs from that of `v` in its backing only, and starts without a
translation. -/
structure Duplicate (w u : World E) (v c : Value) (b : Backing E) : Prop where
  new : w.cells.size ≤ c.index
  present : c.index < u.cells.size
  cell : u.cell c = { w.cell v with backing := b, translated := none }

/-- `c` is in `u` what a copy of `v` should be. The spaces of the copy stand at `floor` or later. -/
def CopyOf (w u : World E) (floor : Nat) : Nat → Value → Value → Prop
  | 0, _, _ => False
  | n + 1, v, c =>
      match w.backing v with
      | .absent => c = v ∧ v.index < w.cells.size
      | .aggregate p space => ∃ id s,
          w.Duplicate u v c (.aggregate p id) ∧ floor ≤ id.index ∧ u.arena.space? id = some s ∧
          s.parent = (w.arena.space? space).bind (·.parent) ∧
          s.bindings.get? selfName = some c ∧
          ∀ name, name ≠ selfName →
            Option.Rel (CopyOf w u floor n) ((w.arena.bindings space).get? name)
              (s.bindings.get? name)
      | .list l => ∃ k,
          w.Duplicate u v c (.list k) ∧ k.index < u.lists.size ∧
          (u.list k).element = (w.list l).element ∧
          List.Forall₂ (CopyOf w u floor n) (w.list l).items (u.list k).items
      | .set s => ∃ t,
          w.Duplicate u v c (.set t) ∧ t.index < u.sets.size ∧
          (u.set t).element = (w.set s).element ∧
          (u.set t).index =
            (firsts (w.copyPayloadWithin n) [] (w.set s).items).map (w.copyPayloadWithin n) ∧
          List.Forall₂ (CopyOf w u floor n) (firsts (w.copyPayloadWithin n) [] (w.set s).items)
            (u.set t).items
      | .map m => ∃ k,
          w.Duplicate u v c (.map k) ∧ k.index < u.maps.size ∧
          (u.map k).key = (w.map m).key ∧ (u.map k).element = (w.map m).element ∧
          (u.map k).index =
            ((firsts (w.keyPayload n) [] (w.map m).entries).map (w.keyPayload n)).zipIdx ∧
          List.Forall₂
            (fun entry made => CopyOf w u floor n entry.1 made.1 ∧ CopyOf w u floor n entry.2 made.2)
            (firsts (w.keyPayload n) [] (w.map m).entries) (u.map k).entries
      | b => w.Duplicate u v c b

variable {w u x : World E} {floor n : Nat} {v c : Value}

theorem Duplicate.keep {b : Backing E} (made : w.Duplicate u v c b) (kept : u.KeepsFrom floor x) :
    w.Duplicate x v c b :=
  ⟨made.new, Nat.lt_of_lt_of_le made.present kept.cells.size,
    (kept.cell made.present).trans made.cell⟩

theorem Duplicate.backing {b : Backing E} (made : w.Duplicate u v c b) : u.backing c = b :=
  congrArg Cell.backing made.cell

theorem optionRel_mono {R S : α → α → Prop} (weaker : ∀ a b, R a b → S a b) {a b : Option α}
    (related : Option.Rel R a b) : Option.Rel S a b := by
  cases related with
  | some first => exact .some (weaker _ _ first)
  | none => exact .none

/-- A copy stays what it is while what was allocated for it is left alone. -/
theorem CopyOf.keep (kept : u.KeepsFrom floor x) (copied : w.CopyOf u floor n v c) :
    w.CopyOf x floor n v c := by
  induction n generalizing v c with
  | zero => exact copied
  | succ n ih =>
      have deeper : ∀ a b, w.CopyOf u floor n a b → w.CopyOf x floor n a b := fun a b => ih
      cases held : w.backing v with
      | absent =>
          simp only [CopyOf, held] at copied ⊢
          exact copied
      | aggregate p space =>
          simp only [CopyOf, held] at copied ⊢
          obtain ⟨id, s, made, above, live, parent, self, members⟩ := copied
          refine ⟨id, s, made.keep kept, above, ?_, parent, self, ?_⟩
          · rw [kept.space? above (Arena.allocated_of_space? _ live), live]
          · exact fun name other => optionRel_mono deeper (members name other)
      | list l =>
          simp only [CopyOf, held] at copied ⊢
          obtain ⟨k, made, present, element, items⟩ := copied
          have same := kept.list present
          refine ⟨k, made.keep kept, Nat.lt_of_lt_of_le present kept.lists.size, ?_, ?_⟩
          · rw [same, element]
          · rw [same]
            exact items.imp deeper
      | set s =>
          simp only [CopyOf, held] at copied ⊢
          obtain ⟨t, made, present, element, index, items⟩ := copied
          have same := kept.set present
          refine ⟨t, made.keep kept, Nat.lt_of_lt_of_le present kept.sets.size, ?_, ?_, ?_⟩
          · rw [same, element]
          · rw [same, index]
          · rw [same]
            exact items.imp deeper
      | map m =>
          simp only [CopyOf, held] at copied ⊢
          obtain ⟨k, made, present, key, element, index, entries⟩ := copied
          have same := kept.map present
          refine ⟨k, made.keep kept, Nat.lt_of_lt_of_le present kept.maps.size, ?_, ?_, ?_, ?_⟩
          · rw [same, key]
          · rw [same, element]
          · rw [same, index]
          · rw [same]
            exact entries.imp (fun _ _ pair => ⟨deeper _ _ pair.1, deeper _ _ pair.2⟩)
      | _ =>
          simp only [CopyOf, held] at copied ⊢
          exact copied.keep kept

theorem CopyOf.lower {lower : Nat} (below : lower ≤ floor) (copied : w.CopyOf u floor n v c) :
    w.CopyOf u lower n v c := by
  induction n generalizing v c with
  | zero => exact copied
  | succ n ih =>
      have deeper : ∀ a b, w.CopyOf u floor n a b → w.CopyOf u lower n a b := fun a b => ih
      cases held : w.backing v with
      | aggregate p space =>
          simp only [CopyOf, held] at copied ⊢
          obtain ⟨id, s, made, above, live, parent, self, members⟩ := copied
          exact ⟨id, s, made, Nat.le_trans below above, live, parent, self,
            fun name other => optionRel_mono deeper (members name other)⟩
      | list l =>
          simp only [CopyOf, held] at copied ⊢
          obtain ⟨k, made, present, element, items⟩ := copied
          exact ⟨k, made, present, element, items.imp deeper⟩
      | set s =>
          simp only [CopyOf, held] at copied ⊢
          obtain ⟨t, made, present, element, index, items⟩ := copied
          exact ⟨t, made, present, element, index, items.imp deeper⟩
      | map m =>
          simp only [CopyOf, held] at copied ⊢
          obtain ⟨k, made, present, key, element, index, entries⟩ := copied
          exact ⟨k, made, present, key, element, index,
            entries.imp (fun _ _ pair => ⟨deeper _ _ pair.1, deeper _ _ pair.2⟩)⟩
      | _ =>
          simp only [CopyOf, held] at copied ⊢
          exact copied

theorem CopyOf.new (copied : w.CopyOf u floor n v c) (present : w.backing v ≠ .absent) :
    w.cells.size ≤ c.index ∧ c.index < u.cells.size := by
  cases n with
  | zero => exact copied.elim
  | succ n =>
      cases held : w.backing v with
      | absent => exact absurd held present
      | aggregate p space =>
          simp only [CopyOf, held] at copied
          obtain ⟨_, _, made, _⟩ := copied
          exact ⟨made.new, made.present⟩
      | list l =>
          simp only [CopyOf, held] at copied
          obtain ⟨_, made, _⟩ := copied
          exact ⟨made.new, made.present⟩
      | set s =>
          simp only [CopyOf, held] at copied
          obtain ⟨_, made, _⟩ := copied
          exact ⟨made.new, made.present⟩
      | map m =>
          simp only [CopyOf, held] at copied
          obtain ⟨_, made, _⟩ := copied
          exact ⟨made.new, made.present⟩
      | _ =>
          simp only [CopyOf, held] at copied
          exact ⟨copied.new, copied.present⟩

theorem CopyOf.absent (copied : w.CopyOf u floor n v c) (absent : w.backing v = .absent) :
    c = v ∧ v.index < w.cells.size := by
  cases n with
  | zero => exact copied.elim
  | succ n =>
      simp only [CopyOf, absent] at copied
      exact copied

theorem map_eq_of_forall₂ {β γ : Type} {R : α → β → Prop} {f : α → γ} {g : β → γ}
    (same : ∀ a b, R a b → g b = f a) {as : List α} {bs : List β} (related : List.Forall₂ R as bs) :
    bs.map g = as.map f := by
  induction related with
  | nil => rfl
  | cons first _ ih => rw [List.map_cons, List.map_cons, same _ _ first, ih]

theorem CopyOf.payloadWithin (keeps : w.Keeps u) (outside : u.outside = w.outside)
    (copied : w.CopyOf u floor n v c) {m : Nat} (enough : n ≤ m) :
    u.payloadWithin m c = w.copyPayloadWithin n v := by
  induction n generalizing v c m with
  | zero => exact copied.elim
  | succ n ih =>
      obtain ⟨m, rfl⟩ : ∃ k, m = k + 1 := ⟨m - 1, by omega⟩
      have fewer : n ≤ m := Nat.le_of_succ_le_succ enough
      have deeper : ∀ a b, w.CopyOf u floor n a b →
          u.payloadWithin m b = w.copyPayloadWithin n a := fun a b related => ih related fewer
      cases held : w.backing v with
      | absent =>
          have same : u.backing c = .absent := by
            obtain ⟨same, old⟩ := copied.absent held
            rw [same, keeps.backing old, held]
          simp only [copyPayloadWithin, World.payloadWithin, held, same]
      | aggregate p space =>
          simp only [CopyOf, held] at copied
          obtain ⟨_, _, made, _⟩ := copied
          simp only [copyPayloadWithin, World.payloadWithin, held, made.backing]
      | list l =>
          simp only [CopyOf, held] at copied
          obtain ⟨k, made, _, _, items⟩ := copied
          simp only [copyPayloadWithin, World.payloadWithin, held, made.backing,
            map_eq_of_forall₂ deeper items]
      | set s =>
          simp only [CopyOf, held] at copied
          obtain ⟨t, made, _, _, _, items⟩ := copied
          simp only [copyPayloadWithin, World.payloadWithin, held, made.backing,
            map_eq_of_forall₂ deeper items]
      | map q =>
          simp only [CopyOf, held] at copied
          obtain ⟨k, made, _, _, _, _, entries⟩ := copied
          have pairs := map_eq_of_forall₂
            (f := fun entry => (w.copyPayloadWithin n entry.1, w.copyPayloadWithin n entry.2))
            (g := fun entry => (u.payloadWithin m entry.1, u.payloadWithin m entry.2))
            (fun a b pair => Prod.ext (deeper _ _ pair.1) (deeper _ _ pair.2)) entries
          simp only [copyPayloadWithin, World.payloadWithin, held, made.backing, pairs]
          rfl
      | enum variant =>
          simp only [CopyOf, held] at copied
          cases variant <;>
            simp only [copyPayloadWithin, World.payloadWithin, held, copied.backing]
      | function callable =>
          simp only [CopyOf, held] at copied
          cases callable <;>
            simp only [copyPayloadWithin, World.payloadWithin, held, copied.backing]
      | _ =>
          simp only [CopyOf, held] at copied
          simp only [copyPayloadWithin, World.payloadWithin, held, copied.backing, outside]

theorem copyPayloadWithin_eq {m : Nat} (height : w.Height n v) (enough : n ≤ m) :
    w.copyPayloadWithin m v = w.copyPayloadWithin n v := by
  induction n generalizing v m with
  | zero => exact height.elim
  | succ n ih =>
      obtain ⟨m, rfl⟩ : ∃ k, m = k + 1 := ⟨m - 1, by omega⟩
      have fewer : n ≤ m := Nat.le_of_succ_le_succ enough
      cases held : w.backing v with
      | list l =>
          have items : ∀ a ∈ (w.list l).items, w.copyPayloadWithin m a = w.copyPayloadWithin n a :=
            fun a member => ih (height a (.listItem held member)) fewer
          simp only [copyPayloadWithin, held, List.map_congr_left items]
      | set s =>
          have items : ∀ a ∈ (w.set s).items, w.copyPayloadWithin m a = w.copyPayloadWithin n a :=
            fun a member => ih (height a (.setItem held member)) fewer
          simp only [copyPayloadWithin, held, firsts_congr items]
          congr 1
          exact List.map_congr_left (fun a kept => items a (mem_of_mem_firsts kept))
      | map q =>
          have keys : ∀ entry ∈ (w.map q).entries,
              w.copyPayloadWithin m entry.1 = w.copyPayloadWithin n entry.1 :=
            fun entry member => ih (height _ (.key held member)) fewer
          have elements : ∀ entry ∈ (w.map q).entries,
              w.copyPayloadWithin m entry.2 = w.copyPayloadWithin n entry.2 :=
            fun entry member => ih (height _ (.element held member)) fewer
          simp only [copyPayloadWithin, held, firsts_congr keys]
          congr 1
          apply List.map_congr_left
          intro entry kept
          have member := mem_of_mem_firsts kept
          rw [keys entry member, elements entry member]
      | enum variant => cases variant <;> simp only [copyPayloadWithin, World.payloadWithin, held]
      | function callable =>
          cases callable <;> simp only [copyPayloadWithin, World.payloadWithin, held]
      | _ => simp only [copyPayloadWithin, World.payloadWithin, held]

end World

end ScriptValues
