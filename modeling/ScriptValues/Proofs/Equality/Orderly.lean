import ScriptValues.Proofs.Collection.Sound
import ScriptValues.Proofs.Equality.Contents

/-! Values that are in order: they do not lie within themselves, nothing is repeated in their
payloads, and sets and maps within them hold each item and key under the payload that it has by now.
-/

namespace ScriptValues

namespace Log

variable {α β : Type} {rows : Log α} {others : Log β} {f : α → Payload} {g : β → Payload}

structure Filed (rows : Log α) (f : α → Payload) : Prop where
  current : ∀ row ∈ rows, (f row.1).same row.2 = true
  clean : ∀ row ∈ rows, row.2.Clean

structure Tidy (rows : Log α) (f : α → Payload) : Prop extends rows.Filed f where
  distinct : rows.Distinct
  now : ∀ row ∈ rows, (f row.1).Clean

theorem Tidy.back (tidy : rows.Tidy f) {row : α × Payload} (member : row ∈ rows) :
    row.2.same (f row.1) = true :=
  ((tidy.now row member).same_iff (tidy.clean row member)).mp (tidy.current row member)

theorem Tidy.apart (tidy : rows.Tidy f) :
    rows.Pairwise fun a b => (f a.1).same (f b.1) = false := by
  refine List.Pairwise.imp_of_mem (fun {a b} first second apart => ?_) tidy.distinct
  by_contra equal
  have back : (f b.1).same (f a.1) = true :=
    ((tidy.now a first).same_iff (tidy.now b second)).mp (eq_true_of_ne_false equal)
  have under := Payload.same_trans (tidy.back second)
    (Payload.same_trans back (tidy.current a first))
  rw [under] at apart
  cases apart

theorem Tidy.find?_of_mem (tidy : rows.Tidy f) {row : α × Payload} (member : row ∈ rows)
    {p : Payload} (clean : p.Clean) (equal : p.same row.2 = true) : rows.find? p = some row.1 := by
  obtain ⟨before, after, split⟩ := List.append_of_mem member
  refine find?_eq_some_iff.mpr ⟨row.2, before, after, split, equal, fun earlier there => ?_⟩
  have distinct := tidy.distinct
  rw [split] at distinct
  have apart := (List.pairwise_append.mp distinct).2.2 earlier there row List.mem_cons_self
  by_contra same
  have both := Payload.same_trans ((clean.same_iff (tidy.clean row member)).mp equal)
    (eq_true_of_ne_false same)
  rw [both] at apart
  cases apart

/-- Where each of as many items as there are rows has a row, each row has an item. -/
theorem Tidy.exists_partner (tidy : rows.Tidy f) (tidy' : others.Tidy g)
    {R : β × Payload → α × Payload → Prop}
    (keyed : ∀ other row, R other row → (g other.1).same row.2 = true)
    (size : rows.length ≤ others.length) (covered : ∀ other ∈ others, ∃ row ∈ rows, R other row) :
    ∀ row ∈ rows, ∃ other ∈ others, R other row := by
  refine Payload.exists_partner_of_keys (k := fun other => g other.1) (l := Prod.snd) size
    tidy'.apart (fun other there row member related => ?_) covered
  have equal := keyed other row related
  exact ⟨equal, ((tidy'.now other there).same_iff (tidy.clean row member)).mp equal⟩

end Log

namespace World

variable {E : Type} {w : World E} {v u : Value}

/-- The value does not lie within itself, nothing is repeated in the payloads that it is made of,
and what was filed under a payload has that payload by now. -/
structure Orderly (w : World E) (v : Value) : Prop where
  loopless : Loopless w.Contains v
  sets : ∀ x s, w.Spans v x → w.backing x = .set s → (w.set s).log.Filed w.payload
  maps : ∀ x m, w.Spans v x → w.backing x = .map m →
    (w.map m).log.Filed fun entry => w.payload entry.1
  raw : ∀ x, w.Spans v x → (w.backing x).container? = none → (w.payload x).Clean

theorem Orderly.of_contains (orderly : w.Orderly v) (step : w.Contains v u) : w.Orderly u where
  loopless := orderly.loopless.of_step step
  sets x s path held := orderly.sets x s (path.of_contains step) held
  maps x m path held := orderly.maps x m (path.of_contains step) held
  raw x path plain := orderly.raw x (path.of_contains step) plain

theorem Orderly.of_contents (within : ∀ x, w.Contains v x → w.Orderly x)
    (set : ∀ s, w.backing v = .set s → (w.set s).log.Filed w.payload)
    (map : ∀ m, w.backing v = .map m → (w.map m).log.Filed fun entry => w.payload entry.1)
    (raw : (w.backing v).container? = none → (w.payload v).Clean) : w.Orderly v := by
  have below : ∀ {x}, w.Spans v x → x = v ∨ ∃ y, w.Contains v y ∧ w.Spans y x := by
    intro x path
    rcases Relation.ReflTransGen.cases_head path with same | ⟨y, step, rest⟩
    · exact .inl same.symm
    · exact .inr ⟨y, step, rest⟩
  refine ⟨fun x path cycle => ?_, fun x s path held => ?_, fun x m path held => ?_,
    fun x path plain => ?_⟩
  · rcases below path with same | ⟨y, step, rest⟩
    · subst same
      -- A way back to the value leads back to what it contains, too.
      obtain ⟨y, step, back⟩ := Relation.TransGen.head'_iff.mp cycle
      exact (within y step).loopless y .refl (Relation.TransGen.tail' back step)
    · exact (within y step).loopless x rest cycle
  · rcases below path with same | ⟨y, step, rest⟩
    · exact set s (same ▸ held)
    · exact (within y step).sets x s rest held
  · rcases below path with same | ⟨y, step, rest⟩
    · exact map m (same ▸ held)
    · exact (within y step).maps x m rest held
  · rcases below path with same | ⟨y, step, rest⟩
    · subst same
      exact raw plain
    · exact (within y step).raw x rest plain

theorem contents_of_plain (plain : (w.backing v).container? = none) : w.contents v = [] := by
  unfold contents
  cases held : w.backing v with
  | list | set | map =>
      rw [held] at plain
      cases plain
  | _ => rfl

theorem Inside.cases {c : Container} (inside : w.Inside c v) :
    (w.backing v).container? = some c ∨ ∃ x ∈ w.contents v, w.Inside c x := by
  obtain ⟨x, path, behind⟩ := inside
  rcases Relation.ReflTransGen.cases_head path with same | ⟨y, step, rest⟩
  · exact .inl (same ▸ behind)
  · exact .inr ⟨y, step, x, rest, behind⟩

theorem not_inside_of_plain (plain : (w.backing v).container? = none) (c : Container) :
    ¬ w.Inside c v := by
  intro inside
  rcases inside.cases with behind | ⟨x, step, _⟩
  · rw [plain] at behind
    cases behind
  · rw [contents_of_plain plain] at step
    exact absurd step List.not_mem_nil

theorem Orderly.of_plain (plain : (w.backing v).container? = none) (clean : (w.payload v).Clean) :
    w.Orderly v := by
  refine .of_contents (fun x step => ?_) (fun s held => ?_) (fun m held => ?_) fun _ => clean
  · rw [Contains, contents_of_plain plain] at step
    exact absurd step List.not_mem_nil
  · rw [held] at plain
    cases plain
  · rw [held] at plain
    cases plain

theorem orderly_of_leaves {s : SetId} (held : w.backing v = .set s)
    (contents : ∀ x ∈ w.contents v,
      (w.backing x).container?.isNone = true ∧ (w.payload x).isLeaf = true)
    (log : ∀ row ∈ (w.set s).log, (w.payload row.1).same row.2 = true ∧ row.2.isLeaf = true) :
    w.Orderly v := by
  refine .of_contents (fun x step => ?_) (fun t held' => ?_) (fun m held' => ?_) fun plain => ?_
  · exact .of_plain (Option.isNone_iff_eq_none.mp (contents x step).1) (.leaf (contents x step).2)
  · cases held.symm.trans held'
    exact ⟨fun row member => (log row member).1, fun row member => .leaf (log row member).2⟩
  · cases held.symm.trans held'
  · rw [held] at plain
    cases plain

theorem item_of_log (boxes : w.BoxesSound) {s : SetId} {row : Value × Payload}
    (member : row ∈ (w.set s).log) : row.1 ∈ (w.set s).items := by
  rw [(boxes.sets s).items]
  exact List.mem_map_of_mem member

theorem entry_of_log (boxes : w.BoxesSound) {m : MapId} {row : (Value × Value) × Payload}
    (member : row ∈ (w.map m).log) : row.1 ∈ (w.map m).entries := by
  rw [(boxes.maps m).entries]
  exact List.mem_map_of_mem member

/-- A value in order has a payload without repetitions. -/
theorem Orderly.clean (orderly : w.Orderly v) (boxes : w.BoxesSound) : (w.payload v).Clean := by
  have deep := shallow_of_loopless orderly.loopless
  generalize w.walkBound = n at deep
  induction n generalizing v with
  | zero => exact deep.elim
  | succ n ih =>
      have within : ∀ x, w.Contains v x → (w.payload x).Clean :=
        fun x step => ih (orderly.of_contains step) (deep x step)
      cases held : w.backing v with
      | list l =>
          rw [payload_of_list orderly.loopless held]
          refine .list fun p member => ?_
          obtain ⟨x, item, same⟩ := List.mem_map.mp member
          exact same ▸ within x (contains_of_list held item)
      | set s =>
          have tidy : (w.set s).log.Tidy w.payload :=
            ⟨orderly.sets v s (spans_refl w v) held, (boxes.sets s).distinct, fun row member =>
              within row.1 (contains_of_set held (item_of_log boxes member))⟩
          rw [payload_of_set orderly.loopless held]
          refine .set ?_ fun p member => ?_
          · rw [(boxes.sets s).items, List.map_map, List.pairwise_map]
            exact tidy.apart
          · obtain ⟨x, item, same⟩ := List.mem_map.mp member
            exact same ▸ within x (contains_of_set held item)
      | map m =>
          have tidy : (w.map m).log.Tidy fun entry => w.payload entry.1 :=
            ⟨orderly.maps v m (spans_refl w v) held, (boxes.maps m).distinct, fun row member =>
              within row.1.1 (contains_of_map held (entry_of_log boxes member)).1⟩
          rw [payload_of_map orderly.loopless held]
          refine .map ?_ (fun p member => ?_) fun p member => ?_
          · rw [(boxes.maps m).entries, List.map_map, List.pairwise_map]
            exact tidy.apart
          · obtain ⟨entry, there, same⟩ := List.mem_map.mp member
            exact same ▸ within entry.1 (contains_of_map held there).1
          · obtain ⟨entry, there, same⟩ := List.mem_map.mp member
            exact same ▸ within entry.2 (contains_of_map held there).2
      | _ => exact orderly.raw v (spans_refl w v) (by rw [held]; rfl)

theorem Orderly.tidy_set (orderly : w.Orderly v) (boxes : w.BoxesSound) {s : SetId}
    (held : w.backing v = .set s) : (w.set s).log.Tidy w.payload :=
  ⟨orderly.sets v s (spans_refl w v) held, (boxes.sets s).distinct, fun _ member =>
    (orderly.of_contains (contains_of_set held (item_of_log boxes member))).clean boxes⟩

theorem Orderly.tidy_map (orderly : w.Orderly v) (boxes : w.BoxesSound) {m : MapId}
    (held : w.backing v = .map m) : (w.map m).log.Tidy fun entry => w.payload entry.1 :=
  ⟨orderly.maps v m (spans_refl w v) held, (boxes.maps m).distinct, fun _ member =>
    (orderly.of_contains (contains_of_map held (entry_of_log boxes member)).1).clean boxes⟩

end World

end ScriptValues
