import ScriptValues.Proofs.Collection.Log
import ScriptValues.Proofs.Copy.Independence
import ScriptValues.Proofs.Equality.Contents
import ScriptValues.Proofs.TableHost.Tracking

/-! A deep copy reproduces what it was made from.

All that is copied keeps its type and flags, and holds the copies of what the original holds. A set or
map is the exception: it is filled anew with copies, so an item is left out when its copy has the
payload of an earlier one. Where nothing of the kind occurs inside a value, its copy has its payload.

Which copies count as duplicates is said of payloads without repeated items only. Others may be equal
without being hashed alike, so it would depend on the hashes.
-/

namespace ScriptValues

variable {α E : Type}

theorem forall₂_of_mem {β : Type} {R S : α → β → Prop} {as : List α} {bs : List β}
    (more : ∀ a ∈ as, ∀ b, R a b → S a b) (related : List.Forall₂ R as bs) :
    List.Forall₂ S as bs := by
  induction related with
  | nil => exact .nil
  | cons first _ ih =>
      exact .cons (more _ List.mem_cons_self _ first)
        (ih fun a member => more a (List.mem_cons_of_mem _ member))

/-! Containers whose index is current -/

theorem SetBox.records_of_index {b : SetBox} {f : Value → Payload} (filed : b.index = b.items.map f)
    (distinct : b.index.Pairwise fun p q => q.same p = false) :
    b.Records (b.items.map fun x => (x, f x)) where
  items := by rw [List.map_map, Function.comp_def, List.map_id']
  index := by rw [List.map_map, filed, Function.comp_def]
  distinct := by
    rw [filed, List.pairwise_map] at distinct
    exact List.pairwise_map.mpr distinct

theorem MapBox.records_of_index {b : MapBox} {f : Value × Value → Payload}
    (filed : b.index = (b.entries.map f).zipIdx)
    (distinct : (b.entries.map f).Pairwise fun p q => q.same p = false) :
    b.Records (b.entries.map fun entry => (entry, f entry)) where
  entries := by rw [List.map_map, Function.comp_def, List.map_id']
  index := by rw [List.map_map, filed, Function.comp_def]
  distinct := List.pairwise_map.mpr (List.pairwise_map.mp distinct)

namespace World

variable {w u : World E} {n : Nat} {v c x y : Value}

/-! The payload of a copy -/

def copyPayload (w : World E) (v : Value) : Payload := w.copyPayloadWithin w.walkBound v

/-- No set or map inside `v` holds two items or keys with equal payloads. -/
structure DuplicateFree (w : World E) (v : Value) : Prop where
  sets : ∀ x s, w.Spans v x → w.backing x = .set s →
    (w.set s).items.Pairwise fun a b => (w.payload b).same (w.payload a) = false
  maps : ∀ x m, w.Spans v x → w.backing x = .map m →
    (w.map m).entries.Pairwise fun a b => (w.payload b.1).same (w.payload a.1) = false

/-- The items and keys in the sets and maps inside `v` are copied with payloads that repeat no items,
so that equal ones are hashed alike. -/
structure CleanlyCopied (w : World E) (v : Value) : Prop where
  sets : ∀ x s, w.Spans v x → w.backing x = .set s →
    ∀ item ∈ (w.set s).items, (w.copyPayload item).Clean
  maps : ∀ x m, w.Spans v x → w.backing x = .map m →
    ∀ entry ∈ (w.map m).entries, (w.copyPayload entry.1).Clean

theorem DuplicateFree.of_contains (free : w.DuplicateFree v) (step : w.Contains v x) :
    w.DuplicateFree x where
  sets y s path held := free.sets y s (path.of_contains step) held
  maps y m path held := free.maps y m (path.of_contains step) held

theorem Contains.holds (step : w.Contains v x) : w.Holds v x := by
  rw [Contains, contents] at step
  cases held : w.backing v with
  | list l => exact .listItem held (by simpa only [held] using step)
  | set s => exact .setItem held (by simpa only [held] using step)
  | map m =>
      simp only [held, List.mem_flatMap] at step
      obtain ⟨⟨key, element⟩, entry, here⟩ := step
      rcases List.mem_pair.mp here with same | same
      · exact same ▸ .key held entry
      · exact same ▸ .element held entry
  | _ =>
      simp only [held] at step
      exact absurd step List.not_mem_nil

theorem Acyclic.loopless (acyclic : w.Acyclic v) : Loopless w.Contains v :=
  fun x path cycle => acyclic x (Relation.ReflTransGen.mono (fun _ _ => Contains.holds) _ _ path)
    (Relation.TransGen.mono (fun _ _ => Contains.holds) _ _ cycle)

theorem copyPayloadWithin_leaf (leaf : (w.backing v).container? = none) :
    w.copyPayloadWithin (n + 1) v = w.payload v := by
  rw [payload, walkBound]
  cases held : w.backing v with
  | list | set | map =>
      rw [held] at leaf
      cases leaf
  | enum variant => cases variant <;> simp only [copyPayloadWithin, payloadWithin, held]
  | function callable => cases callable <;> simp only [copyPayloadWithin, payloadWithin, held]
  | _ => simp only [copyPayloadWithin, payloadWithin, held]

/-- A copy has the payload of the original, unless items are left out on the way. -/
theorem copyPayloadWithin_eq_payload (height : w.Height n v) (free : w.DuplicateFree v) :
    w.copyPayloadWithin n v = w.payload v := by
  induction n generalizing v with
  | zero => exact height.elim
  | succ n ih =>
      have loopless := height.acyclic.loopless
      have within : ∀ x, w.Contains v x → w.copyPayloadWithin n x = w.payload x :=
        fun x step => ih (height x step.holds) (free.of_contains step)
      cases held : w.backing v with
      | list l =>
          have items : ∀ x ∈ (w.list l).items, w.copyPayloadWithin n x = w.payload x :=
            fun x item => within x (contains_of_list held item)
          rw [payload_of_list loopless held, ← List.map_congr_left items]
          simp only [copyPayloadWithin, held]
      | set s =>
          have items : ∀ x ∈ (w.set s).items, w.copyPayloadWithin n x = w.payload x :=
            fun x item => within x (contains_of_set held item)
          have all : firsts w.payload [] (w.set s).items = (w.set s).items :=
            firsts_eq_self (free.sets v s (spans_refl w v) held) fun _ _ => rfl
          rw [payload_of_set loopless held, ← List.map_congr_left items]
          simp only [copyPayloadWithin, held, firsts_congr items, all]
      | map m =>
          have keys : ∀ entry ∈ (w.map m).entries,
              w.copyPayloadWithin n entry.1 = w.payload entry.1 :=
            fun entry member => within _ (contains_of_map held member).1
          have pairs : ∀ entry ∈ (w.map m).entries,
              (w.copyPayloadWithin n entry.1, w.copyPayloadWithin n entry.2) =
                (w.payload entry.1, w.payload entry.2) :=
            fun entry member => Prod.ext (keys entry member)
              (within _ (contains_of_map held member).2)
          have all : firsts (fun entry => w.payload entry.1) [] (w.map m).entries =
              (w.map m).entries :=
            firsts_eq_self (free.maps v m (spans_refl w v) held) fun _ _ => rfl
          rw [payload_of_map loopless held, ← List.map_congr_left pairs]
          simp only [copyPayloadWithin, held, firsts_congr keys, all]
      | _ =>
          apply copyPayloadWithin_leaf
          rw [held]
          rfl

/-! What a copy holds -/

/-- `y` is in `u` what a copy of `x` as it was in `w` should be, when `R` relates each value that is
copied to its copies. What is new has a cell like that of the original, but for the backing. A set or
map holds copies of some of the items and entries, in order, with clean payloads those that are the
first with the payload of their copies. -/
def Reproduces (w u : World E) (R : Value → Value → Prop) (x y : Value) : Prop :=
  match w.backing x with
  | .absent => y = x ∧ u.cell y = w.cell x
  | .aggregate p space => ∃ id s,
      w.Duplicate u x y (.aggregate p id) ∧ w.arena.slots.size ≤ id.index ∧
      u.arena.space? id = some s ∧ s.bindings.get? selfName = some y ∧
      ∀ name, name ≠ selfName →
        Option.Rel R ((w.arena.bindings space).get? name) (s.bindings.get? name)
  | .list l => ∃ k,
      w.Duplicate u x y (.list k) ∧ (u.list k).element = (w.list l).element ∧
      List.Forall₂ R (w.list l).items (u.list k).items
  | .set s => ∃ t kept,
      w.Duplicate u x y (.set t) ∧ (u.set t).element = (w.set s).element ∧
      kept.Sublist (w.set s).items ∧ List.Forall₂ R kept (u.set t).items ∧
      (w.CleanlyCopied x → kept = firsts w.copyPayload [] (w.set s).items ∧
        (u.set t).Records ((u.set t).items.map fun z => (z, u.payload z)))
  | .map m => ∃ k kept,
      w.Duplicate u x y (.map k) ∧ (u.map k).key = (w.map m).key ∧
      (u.map k).element = (w.map m).element ∧
      kept.Sublist (w.map m).entries ∧
      List.Forall₂ (fun entry made => R entry.1 made.1 ∧ R entry.2 made.2) kept (u.map k).entries ∧
      (w.CleanlyCopied x → kept = firsts (fun entry => w.copyPayload entry.1) [] (w.map m).entries ∧
        (u.map k).Records ((u.map k).entries.map fun entry => (entry, u.payload entry.1)))
  | b => w.Duplicate u x y b

theorem Copied.payload (known : w.Allocates u) (copied : w.Copied u x y) :
    u.payload y = w.copyPayload x := by
  obtain ⟨n, few, height, copy⟩ := copied
  rw [copy.payload few known, copyPayload, copyPayloadWithin_eq height few]

theorem Copied.reproduces (known : w.Allocates u) (copied : w.Copied u x y) :
    w.Reproduces u (w.Copied u) x y := by
  obtain ⟨n, few, height, copy⟩ := copied
  cases n with
  | zero => exact height.elim
  | succ n =>
      have fewer : n ≤ w.walkBound := Nat.le_of_succ_le few
      have deeper : ∀ a, w.Holds x a → ∀ b, w.CopyOf u w.arena.slots.size n a b → w.Copied u a b :=
        fun a step b made => ⟨n, fewer, height a step, made⟩
      cases held : w.backing x with
      | absent =>
          obtain ⟨same, old⟩ := copy.absent held
          rw [Reproduces, held]
          subst same
          exact ⟨rfl, known.keeps.cell old⟩
      | aggregate p space =>
          simp only [CopyOf, Reproduces, held] at copy ⊢
          obtain ⟨id, s, made, new, live, _, itself, members⟩ := copy
          refine ⟨id, s, made, new, live, itself, fun name other => ?_⟩
          have related := members name other
          generalize found : (w.arena.bindings space).get? name = original at related ⊢
          generalize s.bindings.get? name = copy at related ⊢
          cases related with
          | some first => exact .some (deeper _ (.member held other found) _ first)
          | none => exact .none
      | list l =>
          simp only [CopyOf, Reproduces, held] at copy ⊢
          obtain ⟨k, made, _, element, items⟩ := copy
          exact ⟨k, made, element, forall₂_of_mem (fun a item => deeper a (.listItem held item)) items⟩
      | set s =>
          simp only [CopyOf, Reproduces, held] at copy ⊢
          obtain ⟨t, made, _, element, index, items⟩ := copy
          have copied := forall₂_of_mem
            (fun a item => deeper a (.setItem held (mem_of_mem_firsts item))) items
          have filed : (u.set t).index = (u.set t).items.map u.payload := by
            rw [index]
            exact (map_eq_of_forall₂ (fun a b made => made.payload fewer known) items).symm
          rw [← firsts_items_eq fewer height held] at copied
          refine ⟨t, _, made, element, firsts_sublist _ _ _, copied,
            fun _ => ⟨rfl, SetBox.records_of_index filed ?_⟩⟩
          rw [index]
          exact List.pairwise_map.mpr (firsts_distinct _ _ _).1
      | map m =>
          simp only [CopyOf, Reproduces, held] at copy ⊢
          obtain ⟨k, made, _, key, element, index, entries⟩ := copy
          have copied := forall₂_of_mem (S := fun entry made =>
            w.Copied u entry.1 made.1 ∧ w.Copied u entry.2 made.2)
            (fun entry kept made pair =>
              ⟨deeper _ (.key held (mem_of_mem_firsts kept)) _ pair.1,
                deeper _ (.element held (mem_of_mem_firsts kept)) _ pair.2⟩) entries
          have keys : (u.map k).entries.map (fun entry => u.payload entry.1) =
              (firsts (w.keyPayload n) [] (w.map m).entries).map (w.keyPayload n) :=
            map_eq_of_forall₂ (fun a b pair => pair.1.payload fewer known) entries
          rw [← firsts_entries_eq fewer height held] at copied
          refine ⟨k, _, made, key, element, firsts_sublist _ _ _, copied,
            fun _ => ⟨rfl, MapBox.records_of_index ?_ ?_⟩⟩
          · rw [keys, index]
          · rw [keys]
            exact List.pairwise_map.mpr (firsts_distinct _ _ _).1
      | _ =>
          simp only [CopyOf, Reproduces, held] at copy ⊢
          exact copy

/-- A successful deep copy reproduces the value, all that it holds, and so on down. Where the copies
have clean payloads, an item of a set or a key of a map is copied if its copy does not have the payload
of an earlier copy; that payload is the one the item has, unless inside the item two items or keys have
one payload. So the copy of a value has its payload if no set or map inside it repeats a payload, be
the payloads clean or not. -/
theorem deepCopy_reproduces (grounded : w.Grounded) (acyclic : w.Acyclic v) (whole : w.Whole v)
    (done : deepCopy v w = (.ok c, u)) :
    (∃ R : Value → Value → Prop, R v c ∧ ∀ x y, R x y →
      w.Reproduces u R x y ∧ (w.CleanlyCopied x → u.payload y = w.copyPayload x)) ∧
    (∀ x, w.Reaches v x → w.DuplicateFree x ∨ (w.backing x).container? = none →
      w.copyPayload x = w.payload x) ∧
    (w.DuplicateFree v → u.payload c = w.payload v) := by
  obtain ⟨_, known, copied⟩ := deepCopy_copied grounded.space acyclic whole done
  have height : w.Height w.walkBound v := (acyclic.height whole).mono (Nat.le_succ _)
  refine ⟨⟨w.Copied u, copied, fun x y made =>
    ⟨made.reproduces known, fun _ => made.payload known⟩⟩, ?_, ?_⟩
  · rintro x path (free | leaf)
    · exact copyPayloadWithin_eq_payload (height.of_reaches path) free
    · exact copyPayloadWithin_leaf leaf
  · intro free
    rw [copied.payload known]
    exact copyPayloadWithin_eq_payload height free

/-- A set of two sets. The first of them got the numbers 1 and 2, and then 1 was written to the
second number, so that 1 is in it twice; the other one holds 1 only. -/
def setOfSets : World Outside :=
  (World.initial 4 (Outside.initial "host" Table.empty)).after TableHost.embedding
    [.newBasic .int (.int 1) true, .newBasic .int (.int 2) true, .newSet (.set .int),
      .setAdd ⟨0⟩ ⟨2⟩, .setAdd ⟨0⟩ ⟨3⟩, .newSet (.set .int), .setAdd ⟨1⟩ ⟨2⟩,
      .newSet (.set (.set .int)), .setAdd ⟨2⟩ ⟨4⟩, .setAdd ⟨2⟩ ⟨5⟩, .write ⟨3⟩ (.int 1)]

theorem backing_setOfSets : setOfSets.backing ⟨4⟩ = .set ⟨0⟩ := backing_of_set? (by decide +kernel)

theorem plain_setOfSets {x : Value} (number : x = ⟨2⟩ ∨ x = ⟨3⟩) :
    (setOfSets.backing x).plain = true := by
  rcases number with same | same
  · subst same
    decide +kernel
  · subst same
    decide +kernel

theorem holds_setOfSets {x : Value} (step : setOfSets.Holds ⟨4⟩ x) : x = ⟨2⟩ ∨ x = ⟨3⟩ := by
  have items : (setOfSets.set ⟨0⟩).items = [⟨2⟩, ⟨3⟩] := by decide +kernel
  cases step with
  | setItem held item =>
      cases backing_setOfSets.symm.trans held
      rw [items] at item
      exact List.mem_pair.mp item
  | listItem held | key held | element held | member held =>
      cases backing_setOfSets.symm.trans held

theorem not_holds_setOfSets {x y : Value} (number : x = ⟨2⟩ ∨ x = ⟨3⟩) : ¬ setOfSets.Holds x y :=
  not_holds rfl (.inl (plain_setOfSets number)) y

theorem cleanlyCopied_setOfSets : setOfSets.CleanlyCopied ⟨4⟩ := by
  have leaf : ∀ x, x = ⟨2⟩ ∨ x = ⟨3⟩ → (setOfSets.copyPayload x).Clean := by
    rintro x (same | same)
    · subst same
      exact .leaf (by decide +kernel)
    · subst same
      exact .leaf (by decide +kernel)
  have inside : ∀ x, setOfSets.Spans ⟨4⟩ x → ∀ y, setOfSets.Contains x y →
      (setOfSets.copyPayload y).Clean := by
    intro x path y step
    rcases Relation.ReflTransGen.cases_head path with same | ⟨z, first, rest⟩
    · exact leaf y (holds_setOfSets (same ▸ step.holds))
    · have number := holds_setOfSets first.holds
      rcases Relation.ReflTransGen.cases_head rest with same | ⟨_, further, _⟩
      · exact absurd (same ▸ step.holds) (not_holds_setOfSets number)
      · exact absurd further.holds (not_holds_setOfSets number)
  exact ⟨fun x s path held item there => inside x path item (contains_of_set held there),
    fun x m path held entry there => inside x path entry.1 (contains_of_map held there).1⟩

/-- The copy of the set that holds 1 twice holds it once. -/
theorem deepCopy_reproduces_rewrittenItem :
    let u := (deepCopy ⟨4⟩ setOfSets).2
    setOfSets.CleanlyCopied ⟨4⟩ ∧
    (∃ R : Value → Value → Prop, R ⟨4⟩ ⟨9⟩ ∧ ∀ x y, R x y →
      setOfSets.Reproduces u R x y ∧
        (setOfSets.CleanlyCopied x → u.payload y = setOfSets.copyPayload x)) ∧
    (setOfSets.set ⟨0⟩).items = [⟨2⟩, ⟨3⟩] ∧ (u.set ⟨3⟩).items = [⟨7⟩] := by
  intro u
  have grounded : setOfSets.Grounded :=
    grounded_after (TableHost.embedding_within tracks_grounded) 4 _ _
  have height : setOfSets.Height 2 ⟨4⟩ := fun x step y further =>
    not_holds_setOfSets (holds_setOfSets step) further
  have whole : setOfSets.Whole ⟨4⟩ := by
    intro x path
    rcases Relation.ReflTransGen.cases_head path with same | ⟨y, step, rest⟩
    · subst same
      refine ⟨by decide +kernel, ?_⟩
      rw [backing_setOfSets]
      show (0 : Nat) < setOfSets.sets.size
      decide +kernel
    · rcases Relation.ReflTransGen.cases_head rest with same | ⟨z, further, _⟩
      · subst same
        have number := holds_setOfSets step
        refine known_of_plain ?_ (plain_setOfSets number)
        rcases number with same | same
        · subst same
          decide +kernel
        · subst same
          decide +kernel
      · exact absurd further (not_holds_setOfSets (holds_setOfSets step))
  have answer : (deepCopy ⟨4⟩ setOfSets).1 = .ok ⟨9⟩ := by decide +kernel
  have done : deepCopy ⟨4⟩ setOfSets = (.ok ⟨9⟩, u) := Prod.ext answer rfl
  refine ⟨cleanlyCopied_setOfSets, (deepCopy_reproduces grounded height.acyclic whole done).1, ?_, ?_⟩
  · decide +kernel
  · decide +kernel

/-- The two sets in the set of sets have different payloads, so each is the first with its own. Their
copies have one payload, and the copy of the set of sets holds only one of them. -/
theorem deepCopy_setOfSets_leavesOut :
    let copy := deepCopy ⟨6⟩ setOfSets
    firsts setOfSets.payload [] (setOfSets.set ⟨2⟩).items = [⟨4⟩, ⟨5⟩] ∧
      copy.1 = .ok ⟨12⟩ ∧ copy.2.set? ⟨12⟩ = some ⟨5⟩ ∧ (copy.2.set ⟨5⟩).items = [⟨9⟩] := by
  decide +kernel

end World

end ScriptValues
