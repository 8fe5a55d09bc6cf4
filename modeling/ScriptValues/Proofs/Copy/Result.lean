import ScriptValues.Proofs.Copy.Copied
import ScriptValues.Proofs.Copy.Separate

/-! A successful deep copy is a copy, and separate from the rest.

The bound of the copying walk is the height of the value, so the walk is never cut off. What is there
when a copy is asked for stays as it is, so a copy that is made stays one while further ones are
made. -/

namespace ScriptValues

variable {E α β : Type}

namespace World

variable {w u u' : World E} {n : Nat} {copy : Value → Step E Value}

/-- From every world that has only allocated since `w`, `copy` makes a copy of `x` as `x` was in
`w`, if it succeeds. -/
def CopiesTo (w : World E) (n : Nat) (copy : Value → Step E Value) (x : Value) : Prop :=
  ∀ u c u', w.Separate u → w.Allocates u → copy x u = (.ok c, u') →
    w.Separate u' ∧ u.Allocates u' ∧ w.CopyOf u' u.arena.slots.size n x c

theorem CopyOf.vacant {floor : Nat} {v c : Value} (copied : w.CopyOf u floor n v c) :
    w.Vacant c := by
  by_cases absent : w.backing v = .absent
  · rw [(copied.absent absent).1]
    exact absent
  · exact vacant_of_new (copied.new absent).1

theorem vacant_of_forall₂ {floor : Nat} {items made : List Value}
    (copied : List.Forall₂ (w.CopyOf u floor n) items made) : ∀ c ∈ made, w.Vacant c := by
  intro c member
  obtain ⟨x, _, copy⟩ := exists_left_of_forall₂ copied member
  exact copy.vacant

theorem vacant_of_entries {floor : Nat} {entries made : List (Value × Value)}
    (copied : List.Forall₂
      (fun entry made => w.CopyOf u floor n entry.1 made.1 ∧ w.CopyOf u floor n entry.2 made.2)
      entries made) : ∀ entry ∈ made, w.Vacant entry.1 ∧ w.Vacant entry.2 := by
  intro entry member
  obtain ⟨x, _, key, element⟩ := exists_left_of_forall₂ copied member
  exact ⟨key.vacant, element.vacant⟩

theorem mapM_copies {items made : List Value} (each : ∀ x ∈ items, w.CopiesTo n copy x)
    (separate : w.Separate u) (known : w.Allocates u)
    (done : items.mapM copy u = (.ok made, u')) :
    w.Separate u' ∧ u.Allocates u' ∧
      List.Forall₂ (w.CopyOf u' u.arena.slots.size n) items made := by
  induction items generalizing u made with
  | nil =>
      rw [List.mapM_nil] at done
      cases done
      exact ⟨separate, composes_allocates.refl _, .nil⟩
  | cons x rest ih =>
      rw [List.mapM_cons] at done
      obtain ⟨c, v, first, done⟩ := Step.ok_of_bind done
      obtain ⟨cs, v', others, done⟩ := Step.ok_of_bind done
      cases done
      obtain ⟨separate, grown, copied⟩ := each x List.mem_cons_self _ _ _ separate known first
      obtain ⟨separate, more, rest⟩ := ih
        (fun y member => each y (List.mem_cons_of_mem _ member)) separate
        (composes_allocates.trans known grown) others
      refine ⟨separate, composes_allocates.trans grown more, .cons ?_ (rest.imp fun _ _ => ?_)⟩
      · exact copied.keep (more.keeps.mono (Nat.zero_le _))
      · exact CopyOf.lower grown.keeps.slots.size

theorem CopyOf.payload {floor : Nat} {v c : Value} (few : n ≤ w.walkBound) (known : w.Allocates u)
    (copied : w.CopyOf u floor n v c) : u.payload c = w.copyPayloadWithin n v := by
  refine copied.payloadWithin known.keeps known.outside (Nat.le_trans few ?_)
  exact Nat.succ_le_succ known.keeps.cells.size

theorem copyItems_copies (few : n ≤ w.walkBound) {items : List Value} {box made : SetBox}
    (each : ∀ x ∈ items, w.CopiesTo n copy x) (separate : w.Separate u) (known : w.Allocates u)
    (done : copyItems copy items box u = (.ok made, u')) :
    w.Separate u' ∧ u.Allocates u' ∧ made.element = box.element ∧
      made.index = box.index ++
        (firsts (w.copyPayloadWithin n) box.index items).map (w.copyPayloadWithin n) ∧
      ∃ cs, made.items = box.items ++ cs ∧
        List.Forall₂ (w.CopyOf u' u.arena.slots.size n)
          (firsts (w.copyPayloadWithin n) box.index items) cs := by
  induction items generalizing u box with
  | nil =>
      cases done
      refine ⟨separate, composes_allocates.refl _, rfl, ?_, [], ?_, .nil⟩
      · rw [firsts, List.map_nil, List.append_nil]
      · rw [List.append_nil]
  | cons x rest ih =>
      rw [copyItems] at done
      obtain ⟨c, v, first, done⟩ := Step.ok_of_bind done
      obtain ⟨separate, grown, copied⟩ := each x List.mem_cons_self _ _ _ separate known first
      have known := composes_allocates.trans known grown
      have payload := copied.payload few known
      change copyItems copy rest (box.add c (v.payload c)).2 v = _ at done
      obtain ⟨separate, more, element, index, cs, filled, rest⟩ := ih
        (fun y member => each y (List.mem_cons_of_mem _ member)) separate known done
      have lower : List.Forall₂ (w.CopyOf u' u.arena.slots.size n) _ cs :=
        rest.imp (fun _ _ => CopyOf.lower grown.keeps.slots.size)
      rw [payload] at element index filled lower
      unfold SetBox.add at element index filled lower
      rw [firsts]
      by_cases there : indexed box.index (w.copyPayloadWithin n x) = true
      · rw [if_pos there] at element index filled lower ⊢
        exact ⟨separate, composes_allocates.trans grown more, element, index, cs, filled, lower⟩
      · rw [if_neg there] at element index filled lower ⊢
        refine ⟨separate, composes_allocates.trans grown more, element, ?_, c :: cs, ?_, ?_⟩
        · rw [index, List.map_cons, List.append_assoc]
          rfl
        · rw [filled, List.append_assoc]
          rfl
        · exact .cons (copied.keep (more.keeps.mono (Nat.zero_le _))) lower

theorem copyEntries_copies (few : n ≤ w.walkBound) {entries : List (Value × Value)}
    {box made : MapBox} (keys : List Payload) (filed : box.index = keys.zipIdx)
    (count : keys.length = box.entries.length)
    (each : ∀ entry ∈ entries, w.CopiesTo n copy entry.1 ∧ w.CopiesTo n copy entry.2)
    (separate : w.Separate u) (known : w.Allocates u)
    (done : copyEntries copy entries box u = (.ok made, u')) :
    w.Separate u' ∧ u.Allocates u' ∧ made.key = box.key ∧ made.element = box.element ∧
      made.index = (keys ++ (firsts (w.keyPayload n) keys entries).map (w.keyPayload n)).zipIdx ∧
      ∃ cs, made.entries = box.entries ++ cs ∧
        List.Forall₂
          (fun entry made => w.CopyOf u' u.arena.slots.size n entry.1 made.1 ∧
            w.CopyOf u' u.arena.slots.size n entry.2 made.2)
          (firsts (w.keyPayload n) keys entries) cs := by
  induction entries generalizing u box keys with
  | nil =>
      cases done
      refine ⟨separate, composes_allocates.refl _, rfl, rfl, ?_, [], ?_, .nil⟩
      · rw [firsts, List.map_nil, List.append_nil, filed]
      · rw [List.append_nil]
  | cons entry rest ih =>
      obtain ⟨k, e⟩ := entry
      rw [copyEntries] at done
      obtain ⟨k', v, first, done⟩ := Step.ok_of_bind done
      obtain ⟨e', v', second, done⟩ := Step.ok_of_bind done
      have here := each (k, e) List.mem_cons_self
      obtain ⟨separate, grown, key⟩ := here.1 _ _ _ separate known first
      have known := composes_allocates.trans known grown
      obtain ⟨separate, more, element⟩ := here.2 _ _ _ separate known second
      have known := composes_allocates.trans known more
      have key := key.keep (more.keeps.mono (Nat.zero_le _))
      have element := element.lower grown.keeps.slots.size
      have grown := composes_allocates.trans grown more
      have payload : v'.payload k' = w.keyPayload n (k, e) := key.payload few known
      change copyEntries copy rest (box.add k' e' (v'.payload k')).2 v' = _ at done
      have keyed : box.keys = keys := by rw [MapBox.keys, filed, List.zipIdx_map_fst]
      rw [payload, MapBox.add, MapBox.position?_isSome, keyed] at done
      have later := fun entry member => each entry (List.mem_cons_of_mem _ member)
      rw [firsts]
      by_cases there : indexed keys (w.keyPayload n (k, e)) = true
      · rw [if_pos there] at done ⊢
        obtain ⟨separate, more, sameKey, sameElement, index, cs, filled, rest⟩ :=
          ih keys filed count later separate known done
        refine ⟨separate, composes_allocates.trans grown more, sameKey, sameElement, index, cs,
          filled, ?_⟩
        exact rest.imp (fun _ _ pair =>
          ⟨pair.1.lower grown.keeps.slots.size, pair.2.lower grown.keeps.slots.size⟩)
      · rw [if_neg there] at done ⊢
        have filed : box.index ++ [(w.keyPayload n (k, e), box.entries.length)] =
            (keys ++ [w.keyPayload n (k, e)]).zipIdx := by
          rw [List.zipIdx_append, List.zipIdx_singleton, filed, count, Nat.zero_add]
        obtain ⟨separate, more, sameKey, sameElement, index, cs, filled, rest⟩ :=
          ih _ filed (by simp [count]) later separate known done
        refine ⟨separate, composes_allocates.trans grown more, sameKey, sameElement, ?_,
          (k', e') :: cs, ?_, .cons ⟨?_, ?_⟩ ?_⟩
        · rw [index, List.map_cons, List.append_assoc]
          rfl
        · rw [filled, List.append_assoc]
          rfl
        · exact key.keep (more.keeps.mono (Nat.zero_le _))
        · exact element.keep (more.keeps.mono (Nat.zero_le _))
        · exact rest.imp (fun _ _ pair =>
            ⟨pair.1.lower grown.keeps.slots.size, pair.2.lower grown.keeps.slots.size⟩)

structure Filling (w v : World E) (n : Nat) (space : SpaceId) (parent : Option SpaceId)
    (owner : Value) (copied : List (String × Value)) (s : Space) : Prop where
  live : v.arena.space? space = some s
  parent : s.parent = parent
  itself : s.bindings.get? selfName = some owner
  members : ∀ name, name ≠ selfName →
    Option.Rel (w.CopyOf v (space.index + 1) n) (copied.lookup name) (s.bindings.get? name)

theorem Filling.keep {v : World E} {space : SpaceId} {parent : Option SpaceId} {owner : Value}
    {copied : List (String × Value)} {s : Space} (filling : w.Filling v n space parent owner copied s)
    (kept : v.Keeps u) : w.Filling u n space parent owner copied s where
  live := by
    rw [kept.space? (Nat.zero_le _) (Arena.allocated_of_space? _ filling.live)]
    exact filling.live
  parent := filling.parent
  itself := filling.itself
  members name other :=
    optionRel_mono (fun _ _ => CopyOf.keep (kept.mono (Nat.zero_le _))) (filling.members name other)

theorem Filling.skip {v : World E} {space : SpaceId} {parent : Option SpaceId} {owner x : Value}
    {copied : List (String × Value)} {s : Space}
    (filling : w.Filling v n space parent owner copied s) :
    w.Filling v n space parent owner (copied ++ [(selfName, x)]) s where
  live := filling.live
  parent := filling.parent
  itself := filling.itself
  members name other := by
    have absent : [(selfName, x)].lookup name = none := by
      rw [List.lookup_cons, beq_eq_false_iff_ne.mpr other]
      rfl
    rw [List.lookup_append, absent, Option.or_none]
    exact filling.members name other

/-- The member is not bound yet, so that its copy is. -/
theorem Filling.bind {v : World E} {space : SpaceId} {parent : Option SpaceId} {owner x c : Value}
    {copied : List (String × Value)} {s : Space} (filling : w.Filling v n space parent owner copied s)
    (writable : space ≠ SpaceId.empty) {name : String} (other : name ≠ selfName)
    (new : copied.lookup name = none) (made : w.CopyOf v (space.index + 1) n x c) :
    w.Filling (v.withArena (v.arena.bind space name c).2) n space parent owner
      (copied ++ [(name, x)]) { s with bindings := s.bindings.insert name c } := by
  have unbound : s.bindings.contains name = false := by
    have member := filling.members name other
    rw [new] at member
    rw [Table.contains]
    generalize s.bindings.get? name = answer at member
    cases member
    rfl
  have bound : (v.arena.bind space name c).2 =
      v.arena.writeSlot space (some { s with bindings := s.bindings.insert name c }) := by
    rw [Arena.bind]
    rw [Arena.writable?, if_neg writable, filling.live]
    simp only [unbound, Bool.false_eq_true, if_false]
  have kept : v.KeepsFrom (space.index + 1) (v.withArena (v.arena.bind space name c).2) :=
    (keepsFrom_refl _ v).changeArena (.inl (Nat.lt_succ_self _)) (Arena.bind_changesAt _ _ _ _)
  refine ⟨?_, filling.parent, ?_, ?_⟩
  · change (v.arena.bind space name c).2.space? space = _
    rw [bound, Arena.space?_writeSlot_live _ filling.live, if_pos rfl]
  · exact (Table.get?_insert_other _ _ (Ne.symm other)).trans filling.itself
  · intro key apart
    rw [List.lookup_append]
    by_cases same : key = name
    · subst same
      rw [new, List.lookup_cons_self, Table.get?_insert_self]
      exact .some (made.keep kept)
    · have absent : [(name, x)].lookup key = none := by
        rw [List.lookup_cons, beq_eq_false_iff_ne.mpr same]
        rfl
      rw [absent, Option.or_none, Table.get?_insert_other _ _ same]
      exact optionRel_mono (fun _ _ => CopyOf.keep kept) (filling.members key apart)

theorem lookup_eq_none_of_distinct {copied rest : List (String × Value)} {name : String} {x : Value}
    (distinct : ((copied ++ (name, x) :: rest).map Prod.fst).Nodup) :
    copied.lookup name = none := by
  cases found : copied.lookup name with
  | none => rfl
  | some y =>
      exfalso
      rw [List.map_append, List.map_cons, List.nodup_append] at distinct
      have here := List.mem_map_of_mem (f := Prod.fst) (Table.mem_of_lookup found)
      exact distinct.2.2 _ here _ List.mem_cons_self rfl

theorem copyMembers_copies {v : World E} {space : SpaceId} {parent : Option SpaceId} {owner : Value}
    {rows copied : List (String × Value)} {s : Space}
    (each : ∀ row ∈ rows, row.1 ≠ selfName → w.CopiesTo n copy row.2)
    (distinct : ((copied ++ rows).map Prod.fst).Nodup) (writable : space ≠ SpaceId.empty)
    (new : w.arena.slots.size ≤ space.index) (separate : w.Separate v) (known : w.Allocates v)
    (filling : w.Filling v n space parent owner copied s)
    (done : copyMembers copy space rows v = (.ok (), u')) :
    w.Separate u' ∧ v.KeepsFrom (space.index + 1) u' ∧
      ∃ t, w.Filling u' n space parent owner (copied ++ rows) t := by
  induction rows generalizing v copied s with
  | nil =>
      cases done
      rw [List.append_nil]
      exact ⟨separate, keepsFrom_refl _ _, s, filling⟩
  | cons row rest ih =>
      obtain ⟨name, x⟩ := row
      have later := fun row member => each row (List.mem_cons_of_mem _ member)
      have regroup : copied ++ (name, x) :: rest = copied ++ [(name, x)] ++ rest := by simp
      rw [copyMembers] at done
      by_cases itself : name = selfName
      · rw [if_pos itself] at done
        subst itself
        rw [regroup] at distinct ⊢
        exact ih later distinct separate known filling.skip done
      · rw [if_neg itself] at done
        obtain ⟨c, v', first, done⟩ := Step.ok_of_bind done
        obtain ⟨separate, grown, made⟩ :=
          each (name, x) List.mem_cons_self itself _ _ _ separate known first
        have unbound := lookup_eq_none_of_distinct distinct
        have above : space.index + 1 ≤ v.arena.slots.size :=
          Arena.allocated_of_space? _ filling.live
        have made := made.lower above
        have bound := (filling.keep grown.keeps).bind writable itself unbound made
        have known := (composes_allocates.trans known grown).bind new name c
        have separate := separate.bind new name made.vacant
        rw [regroup] at distinct ⊢
        obtain ⟨separate, kept, filled⟩ := ih later distinct separate known bound done
        refine ⟨separate, ?_, filled⟩
        have before : v.KeepsFrom (space.index + 1) v' := grown.keeps.mono (Nat.zero_le _)
        refine (before.trans ?_).trans kept
        exact (keepsFrom_refl _ v').changeArena (.inl (Nat.lt_succ_self _))
          (Arena.bind_changesAt _ _ _ _)

theorem Keeps.duplicate {v : World E} (keeps : w.Keeps v) {x : Value}
    (present : x.index < w.cells.size) (b : Backing E) :
    w.Duplicate (v.duplicate x b).2 x (v.duplicate x b).1 b where
  new := keeps.cells.size
  present := by
    change v.cells.size < (v.cells.push _).size
    rw [Heap.size_push]
    omega
  cell := by
    change (v.cells.push _).read v.cells.size = _
    rw [Heap.read_push_self, keeps.cell present]

theorem Separate.duplicate {v : World E} (separate : w.Separate v) (x : Value) {b : Backing E}
    (beyond : w.Beyond b) : w.Separate (v.duplicate x b).2 :=
  separate.addCell beyond

theorem allocates_duplicate (v : World E) (x : Value) (b : Backing E) :
    v.Allocates (v.duplicate x b).2 :=
  allocates_addCell v _

section Containers

variable {v : World E} {x : Value} {floor : Nat} (separate : w.Separate v) (known : w.Allocates v)
  (present : x.index < w.cells.size)

include separate known present

theorem copyOf_list {l : ListId} (held : w.backing x = .list l) {items : List Value}
    (copied : List.Forall₂ (w.CopyOf v floor n) (w.list l).items items) {k : ListId} {u : World E}
    (stored : v.addList { w.list l with items } = (k, u)) :
    w.Separate (u.duplicate x (.list k)).2 ∧
      w.CopyOf (u.duplicate x (.list k)).2 floor (n + 1) x (u.duplicate x (.list k)).1 := by
  cases stored
  have grown := allocates_addList v { w.list l with items }
  have kept := (composes_allocates.trans grown (allocates_duplicate _ x (.list ⟨v.lists.size⟩))).keeps
  constructor
  · apply Separate.duplicate (separate.addList (vacant_of_forall₂ copied)) x
    exact known.keeps.lists.size
  · rw [CopyOf, held]
    refine ⟨⟨v.lists.size⟩, ?_, ?_, ?_, ?_⟩
    · exact (composes_allocates.trans known grown).keeps.duplicate present _
    · change v.lists.size < (v.lists.push _).size
      rw [Heap.size_push]
      omega
    · change ((v.lists.push _).read v.lists.size).element = _
      rw [Heap.read_push_self]
    · change List.Forall₂ _ _ ((v.lists.push _).read v.lists.size).items
      rw [Heap.read_push_self]
      exact copied.imp (fun _ _ => CopyOf.keep (kept.mono (Nat.zero_le _)))

theorem copyOf_set {s : SetId} (held : w.backing x = .set s) {box : SetBox}
    (element : box.element = (w.set s).element)
    (index : box.index =
      (firsts (w.copyPayloadWithin n) [] (w.set s).items).map (w.copyPayloadWithin n))
    (copied : List.Forall₂ (w.CopyOf v floor n) (firsts (w.copyPayloadWithin n) [] (w.set s).items)
      box.items)
    {t : SetId} {u : World E} (stored : v.addSet box = (t, u)) :
    w.Separate (u.duplicate x (.set t)).2 ∧
      w.CopyOf (u.duplicate x (.set t)).2 floor (n + 1) x (u.duplicate x (.set t)).1 := by
  cases stored
  have grown := allocates_addSet v box
  have kept := (composes_allocates.trans grown (allocates_duplicate _ x (.set ⟨v.sets.size⟩))).keeps
  constructor
  · apply Separate.duplicate (separate.addSet (vacant_of_forall₂ copied)) x
    exact known.keeps.sets.size
  · rw [CopyOf, held]
    refine ⟨⟨v.sets.size⟩, ?_, ?_, ?_, ?_, ?_⟩
    · exact (composes_allocates.trans known grown).keeps.duplicate present _
    · change v.sets.size < (v.sets.push _).size
      rw [Heap.size_push]
      omega
    · change ((v.sets.push _).read v.sets.size).element = _
      rw [Heap.read_push_self, element]
    · change ((v.sets.push _).read v.sets.size).index = _
      rw [Heap.read_push_self, index]
    · change List.Forall₂ _ _ ((v.sets.push _).read v.sets.size).items
      rw [Heap.read_push_self]
      exact copied.imp (fun _ _ => CopyOf.keep (kept.mono (Nat.zero_le _)))

theorem copyOf_map {m : MapId} (held : w.backing x = .map m) {box : MapBox}
    (key : box.key = (w.map m).key) (element : box.element = (w.map m).element)
    (index : box.index =
      ((firsts (w.keyPayload n) [] (w.map m).entries).map (w.keyPayload n)).zipIdx)
    (copied : List.Forall₂
      (fun entry made => w.CopyOf v floor n entry.1 made.1 ∧ w.CopyOf v floor n entry.2 made.2)
      (firsts (w.keyPayload n) [] (w.map m).entries) box.entries)
    {k : MapId} {u : World E} (stored : v.addMap box = (k, u)) :
    w.Separate (u.duplicate x (.map k)).2 ∧
      w.CopyOf (u.duplicate x (.map k)).2 floor (n + 1) x (u.duplicate x (.map k)).1 := by
  cases stored
  have grown := allocates_addMap v box
  have kept := (composes_allocates.trans grown (allocates_duplicate _ x (.map ⟨v.maps.size⟩))).keeps
  constructor
  · apply Separate.duplicate (separate.addMap (vacant_of_entries copied)) x
    exact known.keeps.maps.size
  · rw [CopyOf, held]
    refine ⟨⟨v.maps.size⟩, ?_, ?_, ?_, ?_, ?_, ?_⟩
    · exact (composes_allocates.trans known grown).keeps.duplicate present _
    · change v.maps.size < (v.maps.push _).size
      rw [Heap.size_push]
      omega
    · change ((v.maps.push _).read v.maps.size).key = _
      rw [Heap.read_push_self, key]
    · change ((v.maps.push _).read v.maps.size).element = _
      rw [Heap.read_push_self, element]
    · change ((v.maps.push _).read v.maps.size).index = _
      rw [Heap.read_push_self, index]
    · change List.Forall₂ _ _ ((v.maps.push _).read v.maps.size).entries
      rw [Heap.read_push_self]
      exact copied.imp (fun _ _ pair =>
        ⟨pair.1.keep (kept.mono (Nat.zero_le _)), pair.2.keep (kept.mono (Nat.zero_le _))⟩)

end Containers

theorem newSpace_space? {parent : Option SpaceId} {id : SpaceId} {v : World E}
    (made : Step.newSpace parent u = (.ok id, v)) :
    ∃ depth, v.arena.space? id = some ⟨Table.empty, parent, depth⟩ := by
  obtain ⟨depth, same, grown⟩ := newSpace_ok made
  subst same grown
  refine ⟨depth, ?_⟩
  change (u.arena.allocate parent depth).2.space? _ = _
  rw [Arena.space?_allocate, if_pos rfl]

theorem Separate.newSpace {parent : Option SpaceId} {id : SpaceId} {v : World E}
    (separate : w.Separate u) (made : Step.newSpace parent u = (.ok id, v)) : w.Separate v := by
  obtain ⟨depth, _, grown⟩ := newSpace_ok made
  subst grown
  exact separate.allocate parent depth

theorem Separate.duplicateInto {v : World E} (separate : w.Separate v) (known : w.Allocates v)
    {id : SpaceId} (new : w.arena.slots.size ≤ id.index) (x : Value) (p : Payload) :
    w.Separate (v.duplicateInto x p id).2 :=
  (separate.duplicate x (b := .aggregate p id) new).bind new selfName
    (vacant_of_new known.keeps.cells.size)

theorem filling_start {v : World E} {parent : Option SpaceId} {id : SpaceId}
    (made : Step.newSpace parent u = (.ok id, v)) (writable : id ≠ SpaceId.empty) (x : Value)
    (p : Payload) :
    ∃ s, w.Filling (v.duplicateInto x p id).2 n id parent (v.duplicateInto x p id).1 [] s := by
  obtain ⟨depth, live⟩ := newSpace_space? made
  refine ⟨⟨Table.empty.insert selfName (v.duplicateInto x p id).1, parent, depth⟩, ?_, rfl, ?_, ?_⟩
  · change (v.arena.bind id selfName _).2.space? id = _
    rw [Arena.bind]
    rw [Arena.writable?, if_neg writable, live]
    dsimp only
    rw [if_neg (show ¬ (Table.empty : Table Value).contains selfName = true from fun h => by cases h)]
    rw [Arena.space?_writeSlot_live _ live, if_pos rfl]
    rfl
  · exact Table.get?_insert_self _ _ _
  · intro name other
    rw [Table.get?_insert_other _ _ other]
    exact .none

theorem copyOf_aggregate (base : w.arena.Allocated SpaceId.empty) {v : World E} {x : Value}
    (separate : w.Separate u) (known : w.Allocates u) (present : x.index < w.cells.size)
    {p : Payload} {space id : SpaceId} (held : w.backing x = .aggregate p space)
    (members : ∀ row ∈ (w.arena.bindings space).rows, row.1 ≠ selfName → w.CopiesTo n copy row.2)
    (made : Step.newSpace ((w.arena.space? space).bind (·.parent)) u = (.ok id, v))
    (filled : copyMembers copy id (w.arena.bindings space).rows (v.duplicateInto x p id).2 =
      (.ok (), u')) :
    w.Separate u' ∧ w.CopyOf u' u.arena.slots.size (n + 1) x (v.duplicateInto x p id).1 := by
  obtain ⟨fresh, grown⟩ := newSpace_allocates made
  have new : w.arena.slots.size ≤ id.index := Nat.le_trans known.keeps.slots.size fresh
  have writable : id ≠ SpaceId.empty := by
    intro shared
    rw [shared] at new
    exact Nat.not_lt_of_le new base
  have known := composes_allocates.trans known grown
  have separate := (separate.newSpace made).duplicateInto known new x p
  obtain ⟨s, filling⟩ := filling_start (w := w) (n := n) made writable x p
  have duplicate := known.keeps.duplicate present (.aggregate p id)
  have known := known.duplicateInto new x p
  obtain ⟨separate, kept, t, filling⟩ := copyMembers_copies members
    (by exact (w.arena.bindings space).distinct) writable new separate known filling filled
  refine ⟨separate, ?_⟩
  rw [CopyOf, held]
  refine ⟨id, t, ?_, fresh, filling.live, filling.parent, filling.itself, ?_⟩
  · have bound : (v.duplicate x (.aggregate p id)).2.KeepsFrom (id.index + 1)
        (v.duplicateInto x p id).2 :=
      (keepsFrom_refl _ _).changeArena (.inl (Nat.lt_succ_self _)) (Arena.bind_changesAt _ _ _ _)
    exact duplicate.keep (bound.trans kept)
  · intro name other
    exact optionRel_mono (fun _ _ => CopyOf.lower (Nat.le_succ_of_le fresh))
      (filling.members name other)

/-- What is copied within the height of a value is a copy, made without touching what was there. -/
theorem deepCopyWithin_copies (base : w.arena.Allocated SpaceId.empty) (few : n ≤ w.walkBound)
    {x : Value} (height : w.Height n x) (whole : w.Whole x) :
    w.CopiesTo n (deepCopyWithin n) x := by
  induction n generalizing x with
  | zero => exact height.elim
  | succ n ih =>
      intro u c u' separate known done
      have fewer : n ≤ w.walkBound := Nat.le_of_succ_le few
      have deeper : ∀ y, w.Holds x y → w.CopiesTo n (deepCopyWithin n) y :=
        fun y step => ih fewer (height y step) (whole.of_holds step)
      have grown := deepCopyWithin_allocates (n + 1) x u
      rw [done] at grown
      obtain ⟨present, there⟩ := whole.known
      have same := known.keeps.backing present
      cases held : w.backing x with
      | absent =>
          rw [deepCopyWithin_absent (same.trans held)] at done
          cases done
          rw [CopyOf, held]
          exact ⟨separate, grown, rfl, present⟩
      | aggregate p space =>
          rw [held] at there
          have live := known.keeps.space? (Nat.zero_le _) there
          have bindings : u.arena.bindings space = w.arena.bindings space := by
            unfold Arena.bindings
            rw [live]
          rw [deepCopyWithin_aggregate (same.trans held), live, bindings] at done
          rcases made : Step.newSpace ((w.arena.space? space).bind (·.parent)) u with ⟨_ | id, v⟩
          · rw [made] at done
            cases done
          · rw [made] at done
            dsimp only at done
            rcases filled : copyMembers (deepCopyWithin n) id (w.arena.bindings space).rows
              (v.duplicateInto x p id).2 with ⟨_ | _, v'⟩
            · rw [filled] at done
              cases done
            · rw [filled] at done
              cases done
              have members : ∀ row ∈ (w.arena.bindings space).rows, row.1 ≠ selfName →
                  w.CopiesTo n (deepCopyWithin n) row.2 := fun row member other =>
                deeper row.2 (.member held other ((Table.mem_rows_iff _ row.1 row.2).mp member))
              obtain ⟨separate, copy⟩ :=
                copyOf_aggregate base separate known present held members made filled
              exact ⟨separate, grown, copy⟩
      | list l =>
          rw [held] at there
          rw [deepCopyWithin_list (same.trans held), known.keeps.list there] at done
          rcases copied : (w.list l).items.mapM (deepCopyWithin n) u with ⟨_ | items, v⟩
          · rw [copied] at done
            cases done
          · rw [copied] at done
            cases done
            obtain ⟨separate, more, made⟩ := mapM_copies
              (fun y member => deeper y (.listItem held member)) separate known copied
            have known := composes_allocates.trans known more
            obtain ⟨separate, copy⟩ := copyOf_list separate known present held made rfl
            exact ⟨separate, grown, copy⟩
      | set s =>
          rw [held] at there
          rw [deepCopyWithin_set (same.trans held), known.keeps.set there] at done
          rcases copied : copyItems (deepCopyWithin n) (w.set s).items (w.set s).cleared u
            with ⟨_ | box, v⟩
          · rw [copied] at done
            cases done
          · rw [copied] at done
            cases done
            obtain ⟨separate, more, element, index, cs, filled, made⟩ := copyItems_copies fewer
              (fun y member => deeper y (.setItem held member)) separate known copied
            have known := composes_allocates.trans known more
            have items : box.items = cs := filled
            rw [← items] at made
            obtain ⟨separate, copy⟩ :=
              copyOf_set separate known present held element index made rfl
            exact ⟨separate, grown, copy⟩
      | map m =>
          rw [held] at there
          rw [deepCopyWithin_map (same.trans held), known.keeps.map there] at done
          rcases copied : copyEntries (deepCopyWithin n) (w.map m).entries (w.map m).cleared u
            with ⟨_ | box, v⟩
          · rw [copied] at done
            cases done
          · rw [copied] at done
            cases done
            obtain ⟨separate, more, key, element, index, cs, filled, made⟩ :=
              copyEntries_copies fewer [] rfl rfl
                (fun entry member => ⟨deeper _ (.key held member), deeper _ (.element held member)⟩)
                separate known copied
            have known := composes_allocates.trans known more
            have entries : box.entries = cs := filled
            rw [← entries] at made
            obtain ⟨separate, copy⟩ :=
              copyOf_map separate known present held key element index made rfl
            exact ⟨separate, grown, copy⟩
      | _ =>
          have plain : (u.backing x).plain = true := by
            rw [same, held]
            rfl
          rw [deepCopyWithin_plain plain, same, held] at done
          cases done
          refine ⟨separate.duplicate x trivial, grown, ?_⟩
          rw [CopyOf, held]
          exact known.keeps.duplicate present _

end World

end ScriptValues
