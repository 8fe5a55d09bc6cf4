import ScriptValues.Proofs.Collection.Log

/-! The first items with their payloads: what is left of items when a set or map is filled with them
one by one. -/

namespace ScriptValues

variable {α β : Type} {f : α → Payload} {index : List Payload} {items : List α}

/-- The items that are added when a container is filled one by one, under their payloads, and holds
`index` already. -/
def firsts (payload : α → Payload) : List Payload → List α → List α
  | _, [] => []
  | index, x :: rest =>
      if World.indexed index (payload x) then firsts payload index rest
      else x :: firsts payload (index ++ [payload x]) rest

theorem firsts_sublist (payload : α → Payload) (index : List Payload) (items : List α) :
    (firsts payload index items).Sublist items := by
  induction items generalizing index with
  | nil => exact .slnil
  | cons item rest ih =>
      rw [firsts]
      split
      · exact (ih index).cons item
      · exact (ih _).cons_cons item

theorem mem_of_mem_firsts {payload : α → Payload} {index : List Payload} {items : List α} {x : α}
    (kept : x ∈ firsts payload index items) : x ∈ items :=
  (firsts_sublist payload index items).subset kept

theorem firsts_congr {f g : α → Payload} {index : List Payload} {items : List α}
    (same : ∀ x ∈ items, f x = g x) : firsts f index items = firsts g index items := by
  induction items generalizing index with
  | nil => rfl
  | cons item rest ih =>
      have here := same item List.mem_cons_self
      have later : ∀ index, firsts f index rest = firsts g index rest :=
        fun index => ih (fun x member => same x (List.mem_cons_of_mem _ member))
      simp only [firsts, here, later]

theorem firsts_forall₂ {R : α → β → Prop} {g : β → Payload} {others : List β}
    (matched : List.Forall₂ R items others) (same : ∀ a b, R a b → f a = g b) :
    List.Forall₂ R (firsts f index items) (firsts g index others) := by
  induction matched generalizing index with
  | nil => exact .nil
  | cons here _ ih =>
      rw [firsts, firsts, same _ _ here]
      split
      · exact ih
      · exact .cons here ih

theorem indexed_append (index : List Payload) (q p : Payload) :
    World.indexed (index ++ [q]) p = (World.indexed index p || p.same q) := by
  simp [World.indexed]

theorem firsts_distinct (f : α → Payload) (index : List Payload) (items : List α) :
    (firsts f index items).Pairwise (fun a b => (f b).same (f a) = false) ∧
      ∀ x ∈ firsts f index items, World.indexed index (f x) = false := by
  induction items generalizing index with
  | nil => exact ⟨.nil, nofun⟩
  | cons item rest ih =>
      rw [firsts]
      split
      · exact ih index
      · rename_i new
        obtain ⟨distinct, apart⟩ := ih (index ++ [f item])
        simp only [indexed_append, Bool.or_eq_false_iff] at apart
        refine ⟨.cons (fun x kept => (apart x kept).2) distinct, fun x kept => ?_⟩
        rcases List.mem_cons.mp kept with here | later
        · exact here ▸ eq_false_of_ne_true new
        · exact (apart x later).1

theorem firsts_eq_self (distinct : items.Pairwise fun a b => (f b).same (f a) = false)
    (apart : ∀ x ∈ items, World.indexed index (f x) = false) : firsts f index items = items := by
  induction items generalizing index with
  | nil => rfl
  | cons item rest ih =>
      obtain ⟨first, distinct⟩ := List.pairwise_cons.mp distinct
      rw [firsts, apart item List.mem_cons_self, if_neg Bool.false_ne_true]
      congr 1
      refine ih distinct fun x later => ?_
      rw [indexed_append, apart x (List.mem_cons_of_mem _ later), first x later, Bool.or_false]

theorem eraseDupsBy_loop_eq (f : α → Payload) (items kept : List α) :
    List.eraseDupsBy.loop (fun a b => (f a).same (f b)) items kept =
      kept.reverse ++ firsts f (kept.reverse.map f) items := by
  induction items generalizing kept with
  | nil => exact (List.append_nil _).symm
  | cons item rest ih =>
      have there : kept.any (fun b => (f item).same (f b)) =
          World.indexed (kept.reverse.map f) (f item) := by
        rw [World.indexed, List.any_map, List.any_reverse]
        rfl
      rw [List.eraseDupsBy.loop, there, firsts]
      cases World.indexed (kept.reverse.map f) (f item) with
      | true => exact ih kept
      | false =>
          simp only [ih, List.reverse_cons, List.map_append, List.append_assoc]
          rfl

/-- The items that are added one by one to what is empty are those that are left when the
duplicates are erased. -/
theorem firsts_nil_eq (f : α → Payload) (items : List α) :
    firsts f [] items = items.eraseDupsBy fun a b => (f a).same (f b) :=
  (eraseDupsBy_loop_eq f items []).symm

theorem firsts_firsts (f : α → Payload) (items : List α) :
    firsts f [] (firsts f [] items) = firsts f [] items :=
  firsts_eq_self (firsts_distinct f [] items).1 (firsts_distinct f [] items).2

namespace Log

variable {rows : Log α}

theorem foldl_add_eq (log rows : Log α) :
    rows.foldl (fun log row => log.add row.1 row.2) log =
      log ++ firsts Prod.snd (log.map Prod.snd) rows := by
  induction rows generalizing log with
  | nil => exact (List.append_nil log).symm
  | cons row rest ih =>
      rw [List.foldl_cons, ih, Log.add, firsts, indexed_payloads]
      split
      · rfl
      · rw [List.map_append, List.append_assoc]
        rfl

theorem ofRows_eq (rows : Log α) : ofRows rows = firsts Prod.snd [] rows := foldl_add_eq [] rows

theorem ofRows_forall₂ {R : α → β → Prop} {f : β → Payload} {rows : Log α} {items : List β}
    (matched : List.Forall₂ (fun row item => R row.1 item ∧ row.2 = f item) rows items) :
    List.Forall₂ R ((ofRows rows).map Prod.fst)
      (items.eraseDupsBy fun a b => (f a).same (f b)) := by
  rw [ofRows_eq, ← firsts_nil_eq, List.forall₂_map_left_iff]
  exact (firsts_forall₂ matched fun _ _ row => row.2).imp fun _ _ row => row.1

end Log

end ScriptValues
