/-! Tests over a list whose members carry their membership. -/

namespace ScriptValues

theorem all_attach_val {α : Type} (items : List α) (test : α → Bool) :
    (items.attach.all fun a => test a.1) = items.all test := by
  conv => rhs; rw [← List.attach_map_subtype_val items, List.all_map]
  rfl

theorem any_attach_val {α : Type} (items : List α) (test : α → Bool) :
    (items.attach.any fun a => test a.1) = items.any test := by
  conv => rhs; rw [← List.attach_map_subtype_val items, List.any_map]
  rfl

end ScriptValues
