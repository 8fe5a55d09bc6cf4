/-! Lists cut into parts. -/

namespace ScriptValues.Terminal

variable {α : Type}

/-- Cuts a list before each item that is marked. The first item needs no mark, and items beyond the
last mark stay with those before them. -/
def cut : List α → List Bool → List (List α)
  | [], _ => []
  | item :: rest, marks =>
      match cut rest marks.tail with
      | [] => [[item]]
      | part :: parts =>
          if marks.tail.headD false then [item] :: part :: parts else (item :: part) :: parts

end ScriptValues.Terminal
