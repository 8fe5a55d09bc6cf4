import ScriptValues.Text.Unprintable

/-! Texts in double quotes, as debug output shows them. -/

namespace ScriptValues

def escapedCode (c : Char) : List Char :=
  '\\' :: 'u' :: '\x7b' :: Nat.toDigits 16 c.toNat ++ ['\x7d']

def escaped (c : Char) : List Char :=
  if c = '"' ∨ c = '\\' then ['\\', c]
  else if c = '\n' then ['\\', 'n']
  else if c = '\r' then ['\\', 'r']
  else if c = '\t' then ['\\', 't']
  else if c = '\x00' then ['\\', '0']
  else if unprintable c then escapedCode c
  else [c]

def quoted (text : String) : String :=
  String.ofList ('"' :: text.toList.flatMap escaped ++ ['"'])

def enclosed (opening : String) (items : List String) (closing : String) : String :=
  opening ++ String.intercalate ", " items ++ closing

end ScriptValues
