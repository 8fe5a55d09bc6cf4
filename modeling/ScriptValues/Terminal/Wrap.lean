import ScriptValues.Terminal.Cut
import ScriptValues.Terminal.Alphanumeric
import ScriptValues.Terminal.Columns
import ScriptValues.Terminal.LineBreak

/-! A line of text laid out on lines of limited width.

The text is cut into words where a line may end, compound words after their hyphens, and words that
are wider than a line wherever it is full. Each line then takes as many words as it can hold, and
blanks at the end of a line are dropped. -/

namespace ScriptValues.Terminal

structure Word where
  text : List Char
  blanks : Nat

namespace Word

def ofPiece (piece : List Char) : Word :=
  let text := (piece.reverse.dropWhile (· == ' ')).reverse
  ⟨text, piece.length - text.length⟩

def span (w : Word) : Nat := columns w.text + w.blanks

def parts (w : Word) (marks : List Bool) : List Word :=
  let texts := cut w.text marks
  texts.dropLast.map (⟨·, 0⟩) ++ [⟨texts.getLast?.getD [], w.blanks⟩]

def line : List Word → List Char
  | [] => []
  | [w] => w.text
  | w :: rest => w.text ++ List.replicate w.blanks ' ' ++ line rest

end Word

def isHyphen (c : Char) : Bool :=
  c == '-' || c == '\u00ad'

def withoutLastMark (marks : List Bool) : List Bool :=
  let marked := marks.reverse.dropWhile (! ·)
  marked.tail.reverse

/-- Where the words of a text begin, for each of its characters: wherever a line may end, except
behind a hyphen. In a text that ends in a hyphen the last two words count as one. -/
def wordStarts (text : List Char) : List Bool :=
  let starts := (breaks text).zipWith (fun mayBreak c => mayBreak && !isHyphen c) (' ' :: text)
  if text.getLast?.any isHyphen then withoutLastMark starts else starts

def glyphs (text : List Char) : List (List Char) :=
  cut text (false :: shown text)

def pieces (text : List Char) : List (List Char) :=
  let visible := ((text.zip (shown text)).filter Prod.snd).map Prod.fst
  (cut (glyphs text) (wordStarts visible)).map List.flatten

/-- Where a word may be cut after a hyphen: between letters or digits. `first` and `second` are the
two characters before the text. -/
def hyphenMarks (first second : Option Char) : List Char → List Bool
  | [] => []
  | c :: rest =>
      (second == some '-' && first.any alphanumeric && alphanumeric c) ::
        hyphenMarks second (some c) rest

/-- Where a word is cut because its next character does not fit any more. `width` columns of the
line are taken. -/
def overflowMarks (limit : Nat) (width : Nat) : List (Char × Bool) → List Bool
  | [] => []
  | (c, isShown) :: rest =>
      if !isShown then false :: overflowMarks limit width rest
      else if 0 < width ∧ limit < width + columnsOf c then
        true :: overflowMarks limit (columnsOf c) rest
      else false :: overflowMarks limit (width + columnsOf c) rest

def Word.fitted (limit : Nat) (w : Word) : List Word :=
  if limit < columns w.text then w.parts (overflowMarks limit 0 (w.text.zip (shown w.text)))
  else [w]

/-- The words that a line is made of. The first is empty, so that the first word of the text can go
to the second line. -/
def words (limit : Nat) (text : List Char) : List Word :=
  ⟨[], 0⟩ :: (pieces text).flatMap fun piece =>
    let w := Word.ofPiece piece
    (w.parts (hyphenMarks none none w.text)).flatMap (Word.fitted limit)

def lineStarts (limit : Nat) (width : Nat) : List Word → List Bool
  | [] => []
  | w :: rest =>
      if limit < width + columns w.text then true :: lineStarts limit w.span rest
      else false :: lineStarts limit (width + w.span) rest

def wrapped (limit : Nat) (text : List Char) : List (List Char) :=
  let all := words limit text
  (cut all (lineStarts limit 0 all)).map Word.line

end ScriptValues.Terminal
