/-! Control sequences of a terminal, such as those that switch colours.

A sequence starts with an escape character. With `[` it goes on to a letter or one of the signs from
`@` to `~`; with `]` it goes on to a bell or to an escape character with a backslash; with any other
character it ends there. A text may end inside a sequence. -/

namespace ScriptValues.Terminal

inductive SequenceState where
  | outside
  | opened
  | control
  /-- `escaped` says that the last character was an escape character. -/
  | command (escaped : Bool)

namespace SequenceState

def next : SequenceState → Char → SequenceState
  | outside, c => if c = '\x1b' then opened else outside
  | opened, c => if c = '[' then control else if c = ']' then command false else outside
  | control, c => if '@' ≤ c ∧ c ≤ '~' then outside else control
  | command escaped, c =>
      if c = '\x07' ∨ escaped ∧ c = '\\' then outside else command (c == '\x1b')

def shows : SequenceState → Char → Bool
  | outside, c => c != '\x1b'
  | _, _ => false

end SequenceState

def shownFrom : SequenceState → List Char → List Bool
  | _, [] => []
  | state, c :: rest => state.shows c :: shownFrom (state.next c) rest

def shown (text : List Char) : List Bool :=
  shownFrom .outside text

end ScriptValues.Terminal
