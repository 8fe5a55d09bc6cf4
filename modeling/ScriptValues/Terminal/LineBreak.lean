import ScriptValues.Terminal.BreakClass

/-! Where a line may end within a text, by the rules of Unicode 15.0.

The rules look at the two characters beside a place, where marks count as the character that they
stand on and blanks are passed over. Rules that come first win. -/

namespace ScriptValues.Terminal

namespace BreakClass

def hard (c : BreakClass) : Bool :=
  c matches .mandatory | .carriageReturn | .lineFeed | .nextLine

def mark (c : BreakClass) : Bool :=
  c matches .combining | .zeroWidthJoiner

def closes (c : BreakClass) : Bool :=
  c matches .closing | .closingParenthesis | .exclamation | .separator | .slash

def alphabetic (c : BreakClass) : Bool :=
  c matches .letter | .hebrew

def pictographic (c : BreakClass) : Bool :=
  c matches .ideographic | .emojiBase | .emojiModifier

def hangul (c : BreakClass) : Bool :=
  c matches .leadingJamo | .vowelJamo | .trailingJamo | .openSyllable | .closedSyllable

def aroundNumber (c : BreakClass) : Bool :=
  c matches .afterNumber | .beforeNumber

def joinsWord (before after : BreakClass) : Bool :=
  before.alphabetic && (after.alphabetic || after == .numeric) ||
    before == .numeric && after.alphabetic ||
    before == .separator && after.alphabetic

def joinsNumber (before after : BreakClass) : Bool :=
  before.aroundNumber && (after.alphabetic || (after matches .opening | .numeric)) ||
    (before.alphabetic || (before matches .closing | .closingParenthesis | .numeric)) &&
      after.aroundNumber ||
    (before matches .hyphen | .separator | .numeric | .slash) && after == .numeric ||
    before == .beforeNumber && (after.pictographic || after.hangul) ||
    (before.pictographic || before.hangul) && after == .afterNumber

def joinsSyllable (before after : BreakClass) : Bool :=
  before == .leadingJamo &&
      (after matches .leadingJamo | .vowelJamo | .openSyllable | .closedSyllable) ||
    (before matches .vowelJamo | .openSyllable) && (after matches .vowelJamo | .trailingJamo) ||
    (before matches .trailingJamo | .closedSyllable) && after == .trailingJamo

def joinsParenthesis (before after : BreakClass) : Bool :=
  (before.alphabetic || before == .numeric) && after == .opening ||
    before == .closingParenthesis && (after.alphabetic || after == .numeric)

def joins (before after : BreakClass) : Bool :=
  joinsWord before after || joinsNumber before after || joinsSyllable before after ||
    joinsParenthesis before after || before == .emojiBase && after == .emojiModifier

end BreakClass

structure BreakContext where
  /-- The class of the last character that is neither a mark nor a blank. -/
  last : BreakClass
  /-- Whether blanks follow it. -/
  spaced : Bool
  /-- Whether the text ends in a zero-width joiner. -/
  joined : Bool
  /-- Whether it is a hyphen right behind a Hebrew letter. -/
  afterHebrew : Bool
  /-- Whether it is the first half of a flag. -/
  halfFlag : Bool

namespace BreakContext

def start : BreakContext := ⟨.mandatory, false, false, false, false⟩

def carries (context : BreakContext) : Bool :=
  !context.spaced && !context.last.hard && context.last != .zeroWidthSpace

def after (context : BreakContext) (c : BreakClass) : BreakContext :=
  if c = .space then
    { context with
      last := if context.last.hard then .space else context.last
      spaced := true
      joined := false }
  else if c.mark then
    if context.carries then { context with joined := c == .zeroWidthJoiner }
    else ⟨.letter, false, c == .zeroWidthJoiner, false, false⟩
  else
    { last := c
      spaced := false
      joined := false
      afterHebrew :=
        !context.spaced && context.last == .hebrew && (c matches .hyphen | .breakAfter)
      halfFlag :=
        c == .regional && !(!context.spaced && context.last == .regional && context.halfFlag) }

def parts (context : BreakContext) (c : BreakClass) : Bool :=
  let last := context.last
  let spaced := context.spaced
  if c = .wordJoiner ∨ last = .wordJoiner ∧ ¬ spaced then false
  else if last = .glue ∧ ¬ spaced then false
  else if c = .glue ∧ ¬ spaced ∧ last ≠ .breakAfter ∧ last ≠ .hyphen then false
  else if c.closes ∨ last = .opening then false
  else if last = .quotation ∧ c = .opening then false
  else if (last = .closing ∨ last = .closingParenthesis) ∧ c = .nonstarter then false
  else if last = .breakBoth ∧ c = .breakBoth then false
  else if spaced then true
  else if c = .quotation ∨ last = .quotation then false
  else if c = .contingent ∨ last = .contingent then true
  else if (c matches .breakAfter | .hyphen | .nonstarter) ∨ last = .breakBefore then false
  else if context.afterHebrew ∨ last = .slash ∧ c = .hebrew then false
  else if c = .inseparable then false
  else if last = .regional ∧ c = .regional ∧ context.halfFlag then false
  else !last.joins c

def mayBreak (context : BreakContext) (c : BreakClass) : Bool :=
  if context.last.hard then !(context.last == .carriageReturn && c == .lineFeed)
  else if c.hard ∨ c = .space ∨ c = .zeroWidthSpace then false
  else if context.last = .zeroWidthSpace then true
  else if context.joined then false
  else if c.mark then !context.carries && context.parts .letter
  else context.parts c

end BreakContext

def breaksFrom : BreakContext → List BreakClass → List Bool
  | _, [] => []
  | context, c :: rest => context.mayBreak c :: breaksFrom (context.after c) rest

/-- For each character of a text, whether a line may end before it. Before the first it may not. -/
def breaks (text : List Char) : List Bool :=
  match text.map BreakClass.ofChar with
  | [] => []
  | c :: rest => false :: breaksFrom (BreakContext.start.after c) rest

end ScriptValues.Terminal
