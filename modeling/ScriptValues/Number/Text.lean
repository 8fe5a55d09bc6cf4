import ScriptValues.Number.Double
import ScriptValues.Number.Shortest

/-! Numbers as text: shortest digits, never an exponent. -/

namespace ScriptValues

namespace Decimal

def padded (count : Nat) (digits : List Char) : List Char :=
  List.replicate (count - digits.length) '0' ++ digits

def positional (decimal : Decimal) : String :=
  let digits := Nat.toDigits 10 decimal.digits
  if 0 ≤ decimal.power then String.ofList (digits ++ List.replicate decimal.power.toNat '0')
  else
    let places := (-decimal.power).toNat
    let all := padded (places + 1) digits
    String.ofList (all.take (all.length - places) ++ '.' :: all.drop (all.length - places))

end Decimal

/-- How a number is laid out: the words for what is not finite, and whether a whole number below
`10 ^ 16` in magnitude keeps one place after the point. -/
structure NumberLayout where
  notANumber : String
  infinity : String
  wholePlace : Bool

/-- Numbers in a script: a whole number still looks like a float. -/
def scriptNumber : NumberLayout := ⟨"nan", "inf", true⟩

def debugNumber : NumberLayout := ⟨"NaN", "inf", false⟩

namespace Double

def shortest (x : Double) : Decimal :=
  if x.isZero then ⟨0, 0⟩
  else shortestDecimal x.significand x.scale (x.fraction == 0 && decide (1 < x.exponent))

def isSmallWhole (x : Double) : Bool :=
  let up := Nat.pow 2 x.scale.toNat
  let down := Nat.pow 2 (-x.scale).toNat
  x.significand * up % down == 0 && decide (x.significand * up < Nat.pow 10 16 * down)

def text (layout : NumberLayout) (x : Double) : String :=
  if x.isNaN then layout.notANumber
  else
    let sign := if x.negative then "-" else ""
    if x.isInfinite then sign ++ layout.infinity
    else
      let places := if layout.wholePlace && x.isSmallWhole then ".0" else ""
      sign ++ x.shortest.positional ++ places

end Double

end ScriptValues
