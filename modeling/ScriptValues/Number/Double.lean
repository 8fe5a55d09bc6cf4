/-! Double-precision numbers as their bit patterns.

Nothing here computes with numbers: they are stored, compared and written, and a bit pattern says
all that this needs. A finite number is `significand * 2 ^ scale`, with its sign. -/

namespace ScriptValues

structure Double where
  bits : UInt64
  deriving DecidableEq

namespace Double

instance : Inhabited Double := ⟨⟨0⟩⟩

def fraction (x : Double) : Nat := x.bits.toNat % Nat.pow 2 52

def exponent (x : Double) : Nat := x.bits.toNat / Nat.pow 2 52 % Nat.pow 2 11

def negative (x : Double) : Bool := decide (Nat.pow 2 63 ≤ x.bits.toNat)

def isNaN (x : Double) : Bool := x.exponent == 2047 && x.fraction != 0

def isInfinite (x : Double) : Bool := x.exponent == 2047 && x.fraction == 0

def isZero (x : Double) : Bool := x.exponent == 0 && x.fraction == 0

def significand (x : Double) : Nat :=
  if x.exponent = 0 then x.fraction else Nat.pow 2 52 + x.fraction

def scale (x : Double) : Int := (max x.exponent 1 : Nat) - 1075

/-- Comparison of numbers: nothing equals a number that is not a number, and the zeros are equal. -/
def numericallyEqual (x y : Double) : Bool :=
  !x.isNaN && !y.isNaN && (x.bits == y.bits || x.isZero && y.isZero)

/-- Comparison of payloads also takes any two patterns that are not numbers as equal. -/
def same (x y : Double) : Bool :=
  x.numericallyEqual y || x.isNaN && y.isNaN

end Double

end ScriptValues
