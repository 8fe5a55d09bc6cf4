/-! The fewest decimal digits that determine a binary number.

A magnitude `significand * 2 ^ scale` stands for all reals that round to it. Of the decimals in that
interval the ones with fewest digits are taken, and of those the nearest; the upper one wins
a tie. -/

namespace ScriptValues

/-- A positive decimal `digits * 10 ^ power`. -/
structure Decimal where
  digits : Nat
  power : Int
  deriving DecidableEq

/-- The reals that round to one number, as fractions over `unit`: the number is `value`, and
the interval reaches from `low` to `high`. -/
structure RoundingInterval where
  value : Nat
  low : Nat
  high : Nat
  unit : Nat
  closed : Bool

namespace RoundingInterval

/-- `narrow` says that the next smaller number is only half as far away as the next larger one. -/
def around (significand : Nat) (scale : Int) (narrow : Bool) : RoundingInterval :=
  let up := Nat.pow 2 scale.toNat
  { value := 4 * significand * up
    low := (4 * significand - if narrow then 1 else 2) * up
    high := (4 * significand + 2) * up
    unit := 4 * Nat.pow 2 (-scale).toNat
    closed := significand % 2 == 0 }

def contains (interval : RoundingInterval) (numerator denominator : Nat) : Bool :=
  let scaled := numerator * interval.unit
  if interval.closed then
    decide (interval.low * denominator ≤ scaled) && decide (scaled ≤ interval.high * denominator)
  else
    decide (interval.low * denominator < scaled) && decide (scaled < interval.high * denominator)

/-- The better of the two neighbours of the value among the multiples of `10 ^ power`, if one of
them rounds back. -/
def onGrid (interval : RoundingInterval) (power : Int) : Option Decimal :=
  let step := Nat.pow 10 power.toNat
  let denominator := Nat.pow 10 (-power).toNat
  let below := interval.value * denominator / (interval.unit * step)
  let above := below + 1
  let belowFits := below != 0 && interval.contains (below * step) denominator
  let aboveFits := interval.contains (above * step) denominator
  let twice := 2 * (interval.value * denominator)
  let upper := decide ((below + above) * (interval.unit * step) ≤ twice)
  if belowFits && !(aboveFits && upper) then some ⟨below, power⟩
  else if aboveFits then some ⟨above, power⟩
  else none

def firstOnGrids (interval : RoundingInterval) : Nat → Int → Option Decimal
  | 0, _ => none
  | grids + 1, power =>
      match interval.onGrid power with
      | some decimal => some decimal
      | none => firstOnGrids interval grids (power - 1)

end RoundingInterval

def decimalOrder (significand : Nat) (scale : Int) : Int :=
  if 0 ≤ scale then
    (Nat.toDigits 10 (significand * Nat.pow 2 scale.toNat)).length - 1
  else
    let places := (-scale).toNat
    ((Nat.toDigits 10 (significand * Nat.pow 10 places / Nat.pow 2 places)).length : Int) - 1 - places

/-- Seventeen digits always determine the number; the first grid tried is coarser than one digit. -/
def shortestDecimal (significand : Nat) (scale : Int) (narrow : Bool) : Decimal :=
  ((RoundingInterval.around significand scale narrow).firstOnGrids 19
    (decimalOrder significand scale + 1)).getD ⟨significand, 0⟩

end ScriptValues
