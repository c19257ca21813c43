import Workflow.Decimal.Shortest

/-!
# Remainders of floating-point numbers

The remainder of a division whose quotient is cut off at the point. It is exact
and has the sign of the dividend.
-/

namespace Workflow.Condition

/-- A positive finite number as a whole number times a power of two. -/
def binaryParts (x : Float) : Nat × Int :=
  let bits : Nat := x.toBits.toNat
  let exponent : Nat := bits / Decimal.hiddenBit % 2048
  let fraction : Nat := bits % Decimal.hiddenBit
  if exponent = 0 then (fraction, -1074)
  else (fraction + Decimal.hiddenBit, (exponent : Int) - 1075)

/-- The remainder of `x` by `y`. On the grid of the finer of the two it is at most the dividend or
less than the divisor, so no digit is lost. -/
def remainder (x y : Float) : Float :=
  if x.isNaN || y.isNaN || x.isInf || y == 0 then 0.0 / 0.0
  else if y.isInf || x == 0 then x
  else
    let (a, i) := binaryParts x.abs
    let (b, j) := binaryParts y.abs
    let low := min i j
    let r := a * Nat.pow 2 (i - low).toNat % (b * Nat.pow 2 (j - low).toNat)
    let size := (Float.ofNat r).scaleB low
    if x < 0 then -size else size

end Workflow.Condition
