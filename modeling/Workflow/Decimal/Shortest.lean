/-!
# Shortest decimals

A binary floating-point number stands for every real that rounds to it. `Decimal.shortest` picks,
among the decimals of that interval, one with the fewest digits, and of those the nearest to the
number itself. All arithmetic is exact and on natural numbers.
-/

namespace Workflow

/-- The decimal `digits * 10 ^ exponent`. -/
structure Decimal where
  digits : Nat
  exponent : Int
  deriving DecidableEq, Repr

namespace Decimal

/-- A positive finite binary number `mantissa * 2 ^ exponent` with the gap to its lower neighbour
halved (`narrow`) at the foot of a binade. -/
structure Binary where
  mantissa : Nat
  exponent : Int
  narrow : Bool

/-- The bit of a mantissa that is not written, 52 places up. -/
def hiddenBit : Nat := 4503599627370496

/-- Reads sign-free bits of a finite 64-bit float. -/
def Binary.ofBits (bits : UInt64) : Binary :=
  let fraction : Nat := bits.toNat % hiddenBit
  let field : Nat := bits.toNat / hiddenBit % 2048
  if field = 0 then ⟨fraction, -1074, false⟩
  else ⟨hiddenBit + fraction, field - 1075, fraction = 0 && field ≠ 1⟩

/-- The interval of reals that round to a binary number, as numerators over one denominator.
`closed` says whether its ends belong to it. -/
structure Interval where
  low : Nat
  value : Nat
  high : Nat
  denominator : Nat
  closed : Bool

/-- The rounding interval of a binary number; ties go to the even mantissa, so the
ends belong to an even one. -/
def Binary.interval (b : Binary) : Interval :=
  let up := Nat.pow 2 b.exponent.toNat
  let down := Nat.pow 2 (-b.exponent).toNat
  { low := (4 * b.mantissa - if b.narrow then 1 else 2) * up
    value := 4 * b.mantissa * up
    high := (4 * b.mantissa + 2) * up
    denominator := 4 * down
    closed := b.mantissa % 2 = 0 }

/-- Number of decimal digits; none for zero. -/
def digitCount (n : Nat) : Nat :=
  if n = 0 then 0 else (Nat.toDigits 10 n).length

/-- The `p` with `10 ^ (p - 1) ≤ value < 10 ^ p`. -/
def Interval.magnitude (i : Interval) : Int :=
  if i.denominator ≤ i.value then digitCount (i.value / i.denominator)
  else 1 - digitCount ((i.denominator - 1) / i.value)

/-- Whether `count` units of the grid `10 ^ exponent` lie in the interval. -/
def Interval.holds (i : Interval) (count : Nat) (exponent : Int) : Bool :=
  let scaled := count * Nat.pow 10 exponent.toNat * i.denominator
  let unit := Nat.pow 10 (-exponent).toNat
  if i.closed then i.low * unit ≤ scaled && scaled ≤ i.high * unit
  else i.low * unit < scaled && scaled < i.high * unit

/-- The better of the value's two neighbours on the grid `10 ^ exponent`, if one lies in the
interval. An exact tie goes to the even neighbour. -/
def Interval.onGrid? (i : Interval) (exponent : Int) : Option Nat :=
  let numerator := i.value * Nat.pow 10 (-exponent).toNat
  let denominator := i.denominator * Nat.pow 10 exponent.toNat
  let below := numerator / denominator
  let twiceRest := 2 * (numerator % denominator)
  let lower := i.holds below exponent
  let upper := i.holds (below + 1) exponent
  if lower && upper then
    if twiceRest < denominator || (twiceRest = denominator && below % 2 = 0) then some below
    else some (below + 1)
  else if lower then some below
  else if upper then some (below + 1)
  else none

/-- Tries grids with one digit more each time; seventeen digits always suffice. -/
def Interval.search (i : Interval) (magnitude : Int) : Nat → Nat → Decimal
  | 0, digits => ⟨i.value / i.denominator, digits⟩
  | fuel + 1, digits =>
    match i.onGrid? (magnitude - digits) with
    | some count => ⟨count, magnitude - digits⟩
    | none => i.search magnitude fuel (digits + 1)

def trimZeros : Nat → Decimal → Decimal
  | 0, d => d
  | fuel + 1, d =>
    if d.digits ≠ 0 && d.digits % 10 = 0 then trimZeros fuel ⟨d.digits / 10, d.exponent + 1⟩ else d

/-- The shortest decimal that reads back as the given sign-free float bits. -/
def shortest (bits : UInt64) : Decimal :=
  let b := Binary.ofBits bits
  if b.mantissa = 0 then ⟨0, 0⟩
  else trimZeros 20 (b.interval.search b.interval.magnitude 18 1)

end Decimal

end Workflow
