/-!
# Reading decimals

Two ways from decimal digits to a float. `Decimal.nearest` rounds the exact value once.
`Decimal.scaled` converts the digits first and then multiplies or divides by a power of ten, so it
rounds twice; it fails where the value leaves the range of floats. JSON text is read by the second.
-/

namespace Workflow.Decimal

/-- The float nearest to `digits * 10 ^ exponent`; infinite when there is none. -/
def nearest (digits : Nat) (exponent : Int) : Float :=
  let size := (Nat.toDigits 10 digits).length
  if digits = 0 then 0
  else if 400 < exponent + size then 1 / 0
  else if exponent + size < -400 then 0
  else Float.ofScientific digits (exponent < 0) exponent.natAbs

def powerOfTen (exponent : Nat) : Float := Float.ofScientific 1 false exponent

/-- Divides by `10 ^ 308` until the rest of the exponent is a power of ten that is a float. -/
def divideDown (value : Float) : Nat → Nat → Float
  | 0, _ => 0
  | fuel + 1, exponent =>
    if exponent ≤ 308 then value / powerOfTen exponent
    else if value == 0 then value
    else divideDown (value / powerOfTen 308) fuel (exponent - 308)

/-- `digits` as a float, times a power of ten in floating-point arithmetic;
`none` beyond the greatest float. -/
def scaled (digits : Nat) (exponent : Int) : Option Float :=
  let value := Float.ofNat digits
  if exponent < 0 then some (divideDown value 4 exponent.natAbs)
  else if 308 < exponent then (if value == 0 then some value else none)
  else
    let product := value * powerOfTen exponent.toNat
    if product.isInf then none else some product

def digit? (c : Char) : Option Nat :=
  if '0' ≤ c && c ≤ '9' then some (c.toNat - '0'.toNat) else none

def ofDigits (digits : List Char) : Nat :=
  digits.foldl (fun n c => 10 * n + (digit? c).getD 0) 0

def isDigit (c : Char) : Bool := (digit? c).isSome

def sign : List Char → Bool × List Char
  | '-' :: rest => (true, rest)
  | '+' :: rest => (false, rest)
  | rest => (false, rest)

/-- Reads an exponent part: `e` or `E`, an optional sign and at least one digit, up to the end. No
exponent part means zero. -/
def exponentPart? : List Char → Option Int
  | [] => some 0
  | e :: rest =>
    if e = 'e' || e = 'E' then
      let (negative, digits) := sign rest
      if digits ≠ [] && digits.all isDigit then
        let n := (ofDigits digits : Int)
        some (if negative then -n else n)
      else none
    else none

/-- Reads a whole text as a decimal number: digits with at most one point, at least one
digit, and an optional exponent; also `inf`, `infinity` and `nan` in any case. The
result is the nearest float. -/
def float? (text : String) : Option Float :=
  let (negative, body) := sign text.toList
  let signed := fun (x : Float) => if negative then -x else x
  let word := String.ofList (body.map Char.toLower)
  if word = "inf" || word = "infinity" then some (signed (1 / 0))
  else if word = "nan" then some (signed (0 / 0))
  else
    let whole := body.takeWhile isDigit
    let rest := body.dropWhile isDigit
    let (fraction, tail) := match rest with
      | '.' :: after => (after.takeWhile isDigit, after.dropWhile isDigit)
      | _ => ([], rest)
    if whole.isEmpty && fraction.isEmpty then none
    else
      (exponentPart? tail).map fun e =>
        signed (nearest (ofDigits (whole ++ fraction)) (e - fraction.length))

/-- Reads a whole text as digits with an optional plus sign. -/
def nat? (text : String) : Option Nat :=
  let digits := match text.toList with
    | '+' :: rest => rest
    | rest => rest
  if digits ≠ [] && digits.all isDigit then some (ofDigits digits) else none

/-- Reads a whole text as digits with an optional sign. -/
def int? (text : String) : Option Int :=
  let (negative, digits) := sign text.toList
  if digits ≠ [] && digits.all isDigit then
    some (if negative then -(ofDigits digits : Int) else ofDigits digits)
  else none

end Workflow.Decimal
