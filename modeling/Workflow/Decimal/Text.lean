import Workflow.Decimal.Shortest

/-!
# Number text

How a floating-point number is written: which magnitudes are written out in full, whether a whole
value keeps its point, and how an exponent looks. Two styles are used: `FloatStyle.json` for JSON
text and `FloatStyle.plain` for numbers inside messages.
-/

namespace Workflow

/-- The choices that fix the text of a finite float. -/
structure FloatStyle where
  /-- Exponents of the leading digit that are written out in full. -/
  positional : Int → Bool
  /-- Whether a whole value ends in `.0`. -/
  keepPoint : Bool

namespace FloatStyle

/-- JSON numbers: full form from `10 ^ -5` up to below `10 ^ 16`, always with
a point or an exponent. -/
def json : FloatStyle := ⟨fun lead => -5 ≤ lead && lead < 16, true⟩

/-- Message numbers: always in full, and no point on a whole value. -/
def plain : FloatStyle := ⟨fun _ => true, false⟩

def inFull (style : FloatStyle) (digits : List Char) (exponent : Int) : List Char :=
  let count : Int := digits.length + exponent
  let point := if style.keepPoint then ['.', '0'] else []
  if 0 ≤ exponent then digits ++ List.replicate exponent.toNat '0' ++ point
  else if 0 < count then digits.take count.toNat ++ '.' :: digits.drop count.toNat
  else '0' :: '.' :: List.replicate (-count).toNat '0' ++ digits

/-- One digit, the others behind a point, and the exponent with its sign. -/
def scientific (digits : List Char) (lead : Int) : List Char :=
  let mantissa := match digits with
    | first :: second :: rest => first :: '.' :: second :: rest
    | short => short
  mantissa ++ 'e' :: (if lead < 0 then '-' else '+') :: (Nat.toDigits 10 lead.natAbs)

def ofDecimal (style : FloatStyle) (d : Decimal) : List Char :=
  let digits := Nat.toDigits 10 d.digits
  let lead : Int := digits.length + d.exponent - 1
  if style.positional lead then style.inFull digits d.exponent else scientific digits lead

def write (style : FloatStyle) (x : Float) : String :=
  let bits := x.toBits
  let negative := 9223372036854775808 ≤ bits.toNat
  let digits := style.ofDecimal (Decimal.shortest (bits &&& 0x7fffffffffffffff))
  String.ofList (if negative then '-' :: digits else digits)

end FloatStyle

/-- The text of a float inside a message; what is not finite is named. -/
def Float.messageText (x : Float) : String :=
  if x.isNaN then "NaN"
  else if x.isInf then (if x < 0 then "-inf" else "inf")
  else FloatStyle.plain.write x

end Workflow
