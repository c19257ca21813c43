import Workflow.Decimal.Read
import Workflow.Json.Basic

/-!
# The core schema

What a plain scalar means: nothing, a truth value, a whole number in base ten, sixteen, eight or
two, a float, or else its own text. Digits with a leading zero are text.
-/

namespace Workflow.Yaml.Scalar

/-- The spellings of nothing. -/
def isNull (text : String) : Bool := text = "null" || text = "Null" || text = "NULL" || text = "~"

/-- The spellings of truth values. -/
def bool? (text : String) : Option Bool :=
  if text = "true" || text = "True" || text = "TRUE" then some true
  else if text = "false" || text = "False" || text = "FALSE" then some false
  else none

/-- The value of a digit in bases up to sixteen. -/
def digit? (base : Nat) (c : Char) : Option Nat :=
  let value :=
    if '0' ≤ c && c ≤ '9' then c.toNat - '0'.toNat
    else if 'a' ≤ c && c ≤ 'f' then c.toNat - 'a'.toNat + 10
    else if 'A' ≤ c && c ≤ 'F' then c.toNat - 'A'.toNat + 10
    else base
  if value < base then some value else none

def digits? (base : Nat) (cs : List Char) : Option Nat :=
  if cs.isEmpty then none
  else (cs.mapM (digit? base)).map fun ds => ds.foldl (fun n d => base * n + d) 0

/-- The base announced by a prefix, and the digits behind it. -/
def based : List Char → Nat × List Char
  | '0' :: 'x' :: rest => (16, rest)
  | '0' :: 'o' :: rest => (8, rest)
  | '0' :: 'b' :: rest => (2, rest)
  | rest => (10, rest)

/-- Digits behind an optional sign that begin with a zero and are more than that zero. -/
def isPaddedNumber (cs : List Char) : Bool :=
  let body := match cs with
    | '-' :: rest => rest
    | '+' :: rest => rest
    | rest => rest
  1 < body.length && body.head? = some '0' && body.all Decimal.isDigit

/-- A whole number with an optional sign and base. -/
def int? (text : String) : Option Int :=
  let cs := text.toList
  let (negative, body) := Decimal.sign cs
  let (base, digits) := based body
  if base = 10 && isPaddedNumber cs then none
  else (digits? base digits).map fun n => if negative then -(n : Int) else n

/-- Least whole number that is recognised as one. -/
def minInt : Int := -170141183460469231731687303715884105728

/-- Greatest whole number that is recognised as one. -/
def maxInt : Int := 340282366920938463463374607431768211455

/-- A float: infinities and not-a-number have spellings of their own, and a
decimal must be finite. -/
def float? (text : String) : Option Float :=
  let unsigned := match text.toList with
    | '+' :: rest => String.ofList rest
    | _ => text
  if text.toList.take 2 = ['+', '+'] || text.toList.take 2 = ['+', '-'] then none
  else if unsigned = ".inf" || unsigned = ".Inf" || unsigned = ".INF" then some (1 / 0)
  else if text = "-.inf" || text = "-.Inf" || text = "-.INF" then some (-1 / 0)
  else if text = ".nan" || text = ".NaN" || text = ".NAN" then some (0 / 0)
  else (Decimal.float? unsigned).filter Float.isFinite

/-- The meaning of a plain scalar. `none` is a whole number too great or too small for a value. -/
def plain? (text : String) : Option Json :=
  if text.isEmpty || isNull text then some .null
  else match bool? text with
    | some b => some (.bool b)
    | none =>
      match (int? text).filter fun n => minInt ≤ n && n ≤ maxInt with
      | some n => if Number.InRange n then some (.int n) else none
      | none =>
        if isPaddedNumber text.toList then some (.str text)
        else match float? text with
          | some x => some (Json.float x)
          | none => some (.str text)

end Workflow.Yaml.Scalar
