import Workflow.Entries

/-!
# JSON values

A JSON value keeps the order of object keys and tells whole numbers from binary floating-point
numbers: `41` and `41.0` are different values. Equality of objects does not look at key order.
-/

namespace Workflow

/-- A JSON number. Whole numbers lie between `-2 ^ 63` and `2 ^ 64 - 1`; everything else is a
binary floating-point number. -/
inductive Number where
  | int (n : Int)
  | float (x : Float)
  deriving BEq, Inhabited

inductive Json where
  | null
  | bool (b : Bool)
  | num (n : Number)
  | str (s : String)
  | arr (items : List Json)
  | obj (fields : List (String × Json))
  deriving Inhabited

namespace Number

/-- Least whole number that is kept exactly. -/
def minInt : Int := -9223372036854775808

/-- Greatest whole number that is kept exactly. -/
def maxInt : Int := 18446744073709551615

/-- The whole numbers that are kept exactly. -/
def InRange (n : Int) : Prop := minInt ≤ n ∧ n ≤ maxInt

instance (n : Int) : Decidable (InRange n) := inferInstanceAs (Decidable (_ ∧ _))

def toFloat : Number → Float
  | int n => Float.ofInt n
  | float x => x

/-- The number as a non-negative 64-bit whole number. A float is never one. -/
def natural? : Number → Option Nat
  | int n => if 0 ≤ n then some n.toNat else none
  | float _ => none

end Number

namespace Json

abbrev int (n : Int) : Json := .num (.int n)

abbrev nat (n : Nat) : Json := .num (.int n)

/-- A floating-point number as a value; what is not finite has no JSON form and becomes `null`. -/
def float (x : Float) : Json := if x.isFinite then .num (.float x) else .null

mutual

/-- Equality of values: arrays in order, objects up to key order. -/
def beq : Json → Json → Bool
  | .null, .null => true
  | .bool a, .bool b => a == b
  | .num a, .num b => a == b
  | .str a, .str b => a == b
  | .arr as, .arr bs => beqItems as bs
  | .obj as, .obj bs => as.length == bs.length && beqFields as bs
  | _, _ => false

def beqItems : List Json → List Json → Bool
  | [], [] => true
  | a :: as, b :: bs => beq a b && beqItems as bs
  | _, _ => false

/-- Whether every field on the left has an equal field on the right. -/
def beqFields : List (String × Json) → List (String × Json) → Bool
  | [], _ => true
  | (k, a) :: as, bs =>
    match Entries.get? bs k with
    | some b => beq a b && beqFields as bs
    | none => false

end

instance : BEq Json := ⟨beq⟩

/-- The name of a value's type as reports write it. A number with a point is a
`number`, any other an `integer`. -/
def typeName : Json → String
  | .null => "null"
  | .bool _ => "boolean"
  | .num (.int _) => "integer"
  | .num (.float _) => "number"
  | .str _ => "string"
  | .arr _ => "array"
  | .obj _ => "object"

def string? : Json → Option String
  | .str s => some s
  | _ => none

def items? : Json → Option (List Json)
  | .arr items => some items
  | _ => none

def fields? : Json → Option (Entries Json)
  | .obj fields => some fields
  | _ => none

def natural? : Json → Option Nat
  | .num n => n.natural?
  | _ => none

def float? : Json → Option Float
  | .num n => some n.toFloat
  | _ => none

def field? : Json → String → Option Json
  | .obj fields, key => Entries.get? fields key
  | _, _ => none

/-- The value found by following field names. -/
def at? (json : Json) (path : List String) : Option Json :=
  path.foldlM field? json

def isNull : Json → Bool
  | .null => true
  | _ => false

def isBool : Json → Bool
  | .bool _ => true
  | _ => false

def isNumber : Json → Bool
  | .num _ => true
  | _ => false

def isString : Json → Bool
  | .str _ => true
  | _ => false

def isArray : Json → Bool
  | .arr _ => true
  | _ => false

def isObject : Json → Bool
  | .obj _ => true
  | _ => false

end Json

end Workflow
