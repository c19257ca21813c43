import Workflow.Decode.Basic

/-!
# Types of inputs and outputs
-/

namespace Workflow

/-- The types that inputs and outputs can declare. -/
inductive ValueType where
  | string
  | number
  | integer
  | boolean
  | array
  | object
  deriving DecidableEq, Repr

namespace ValueType

/-- The types in the order in which messages list them. -/
def all : List ValueType := [string, number, integer, boolean, array, object]

def name : ValueType → String
  | string => "string"
  | number => "number"
  | integer => "integer"
  | boolean => "boolean"
  | array => "array"
  | object => "object"

/-- Whether a number has no fraction. -/
def isWhole : Number → Bool
  | .int _ => true
  | .float x => x.isFinite && x.floor == x

/-- Whether a value is of a type. A number without a fraction is an integer,
however it is written. -/
def accepts : ValueType → Json → Bool
  | string, json => json.isString
  | number, json => json.isNumber
  | integer, .num n => isWhole n
  | integer, _ => false
  | boolean, json => json.isBool
  | array, json => json.isArray
  | object, json => json.isObject

def decoder : Decoder ValueType := Decode.variant name all

end ValueType

end Workflow
