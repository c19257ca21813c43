import Workflow.Json.Text
import Workflow.Unicode.Class

/-!
# Faults in typed values

What can be wrong with a value that should be of a certain form.
-/

namespace Workflow.Decode

/-- Why a value is not of the form expected of it. -/
inductive Fault where
  /-- The value is of another type. -/
  | kind (found : Json) (expected : String)
  /-- The value is a number out of range. -/
  | range (found : Json) (expected : String)
  /-- A variant is not a text or a map with one key. -/
  | variantMap
  /-- An array has a wrong number of items. -/
  | length (found : Nat) (expected : String)
  | unknownVariant (found : String) (known : List String)
  | missingField (name : String)
  | duplicateField (name : String)
  /-- A text is not an HTTP method. -/
  | method (text : String)
  | missingConfig (step type : String)
  | invalidConfig (step type : String) (reason : Fault)

/-- A value as messages name it. -/
def describe : Json → String
  | .null => "null"
  | .bool true => "boolean \x60true\x60"
  | .bool false => "boolean \x60false\x60"
  | .num (.int n) => "integer \x60" ++ toString n ++ "\x60"
  | .num (.float x) => "floating point \x60" ++ FloatStyle.json.write x ++ "\x60"
  | .str s => "string " ++ Unicode.quoted s
  | .arr _ => "sequence"
  | .obj _ => "map"

/-- A name between back quotes. -/
def marked (name : String) : String := "\x60" ++ name ++ "\x60"

/-- Known names as a message lists them. -/
def listed : List String → String
  | [] => "there are no variants"
  | [a] => "expected " ++ marked a
  | [a, b] => s!"expected {marked a} or {marked b}"
  | names => "expected one of " ++ ", ".intercalate (names.map marked)

def Fault.message : Fault → String
  | kind found expected => s!"invalid type: {describe found}, expected {expected}"
  | range found expected => s!"invalid value: {describe found}, expected {expected}"
  | variantMap => "invalid value: map, expected map with a single key"
  | length found expected => s!"invalid length {found}, expected {expected}"
  | unknownVariant found known => s!"unknown variant {marked found}, {listed known}"
  | missingField name => s!"missing field {marked name}"
  | duplicateField name => s!"duplicate field {marked name}"
  | method text => s!"invalid HTTP method '{text}'"
  | missingConfig step type => s!"step '{step}' ({type}) has no config"
  | invalidConfig step type reason =>
    s!"step '{step}' ({type}) has an invalid config: {reason.message}"

end Workflow.Decode
