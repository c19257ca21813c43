import Workflow.Decimal.Read
import Workflow.Definition.Basic
import Workflow.Json.Read
import Workflow.Run.Context

/-!
# Outputs of a run

The declared outputs are resolved when a run has completed. Texts become values of the declared type
if they can be read as such, and stay texts otherwise.
-/

namespace Workflow.Outputs

/-- Reads a text as a whole number of 64 bits with a sign. -/
def integer? (text : String) : Option Json :=
  (Decimal.int? text).bind fun n => if Number.minInt ≤ n ∧ n < 9223372036854775808 then
    some (.int n) else none

/-- Reads a text as a finite number. -/
def number? (text : String) : Option Json :=
  (Decimal.float? text).bind fun x => if x.isFinite then some (.num (.float x)) else none

def boolean? (text : String) : Option Json :=
  if text = "true" then some (.bool true) else if text = "false" then some (.bool false) else none

def read? (type : ValueType) (text : String) : Option Json :=
  match type with
  | .string => none
  | .integer => integer? text
  | .number => number? text
  | .boolean => boolean? text
  | .array | .object => (Json.read? text).filter type.accepts

def coerce (value : Json) (type : Option ValueType) : Json :=
  match value, type with
  | .str s, some type => (read? type (Unicode.trim s)).getD value
  | _, _ => value

/-- The value of an output; `null` if its source leads nowhere. -/
def valueOf (scope : Template.Scope) (spec : OutputSpec) : Json :=
  match Template.resolveTemplate scope spec.source with
  | .ok value => coerce value spec.type
  | .error _ => .null

/-- The values of the declared outputs, in order. -/
def resolve (scope : Template.Scope) (specs : Entries OutputSpec) : Entries Json :=
  specs.mapValues (valueOf scope)

end Workflow.Outputs
