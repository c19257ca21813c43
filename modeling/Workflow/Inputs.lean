import Workflow.Decimal.Text
import Workflow.Definition.Basic
import Workflow.Json.Text
import Workflow.Pattern.Meaning

/-!
# Preparing inputs

Supplied values are checked against the declared inputs, missing ones are replaced by defaults, and
what is not declared is left out. All problems are found, in the order of the declarations.
-/

namespace Workflow

/-- What can be wrong with an input. -/
inductive InputProblem where
  | missing (name : String)
  | type (name : String) (expected : ValueType) (found : Json)
  | pattern (name pattern : String)
  | invalidPattern (name message : String)
  | tooShort (name : String) (least length : Nat)
  | tooLong (name : String) (most length : Nat)
  | tooSmall (name : String) (least found : Float)
  | tooLarge (name : String) (most found : Float)
  | notAllowed (name : String) (allowed : List Json)

namespace InputProblem

def message : InputProblem → String
  | missing name => s!"missing required input '{name}'"
  | type name expected found => s!"input '{name}' must be of type {expected.name}, got {found.text}"
  | pattern name p => s!"input '{name}' does not match pattern '{p}'"
  | invalidPattern name message => s!"input '{name}' has an invalid pattern: {message}"
  | tooShort name least length => s!"input '{name}' is shorter than {least} (got {length})"
  | tooLong name most length => s!"input '{name}' is longer than {most} (got {length})"
  | tooSmall name least found =>
    s!"input '{name}' must be >= {Float.messageText least} (got {Float.messageText found})"
  | tooLarge name most found =>
    s!"input '{name}' must be <= {Float.messageText most} (got {Float.messageText found})"
  | notAllowed name allowed =>
    s!"input '{name}' must be one of: " ++ ", ".intercalate (allowed.map Json.text)

end InputProblem

namespace Inputs

/-- A problem found only under a condition. -/
def given (condition : Bool) (problem : InputProblem) : List InputProblem :=
  if condition then [problem] else []

def checkPattern (name pattern text : String) : List InputProblem :=
  match Pattern.ofString pattern with
  | .ok p => given (!p.matches? text) (.pattern name pattern)
  | .error e => [.invalidPattern name (e.message pattern)]

/-- The length of a text in characters, or of an array in items. -/
def length? : Json → Option Nat
  | .str s => some s.length
  | .arr items => some items.length
  | _ => none

def checkLength (name : String) (rules : InputRules) (length : Nat) : List InputProblem :=
  (match rules.minLength with
    | some least => given (length < least.toNat) (.tooShort name least.toNat length)
    | none => [])
  ++ (match rules.maxLength with
    | some most => given (most.toNat < length) (.tooLong name most.toNat length)
    | none => [])

def checkBounds (name : String) (rules : InputRules) (n : Float) : List InputProblem :=
  (match rules.minimum with
    | some least => given (n < least) (.tooSmall name least n)
    | none => [])
  ++ (match rules.maximum with
    | some most => given (most < n) (.tooLarge name most n)
    | none => [])

/-- The rules of an input of a type that a value breaks. -/
def checkRules (name : String) (type : ValueType) (rules : InputRules) (value : Json) :
    List InputProblem :=
  (match rules.pattern, value with
    | some pattern, .str s => checkPattern name pattern s
    | _, _ => [])
  ++ (match length? value with
    | some length => checkLength name rules length
    | none => [])
  ++ (match type, value with
    | .number, .num n | .integer, .num n => checkBounds name rules n.toFloat
    | _, _ => [])
  ++ (match rules.allowed with
    | some allowed => given (!allowed.any (· == value)) (.notAllowed name allowed)
    | none => [])

/-- The value that counts for an input: the supplied one unless it is `null`, else the default. -/
def effective? (spec : InputSpec) (supplied : Option Json) : Option Json :=
  match supplied with
  | none | some .null => spec.default
  | some value => some value

/-- What is wrong with the value that counts for an input. -/
def checkInput (name : String) (spec : InputSpec) (value : Option Json) : List InputProblem :=
  match value with
  | none => given spec.required (.missing name)
  | some value =>
    if spec.type.accepts value then
      match spec.rules with
      | some rules => checkRules name spec.type rules value
      | none => []
    else [.type name spec.type value]

/-- All that is wrong with the supplied values. -/
def problems (specs : Entries InputSpec) (supplied : Entries Json) : List InputProblem :=
  specs.flatMap fun (name, spec) => checkInput name spec (effective? spec (supplied.get? name))

/-- The values that count for the declared inputs. -/
def effective (specs : Entries InputSpec) (supplied : Entries Json) : Entries Json :=
  specs.filterMap fun (name, spec) =>
    (effective? spec (supplied.get? name)).map fun value => (name, value)

def prepare (specs : Entries InputSpec) (supplied : Entries Json) :
    Except (List InputProblem) (Entries Json) :=
  match problems specs supplied with
  | [] => .ok (effective specs supplied)
  | found => .error found

end Inputs

end Workflow
