import Workflow.Decode.Fault
import Workflow.Definition.Step
import Workflow.Definition.ValueType
import Workflow.Graph.Search
import Workflow.Pattern.Class
import Workflow.Url.Fault
import Workflow.Version

/-!
# Validation reports

A report lists what is wrong with a document and what could be better. Only what is
wrong makes a document invalid.
-/

namespace Workflow

/-- How serious a problem is, the gravest first. -/
inductive Severity where
  | critical
  | high
  | medium
  | low
  deriving DecidableEq, Repr

def Severity.name : Severity → String
  | critical => "critical"
  | high => "high"
  | medium => "medium"
  | low => "low"

def Severity.rank : Severity → Nat
  | critical => 0
  | high => 1
  | medium => 2
  | low => 3

namespace Validation

/-- The names that a document has to match, with the text of the pattern. -/
inductive NamePattern where
  | workflow
  | identifier
  | version
  deriving DecidableEq, Repr

def NamePattern.text : NamePattern → String
  | workflow => "^[a-zA-Z][a-zA-Z0-9_-]*$"
  | identifier => "^[a-zA-Z][a-zA-Z0-9_]*$"
  | version => "^\\d+\\.\\d+\\.\\d+$"

def NamePattern.accepts (pattern : NamePattern) (text : String) : Bool :=
  match pattern, text.toList with
  | workflow, c :: rest => c.isAlpha && rest.all fun c => c.isAlphanum || c = '_' || c = '-'
  | identifier, c :: rest => c.isAlpha && rest.all fun c => c.isAlphanum || c = '_'
  | version, cs =>
    let parts := cs.splitOn '.'
    parts.length = 3 && parts.all fun part =>
      !part.isEmpty && part.all Pattern.Shorthand.digit.set.has
  | _, [] => false

/-- The types a document can be asked for. -/
inductive Shape where
  | object
  | string
  | array
  | boolean
  | number
  deriving DecidableEq, Repr

def Shape.text : Shape → String
  | object => "an object"
  | string => "a string"
  | array => "an array"
  | boolean => "a boolean"
  | number => "a number"

/-- The rules that the form of a document can break. -/
inductive Violation where
  | required (key : String)
  | shape (expected : Shape) (found : Json)
  | notNatural
  | unknownSection (key : String)
  | pattern (text : String) (pattern : NamePattern)
  | version (text : String) (fault : Version.Fault)
  | oneOf (text : String) (allowed : List String)
  | minLength (least : Nat)
  | maxLength (most : Nat)
  | noSteps
  | maxItems (most : Nat)
  | maximum (most : Nat)

namespace Violation

def severity : Violation → Severity
  | required _ | shape _ _ | notNatural | unknownSection _ => .critical
  | pattern _ _ | version _ _ | oneOf _ _ => .high
  | minLength _ | maxLength _ | noSteps | maxItems _ | maximum _ => .medium

def message : Violation → String
  | required key => s!"missing required property '{key}'"
  | shape expected found => s!"must be {expected.text}, got {found.typeName}"
  | notNatural => "must be a non-negative integer"
  | unknownSection key => s!"unknown top-level section '{key}'"
  | pattern text expected => s!"'{text}' does not match pattern {expected.text}"
  | version text fault => s!"'{text}' is not a semantic version: {fault.message}"
  | oneOf text allowed => "'" ++ text ++ "' is not one of: " ++ ", ".intercalate allowed
  | minLength least => s!"must be at least {least} characters"
  | maxLength most => s!"must be at most {most} characters"
  | noSteps => "must contain at least one step"
  | maxItems most => s!"must have at most {most} items"
  | maximum most => s!"must be at most {most}"

end Violation

inductive Problem where
  | unreadable (message : String) (place : Option (Nat × Nat))
  | schema (violation : Violation)
  | duplicateStep (id : String)
  | reservedStep (id : String)
  | missingDependency (id dependency : String)
  | circularDependency (cycle : List String)
  | missingConfig (id : String) (type : StepType)
  | unsupportedLanguage (id : String) (language : Json)
  | missingCode (id : String)
  | missingModel (id : String)
  | missingPrompt (id : String)
  | temperature (id : String) (found : Json)
  | missingUrl (id : String)
  | invalidUrl (id url : String) (fault : Url.Fault)
  | invalidMethod (id : String) (found : Json)
  | missingCondition (id : String)
  | branchTarget (id key target : String)
  | ownFallback (id : String)
  | unknownFallback (id target : String)
  | malformedReference (raw : String)
  | incompleteReference (raw : String)
  | undeclaredInput (raw name : String)
  | unknownReference (raw name : String)
  | invalidPattern (input message : String)
  | invalidConfig (fault : Decode.Fault)

namespace Problem

def code : Problem → String
  | unreadable _ _ => "YAML_PARSE_ERROR"
  | schema _ => "SCHEMA_VALIDATION_ERROR"
  | duplicateStep _ => "DUPLICATE_STEP_ID"
  | reservedStep _ => "RESERVED_STEP_ID"
  | missingDependency _ _ => "MISSING_DEPENDENCY"
  | circularDependency _ => "CIRCULAR_DEPENDENCY"
  | missingConfig _ _ => "MISSING_CONFIG"
  | unsupportedLanguage _ _ => "UNSUPPORTED_LANGUAGE"
  | missingCode _ => "MISSING_CODE"
  | missingModel _ => "MISSING_MODEL"
  | missingPrompt _ => "MISSING_PROMPT"
  | temperature _ _ => "INVALID_TEMPERATURE"
  | missingUrl _ => "MISSING_URL"
  | invalidUrl _ _ _ => "INVALID_URL"
  | invalidMethod _ _ => "INVALID_METHOD"
  | missingCondition _ => "MISSING_CONDITION"
  | branchTarget _ _ _ => "INVALID_BRANCH_TARGET"
  | ownFallback _ | unknownFallback _ _ => "INVALID_FALLBACK_STEP"
  | malformedReference _ | undeclaredInput _ _ | unknownReference _ _ => "INVALID_REFERENCE"
  | incompleteReference _ => "INCOMPLETE_REFERENCE"
  | invalidPattern _ _ => "INVALID_PATTERN"
  | invalidConfig _ => "INVALID_CONFIG"

def severity : Problem → Severity
  | unreadable _ _ | duplicateStep _ | reservedStep _ | circularDependency _ => .critical
  | schema violation => violation.severity
  | _ => .high

def message : Problem → String
  | unreadable message _ => message
  | schema violation => violation.message
  | duplicateStep id => s!"duplicate step id '{id}'"
  | reservedStep id => s!"step id '{id}' is reserved for references"
  | missingDependency id dependency => s!"step '{id}' depends on unknown step '{dependency}'"
  | circularDependency cycle => s!"circular dependency: {Graph.cycleText cycle}"
  | missingConfig id type => s!"{type.name} step '{id}' requires a config"
  | unsupportedLanguage id language =>
    s!"unsupported language {language.text} in step '{id}' (expected javascript, python3 or bash)"
  | missingCode id => s!"code step '{id}' has an empty code body"
  | missingModel id => s!"llm step '{id}' requires a model"
  | missingPrompt id => s!"llm step '{id}' requires a prompt"
  | temperature id found =>
    s!"temperature of step '{id}' must be a number in [0, 2], got {found.text}"
  | missingUrl id => s!"http step '{id}' requires a url"
  | invalidUrl id url fault => s!"url '{url}' of step '{id}' is invalid: {fault.message}"
  | invalidMethod id found =>
    s!"method {found.text} of step '{id}' is not one of: " ++
      ", ".intercalate (HttpMethod.all.map HttpMethod.name)
  | missingCondition id => s!"condition step '{id}' requires a condition"
  | branchTarget id key target => s!"{key} of step '{id}' names unknown step '{target}'"
  | ownFallback id => s!"step '{id}' cannot be its own fallback"
  | unknownFallback id target => s!"fallback_step of step '{id}' names unknown step '{target}'"
  | malformedReference raw => s!"malformed reference '{raw}'"
  | incompleteReference raw => s!"reference '{raw}' does not name an input"
  | undeclaredInput raw name => s!"reference '{raw}' names undeclared input '{name}'"
  | unknownReference raw name => s!"reference '{raw}' names unknown input or step '{name}'"
  | invalidPattern input message => s!"pattern of input '{input}' is not a valid regex: {message}"
  | invalidConfig fault => s!"invalid workflow definition: {fault.message}"

end Problem

/-- Bounds that documents had better keep. -/
def maxCodeLength : Nat := 5000

def minPromptLength : Nat := 20

def maxPromptLength : Nat := 8000

def minDescriptionLength : Nat := 20

inductive Advice where
  | noStart
  | severalStarts (ids : List String)
  | noEnd
  | unreachable (id : String)
  | startDependencies (id : String)
  | endWithoutDependencies (id : String)
  | reservedType (id : String) (type : StepType)
  | missingLanguage (id : String)
  | languageNotExecutable (id : String) (language : Language)
  | missingMain (id : String)
  | longCode (id : String)
  | shortPrompt (id : String)
  | longPrompt (id : String)
  | maxTokens (id : String) (found : Json)
  | missingMethod (id : String)
  | unusualTimeout (id : String) (found : Nat)
  | branchNotDownstream (id key target : String)
  | missingFallback (id : String)
  | defaultType (input : String) (type : ValueType)
  | naming (name suggestion : String)
  | shortDescription
  | manySteps (count : Nat)
  | manyInputs (count : Nat)
  deriving BEq

namespace Advice

def code : Advice → String
  | noStart => "NO_START_STEP"
  | severalStarts _ => "MULTIPLE_START_STEPS"
  | noEnd => "NO_END_STEP"
  | unreachable _ => "UNREACHABLE_STEP"
  | startDependencies _ => "START_STEP_DEPENDENCIES"
  | endWithoutDependencies _ => "END_STEP_NO_DEPENDENCIES"
  | reservedType _ _ => "RESERVED_STEP_TYPE"
  | missingLanguage _ => "MISSING_LANGUAGE"
  | languageNotExecutable _ _ => "LANGUAGE_NOT_EXECUTABLE"
  | missingMain _ => "MISSING_MAIN_FUNCTION"
  | longCode _ => "LONG_CODE"
  | shortPrompt _ => "SHORT_PROMPT"
  | longPrompt _ => "LONG_PROMPT"
  | maxTokens _ _ => "INVALID_MAX_TOKENS"
  | missingMethod _ => "MISSING_METHOD"
  | unusualTimeout _ _ => "UNUSUAL_TIMEOUT"
  | branchNotDownstream _ _ _ => "BRANCH_NOT_DOWNSTREAM"
  | missingFallback _ => "MISSING_FALLBACK_STEP"
  | defaultType _ _ => "DEFAULT_TYPE_MISMATCH"
  | naming _ _ => "NAMING_CONVENTION"
  | shortDescription => "SHORT_DESCRIPTION"
  | manySteps _ => "TOO_MANY_STEPS"
  | manyInputs _ => "TOO_MANY_INPUTS"

def message : Advice → String
  | noStart => "workflow has no start step"
  | severalStarts ids => s!"workflow has {ids.length} start steps: " ++ ", ".intercalate ids
  | noEnd => "workflow has no end step"
  | unreachable id => s!"step '{id}' is not reachable from any start step"
  | startDependencies id => s!"start step '{id}' should not declare dependencies"
  | endWithoutDependencies id => s!"end step '{id}' should depend on at least one step"
  | reservedType id type =>
    s!"step '{id}' uses reserved type '{type.name}' which cannot be executed yet"
  | missingLanguage id => s!"code step '{id}' has no language"
  | languageNotExecutable id language =>
    s!"step '{id}' validates but {language.name} code cannot run in this engine; " ++
      "only javascript executes"
  | missingMain id => s!"code step '{id}' does not define main"
  | longCode id => s!"code body of step '{id}' is longer than {maxCodeLength} characters"
  | shortPrompt id => s!"prompt of step '{id}' is shorter than {minPromptLength} characters"
  | longPrompt id => s!"prompt of step '{id}' is longer than {maxPromptLength} characters"
  | maxTokens id found => s!"max_tokens of step '{id}' is outside [1, 4000]: {found.text}"
  | missingMethod id => s!"http step '{id}' has no method"
  | unusualTimeout id found => s!"timeout of step '{id}' is {found} ms, outside [1000, 300000]"
  | branchNotDownstream id key target =>
    s!"{key} '{target}' does not depend on condition step '{id}'"
  | missingFallback id => s!"step '{id}' uses on_error: fallback without a fallback_step"
  | defaultType input type => s!"default of input '{input}' is not a {type.name}"
  | naming name _ => s!"workflow name '{name}' is not snake_case"
  | shortDescription => s!"description is shorter than {minDescriptionLength} characters"
  | manySteps count => s!"workflow has {count} steps"
  | manyInputs count => s!"workflow declares {count} inputs"

def suggestion? : Advice → Option String
  | noStart => some "add a step with type: start"
  | noEnd => some "add a step with type: end"
  | missingLanguage _ => some "defaults to javascript"
  | missingMain _ => some "define function main(...) \x7b ... \x7d returning the step result"
  | longCode _ => some "split the logic across several steps"
  | missingMethod _ => some "defaults to GET"
  | branchNotDownstream _ _ _ =>
    some "add the condition step to the target's depends_on so it is not run first"
  | missingFallback _ => some "without a fallback_step the policy behaves like fail"
  | naming _ suggestion => some suggestion
  | shortDescription => some "describe what the workflow does and what it returns"
  | manySteps _ => some "split it into smaller workflows"
  | manyInputs _ => some "group related inputs into an object input"
  | _ => none

end Advice

/-- A problem at a place in a document. -/
structure Finding where
  problem : Problem
  path : Option String

/-- Advice on a place in a document. -/
structure Notice where
  advice : Advice
  path : String
  deriving BEq

/-- What an analysis has found. -/
structure Findings where
  errors : List Finding
  warnings : List Notice

namespace Findings

def none : Findings := ⟨[], []⟩

def error (path : String) (problem : Problem) : Findings := ⟨[⟨problem, some path⟩], []⟩

def warning (path : String) (advice : Advice) : Findings := ⟨[], [⟨advice, path⟩]⟩

instance : Append Findings := ⟨fun a b => ⟨a.errors ++ b.errors, a.warnings ++ b.warnings⟩⟩

def all : List Findings → Findings
  | [] => none
  | f :: rest => f ++ all rest

/-- Findings that are made only under a condition. -/
def given (condition : Bool) (findings : Findings) : Findings :=
  if condition then findings else none

@[simp] theorem errors_append (a b : Findings) : (a ++ b).errors = a.errors ++ b.errors := rfl

@[simp] theorem warnings_append (a b : Findings) : (a ++ b).warnings = a.warnings ++ b.warnings :=
  rfl

end Findings

/-- Version of the rules for the form of documents. -/
def schemaVersion : String := "1.0.0"

/-- What there is to say about a document. Whether it is valid is kept beside the problems. -/
structure Report extends Findings where
  valid : Bool
  workflowName : Option String

namespace Report

def blank (workflowName : Option String) : Report := ⟨.none, true, workflowName⟩

def error (r : Report) (f : Finding) : Report :=
  { r with errors := r.errors ++ [f], valid := false }

def warning (r : Report) (n : Notice) : Report := { r with warnings := r.warnings ++ [n] }

/-- Enters all that another report has found. -/
def extend (r other : Report) : Report :=
  let r := other.errors.foldl error r
  { r with warnings := r.warnings ++ other.warnings }

/-- The report on a workflow in which findings have been entered one by one. -/
def ofFindings (findings : Findings) (workflowName : Option String) : Report :=
  findings.warnings.foldl warning (findings.errors.foldl error (blank workflowName))

def hasError (r : Report) (code : String) : Bool := r.errors.any fun f => f.problem.code = code

def hasWarning (r : Report) (code : String) : Bool := r.warnings.any fun n => n.advice.code = code

/-- All problems on one line. -/
def summary (r : Report) : String :=
  "; ".intercalate <| r.errors.map fun f =>
    match f.path with
    | some path => s!"[{f.problem.code}] {f.problem.message} ({path})"
    | none => s!"[{f.problem.code}] {f.problem.message}"

theorem foldl_error (r : Report) (findings : List Finding) :
    findings.foldl error r =
      { r with errors := r.errors ++ findings, valid := r.valid && findings.isEmpty } := by
  induction findings generalizing r with
  | nil => simp
  | cons f rest ih => simp [ih, error]

theorem foldl_warning (r : Report) (notices : List Notice) :
    notices.foldl warning r = { r with warnings := r.warnings ++ notices } := by
  induction notices generalizing r with
  | nil => simp
  | cons n rest ih => simp [ih, warning]

@[simp] theorem errors_extend (r other : Report) :
    (r.extend other).errors = r.errors ++ other.errors := by
  simp [extend, foldl_error]

@[simp] theorem warnings_extend (r other : Report) :
    (r.extend other).warnings = r.warnings ++ other.warnings := by
  simp [extend, foldl_error]

@[simp] theorem valid_extend (r other : Report) :
    (r.extend other).valid = (r.valid && other.errors.isEmpty) := by
  simp [extend, foldl_error]

@[simp] theorem toFindings_ofFindings (findings : Findings) (workflowName : Option String) :
    (ofFindings findings workflowName).toFindings = findings := by
  simp [ofFindings, foldl_error, foldl_warning, blank, Findings.none]

@[simp] theorem valid_ofFindings (findings : Findings) (workflowName : Option String) :
    (ofFindings findings workflowName).valid = findings.errors.isEmpty := by
  simp [ofFindings, foldl_error, foldl_warning, blank]

end Report

end Validation

end Workflow
