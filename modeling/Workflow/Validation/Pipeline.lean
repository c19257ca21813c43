import Workflow.Definition.Read
import Workflow.Unicode.Case
import Workflow.Validation.Schema
import Workflow.Validation.Semantics
import Workflow.Yaml.Document

/-!
# Validation of whole documents

The form of a document is checked first. If it is right, the rest of the analysis follows, and if
that finds no problem, the document is turned into a definition.
-/

namespace Workflow.Validation

/-! ## Good practice -/

namespace Lint

def maxSteps : Nat := 20

def maxInputs : Nat := 15

def isSnakeCase (name : String) : Bool :=
  match name.toList with
  | c :: rest => c.isLower && rest.all fun c => c.isLower || c.isDigit || c = '_'
  | [] => false

/-- A name in lower case with underscores for dashes. -/
def snakeCase (name : String) : String :=
  String.ofList ((Unicode.lower name).toList.map fun c => if c = '-' then '_' else c)

def document (document : Json) : Findings :=
  let description := ((document.at? ["metadata", "description"]).bind Json.string?).getD ""
  let steps := ((document.at? ["workflow", "steps"]).bind Json.items?).getD []
  let inputs := sectionFields document "inputs"
  (match workflowName document with
    | some name =>
      .given (!isSnakeCase name) (.warning "/metadata/name" (.naming name (snakeCase name)))
    | none => .none)
  ++ .given ((Unicode.trim description).length < minDescriptionLength)
    (.warning "/metadata/description" .shortDescription)
  ++ .given (maxSteps < steps.length) (.warning "/workflow/steps" (.manySteps steps.length))
  ++ .given (maxInputs < inputs.length) (.warning "/inputs" (.manyInputs inputs.length))

end Lint

def checkSemantics (document : Json) : Report :=
  .ofFindings (Semantics.document document) (workflowName document)

def checkPractice (document : Json) : Report :=
  .ofFindings (Lint.document document) (workflowName document)

/-! ## The whole analysis -/

/-- The report on a document and, if nothing is wrong, the definition it describes. -/
def analyze (document : Json) : Report × Option Definition :=
  let form := checkSchema document
  if !form.valid then (form, none)
  else
    let report := (form.extend (checkSemantics document)).extend (checkPractice document)
    if !report.valid then (report, none)
    else
      match Definition.decoder document with
      | .ok definition => (report, some definition)
      | .error fault => (report.error ⟨.invalidConfig fault, none⟩, none)

def validateDocument (document : Json) : Report := (analyze document).1

/-- A text that cannot be read as YAML, with the line and column of the place if it is known. -/
structure ParseFault where
  message : String
  place : Option (Nat × Nat)
  deriving DecidableEq, Repr

def parseDocument (text : String) : Except ParseFault Json :=
  match Yaml.read text with
  | .ok document => .ok document
  | .error problem =>
    .error ⟨problem.message, problem.mark?.map fun m => (m.line + 1, m.column + 1)⟩

/-- The report on a text that cannot be read. -/
def Report.unreadable (fault : ParseFault) : Report :=
  (blank none).error ⟨.unreadable fault.message fault.place, none⟩

/-- The report on a text that a parser reads. -/
def validateTextBy (parse : String → Except ParseFault Json) (text : String) : Report :=
  match parse text with
  | .ok document => validateDocument document
  | .error fault => .unreadable fault

def validateText (text : String) : Report := validateTextBy parseDocument text

/-- Why a text gives no definition. -/
inductive LoadFault where
  | parse (fault : ParseFault)
  | invalid (report : Report)

/-- The definition that a text describes, as a parser reads it, with the report on it. -/
def loadBy (parse : String → Except ParseFault Json) (text : String) :
    Except LoadFault (Definition × Report) :=
  match parse text with
  | .error fault => .error (.parse fault)
  | .ok document =>
    match analyze document with
    | (report, some definition) => .ok (definition, report)
    | (report, none) => .error (.invalid report)

/-- The definition that a text describes, with the report on it. -/
def load (text : String) : Except LoadFault (Definition × Report) := loadBy parseDocument text

end Workflow.Validation
