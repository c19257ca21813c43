import Workflow.Validation.Report

/-!
# The form of documents

Every part of a document is checked for its type, its required properties and its limits. All broken
rules are found, in the order of the document.
-/

namespace Workflow.Validation

/-- A broken rule at a path; the empty path is the whole document. -/
structure Breach where
  path : String
  violation : Violation

namespace Schema

def breach (path : String) (violation : Violation) : List Breach := [⟨path, violation⟩]

/-- A broken rule unless a condition holds. -/
def require (condition : Bool) (path : String) (violation : Violation) : List Breach :=
  if condition then [] else breach path violation

def object (path : String) (check : Entries Json → List Breach) : Json → List Breach
  | .obj fields => check fields
  | json => breach path (.shape .object json)

def string (path : String) (check : String → List Breach) : Json → List Breach
  | .str s => check s
  | json => breach path (.shape .string json)

/-- What is checked of an array, item by item, with the index of each. -/
def array (path : String) (check : List Json → List Breach) : Json → List Breach
  | .arr items => check items
  | json => breach path (.shape .array json)

def anyString (path : String) : Json → List Breach := string path fun _ => []

def anyObject (path : String) : Json → List Breach := object path fun _ => []

def mandatory (fields : Entries Json) (path key : String) (check : Json → List Breach) :
    List Breach :=
  match fields.get? key with
  | some value => check value
  | none => breach path (.required key)

def optional (fields : Entries Json) (key : String) (check : Json → List Breach) : List Breach :=
  match fields.get? key with
  | some value => check value
  | none => []

def atMost (path : String) (most : Nat) (s : String) : List Breach :=
  require (s.length ≤ most) path (.maxLength most)

def atLeast (path : String) (least : Nat) (s : String) : List Breach :=
  require (least ≤ s.length) path (.minLength least)

def matching (path : String) (pattern : NamePattern) (s : String) : List Breach :=
  require (pattern.accepts s) path (.pattern s pattern)

/-- An optional text of at most so many characters. -/
def shortText (fields : Entries Json) (path key : String) (most : Nat) : List Breach :=
  optional fields key (string s!"{path}/{key}" (atMost s!"{path}/{key}" most))

/-- The items of an array, each with its index. -/
def each (items : List Json) (check : Nat → Json → List Breach) : List Breach :=
  items.zipIdx.flatMap fun (item, i) => check i item

def oneOf (path : String) (allowed : List String) (s : String) : List Breach :=
  require (allowed.contains s) path (.oneOf s allowed)

/-! ## Sections -/

/-- A version: three numbers that make up a semantic version. -/
def version (path : String) (s : String) : List Breach :=
  if NamePattern.version.accepts s then
    match Version.read s with
    | .ok _ => []
    | .error fault => breach path (.version s fault)
  else breach path (.pattern s .version)

/-- Tags: an array of at most ten short texts. -/
def tags (path : String) : Json → List Breach :=
  array path fun items =>
    require (items.length ≤ 10) path (.maxItems 10)
      ++ each items fun i => string s!"{path}/{i}" (atMost s!"{path}/{i}" 50)

def metadata : Json → List Breach :=
  object "/metadata" fun fields =>
    mandatory fields "/metadata" "name" (string "/metadata/name" fun s =>
        matching "/metadata/name" .workflow s ++ atLeast "/metadata/name" 3 s ++
          atMost "/metadata/name" 100 s)
      ++ mandatory fields "/metadata" "description"
        (string "/metadata/description" (atMost "/metadata/description" 500))
      ++ mandatory fields "/metadata" "version"
        (string "/metadata/version" (version "/metadata/version"))
      ++ shortText fields "/metadata" "author" 100
      ++ optional fields "tags" (tags "/metadata/tags")

def valueType (path : String) : Json → List Breach :=
  string path (oneOf path (ValueType.all.map ValueType.name))

def inputRules (path : String) : Json → List Breach :=
  object path fun fields =>
    optional fields "pattern" (anyString s!"{path}/pattern")
      ++ ["min_length", "max_length", "minLength", "maxLength"].flatMap (fun key =>
        optional fields key fun value => require value.natural?.isSome s!"{path}/{key}" .notNatural)
      ++ ["minimum", "maximum"].flatMap (fun key =>
        optional fields key fun value =>
          require value.isNumber s!"{path}/{key}" (.shape .number value))
      ++ optional fields "enum"
        (fun value => require value.isArray s!"{path}/enum" (.shape .array value))

def input (name : String) (spec : Json) : List Breach :=
  let path := s!"/inputs/{name}"
  matching path .identifier name ++ object path (fun fields =>
    mandatory fields path "type" (valueType s!"{path}/type")
      ++ optional fields "required"
        (fun value => require value.isBool s!"{path}/required" (.shape .boolean value))
      ++ shortText fields path "description" 200
      ++ optional fields "validation" (inputRules s!"{path}/validation")) spec

def inputs : Json → List Breach :=
  object "/inputs" fun fields => fields.flatMap fun (name, spec) => input name spec

def errorHandling (path : String) : Json → List Breach :=
  object path fun fields =>
    optional fields "on_error" (string s!"{path}/on_error"
        (oneOf s!"{path}/on_error" (OnError.all.map OnError.name)))
      ++ optional fields "retry_count" (fun count =>
        match count.natural? with
        | none => breach s!"{path}/retry_count" .notNatural
        | some n => require (n ≤ 10) s!"{path}/retry_count" (.maximum 10))
      ++ optional fields "fallback_step" (string s!"{path}/fallback_step"
        (matching s!"{path}/fallback_step" .identifier))

def step (path : String) : Json → List Breach :=
  object path fun fields =>
    mandatory fields path "id" (string s!"{path}/id" (matching s!"{path}/id" .identifier))
      ++ mandatory fields path "type"
        (string s!"{path}/type" (oneOf s!"{path}/type" (StepType.all.map StepType.name)))
      ++ shortText fields path "name" 100
      ++ shortText fields path "description" 200
      ++ optional fields "depends_on" (array s!"{path}/depends_on" fun items =>
        each items fun j => anyString s!"{path}/depends_on/{j}")
      ++ optional fields "config" (anyObject s!"{path}/config")
      ++ optional fields "outputs" (object s!"{path}/outputs" fun outputs =>
        outputs.flatMap fun (name, target) => anyString s!"{path}/outputs/{name}" target)
      ++ optional fields "error_handling" (errorHandling s!"{path}/error_handling")

def steps : Json → List Breach :=
  array "/workflow/steps" fun items =>
    require (!items.isEmpty) "/workflow/steps" .noSteps
      ++ each items fun i => step s!"/workflow/steps/{i}"

def graph : Json → List Breach :=
  object "/workflow" fun fields => mandatory fields "/workflow" "steps" steps

def output (name : String) (spec : Json) : List Breach :=
  let path := s!"/outputs/{name}"
  matching path .identifier name ++ object path (fun fields =>
    mandatory fields path "source" (anyString s!"{path}/source")
      ++ optional fields "type" (valueType s!"{path}/type")
      ++ shortText fields path "description" 500) spec

def outputs : Json → List Breach :=
  object "/outputs" fun fields => fields.flatMap fun (name, spec) => output name spec

def sections : List String := ["metadata", "inputs", "workflow", "outputs"]

def document : Json → List Breach :=
  object "" fun fields =>
    fields.keys.flatMap (fun key => require (sections.contains key) s!"/{key}"
      (.unknownSection key))
      ++ mandatory fields "" "metadata" metadata
      ++ mandatory fields "" "inputs" inputs
      ++ mandatory fields "" "workflow" graph
      ++ mandatory fields "" "outputs" outputs

end Schema

def workflowName (document : Json) : Option String :=
  (document.at? ["metadata", "name"]).bind Json.string?

def Breach.finding (b : Breach) : Finding :=
  ⟨.schema b.violation, some (if b.path = "" then "/" else b.path)⟩

def checkSchema (document : Json) : Report :=
  .ofFindings ⟨(Schema.document document).map Breach.finding, []⟩ (workflowName document)

end Workflow.Validation
