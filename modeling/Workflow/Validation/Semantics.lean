import Workflow.Graph.Reach
import Workflow.Pattern.Meaning
import Workflow.Template.Mask
import Workflow.Template.Path
import Workflow.Url.Basic
import Workflow.Validation.Report

/-!
# How the parts of a document fit together

Checked of a document whose form is right: ids, dependencies, the flow from start to end,
configurations, branches, fallbacks, references and input rules.
-/

namespace Workflow.Validation

/-! ## Steps as they stand in a document -/

/-- A step of a document and where it stands. -/
structure StepView where
  index : Nat
  id : String
  type : StepType
  dependsOn : List String
  config : Option (Entries Json)
  errorHandling : Option (Entries Json)

instance : Dependent StepView := ⟨StepView.id, StepView.dependsOn⟩

namespace StepView

def path (s : StepView) : String := s!"/workflow/steps/{s.index}"

def configPath (s : StepView) (key : String) : String := s!"/workflow/steps/{s.index}/config/{key}"

def config? (s : StepView) (key : String) : Option Json := s.config.bind (Entries.get? · key)

def text? (s : StepView) (key : String) : Option String := (s.config? key).bind Json.string?

/-- The step that an item of the list of steps is, unless it lacks an id or a kind. -/
def ofJson? (index : Nat) (json : Json) : Option StepView := do
  let fields ← json.fields?
  let id ← (← fields.get? "id").string?
  let type ← StepType.ofName? (← (← fields.get? "type").string?)
  let dependsOn := (((fields.get? "depends_on").bind Json.items?).getD []).filterMap Json.string?
  return ⟨index, id, type, dependsOn, (fields.get? "config").bind Json.fields?,
    (fields.get? "error_handling").bind Json.fields?⟩

end StepView

def stepViews (document : Json) : List StepView :=
  let items := ((document.at? ["workflow", "steps"]).bind Json.items?).getD []
  items.zipIdx.filterMap fun (json, i) => StepView.ofJson? i json

/-- The fields of a section of a document. -/
def sectionFields (document : Json) (key : String) : Entries Json :=
  ((document.field? key).bind Json.fields?).getD []

/-- What the parts of a document can refer to. -/
structure Names where
  steps : List String
  inputs : List String

def Names.ofDocument (document : Json) : Names :=
  ⟨(stepViews document).map StepView.id, (sectionFields document "inputs").keys⟩

namespace Semantics

/-! ## Ids and dependencies -/

/-- Names that references use for something else than steps. -/
def reservedIds : List String := ["sys", "input", "inputs"]

def ids (seen : List String) : List StepView → Findings
  | [] => .none
  | s :: rest =>
    .given (seen.contains s.id) (.error s!"{s.path}/id" (.duplicateStep s.id))
      ++ .given (reservedIds.contains s.id) (.error s!"{s.path}/id" (.reservedStep s.id))
      ++ ids (s.id :: seen) rest

def dependencies (known : List String) (s : StepView) : Findings :=
  .all <| s.dependsOn.zipIdx.map fun (dependency, j) =>
    .given (!known.contains dependency)
      (.error s!"{s.path}/depends_on/{j}" (.missingDependency s.id dependency))

def cycles (g : Graph) : Findings :=
  .all (g.cycles.map fun cycle => .error "/workflow/steps" (.circularDependency cycle))

/-! ## Flow -/

/-- The steps where the flow starts. -/
def starts (steps : List StepView) : List String :=
  (steps.filter fun s => s.type = .start).map StepView.id

/-- Whether there is one start and an end. -/
def ends (steps : List StepView) : Findings :=
  (match starts steps with
    | [] => .warning "/workflow/steps" .noStart
    | [_] => .none
    | ids => .warning "/workflow/steps" (.severalStarts ids))
  ++ .given (!steps.any fun s => s.type = .finish) (.warning "/workflow/steps" .noEnd)

/-- Steps that no start leads to. Without a start every step would be one. -/
def unreachable (g : Graph) (steps : List StepView) : Findings :=
  let starts := starts steps
  let reachable := g.reachable starts
  .given (!starts.isEmpty) <|
    .all (steps.map fun s => .given (!reachable.contains s.id)
      (.warning s.path (.unreachable s.id)))

/-- Starts that depend on steps, and ends that depend on none. -/
def edges (s : StepView) : Findings :=
  match s.type with
  | .start =>
    .given (!s.dependsOn.isEmpty) (.warning s!"{s.path}/depends_on" (.startDependencies s.id))
  | .finish => .given s.dependsOn.isEmpty (.warning s.path (.endWithoutDependencies s.id))
  | _ => .none

/-! ## Configurations -/

/-- The text of the pattern that finds a function called `main`. -/
def mainPattern : String := "\\bfunction\\s+main\\s*\\(|\\b(?:const|let|var)\\s+main\\s*="

/-- Whether code defines a function called `main`. -/
def definesMain (code : String) : Bool :=
  match Pattern.ofString mainPattern with
  | .ok pattern => pattern.matches? code
  | .error _ => false

def code (s : StepView) : Findings :=
  let language : Option Language := match s.config? "language" with
    | none => some .javascript
    | some raw => (Language.decoder raw).toOption
  let body := (s.text? "code").getD ""
  (match s.config? "language" with
    | none => .warning (s.configPath "language") (.missingLanguage s.id)
    | some raw =>
      .given language.isNone (.error (s.configPath "language") (.unsupportedLanguage s.id raw)))
  ++ (match language with
    | some .python3 => .warning (s.configPath "language") (.languageNotExecutable s.id .python3)
    | some .bash => .warning (s.configPath "language") (.languageNotExecutable s.id .bash)
    | _ => .none)
  ++ (if Unicode.isBlankText body then .error (s.configPath "code") (.missingCode s.id)
    else
      .given (language = some .javascript && !definesMain body)
        (.warning (s.configPath "code") (.missingMain s.id))
      ++ .given (maxCodeLength < body.length) (.warning (s.configPath "code") (.longCode s.id)))

def isMissing (text : Option String) : Bool := text.all Unicode.isBlankText

def prompt (s : StepView) : Findings :=
  match s.text? "prompt" with
  | none => .error (s.configPath "prompt") (.missingPrompt s.id)
  | some prompt =>
    if Unicode.isBlankText prompt then .error (s.configPath "prompt") (.missingPrompt s.id)
    else if prompt.length < minPromptLength then
      .warning (s.configPath "prompt") (.shortPrompt s.id)
    else .given (maxPromptLength < prompt.length)
      (.warning (s.configPath "prompt") (.longPrompt s.id))

def llm (s : StepView) : Findings :=
  .given (isMissing (s.text? "model")) (.error (s.configPath "model") (.missingModel s.id))
  ++ prompt s
  ++ (match s.config? "temperature" with
    | none => .none
    | some raw =>
      .given (!raw.float?.any fun t => 0 ≤ t && t ≤ 2)
        (.error (s.configPath "temperature") (.temperature s.id raw)))
  ++ (match s.config? "max_tokens" with
    | none => .none
    | some raw =>
      .given (!raw.natural?.any fun n => 1 ≤ n && n ≤ 4000)
        (.warning (s.configPath "max_tokens") (.maxTokens s.id raw)))

/-- A URL template with a stand-in for each reference. A reference at its head usually stands for
the scheme and the host. -/
def maskedUrl (url : String) : String :=
  let masked := Template.mask (Unicode.trim url) "placeholder"
  if ['$', '\x7b'].isPrefixOf (Unicode.trimChars url.toList) then "http://" ++ masked else masked

def url (s : StepView) : Findings :=
  match s.text? "url" with
  | none => .error (s.configPath "url") (.missingUrl s.id)
  | some raw =>
    if Unicode.isBlankText raw then .error (s.configPath "url") (.missingUrl s.id)
    else
      match Url.read (maskedUrl raw) with
      | .ok _ => .none
      | .error fault => .error (s.configPath "url") (.invalidUrl s.id raw fault)

def http (s : StepView) : Findings :=
  url s
  ++ (match s.config? "method" with
    | none => .warning (s.configPath "method") (.missingMethod s.id)
    | some raw =>
      .given ((raw.string?.bind HttpMethod.ofName?).isNone)
        (.error (s.configPath "method") (.invalidMethod s.id raw)))
  ++ (match (s.config? "timeout").bind Json.natural? with
    | some timeout =>
      .given (timeout < 1000 || 300000 < timeout)
        (.warning (s.configPath "timeout") (.unusualTimeout s.id timeout))
    | none => .none)

def branch (g : Graph) (known : List String) (s : StepView) (key : String) : Findings :=
  match s.text? key with
  | none => .none
  | some target =>
    if !known.contains target || target = s.id then
      .error (s.configPath key) (.branchTarget s.id key target)
    else
      .given (!(g.descendants s.id).contains target)
        (.warning (s.configPath key) (.branchNotDownstream s.id key target))

def condition (g : Graph) (known : List String) (s : StepView) : Findings :=
  .given (isMissing (s.text? "condition"))
    (.error (s.configPath "condition") (.missingCondition s.id))
  ++ branch g known s "true_step" ++ branch g known s "false_step"

def config (g : Graph) (known : List String) (s : StepView) : Findings :=
  match s.type with
  | .code | .llm | .http | .condition =>
    if s.config.isNone then .error s.path (.missingConfig s.id s.type)
    else
      match s.type with
      | .code => code s
      | .llm => llm s
      | .http => http s
      | _ => condition g known s
  | .loop | .parallel => .warning s!"{s.path}/type" (.reservedType s.id s.type)
  | .start | .finish => .none

def fallback (known : List String) (s : StepView) : Findings :=
  match s.errorHandling with
  | none => .none
  | some handling =>
    let path := s!"{s.path}/error_handling/fallback_step"
    match (handling.get? "fallback_step").bind Json.string? with
    | some target =>
      if target = s.id then .error path (.ownFallback s.id)
      else .given (!known.contains target) (.error path (.unknownFallback s.id target))
    | none =>
      .given ((handling.get? "on_error").bind Json.string? = some "fallback")
        (.warning path (.missingFallback s.id))

/-! ## References -/

/-- A reference that names no input and no step. -/
def reference (names : Names) (path : String) (token : Template.Token) : Findings :=
  match Template.path? token.path with
  | none => .error path (.malformedReference token.raw)
  | some (head, rest) =>
    if head = "sys" then .none
    else if head = "input" || head = "inputs" then
      match rest with
      | [] => .error path (.incompleteReference token.raw)
      | name :: _ =>
        .given (!names.inputs.contains name) (.error path (.undeclaredInput token.raw name))
    else
      .given (!names.inputs.contains head && !names.steps.contains head)
        (.error path (.unknownReference token.raw head))

def template (names : Names) (path text : String) : Findings :=
  .all ((Template.tokens text).map (reference names path))

mutual

def value (names : Names) (path : String) : Json → Findings
  | .str s => template names path s
  | .arr items => valueItems names path 0 items
  | .obj fields => valueFields names path fields
  | _ => .none

def valueItems (names : Names) (path : String) (i : Nat) : List Json → Findings
  | [] => .none
  | item :: rest => value names s!"{path}/{i}" item ++ valueItems names path (i + 1) rest

def valueFields (names : Names) (path : String) : List (String × Json) → Findings
  | [] => .none
  | (key, item) :: rest => value names s!"{path}/{key}" item ++ valueFields names path rest

end

/-- The references of a step; code is no template. -/
def stepReferences (names : Names) (s : StepView) : Findings :=
  .all <| (s.config.getD []).map fun (key, item) =>
    .given (!(s.type = .code && key = "code")) (value names (s.configPath key) item)

def outputReferences (names : Names) (name : String) (spec : Json) : Findings :=
  match (spec.field? "source").bind Json.string? with
  | some source => template names s!"/outputs/{name}/source" source
  | none => .none

/-! ## Inputs -/

/-- The pattern and the default of an input. -/
def input (name : String) (spec : Json) : Findings :=
  (match (spec.at? ["validation", "pattern"]).bind Json.string? with
    | none => .none
    | some pattern =>
      match Pattern.ofString pattern with
      | .ok _ => .none
      | .error e =>
        .error s!"/inputs/{name}/validation/pattern" (.invalidPattern name (e.message pattern)))
  ++ (match (spec.field? "type").bind (fun t => (ValueType.decoder t).toOption),
      spec.field? "default" with
    | some type, some value =>
      .given (!value.isNull && !type.accepts value)
        (.warning s!"/inputs/{name}/default" (.defaultType name type))
    | _, _ => .none)

def document (document : Json) : Findings :=
  let steps := stepViews document
  let names := Names.ofDocument document
  let g := Graph.ofNodes steps
  ids [] steps
  ++ .all (steps.map (dependencies names.steps))
  ++ cycles g
  ++ ends steps
  ++ unreachable g steps
  ++ .all (steps.map edges)
  ++ .all (steps.map fun s =>
    config g names.steps s ++ fallback names.steps s ++ stepReferences names s)
  ++ .all ((sectionFields document "outputs").map fun (name, spec) =>
    outputReferences names name spec)
  ++ .all ((sectionFields document "inputs").map fun (name, spec) => input name spec)

end Semantics

end Workflow.Validation
