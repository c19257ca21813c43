import Workflow.Condition.Evaluate
import Workflow.Configuration
import Workflow.Json.Read
import Workflow.Run.Context
import Workflow.Run.Request
import Workflow.Url.Basic

/-!
# Handling steps

What a step does when it is its turn: it is done at once, or it makes a request and is done with the
reply. All its templates are resolved before the request is made.
-/

namespace Workflow

inductive StepOutput where
  | value (value : Json)
  | branch (result : Bool) (selected notTaken : Option String)

namespace StepOutput

def textOrNull : Option String → Json
  | some s => .str s
  | none => .null

def toJson : StepOutput → Json
  | value v => v
  | branch result selected _ =>
    .obj [("result", .bool result), ("branch", .str (if result then "true" else "false")),
      ("selected_step", textOrNull selected)]

def notTaken? : StepOutput → Option String
  | value _ => none
  | branch _ _ target => target

end StepOutput

/-- How a step is handled. -/
inductive Handling where
  | done (result : Except StepFault StepOutput)
  | request (request : Request) (finish : request.Response → Except StepFault StepOutput)

namespace Handling

/-- A handling whose request is found only if nothing fails before it. -/
def ofExcept : Except StepFault Handling → Handling
  | .ok h => h
  | .error fault => done (.error fault)

end Handling

namespace Step

/-- The time limit of a step in milliseconds; some kinds of steps have none. -/
def timeout? (timeouts : Timeouts) (step : Step) : Option Nat :=
  match step.config with
  | .code c => some (c.timeout.getD timeouts.code).toNat
  | .llm c => some (c.timeout.getD timeouts.llm).toNat
  | .http c => some (c.timeout.getD timeouts.http).toNat
  | _ => none

end Step

namespace Handler

variable {σ : Type}

def resolve (c : Context) (template : String) : Except StepFault String :=
  (Template.resolveString c.scope template).mapError StepFault.ofTemplate

def resolveHeaders (c : Context) : Entries String → Except StepFault (Entries String)
  | [] => .ok []
  | (name, template) :: rest => do
    let value ← resolve c template
    return (name, value) :: (← resolveHeaders c rest)

def arguments (c : Context) : List Json := c.declared.filterMap c.inputs.get?

def code (cs : Collaborators σ) (timeouts : Timeouts) (id : String) (config : CodeConfig)
    (c : Context) : Handling :=
  if cs.supports config.language then
    let timeout := (config.timeout.getD timeouts.code).toNat
    .request (.code ⟨id, config.language, config.code, arguments c, c.bindings, timeout⟩)
      fun (value : Json) => .ok (.value value)
  else .done (.error (.language config.language.name))

/-- A prompt that comes back as the text, for want of a generator. -/
def echo (model prompt time : String) : Json :=
  .obj [("text", .str prompt),
    ("metadata", .obj [("model", .str model), ("generated_at", .str time),
      ("method", .str "fallback")])]

def llm (cs : Collaborators σ) (config : LlmConfig) (time : String) (c : Context) : Handling :=
  .ofExcept do
    let prompt ← resolve c config.prompt
    let system ← match config.systemPrompt with
      | some template => (resolve c template).map some
      | none => pure none
    if cs.generates then
      return .request
        (.generation ⟨config.model, prompt, system, config.temperature, config.maxTokens⟩)
        fun (g : Generation) =>
          .ok (.value (.obj [("text", .str g.text), ("metadata", g.metadata)]))
    else return .done (.ok (.value (echo config.model prompt time)))

/-- The value of a response. A body that is not JSON is text. -/
def response (request : HttpRequest) (r : HttpResponse) : Except StepFault StepOutput :=
  if 400 ≤ r.status then
    .error (.http s!"{request.method.name} {request.url} returned status {r.status}")
  else
    let data := (Json.read? r.body).getD (.str r.body)
    .ok (.value (.obj [("status", .nat r.status), ("headers", .obj (r.headers.mapValues Json.str)),
      ("data", data)]))

def http (cs : Collaborators σ) (timeouts : Timeouts) (config : HttpConfig) (c : Context) :
    Handling :=
  .ofExcept do
    let url ← resolve c config.url
    match Url.read url with
    | .error fault => .error (.http s!"invalid url '{url}': {fault.message}")
    | .ok _ =>
      let headers ← resolveHeaders c config.headers
      let body ← match config.body with
        | some body =>
          if config.method.carriesBody then
            ((Template.resolveValue c.scope body).mapError StepFault.ofTemplate).map some
          else pure none
        | none => pure none
      if cs.sends then
        let request : HttpRequest :=
          ⟨config.method, url, headers, body, (config.timeout.getD timeouts.http).toNat⟩
        return .request (.http request) fun (r : HttpResponse) => response request r
      else .error (.http "no HTTP client configured")

/-- Fails on the first reference that leads nowhere. -/
def checkReferences (c : Context) : List Template.Token → Except StepFault Unit
  | [] => .ok ()
  | token :: rest => do
    let _ ← (Template.resolvePath c.scope token.path).mapError StepFault.ofTemplate
    checkReferences c rest

def condition (config : ConditionConfig) (c : Context) : Except StepFault StepOutput := do
  checkReferences c (Template.tokens config.condition)
  let result ← (Condition.verdict config.condition (.obj c.bindings)).mapError StepFault.ofCondition
  return if result then .branch true config.trueStep config.falseStep
    else .branch false config.falseStep config.trueStep

def handle (cs : Collaborators σ) (timeouts : Timeouts) (time : String) (step : Step)
    (c : Context) : Handling :=
  match step.config with
  | .start => .done (.ok (.value (.obj [("started_at", .str time)])))
  | .finish => .done (.ok (.value (.obj [("completed_at", .str time)])))
  | .code config => code cs timeouts step.id config c
  | .llm config => llm cs config time c
  | .http config => http cs timeouts config c
  | .condition config => .done (condition config c)
  | .reserved _ => .done (.error (.type step.type.name))

end Handler

end Workflow
