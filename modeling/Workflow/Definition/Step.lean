import Workflow.Decode.Basic
import Workflow.Graph.Basic
import Workflow.Unicode.Blank

/-!
# Steps

A step has an id, the ids of the steps it depends on, and a configuration that says what it does.
Its error policy says what happens when it fails.
-/

namespace Workflow

inductive StepType where
  | start
  | finish
  | code
  | llm
  | http
  | condition
  | loop
  | parallel
  deriving DecidableEq, Repr, Inhabited

namespace StepType

/-- The kinds in the order in which messages list them. -/
def all : List StepType := [start, finish, code, llm, http, condition, loop, parallel]

def name : StepType → String
  | start => "start"
  | finish => "end"
  | code => "code"
  | llm => "llm"
  | http => "http"
  | condition => "condition"
  | loop => "loop"
  | parallel => "parallel"

/-- Whether steps of a kind can be executed; the others are reserved. -/
def isExecutable : StepType → Bool
  | loop | parallel => false
  | _ => true

def ofName? (name : String) : Option StepType := all.find? fun t => t.name = name

end StepType

inductive Language where
  | javascript
  | python3
  | bash
  deriving DecidableEq, Repr, Inhabited

namespace Language

def all : List Language := [javascript, python3, bash]

def name : Language → String
  | javascript => "javascript"
  | python3 => "python3"
  | bash => "bash"

def decoder : Decoder Language := Decode.variant name all

end Language

inductive HttpMethod where
  | get
  | post
  | put
  | patch
  | delete
  | head
  | options
  deriving DecidableEq, Repr, Inhabited

namespace HttpMethod

def all : List HttpMethod := [get, post, put, patch, delete, head, options]

def name : HttpMethod → String
  | get => "GET"
  | post => "POST"
  | put => "PUT"
  | patch => "PATCH"
  | delete => "DELETE"
  | head => "HEAD"
  | options => "OPTIONS"

def carriesBody : HttpMethod → Bool
  | post | put | patch => true
  | _ => false

/-- The method with a name; case and blanks around it do not count. -/
def ofName? (text : String) : Option HttpMethod :=
  let upper := String.ofList ((Unicode.trimChars text.toList).map Char.toUpper)
  all.find? fun m => m.name = upper

def ofText (text : String) : Except Decode.Fault HttpMethod :=
  match ofName? text with
  | some m => .ok m
  | none => .error (.method text)

def decoder : Decoder HttpMethod := fun json => do ofText (← Decode.text json)

end HttpMethod

structure CodeConfig where
  language : Language
  code : String
  timeout : Option UInt64
  deriving BEq, Inhabited

structure LlmConfig where
  model : String
  prompt : String
  systemPrompt : Option String
  temperature : Option Float
  maxTokens : Option UInt32
  timeout : Option UInt64
  deriving BEq, Inhabited

/-- The request of an HTTP step. -/
structure HttpConfig where
  url : String
  method : HttpMethod
  headers : Entries String
  body : Option Json
  timeout : Option UInt64
  deriving BEq, Inhabited

/-- What a condition step tests, and the steps it chooses between. -/
structure ConditionConfig where
  condition : String
  trueStep : Option String
  falseStep : Option String
  deriving BEq, DecidableEq, Inhabited

/-- What a step does. -/
inductive StepConfig where
  | start
  | finish
  | code (config : CodeConfig)
  | llm (config : LlmConfig)
  | http (config : HttpConfig)
  | condition (config : ConditionConfig)
  | reserved (config : Json)
  deriving BEq, Inhabited

inductive OnError where
  | fail
  | skip
  | retry
  | fallback
  deriving DecidableEq, Repr, Inhabited

namespace OnError

def all : List OnError := [fail, skip, retry, fallback]

def name : OnError → String
  | fail => "fail"
  | skip => "skip"
  | retry => "retry"
  | fallback => "fallback"

def decoder : Decoder OnError := Decode.variant name all

end OnError

structure ErrorHandling where
  onError : OnError
  retryCount : Option UInt32
  fallbackStep : Option String
  deriving DecidableEq, Inhabited, Repr

structure Step where
  id : String
  type : StepType
  name : Option String
  description : Option String
  /-- The steps that come before this one. -/
  dependsOn : List String
  config : StepConfig
  /-- Names of results with the paths they are found under. -/
  outputs : Entries String
  errorHandling : Option ErrorHandling
  deriving BEq, Inhabited

instance : Dependent Step := ⟨Step.id, Step.dependsOn⟩

namespace Step

def onError (step : Step) : OnError := (step.errorHandling.map ErrorHandling.onError).getD .fail

/-- The name of the step, or its id if it has none. -/
def label (step : Step) : String := step.name.getD step.id

end Step

end Workflow
