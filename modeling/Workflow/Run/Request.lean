import Workflow.Definition.Step
import Workflow.Step.Fault

/-!
# Requests to collaborators

Code is run, text generated and HTTP requests sent by collaborators. A step makes at most one
request; the reply comes after a delay and may be a fault.
-/

namespace Workflow

structure CodeRequest where
  step : String
  language : Language
  code : String
  arguments : List Json
  bindings : Entries Json
  timeout : Nat

structure GenerationRequest where
  model : String
  prompt : String
  systemPrompt : Option String
  temperature : Option Float
  maxTokens : Option UInt32

structure HttpRequest where
  method : HttpMethod
  url : String
  headers : Entries String
  body : Option Json
  timeout : Nat

structure Generation where
  text : String
  metadata : Json

structure HttpResponse where
  status : Nat
  headers : Entries String
  body : String

inductive Request where
  | code (request : CodeRequest)
  | generation (request : GenerationRequest)
  | http (request : HttpRequest)

/-- What answers a request. -/
def Request.Response : Request → Type
  | code _ => Json
  | generation _ => Generation
  | http _ => HttpResponse

/-- A reply: what it is, how long it takes, and whether the run is cancelled as it arrives. -/
structure Reply (α : Type) where
  delay : Nat
  cancels : Bool
  outcome : Except StepFault α

/-- The collaborators of a run, in a world whose state is of type `σ`. -/
structure Collaborators (σ : Type) where
  /-- The languages in which code can be run. -/
  supports : Language → Bool
  /-- Whether text can be generated. -/
  generates : Bool
  /-- Whether requests can be sent. -/
  sends : Bool
  answer : (request : Request) → σ → Reply request.Response × σ

end Workflow
