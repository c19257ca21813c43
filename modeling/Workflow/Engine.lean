import Workflow.Configuration
import Workflow.Refusal
import Workflow.Registry
import Workflow.Run.Execution

/-!
# The engine

Workflows are loaded, looked at, run and removed by name. A run that has ended is added to the
history, unless it was abandoned; while it lasts it can be cancelled by its id.
-/

namespace Workflow

open Validation (Notice)

/-- A registry and the runs under way. -/
structure Engine where
  registry : Registry
  /-- The ids of the runs under way. -/
  running : List String

/-- A workflow that has been loaded, with advice on it. -/
structure Loaded where
  name : String
  warnings : List Notice

/-- How a run can be cut short from outside, and when. -/
inductive Interruption where
  /-- The run is cancelled. -/
  | cancel (moment : Nat)
  /-- Nobody waits for the run any more. -/
  | abandon (moment : Nat)
  deriving DecidableEq, Repr

namespace Interruption

def moment : Interruption → Nat
  | cancel moment => moment
  | abandon moment => moment

end Interruption

/-- How a run ends for those who wait for it. -/
inductive Ending where
  | finished (result : RunResult)
  | abandoned
  /-- The run was broken off. -/
  | broken

/-- What a configuration and collaborators make up at a time of day. -/
def Configuration.environment {σ : Type} (c : Configuration) (collaborators : Collaborators σ)
    (time : String) :
    Environment σ where
  collaborators := collaborators
  timeouts := c.timeouts
  retryDelay := c.retryDelay.toNat
  time := time

namespace Engine

variable {σ : Type}

def initial (c : Configuration) : Engine := ⟨.empty c.historyLimit.toNat, []⟩

def detail (e : Engine) (name : String) : Except Refusal Definition :=
  match e.registry.get? name with
  | some d => .ok d
  | none => .error (.notFound name)

def load (e : Engine) (text : String) : Except Refusal (Loaded × Engine) :=
  match Validation.load text with
  | .ok (d, report) => .ok (⟨d.name, report.warnings⟩, { e with registry := e.registry.insert d })
  | .error fault => .error (.load fault)

def remove (e : Engine) (name : String) : Except Refusal Engine :=
  if e.registry.contains name then .ok { e with registry := e.registry.erase name }
  else .error (.notFound name)

def prepare (e : Engine) (name : String) (inputs : Entries Json) :
    Except Refusal (Entries Json) := do
  let d ← e.detail name
  (Inputs.prepare d.inputs inputs).mapError .inputs

/-- Whether a run is under way that an id can cancel. -/
def cancels (e : Engine) (id : String) : Bool := e.running.contains id

/-- Starts a run of a workflow: its definition, its inputs, and the engine
while the run is under way. -/
def start (e : Engine) (name : String) (inputs : Entries Json) (id : String) :
    Except Refusal (Definition × Entries Json × Engine) := do
  let d ← e.detail name
  let inputs ← e.prepare name inputs
  return (d, inputs, { e with running := id :: e.running })

/-- Ends a run; its result is added to the history if there is one. -/
def finish (e : Engine) (id : String) (ending : Ending) : Engine :=
  let registry := match ending with
    | .finished result => e.registry.record result
    | _ => e.registry
  ⟨registry, e.running.erase id⟩

/-- Whether a run was abandoned before its end. -/
def isAbandoned (interruption : Option Interruption) (s : Session σ) : Bool :=
  match interruption with
  | some (.abandon _) => s.clock.cancelAt.isNone
  | _ => false

def run (env : Environment σ) (name : String) (inputs : Entries Json) (id : String)
    (interruption : Option Interruption) (world : σ) (e : Engine) :
    Except Refusal (Ending × σ × Engine) := do
  let (d, inputs, e) ← e.start name inputs id
  let clock := Clock.initial false (interruption.map Interruption.moment)
  let (outcome, session) ← (execute env d id inputs clock world).mapError .plan
  let ending :=
    if isAbandoned interruption session then .abandoned
    else (outcome.map Ending.finished).getD .broken
  return (ending, session.world, e.finish id ending)

end Engine

end Workflow
