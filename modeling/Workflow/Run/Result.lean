import Workflow.Json.Basic

/-!
# Results of runs

A run has a result however it ends, so what it has done so far can be looked at.
-/

namespace Workflow

inductive RunStatus where
  | completed
  | failed
  | cancelled
  deriving DecidableEq, Repr

namespace RunStatus

def all : List RunStatus := [completed, failed, cancelled]

def name : RunStatus → String
  | completed => "completed"
  | failed => "failed"
  | cancelled => "cancelled"

end RunStatus

inductive StepStatus where
  | completed
  | failed
  | skipped
  deriving DecidableEq, Repr

namespace StepStatus

def all : List StepStatus := [completed, failed, skipped]

def name : StepStatus → String
  | completed => "completed"
  | failed => "failed"
  | skipped => "skipped"

end StepStatus

/-- What has become of a step. -/
inductive StepResult where
  /-- The step has a result, its own after some retries or that of its fallback. -/
  | completed (data : Json) (retries : Nat) (fallback : Option String)
  | failed (error : String) (retries : Nat)
  | skipped (reason : String)

namespace StepResult

def status : StepResult → StepStatus
  | completed _ _ _ => .completed
  | failed _ _ => .failed
  | skipped _ => .skipped

/-- The data of a completed step. -/
def data? : StepResult → Option Json
  | completed data _ _ => some data
  | _ => none

def error? : StepResult → Option String
  | completed _ _ _ => none
  | failed error _ => some error
  | skipped reason => some reason

def retries : StepResult → Nat
  | completed _ retries _ => retries
  | failed _ retries => retries
  | skipped _ => 0

/-- The step whose result this one has taken over. -/
def fallback? : StepResult → Option String
  | completed _ _ fallback => fallback
  | _ => none

def succeeded (r : StepResult) : Bool := r.status = .completed

end StepResult

/-- What has become of a run. -/
structure RunResult where
  executionId : String
  workflowName : String
  status : RunStatus
  outputs : Entries Json
  error : Option String
  /-- What has become of the steps, in the order in which that was settled. -/
  steps : Entries StepResult
  totalSteps : Nat

namespace RunResult

def succeeded (r : RunResult) : Bool := r.status = .completed

def completedSteps (r : RunResult) : Nat := r.steps.values.countP StepResult.succeeded

def failedSteps (r : RunResult) : List String :=
  Entries.keys (r.steps.filter fun pair => pair.2.status = .failed)

end RunResult

end Workflow
