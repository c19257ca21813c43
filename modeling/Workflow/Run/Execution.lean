import Workflow.Definition.Basic
import Workflow.Graph.Plan
import Workflow.Run.Attempt
import Workflow.Run.Outputs

/-!
# Execution

The steps of a definition take turns in the order of its plan. A turn settles its step, unless the
run is stopped before that. A step that has failed for good is settled by its error policy: it stops
the run, or the run goes on without it, or a fallback stands in for it. A run that has ended has a
result, unless it was broken off because the attempts at a step could not be counted.
-/

namespace Workflow

/-- Why a run has stopped before its end. -/
inductive Stop where
  | failed (step : String) (fault : StepFault)
  | fallbackFailed (step : String) (fault : StepFault) (target : String) (targetFault : StepFault)
  | overflow (overflow : Overflow)
  | cancelled
  /-- The attempts at a step cannot be counted. -/
  | uncounted (step : String)
  deriving DecidableEq, Repr

namespace Stop

def breaksOff : Stop → Bool
  | uncounted _ => true
  | _ => false

def status : Stop → RunStatus
  | cancelled => .cancelled
  | _ => .failed

def message : Stop → String
  | failed step fault => s!"step '{step}' failed: {fault.message}"
  | fallbackFailed step fault target targetFault =>
    s!"step '{step}' failed ({fault.message}) and fallback '{target}' failed: {targetFault.message}"
  | overflow o => o.message
  | cancelled => "execution cancelled"
  | uncounted step => s!"the attempts at step '{step}' cannot be counted"

end Stop

/-- A run under way: what it has brought about, and its session. -/
structure Run (σ : Type) where
  progress : Progress
  session : Session σ

namespace Run

variable {σ : Type}

/-- A run whose step has failed for good. -/
def fail (r : Run σ) (step : Step) (failure : Failure) : Run σ :=
  { r with progress := r.progress.settle step.id (.failed failure.fault.message failure.retries) }

/-- Settles a step that has succeeded. -/
def succeed (r : Run σ) (step : Step) (success : Success) : Run σ × Option Overflow :=
  let (progress, overflow) :=
    r.progress.complete step.id success.value (.completed success.value success.retries none)
  ({ r with progress := progress }, overflow)

/-- The value of a fallback: the result it has already, or that of the step, which is executed for
it. There is none if the attempts at that step cannot be counted. -/
def fallbackValue (env : Environment σ) (d : Definition) (step : Step) (target : String)
    (r : Run σ) :
    Option (Except StepFault Json) × Run σ :=
  match r.progress.context.result? target with
  | some value => (some (.ok value), r)
  | none =>
    match d.step? target with
    | none => (some (.error (.execution s!"fallback step '{target}' does not exist")), r)
    | some fallback =>
      match Attempt.all env fallback r.progress
          (r.session.note r.progress (.replaced step.id target)) with
      | (some (.ok success), session) =>
        match ({ r with session := session } : Run σ).succeed fallback success with
        | (r, none) => (some (.ok success.value), r)
        | (r, some overflow) => (some (.error (.execution overflow.message)), r)
      | (some (.error failure), session) =>
        (some (.error failure.fault),
          ({ r with session := session } : Run σ).fail fallback failure)
      | (none, session) => (none, { r with session := session })

def fallBack (env : Environment σ) (d : Definition) (step : Step) (target : String)
    (failure : Failure) (r : Run σ) : Run σ × Option Stop :=
  match r.fallbackValue env d step target with
  | (none, r) => (r, some (.uncounted target))
  | (some (.error .cancelled), r) => (r.fail step failure, some .cancelled)
  | (some (.error fault), r) =>
    (r.fail step failure, some (.fallbackFailed step.id failure.fault target fault))
  | (some (.ok value), r) =>
    match r.progress.complete step.id value (.completed value failure.retries (some target)) with
    | (progress, none) => ({ r with progress := progress }, none)
    | (progress, some overflow) =>
      (({ r with progress := progress } : Run σ).fail step failure, some (.overflow overflow))

def settleFailure (env : Environment σ) (d : Definition) (step : Step) (failure : Failure)
    (r : Run σ) :
    Run σ × Option Stop :=
  match Policy.decision step with
  | .fail => (r.fail step failure, some (.failed step.id failure.fault))
  | .skip => (r.fail step failure, none)
  | .fallback target => r.fallBack env d step target failure

def carryOut (env : Environment σ) (d : Definition) (step : Step) (r : Run σ) :
    Run σ × Option Stop :=
  match Attempt.all env step r.progress (r.session.note r.progress (.begun step.id)) with
  | (none, session) => ({ r with session := session }, some (.uncounted step.id))
  | (some (.ok success), session) =>
    let r : Run σ := { progress := r.progress.leave success.notTaken, session := session }
    match r.succeed step success with
    | (r, none) => (r, none)
    | (r, some overflow) => (r, some (.overflow overflow))
  | (some (.error failure), session) =>
    let r : Run σ := { r with session := session }
    if failure.fault.isCancelled then (r.fail step failure, some .cancelled)
    else r.settleFailure env d step failure

/-- The turn of a step. A step that is settled already does nothing. -/
def turn (env : Environment σ) (d : Definition) (step : Step) (r : Run σ) : Run σ × Option Stop :=
  let r := { r with session := r.session.look env }
  if r.session.isCancelled then (r, some .cancelled)
  else if r.progress.isSettled step.id then (r, none)
  else if r.progress.passesOver step then ({ r with progress := r.progress.passOver step.id }, none)
  else r.carryOut env d step

/-- The turns of several steps, up to one that stops the run. -/
def turns (env : Environment σ) (d : Definition) : List Step → Run σ → Run σ × Option Stop
  | [], r => (r, none)
  | step :: rest, r =>
    match r.turn env d step with
    | (r, some stop) => (r, some stop)
    | (r, none) => turns env d rest r

/-- What has become of a run that has ended or stopped. -/
def result (d : Definition) (r : Run σ) (stop : Option Stop) : RunResult where
  executionId := r.progress.context.executionId
  workflowName := d.name
  status := (stop.map Stop.status).getD .completed
  outputs := if stop.isNone then Outputs.resolve r.progress.context.scope d.outputs else []
  error := stop.map Stop.message
  steps := r.progress.entries
  totalSteps := d.steps.length

/-- The result of a run, unless the run was broken off. -/
def outcome (d : Definition) (r : Run σ) (stop : Option Stop) : Option RunResult :=
  if stop.any Stop.breaksOff then none else some (r.result d stop)

def initial (env : Environment σ) (d : Definition) (executionId : String) (inputs : Entries Json)
    (clock : Clock) (world : σ) : Run σ where
  progress := .initial (.initial d executionId env.time inputs)
  session := .initial clock world

end Run

/-- Runs a definition. Without a plan it cannot be run. -/
def execute {σ : Type} (env : Environment σ) (d : Definition) (executionId : String)
    (inputs : Entries Json) (clock : Clock) (world : σ) :
    Except PlanFault (Option RunResult × Session σ) := do
  let order ← Plan.sequence d.steps
  let (r, stop) := (Run.initial env d executionId inputs clock world).turns env d order
  return (r.outcome d stop, r.session)

end Workflow
