import Workflow.Run.Session
import Workflow.Step.Policy
import Workflow.Step.Projection

/-!
# Attempts

A step is tried until it succeeds, is cancelled, or has no attempt left. If its attempts cannot be
counted there is no saying whether one is left, and the first that fails has no outcome.
-/

namespace Workflow

/-- A step that has succeeded: its value, the branch it did not take, and how
often it was tried again. -/
structure Success where
  value : Json
  notTaken : Option String
  retries : Nat

/-- A step that has failed for good. -/
structure Failure where
  fault : StepFault
  retries : Nat

namespace Attempt

variable {σ : Type}

def conclude (step : Step) (output : StepOutput) : Except StepFault (Json × Option String) := do
  return (← Projection.apply step.id step.outputs output.toJson, output.notTaken?)

/-- A single attempt within the time limit of the step. A cancelled run makes none. -/
def once (env : Environment σ) (step : Step) (p : Progress) (s : Session σ) :
    Except StepFault (Json × Option String) × Session σ :=
  let s := s.look env
  if s.isCancelled then (.error .cancelled, s)
  else
    let (output, s) :=
      (s.note p (.called step.id)).perform env step p.context (step.timeout? env.timeouts)
    (output.bind (conclude step), s)

/-- The pause before another attempt; `false` if the run is cancelled instead. -/
def pause (env : Environment σ) (s : Session σ) : Bool × Session σ :=
  if env.retryDelay = 0 then (true, s)
  else
    let s := s.look env
    if s.isCancelled then (false, s)
    else
      let (waking, clock) := s.clock.wait env.retryDelay none
      (waking = .elapsed, { s with clock := clock })

/-- Attempts after `done` failed ones, for as long as the policy asks for another. -/
def repeated (env : Environment σ) (step : Step) (p : Progress) (done : Nat) (s : Session σ) :
    Option (Except Failure Success) × Session σ :=
  match once env step p s with
  | (.ok (value, notTaken), s) => (some (.ok ⟨value, notTaken, done⟩), s)
  | (.error fault, s) =>
    match _ : Policy.shouldRetry step (done + 1) fault with
    | none => (none, s)
    | some false => (some (.error ⟨fault, done⟩), s)
    | some true =>
      match pause env s with
      | (true, s) => repeated env step p (done + 1) s
      | (false, s) => (some (.error ⟨.cancelled, done⟩), s)
termination_by Policy.retries step - done
decreasing_by exact Nat.sub_succ_lt_self _ _ (Policy.le_retries_of_shouldRetry ‹_›)

def all (env : Environment σ) (step : Step) (p : Progress) (s : Session σ) :
    Option (Except Failure Success) × Session σ :=
  match repeated env step p 0 s with
  | (some (.ok success), s) =>
    (some (.ok success), s.note p (.concluded step.id success.value success.notTaken))
  | (some (.error failure), s) => (some (.error failure), s)
  | (none, s) => (none, s)

end Attempt

end Workflow
