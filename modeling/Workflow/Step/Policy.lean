import Workflow.Definition.Step
import Workflow.Step.Fault

/-!
# Error policies

How often a step is tried and what happens when it has failed for good.
-/

namespace Workflow

/-- What happens when a step has failed for good. -/
inductive Decision where
  | fail
  | skip
  | fallback (target : String)
  deriving DecidableEq, Repr

namespace Policy

/-- How often a step is tried in all. A step that is retried at all is retried at least once. There
is no answer if 32 bits do not hold the sum. -/
def maxAttempts (step : Step) : Option UInt32 :=
  match step.errorHandling with
  | some ⟨.retry, count, _⟩ =>
    let again := max (count.getD 1) 1
    if 1 + again.toNat < UInt32.size then some (1 + again) else none
  | _ => some 1

/-- How often a step is tried again at most. -/
def retries (step : Step) : Nat := ((maxAttempts step).map UInt32.toNat).getD 1 - 1

/-- Whether another attempt follows a failed one, counted from one. A step that was cancelled is not
tried again, so it does not matter then whether its attempts can be counted. -/
def shouldRetry (step : Step) (attempt : Nat) (fault : StepFault) : Option Bool :=
  if fault.isCancelled then some false
  else (maxAttempts step).map fun most => attempt < most.toNat

/-- Only so many attempts follow the first one. -/
theorem le_retries_of_shouldRetry {step : Step} {attempt : Nat} {fault : StepFault}
    (h : shouldRetry step attempt fault = some true) : attempt ≤ retries step := by
  unfold shouldRetry at h
  split at h
  · cases h
  · obtain ⟨most, hmost, hlt⟩ := Option.map_eq_some_iff.mp h
    have hlt : attempt < most.toNat := of_decide_eq_true hlt
    rw [retries, hmost, Option.map_some, Option.getD_some]
    exact Nat.le_sub_one_of_lt hlt

/-- What happens when a step has failed for good. No step is its own fallback. -/
def decision (step : Step) : Decision :=
  match step.errorHandling with
  | some ⟨.skip, _, _⟩ => .skip
  | some ⟨.fallback, _, some target⟩ => if target = step.id then .fail else .fallback target
  | _ => .fail

end Policy

end Workflow
