import Workflow.Proofs.Run.Turn

/-!
# Runs that are broken off

A run is broken off when an attempt has failed whose step asks for more attempts than can be
counted. If all attempts can be counted, every run has a result.
-/

namespace Workflow

/-- The attempts at every step can be counted. -/
def Definition.Countable (d : Definition) : Prop :=
  ∀ step ∈ d.steps, Policy.maxAttempts step ≠ none

instance (d : Definition) : Decidable d.Countable :=
  inferInstanceAs (Decidable (∀ step ∈ d.steps, Policy.maxAttempts step ≠ none))

theorem Definition.mem_of_step? {d : Definition} {id : String} {step : Step}
    (h : d.step? id = some step) : step ∈ d.steps ∧ step.id = id :=
  ⟨List.mem_of_find?_eq_some h, by simpa using List.find?_some h⟩

theorem Policy.shouldRetry_of_cancelled {step : Step} {attempt : Nat} {fault : StepFault}
    (h : fault.isCancelled = true) : shouldRetry step attempt fault = some false :=
  if_pos h

theorem Policy.shouldRetry_eq_none_iff {step : Step} {attempt : Nat} {fault : StepFault} :
    shouldRetry step attempt fault = none ↔
      fault.isCancelled = false ∧ maxAttempts step = none := by
  unfold shouldRetry
  cases fault.isCancelled <;> simp

/-- If the attempts can be counted, one follows on a failure for as long as a retry is left. -/
theorem Policy.shouldRetry_succ {step : Step} {done : Nat} {fault : StepFault}
    (hlive : fault.isCancelled = false) (hcounted : maxAttempts step ≠ none) :
    shouldRetry step (done + 1) fault = some (decide (done < retries step)) := by
  obtain ⟨most, hmost⟩ := Option.ne_none_iff_exists'.mp hcounted
  rw [shouldRetry, hlive, if_neg Bool.false_ne_true, retries, hmost, Option.map_some,
    Option.map_some, Option.getD_some]
  exact congrArg some (decide_eq_decide.mpr Nat.lt_sub_iff_add_lt.symm)

section

variable {σ : Type} {env : Environment σ} {d : Definition} {step : Step} {p : Progress}
  {s s' : Session σ} {r r' : Run σ}

theorem Attempt.uncounted_repeated {done : Nat} (h : repeated env step p done s = (none, s')) :
    Policy.maxAttempts step = none := by
  fun_induction repeated env step p done s with
  | case2 done s fault t honce hretry => exact (Policy.shouldRetry_eq_none_iff.mp hretry).2
  | case4 done s fault t honce hretry t' hpause ih => exact ih h
  | case1 | case3 | case5 => cases h

/-- Attempts without an outcome cannot be counted. -/
theorem Attempt.uncounted_all (h : all env step p s = (none, s')) :
    Policy.maxAttempts step = none := by
  unfold all at h
  split at h
  · cases h
  · cases h
  · next t hrepeated => exact uncounted_repeated hrepeated

namespace Run

theorem Substituted.exists_uncounted {target : String}
    (h : Substituted env d step target r none r') :
    ∃ s ∈ d.steps, s.id = target ∧ Policy.maxAttempts s = none := by
  cases h with
  | uncounted fallback session hresult hstep hrun =>
    obtain ⟨hmem, hid⟩ := Definition.mem_of_step? hstep
    exact ⟨fallback, hmem, hid, Attempt.uncounted_all hrun⟩

theorem CarriedOut.exists_uncounted {stop : Stop} (hstep : step ∈ d.steps)
    (h : CarriedOut env d step r r' (some stop)) (hstop : stop.breaksOff = true) :
    ∃ s ∈ d.steps, stop = .uncounted s.id ∧ Policy.maxAttempts s = none := by
  cases h with
  | uncounted session hrun => exact ⟨step, hstep, rfl, Attempt.uncounted_all hrun⟩
  | brokenOff failure session target r' hrun hlive hdecision hsubstituted =>
    obtain ⟨s, hs, rfl, huncounted⟩ := hsubstituted.exists_uncounted
    exact ⟨s, hs, rfl, huncounted⟩
  | unreplaced failure session target fault r' hrun hlive hdecision hsubstituted =>
    cases fault <;> cases hstop
  | outgrown | interrupted | aborted | overfilled => cases hstop

/-- The turn that breaks a run off has come upon a step whose attempts cannot be counted. -/
theorem Turned.exists_uncounted {stop : Stop} (hstep : step ∈ d.steps)
    (h : Turned env d step r r' (some stop)) (hstop : stop.breaksOff = true) :
    ∃ s ∈ d.steps, stop = .uncounted s.id ∧ Policy.maxAttempts s = none := by
  cases h with
  | cancelled hcancelled => cases hstop
  | carriedOut hlive hunsettled htaken r' stop hcarried =>
    exact hcarried.exists_uncounted hstep hstop

theorem uncounted_of_turns {steps : List Step} {stop : Stop} (hsteps : ∀ s ∈ steps, s ∈ d.steps)
    (h : r.turns env d steps = (r', some stop)) (hstop : stop.breaksOff = true) :
    ∃ s ∈ d.steps, stop = .uncounted s.id ∧ Policy.maxAttempts s = none := by
  obtain ⟨done, step, rest, r₁, rfl, -, hturn⟩ := turns_stop h
  have hturned := turned env d step r₁
  rw [hturn] at hturned
  exact hturned.exists_uncounted (hsteps step (List.mem_append_right done List.mem_cons_self)) hstop

theorem outcome_eq_some_iff {stop : Option Stop} {result : RunResult} :
    r.outcome d stop = some result ↔
      stop.any Stop.breaksOff = false ∧ r.result d stop = result := by
  rw [outcome, Option.ite_none_left_eq_some, Bool.not_eq_true, Option.some_inj]

theorem outcome_of_not_breaksOff {stop : Option Stop} (h : stop.any Stop.breaksOff = false) :
    r.outcome d stop = some (r.result d stop) :=
  outcome_eq_some_iff.mpr ⟨h, rfl⟩

theorem eq_result_of_outcome {stop : Option Stop} {result : RunResult}
    (h : r.outcome d stop = some result) : r.result d stop = result :=
  (outcome_eq_some_iff.mp h).2

/-- A run has a result if all attempts can be counted. -/
theorem outcome_of_countable {steps : List Step} {stop : Option Stop} (hcountable : d.Countable)
    (hsteps : ∀ s ∈ steps, s ∈ d.steps) (h : r.turns env d steps = (r', stop)) :
    r'.outcome d stop = some (r'.result d stop) := by
  apply outcome_of_not_breaksOff
  apply Bool.eq_false_iff.mpr
  intro hstop
  obtain ⟨reached, rfl, hbreaks⟩ := (Option.any_eq_true _ _).mp hstop
  obtain ⟨s, hs, -, huncounted⟩ := uncounted_of_turns hsteps h hbreaks
  exact hcountable s hs huncounted

end Run

end

/-- The result and the session of a run that has a result. -/
def Run.ended? {σ : Type} : Except PlanFault (Option RunResult × Session σ) →
    Option (RunResult × Session σ)
  | .ok (some result, session) => some (result, session)
  | .ok (none, _) | .error _ => none

theorem Run.ended?_eq_some_iff {σ : Type} {x : Except PlanFault (Option RunResult × Session σ)}
    {result : RunResult} {session : Session σ} :
    ended? x = some (result, session) ↔ x = .ok (some result, session) := by
  rcases x with fault | ⟨_ | other, course⟩ <;> simp [ended?]

end Workflow
