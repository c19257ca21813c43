import Workflow.Proofs.Run.Attempts

/-!
# Budgets of retries

A step whose failures call for a retry has a budget of retries, and it is tried once more than that.
The sum is made in 32 bits, which hold it for every budget but the greatest one that can be written
down. A step with that budget is tried once, and if it fails there is no saying whether it is to be
tried again: its attempts have no outcome.
-/

namespace Workflow

namespace Policy

/-- The retries that a policy has: as many as it says, one if it does not say, and never none. -/
def budget (handling : ErrorHandling) : Nat := max ((handling.retryCount.map UInt32.toNat).getD 1) 1

/-- A step whose attempts, all in all, are more than 32 bits can count. -/
def Overflows (step : Step) : Prop :=
  ∃ handling, step.errorHandling = some handling ∧ handling.onError = .retry ∧
    handling.retryCount = some 4294967295

variable {step : Step} {handling : ErrorHandling}

/-! ## The sum -/

theorem limit_eq_budget (hhandling : step.errorHandling = some handling)
    (hretry : handling.onError = .retry) : limit step = budget handling + 1 := by
  obtain ⟨onError, count, fallback⟩ := handling
  cases hretry
  rw [limit, hhandling, budget, Nat.add_comm]

theorem limit_eq_one
    (h : ∀ handling, step.errorHandling = some handling → handling.onError ≠ .retry) :
    limit step = 1 := by
  unfold limit
  split
  · next count fallback hhandling => exact absurd rfl (h _ hhandling)
  · rfl

/-- Only the greatest number of retries leaves no room for the first attempt. -/
theorem budget_lt_iff (handling : ErrorHandling) :
    budget handling + 1 < UInt32.size ↔ handling.retryCount ≠ some 4294967295 := by
  rw [budget]
  cases handling.retryCount with
  | none => decide
  | some count =>
    have hlt : count.toNat < UInt32.size := count.toNat_lt
    have hgreatest : count = 4294967295 ↔ count.toNat = 4294967295 := UInt32.toNat_inj.symm
    rw [UInt32.size] at hlt ⊢
    rw [Option.map_some, Option.getD_some, ne_eq, Option.some_inj, hgreatest]
    omega

theorem limit_lt_iff (step : Step) : limit step < UInt32.size ↔ ¬ Overflows step := by
  by_cases h : ∀ handling, step.errorHandling = some handling → handling.onError ≠ .retry
  · rw [limit_eq_one h]
    refine iff_of_true (by decide) ?_
    rintro ⟨handling, hhandling, hretry, -⟩
    exact h handling hhandling hretry
  · push Not at h
    obtain ⟨handling, hhandling, hretry⟩ := h
    rw [limit_eq_budget hhandling hretry, budget_lt_iff]
    apply not_congr
    constructor
    · intro hcount
      exact ⟨handling, hhandling, hretry, hcount⟩
    · rintro ⟨other, hother, -, hcount⟩
      rw [hhandling] at hother
      cases hother
      exact hcount

theorem maxAttempts_eq_none_iff_overflows (step : Step) :
    maxAttempts step = none ↔ Overflows step := by
  rw [maxAttempts_eq_none_iff, ← not_lt, limit_lt_iff, not_not]

end Policy

/-! ## The attempts -/

namespace Attempt

variable {σ : Type} {env : Environment σ} {step : Step} {p : Progress} {s t : Session σ}
  {fault : StepFault}

/-- If the attempts cannot be counted, the first that fails has no outcome. -/
theorem all_of_uncounted (huncounted : Policy.maxAttempts step = none)
    (honce : once env step p s = (.error fault, t)) (hfault : fault.isCancelled = false) :
    all env step p s = (none, t) := by
  rw [all, repeated_of_error honce,
    Policy.shouldRetry_eq_none_iff.mpr ⟨hfault, huncounted⟩]

/-- If every attempt fails, there are as many as there may be. -/
theorem all_of_failing (hcounted : Policy.maxAttempts step ≠ none)
    (hlive : (all env step p s).2.isCancelled = false)
    (hfail : ∀ n ≤ Policy.retries step,
      ∃ fault, fault.isCancelled = false ∧ outcome env step p s n = .error fault) :
    timesCalled (all env step p s).2.journal step.id =
      timesCalled s.journal step.id + (Policy.retries step + 1) := by
  rcases hrepeated : repeated env step p 0 s with ⟨result, t⟩
  have ht : t.isCancelled = false := by
    rw [all, hrepeated] at hlive
    rcases result with _ | failure | success <;> exact hlive
  obtain ⟨last, hmade, hresult, hcalled⟩ :=
    made_repeated hcounted hrepeated ht fun n hn _ hcancelled => by
      obtain ⟨fault, hfault, houtcome⟩ := hfail n hn
      rw [houtcome] at hcancelled
      cases hcancelled
      cases hfault
  obtain ⟨fault, -, houtcome⟩ := hfail last hmade.le_left
  have hlast : last = Policy.retries step := by
    by_contra hne
    obtain ⟨value, hvalue⟩ := hmade.succeeded hne
    cases houtcome.symm.trans hvalue
  rw [houtcome] at hresult
  cases hresult
  rw [all, hrepeated, ← hlast]
  exact hcalled

end Attempt

/-! ## Budgets -/

namespace Policy

variable {step : Step} {handling : ErrorHandling}

/-- The attempts at a step keep to its budget. -/
structure KeepsBudget (step : Step) (handling : ErrorHandling) : Prop where
  /-- Their sum is made without an overflow. -/
  counted : (maxAttempts step).map UInt32.toNat = some (budget handling + 1)
  /-- A first attempt that fails is not the last. -/
  followed : ∀ fault, fault.isCancelled = false → shouldRetry step 1 fault = some true
  /-- The attempts after which there is another are as many as the budget says. -/
  allowed : ∀ fault attempt, shouldRetry step attempt fault =
    some (decide (fault.isCancelled = false ∧ attempt ≤ budget handling))
  /-- So many attempts follow the first one if all of them fail. -/
  called : ∀ {σ : Type} (env : Environment σ) (p : Progress) (s : Session σ),
    (Attempt.all env step p s).2.isCancelled = false →
    (∀ n ≤ budget handling,
      ∃ fault, fault.isCancelled = false ∧ Attempt.outcome env step p s n = .error fault) →
    timesCalled (Attempt.all env step p s).2.journal step.id =
      timesCalled s.journal step.id + (1 + budget handling)

theorem one_le_budget (handling : ErrorHandling) : 1 ≤ budget handling := Nat.le_max_right _ _

theorem keepsBudget (hhandling : step.errorHandling = some handling)
    (hretry : handling.onError = .retry) (hcount : handling.retryCount ≠ some 4294967295) :
    KeepsBudget step handling := by
  have hlimit := limit_eq_budget hhandling hretry
  have hfits : limit step < UInt32.size := by
    rw [hlimit]
    exact (budget_lt_iff handling).mpr hcount
  obtain ⟨most, hmost, hsum⟩ := exists_maxAttempts hfits
  rw [hlimit] at hsum
  have hretries : retries step = budget handling :=
    Nat.succ_injective ((retries_add_one hfits).trans hlimit)
  have hallowed : ∀ fault attempt, shouldRetry step attempt fault =
      some (decide (fault.isCancelled = false ∧ attempt ≤ budget handling)) := by
    intro fault attempt
    cases hfault : fault.isCancelled with
    | true =>
      rw [shouldRetry_of_cancelled hfault]
      simp
    | false =>
      rw [shouldRetry, hfault, if_neg Bool.false_ne_true, hmost, Option.map_some, hsum]
      simp
  constructor
  case counted => rw [hmost, Option.map_some, hsum]
  case followed =>
    intro fault hfault
    rw [hallowed, decide_eq_true ⟨hfault, one_le_budget handling⟩]
  case allowed => exact hallowed
  case called =>
    intro σ env p s hlive hfail
    rw [← hretries, Nat.add_comm 1]
    apply Attempt.all_of_failing _ hlive
    · rw [hretries]
      exact hfail
    · rw [hmost]
      exact Option.some_ne_none most

/-- The attempts at a step are counted without an overflow, and their number is what its
policy says, unless it asks for as many retries as 32 bits can count. Then there is no sum
and no answer to whether a failed attempt is followed by another, and the attempts have no
outcome if the first one fails. -/
theorem budget_kept_unless_greatest (step : Step) :
    (maxAttempts step = none ↔ Overflows step) ∧
    (¬ Overflows step → (maxAttempts step).map UInt32.toNat = some (limit step)) ∧
    (∀ handling, step.errorHandling = some handling → handling.onError = .retry →
      (KeepsBudget step handling ↔ handling.retryCount ≠ some 4294967295)) ∧
    (Overflows step → ∀ fault, fault.isCancelled = false →
      (∀ attempt, shouldRetry step attempt fault = none) ∧
      ∀ {σ : Type} (env : Environment σ) (p : Progress) (s t : Session σ),
        Attempt.once env step p s = (.error fault, t) →
          Attempt.all env step p s = (none, t)) := by
  refine ⟨maxAttempts_eq_none_iff_overflows step, ?sum, ?kept, ?greatest⟩
  case sum =>
    intro hfits
    rw [map_toNat_maxAttempts, if_pos ((limit_lt_iff step).mpr hfits)]
  case kept =>
    intro handling hhandling hretry
    constructor
    · intro hkeeps hcount
      have hnone : maxAttempts step = none :=
        (maxAttempts_eq_none_iff_overflows step).mpr ⟨handling, hhandling, hretry, hcount⟩
      have hsum := hkeeps.counted
      rw [hnone] at hsum
      cases hsum
    · exact keepsBudget hhandling hretry
  case greatest =>
    intro hover fault hfault
    have hnone := (maxAttempts_eq_none_iff_overflows step).mpr hover
    constructor
    · intro attempt
      exact shouldRetry_eq_none_iff.mpr ⟨hfault, hnone⟩
    · intro σ env p s t honce
      exact Attempt.all_of_uncounted hnone honce hfault

end Policy

def endureSteps : List Json := [
  .obj [("id", .str "ask"), ("type", .str "llm"),
    ("config", .obj [("model", .str "m"), ("prompt", .str "?")]),
    ("error_handling", .obj [("on_error", .str "retry"), ("retry_count", .nat 4294967295)])]]

/-- Collaborators that fail whatever they are asked. -/
def silent : Environment Nat :=
  { hesitant with
    collaborators := { hesitant.collaborators with
      answer := fun _ world => (⟨0, false, .error (.execution "no answer")⟩, world + 1) } }

/-- A step of a definition that is read from a document, with what is computed for it. -/
theorem exists_step_of_decoder {α : Type} {document : Json} {id : String}
    {f : Definition → Step → α} {a : α}
    (h : (Definition.decoder document).toOption.bind (fun d => (d.step? id).map (f d)) = some a) :
    ∃ d, Definition.decoder document = .ok d ∧ ∃ step ∈ d.steps, f d step = a := by
  obtain ⟨d, hd, hstep⟩ := Option.bind_eq_some_iff.mp h
  obtain ⟨step, hstep, hf⟩ := Option.map_eq_some_iff.mp hstep
  refine ⟨d, ?_, step, (Definition.mem_of_step? hstep).1, hf⟩
  cases hdecoder : Definition.decoder document with
  | error reason =>
    rw [hdecoder] at hd
    cases hd
  | ok other =>
    rw [hdecoder] at hd
    exact congrArg Except.ok (Option.some.inj hd)

/-- All attempts at a step that may be retried three times fail if nobody answers. -/
theorem persist_in_silence :
    ∃ d, Definition.decoder (outline "persist" persistSteps) = .ok d ∧ ∃ step ∈ d.steps,
      step.errorHandling = some ⟨.retry, some 3, none⟩ ∧ ∃ r : Run Nat,
        r = .initial silent d "exec" [] (.initial false none) 0 ∧
          (Attempt.all silent step r.progress r.session).2.isCancelled = false ∧
          ∀ n ≤ 3, ∃ fault, fault.isCancelled = false ∧
            Attempt.outcome silent step r.progress r.session n = .error fault := by
  have hcourse : (Definition.decoder (outline "persist" persistSteps)).toOption.bind (fun d =>
      (d.step? "ask").map fun step =>
        let r : Run Nat := .initial silent d "exec" [] (.initial false none) 0
        (step.errorHandling, (Attempt.all silent step r.progress r.session).2.isCancelled,
          (List.range 4).all fun n =>
            match Attempt.outcome silent step r.progress r.session n with
            | .ok _ => false
            | .error fault => !fault.isCancelled)) =
      some (some ⟨.retry, some 3, none⟩, false, true) := by decide +kernel
  obtain ⟨d, hdecoder, step, hmem, hcourse⟩ := exists_step_of_decoder hcourse
  obtain ⟨hhandling, hlive, hfail⟩ := by simpa only [Prod.mk.injEq] using hcourse
  refine ⟨d, hdecoder, step, hmem, hhandling, _, rfl, hlive, ?_⟩
  intro n hn
  have hfault := List.all_eq_true.mp hfail n (List.mem_range.mpr (Nat.lt_succ_of_le hn))
  cases houtcome : Attempt.outcome silent step _ _ n with
  | ok value =>
    rw [houtcome] at hfault
    cases hfault
  | error fault =>
    rw [houtcome] at hfault
    exact ⟨fault, Bool.not_eq_eq_eq_not.mp hfault, rfl⟩

/-- The first attempt at a step with the greatest budget fails too. -/
theorem endure_in_silence :
    ∃ d, Definition.decoder (outline "endure" endureSteps) = .ok d ∧ ∃ step ∈ d.steps,
      Policy.Overflows step ∧ ∃ (r : Run Nat) (fault : StepFault) (t : Session Nat),
        r = .initial silent d "exec" [] (.initial false none) 0 ∧ fault.isCancelled = false ∧
          Attempt.once silent step r.progress r.session = (.error fault, t) := by
  have hcourse : (Definition.decoder (outline "endure" endureSteps)).toOption.bind (fun d =>
      (d.step? "ask").map fun step =>
        let r : Run Nat := .initial silent d "exec" [] (.initial false none) 0
        (step.errorHandling,
          match (Attempt.once silent step r.progress r.session).1 with
          | .ok _ => none
          | .error fault => some fault.isCancelled)) =
      some (some ⟨.retry, some 4294967295, none⟩, some false) := by decide +kernel
  obtain ⟨d, hdecoder, step, hmem, hcourse⟩ := exists_step_of_decoder hcourse
  obtain ⟨hhandling, hfail⟩ := by simpa only [Prod.mk.injEq] using hcourse
  rcases honce : Attempt.once silent step _ _ with ⟨result, t⟩
  rw [honce] at hfail
  cases result with
  | ok value => cases hfail
  | error fault =>
    exact ⟨d, hdecoder, step, hmem, ⟨_, hhandling, rfl, rfl⟩, _, fault, t, rfl,
      Option.some.inj hfail, honce⟩

theorem budget_kept_by_persist :
    (∃ d, Definition.decoder (outline "persist" persistSteps) = .ok d ∧ ∃ step ∈ d.steps,
      Policy.KeepsBudget step ⟨.retry, some 3, none⟩ ∧ ∃ r : Run Nat,
        r = .initial silent d "exec" [] (.initial false none) 0 ∧
          timesCalled (Attempt.all silent step r.progress r.session).2.journal step.id =
            timesCalled r.session.journal step.id + 4) ∧
    ∃ d, Definition.decoder (outline "endure" endureSteps) = .ok d ∧ ∃ step ∈ d.steps,
      Policy.maxAttempts step = none ∧ ∃ r : Run Nat,
        r = .initial silent d "exec" [] (.initial false none) 0 ∧
          (Attempt.all silent step r.progress r.session).1 = none := by
  constructor
  · obtain ⟨d, hdecoder, step, hmem, hhandling, r, hr, hlive, hfail⟩ := persist_in_silence
    have hkeeps := ((Policy.budget_kept_unless_greatest step).2.2.1 _ hhandling rfl).mpr (by decide)
    exact ⟨d, hdecoder, step, hmem, hkeeps, r, hr, hkeeps.called silent _ _ hlive hfail⟩
  · obtain ⟨d, hdecoder, step, hmem, hover, r, fault, t, hr, hfault, honce⟩ := endure_in_silence
    obtain ⟨hnone, -, -, hgreatest⟩ := Policy.budget_kept_unless_greatest step
    refine ⟨d, hdecoder, step, hmem, hnone.mpr hover, r, hr, ?_⟩
    rw [(hgreatest hover fault hfault).2 silent _ _ t honce]

/-- The collaborators would answer at a second attempt, but for a step with the greatest
budget there is no sum of attempts and no second one: the run is broken off after a
single call and has no result. -/
theorem greatest_budget_allows_none :
    ∃ d, Definition.decoder (outline "endure" endureSteps) = .ok d ∧ ∃ step ∈ d.steps,
      step.errorHandling = some ⟨.retry, some 4294967295, none⟩ ∧
      Policy.maxAttempts step = none ∧ Policy.shouldRetry step 1 (.execution "no answer") = none ∧
      StepFault.isCancelled (.execution "no answer") = false ∧
      ∃ r : Run Nat, r = .initial hesitant d "exec" [] (.initial false none) 1 ∧
        Attempt.outcome hesitant step r.progress r.session 0 = .error (.execution "no answer") ∧
        ∃ session, execute hesitant d "exec" [] (.initial false none) 1 = .ok (none, session) ∧
          timesCalled session.journal step.id = 1 := by
  have hcourse : (Definition.decoder (outline "endure" endureSteps)).toOption.bind (fun d =>
      (d.step? "ask").map fun step =>
        let r : Run Nat := .initial hesitant d "exec" [] (.initial false none) 1
        (step.errorHandling, Policy.maxAttempts step,
          Policy.shouldRetry step 1 (.execution "no answer"),
          (match Attempt.outcome hesitant step r.progress r.session 0 with
            | .ok _ => none
            | .error fault => some fault),
          (match execute hesitant d "exec" [] (.initial false none) 1 with
            | .ok (none, session) => timesCalled session.journal step.id = 1
            | .ok (some _, _) | .error _ => false : Bool))) =
      some (some ⟨.retry, some 4294967295, none⟩, none, none, some (.execution "no answer"),
        true) := by
    decide +kernel
  obtain ⟨d, hdecoder, step, hmem, hcourse⟩ := exists_step_of_decoder hcourse
  obtain ⟨hhandling, hmost, hretry, hfirst, hrun⟩ := by simpa only [Prod.mk.injEq] using hcourse
  refine ⟨d, hdecoder, step, hmem, hhandling, hmost, hretry, rfl, _, rfl, ?first, ?run⟩
  case first =>
    split at hfirst
    · cases hfirst
    · next fault houtcome =>
      cases hfirst
      exact houtcome
  case run =>
    split at hrun
    · next session hended => exact ⟨session, hended, of_decide_eq_true hrun⟩
    · cases hrun
    · cases hrun

end Workflow
