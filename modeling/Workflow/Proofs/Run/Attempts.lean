import Mathlib.Data.ENat.Lattice
import Workflow.Proofs.Document.Acceptance
import Workflow.Proofs.Run.Cancellation

/-!
# How often a step is tried

The attempts at a step call its handler until one of them succeeds or none is left, and what is
reported is the outcome of the last of them; the others count as retries. So it is as long as the
run is not cancelled: an attempt that finds it cancelled does not call the handler.
-/

namespace Workflow

theorem StepFault.eq_cancelled {fault : StepFault} (h : fault.isCancelled = true) :
    fault = .cancelled := by
  cases fault with
  | cancelled => rfl
  | _ => cases h

theorem Clock.cancelled_of_waitUntil {c clock : Clock} {moment : Nat} {waking : Waking}
    (h : c.waitUntil moment .elapsed = (waking, clock)) :
    clock.cancelled = if waking = .elapsed then c.cancelled else true := by
  unfold waitUntil at h
  split at h
  · split at h <;> cases h <;> rfl
  · cases h
    rfl

namespace Attempt

variable {σ : Type} {env : Environment σ} {step : Step} {p : Progress} {s s' : Session σ}
  {left done : Nat}

/-! ## Pauses -/

/-- A pause leads on to another attempt, in a run that is not cancelled unless there was no pause,
or it ends in a cancelled run. -/
theorem pause_cases {go : Bool} (h : pause env s = (go, s')) :
    if go then env.retryDelay = 0 ∨ s'.isCancelled = false else s'.isCancelled = true := by
  unfold pause at h
  simp only at h
  split at h
  · next hzero =>
    cases h
    exact Or.inl hzero
  · split at h
    · next hcancelled =>
      cases h
      exact hcancelled
    · next hlive =>
      rcases hwait : (s.look env).clock.wait env.retryDelay none with ⟨waking, clock⟩
      have hclock := Clock.cancelled_of_waitUntil hwait
      rw [hwait] at h
      cases h
      by_cases helapsed : waking = .elapsed
      · rw [if_pos helapsed] at hclock
        rw [if_pos (decide_eq_true helapsed)]
        exact Or.inr (hclock.trans (Bool.eq_false_iff.mpr hlive))
      · rw [if_neg helapsed] at hclock
        rw [if_neg (by simpa using helapsed)]
        exact hclock

/-- An attempt after which the run is not cancelled calls the handler. -/
theorem timesCalled_of_once {result : Except StepFault (Json × Option String)}
    (h : once env step p s = (result, s')) (hlive : s'.isCancelled = false) :
    timesCalled s'.journal step.id = timesCalled s.journal step.id + 1 := by
  rcases once_cases h with ⟨hcancelled, -, rfl⟩ | ⟨-, hjournal⟩
  · rw [hcancelled] at hlive
    cases hlive
  · rw [hjournal, timesCalled, List.countP_cons_of_pos (by simp [Event.isCall]), timesCalled]

/-! ## Attempts in a run that is not cancelled -/

/-- The session at the beginning of an attempt, counted from zero. -/
def course (env : Environment σ) (step : Step) (p : Progress) : Nat → Session σ → Session σ
  | 0, s => s
  | n + 1, s => course env step p n (pause env (once env step p s).2).2

/-- How an attempt ends, counted from zero. -/
def outcome (env : Environment σ) (step : Step) (p : Progress) (s : Session σ) (n : Nat) :
    Except StepFault (Json × Option String) :=
  (once env step p (course env step p n s)).1

/-- What is reported if the last attempt ends like this. -/
def report (retries : Nat) : Except StepFault (Json × Option String) → Except Failure Success
  | .ok (value, notTaken) => .ok ⟨value, notTaken, retries⟩
  | .error fault => .error ⟨fault, retries⟩

/-- The number of attempts up to the first that succeeds. -/
noncomputable def needed {α : Type} (outcomes : Nat → Except StepFault α) : ℕ∞ :=
  ⨅ n, ⨅ _ : ∃ value, outcomes n = .ok value, (n + 1 : ℕ∞)

/-- All attempts before the last one fail, and that succeeds unless none is left. -/
structure Made {α : Type} (outcomes : Nat → Except StepFault α) (left last : Nat) : Prop where
  le_left : last ≤ left
  failed : ∀ n < last, ∃ fault, outcomes n = .error fault
  succeeded : last ≠ left → ∃ value, outcomes last = .ok value

section

variable {α : Type} {outcomes : Nat → Except StepFault α} {last : Nat}

theorem le_needed (h : ∀ n < last, ∃ fault, outcomes n = .error fault) :
    (last + 1 : ℕ∞) ≤ needed outcomes := by
  refine le_iInf₂ fun n ⟨value, hvalue⟩ => ?_
  have hlast : last ≤ n := by
    by_contra hlt
    obtain ⟨fault, hfault⟩ := h n (Nat.lt_of_not_le hlt)
    cases hfault.symm.trans hvalue
  exact add_le_add_left (Nat.cast_le.mpr hlast) 1

theorem needed_le {value : α} (h : outcomes last = .ok value) :
    needed outcomes ≤ last + 1 :=
  iInf₂_le last ⟨value, h⟩

/-- So there are as many attempts as are needed, or as there may be. -/
theorem Made.eq_min (h : Made outcomes left last) :
    (last + 1 : ℕ∞) = min (needed outcomes) (left + 1) := by
  have hleft : (last + 1 : ℕ∞) ≤ left + 1 := add_le_add_left (Nat.cast_le.mpr h.le_left) 1
  refine le_antisymm (le_min (le_needed h.failed) hleft) ?_
  by_cases hlast : last = left
  · exact hlast ▸ min_le_right _ _
  · obtain ⟨value, hvalue⟩ := h.succeeded hlast
    exact min_le_of_left_le (needed_le hvalue)

theorem Made.succ {first : StepFault} (h : outcomes 0 = .error first)
    (hrest : Made (fun n => outcomes (n + 1)) left last) : Made outcomes (left + 1) (last + 1) := by
  refine ⟨Nat.succ_le_succ hrest.le_left, fun n hn => ?_, fun hlast => ?_⟩
  · cases n with
    | zero => exact ⟨first, h⟩
    | succ n => exact hrest.failed n (Nat.lt_of_succ_lt_succ hn)
  · exact hrest.succeeded fun heq => hlast (congrArg (· + 1) heq)

end

/-- Attempts that can be counted end with a success, or when none is left. -/
theorem made_repeated {result : Option (Except Failure Success)}
    (hcounted : Policy.maxAttempts step ≠ none) (h : repeated env step p done s = (result, s'))
    (hlive : s'.isCancelled = false)
    (hplain : ∀ n ≤ Policy.retries step - done,
      (∀ m < n, ∃ fault, outcome env step p s m = .error fault) →
        outcome env step p s n ≠ .error .cancelled) :
    ∃ last, Made (outcome env step p s) (Policy.retries step - done) last ∧
      result = some (report (done + last) (outcome env step p s last)) ∧
      timesCalled s'.journal step.id = timesCalled s.journal step.id + (last + 1) := by
  fun_induction repeated env step p done s with
  | case1 done s value notTaken t honce =>
    cases h
    have hfirst : outcome env step p s 0 = .ok (value, notTaken) := congrArg Prod.fst honce
    refine ⟨0, ⟨Nat.zero_le _, fun m hm => absurd hm (Nat.not_lt_zero m), fun _ => ⟨_, hfirst⟩⟩, ?_,
      timesCalled_of_once honce hlive⟩
    rw [hfirst]
    rfl
  | case2 done s fault t honce hretry =>
    exact absurd (Policy.shouldRetry_eq_none_iff.mp hretry).2 hcounted
  | case3 done s fault t honce hretry =>
    cases h
    have hfirst : outcome env step p s 0 = .error fault := congrArg Prod.fst honce
    have hfault : fault.isCancelled = false := by
      refine Bool.eq_false_iff.mpr fun hcancelled => ?_
      rw [StepFault.eq_cancelled hcancelled] at hfirst
      exact hplain 0 (Nat.zero_le _) (fun m hm => absurd hm (Nat.not_lt_zero m)) hfirst
    have hlast : Policy.retries step - done = 0 := by
      rw [Policy.shouldRetry_succ hfault hcounted] at hretry
      exact Nat.sub_eq_zero_of_le (by simpa using hretry)
    refine ⟨0, ⟨Nat.zero_le _, fun m hm => absurd hm (Nat.not_lt_zero m),
      fun hne => absurd hlast.symm hne⟩, ?_, timesCalled_of_once honce hlive⟩
    rw [hfirst]
    rfl
  | case4 done s fault t honce hretry t' hpause ih =>
    have hmore : Policy.retries step - done = Policy.retries step - (done + 1) + 1 := by
      have hleft := Policy.le_retries_of_shouldRetry hretry
      omega
    have hfirst : outcome env step p s 0 = .error fault := congrArg Prod.fst honce
    have hrest : ∀ n, outcome env step p s (n + 1) = outcome env step p t' n := fun n => by
      rw [outcome, course, honce, hpause, outcome]
    have hcalled : timesCalled t'.journal step.id = timesCalled s.journal step.id + 1 := by
      rw [journal_pause hpause]
      refine timesCalled_of_once honce (Bool.eq_false_iff.mpr fun hcancelled => ?_)
      have hend := ((follows_pause hpause).trans (follows_repeated h)).cancelled hcancelled
      rw [hlive] at hend
      cases hend
    obtain ⟨last, hmade, hresult, hcalls⟩ := ih h fun n hn hfailed => by
      rw [← hrest]
      refine hplain (n + 1) (hmore ▸ Nat.succ_le_succ hn) fun m hm => ?_
      cases m with
      | zero => exact ⟨fault, hfirst⟩
      | succ m => exact hrest m ▸ hfailed m (Nat.lt_of_succ_lt_succ hm)
    rw [← hrest] at hresult
    refine ⟨last + 1, hmore ▸ .succ hfirst (by simpa only [hrest] using hmade), ?_, ?_⟩
    · rw [hresult, Nat.add_right_comm, Nat.add_assoc]
    · omega
  | case5 done s fault t honce hretry t' hpause =>
    cases h
    have hcancelled := pause_cases hpause
    rw [if_neg Bool.false_ne_true, hlive] at hcancelled
    cases hcancelled

end Attempt

/-- The attempts at a step of an accepted document, in a run that is not cancelled meanwhile. Its
handler is called as often as is needed for an attempt to succeed, or as often as its limit allows
if that is less, and what is reported is the outcome of the last of these attempts. -/
theorem tried_until_success {document : Json} {d : Definition}
    (h : (Validation.analyze document).2 = some d) {step : Step} (hstep : step ∈ d.steps)
    {σ : Type} (env : Environment σ) (p : Progress) (s : Session σ)
    (hlive : (Attempt.all env step p s).2.isCancelled = false)
    (hplain : ∀ n < Policy.limit step,
      (∀ m < n, ∃ fault, Attempt.outcome env step p s m = .error fault) →
        Attempt.outcome env step p s n ≠ .error .cancelled) :
    ∃ last : Nat,
      (last + 1 : ℕ∞) = min (Attempt.needed (Attempt.outcome env step p s)) (Policy.limit step) ∧
        timesCalled (Attempt.all env step p s).2.journal step.id =
          timesCalled s.journal step.id + (last + 1) ∧
        (Attempt.all env step p s).1 =
          some (Attempt.report last (Attempt.outcome env step p s last)) := by
  have hcounted : Policy.maxAttempts step ≠ none := Definition.countable_of_accepted h step hstep
  have hlimit : Policy.retries step + 1 = Policy.limit step :=
    Policy.retries_add_one (Nat.lt_of_le_of_lt (Definition.limit_le_of_accepted h hstep)
      (by decide))
  rcases hrepeated : Attempt.repeated env step p 0 s with ⟨result, t⟩
  have hall : (Attempt.all env step p s).1 = result ∧
      (Attempt.all env step p s).2.isCancelled = t.isCancelled ∧
      timesCalled (Attempt.all env step p s).2.journal step.id = timesCalled t.journal step.id := by
    rw [Attempt.all, hrepeated]
    rcases result with _ | failure | success
    · exact ⟨rfl, rfl, rfl⟩
    · exact ⟨rfl, rfl, rfl⟩
    · refine ⟨rfl, rfl, ?_⟩
      rw [Session.journal_note, timesCalled, List.countP_cons_of_neg (by simp [Event.isCall]),
        timesCalled]
  obtain ⟨last, hmade, hresult, hcalled⟩ := Attempt.made_repeated hcounted hrepeated
    (hall.2.1.symm.trans hlive) fun n hn => hplain n (hlimit ▸ Nat.lt_succ_of_le hn)
  refine ⟨last, ?_, hall.2.2.trans hcalled, hall.1.trans ?_⟩
  · rw [hmade.eq_min, Nat.sub_zero, ← hlimit, Nat.cast_add, Nat.cast_one]
  · rw [hresult, Nat.zero_add]

def persistSteps : List Json := [
  .obj [("id", .str "ask"), ("type", .str "llm"),
    ("config", .obj [("model", .str "m"), ("prompt", .str "?")]),
    ("error_handling", .obj [("on_error", .str "retry"), ("retry_count", .nat 3)])]]

/-- Collaborators that answer too late at first, then fail, and succeed from then on. -/
def hesitant : Environment Nat where
  collaborators := {
    supports := fun _ => false
    generates := true
    sends := false
    answer
      | .generation _, 0 => (⟨6000, false, .error (.execution "late")⟩, 1)
      | .generation _, 1 => (⟨0, false, .error (.execution "no answer")⟩, 2)
      | .generation _, world => (⟨0, false, .ok ⟨"!", .null⟩⟩, world + 1)
      | .code _, world => (⟨0, false, .ok .null⟩, world)
      | .http _, world => (⟨0, false, .ok ⟨200, [], ""⟩⟩, world) }
  timeouts := ⟨5000, 5000, 5000⟩
  retryDelay := 10
  time := "2000-01-01T00:00:00.000000001+00:00"

theorem accepted_persist :
    ∃ d, Definition.decoder (outline "persist" persistSteps) = .ok d ∧
      (Validation.analyze (outline "persist" persistSteps)).2 = some d := by
  obtain ⟨d, hdecoder⟩ :
      ∃ d, Definition.decoder (outline "persist" persistSteps) = .ok d := ⟨_, rfl⟩
  refine ⟨d, hdecoder, Validation.analyze_outline ?_ ?_ ?_ hdecoder⟩
  all_goals exact List.isEmpty_iff.mp (by decide +kernel)

theorem tried_until_success_by_persist :
    ∃ d, (Validation.analyze (outline "persist" persistSteps)).2 = some d ∧
      ∃ step ∈ d.steps, ∃ r : Run Nat,
        r = .initial hesitant d "exec" [] (.initial false none) 0 ∧ ∃ last : Nat,
          (last + 1 : ℕ∞) =
            min (Attempt.needed (Attempt.outcome hesitant step r.progress r.session))
              (Policy.limit step) ∧
          timesCalled (Attempt.all hesitant step r.progress r.session).2.journal step.id =
            timesCalled r.session.journal step.id + (last + 1) ∧
          (Attempt.all hesitant step r.progress r.session).1 =
            some (Attempt.report last
              (Attempt.outcome hesitant step r.progress r.session last)) := by
  obtain ⟨d, hdecoder, haccepted⟩ := accepted_persist
  have hcourse : (Definition.decoder (outline "persist" persistSteps)).toOption.bind (fun d =>
      let r : Run Nat := .initial hesitant d "exec" [] (.initial false none) 0
      (d.step? "ask").map fun step => (Policy.limit step,
        (Attempt.all hesitant step r.progress r.session).2.isCancelled,
        (List.range 4).all fun n =>
          match Attempt.outcome hesitant step r.progress r.session n with
          | .ok _ => true
          | .error fault => !fault.isCancelled)) = some (4, false, true) := by decide +kernel
  rw [hdecoder] at hcourse
  obtain ⟨step, hstep, hcourse⟩ := Option.map_eq_some_iff.mp hcourse
  obtain ⟨hlimit, hlive, hplain⟩ := by simpa only [Prod.mk.injEq] using hcourse
  obtain ⟨hmem, -⟩ := Definition.mem_of_step? hstep
  refine ⟨d, haccepted, step, hmem, _, rfl,
    tried_until_success haccepted hmem hesitant _ _ hlive fun n hn _ hcancelled => ?_⟩
  have hfault := List.all_eq_true.mp hplain n (List.mem_range.mpr (hlimit ▸ hn))
  simp only [hcancelled] at hfault
  cases hfault

end Workflow
