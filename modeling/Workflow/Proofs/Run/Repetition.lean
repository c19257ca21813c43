import Workflow.Proofs.Document.Acceptance
import Workflow.Proofs.Run.Exclusion
import Workflow.Proofs.Run.Finality

/-!
# How often steps are executed

A step is executed at its own turn or in place of another step, and the result that it has then is
used from there on. Only a failure is no result: a step that has failed and that the run has gone on
without is executed once more when it is to stand in for another.
-/

namespace Workflow

/-- A step that has failed is executed again, in place of another. -/
def Revived (journal : List Moment) (id : String) : Prop :=
  ∃ m ∈ journal, ∃ other, m.event = .replaced other id ∧ Failed m.progress.entries id

theorem Revived.mono {past journal : List Moment} {id : String} (h : Revived past id)
    (hsuffix : past <:+ journal) : Revived journal id := by
  obtain ⟨m, hm, hrevived⟩ := h
  exact ⟨m, hsuffix.subset hm, hrevived⟩

/-- The handler of a step is called once more than it may be retried at most; that of a step whose
failure is passed over, twice at most, if it is executed again. -/
def Restrained (journal : List Moment) (step : Step) : Prop :=
  timesCalled journal step.id ≤ Policy.retries step + 1 ∨
    step.onError = .skip ∧ timesCalled journal step.id ≤ 2 ∧ Revived journal step.id

/-- Steps whose failures are passed over are not retried. -/
theorem Policy.retries_of_skip {step : Step} (h : step.onError = .skip) : retries step = 0 := by
  rw [retries, maxAttempts]
  split
  · next heq =>
    rw [Step.onError, heq] at h
    cases h
  · rfl

theorem Completed.not_failed {entries : Entries StepResult} {id : String}
    (h : Completed entries id) : ¬ Failed entries id := by
  rintro ⟨entry, hentry, hfailed⟩
  obtain ⟨other, hother, hcompleted⟩ := h
  rw [hentry] at hother
  cases hother
  rw [hfailed] at hcompleted
  cases hcompleted

theorem Progress.not_failed_of_unsettled {p : Progress} {id : String}
    (h : p.isSettled id = false) : ¬ Failed p.entries id := by
  rintro ⟨entry, hentry, -⟩
  rw [get?_of_unsettled h] at hentry
  cases hentry

namespace Run

variable {σ : Type} {env : Environment σ} {d : Definition} {step other : Step} {r r' : Run σ}
  {stop : Option Stop}

/-- How often a step has been tried at a point between turns. -/
structure Tallied (step : Step) (r : Run σ) : Prop where
  untried : ¬ Completed r.progress.entries step.id → ¬ Failed r.progress.entries step.id →
    timesCalled r.session.journal step.id = 0
  failed : Failed r.progress.entries step.id → step.onError = .skip ∧
    timesCalled r.session.journal step.id ≤ Policy.retries step + 1
  restrained : Restrained r.session.journal step

theorem Tallied.of_completed (hcompleted : Completed r.progress.entries step.id)
    (h : Restrained r.session.journal step) : Tallied step r :=
  ⟨fun hnot => absurd hcompleted hnot, fun hfailed => absurd hfailed hcompleted.not_failed, h⟩

theorem Tallied.spared (h : Tallied step r) (hspares : Spares step.id r r') : Tallied step r' := by
  have hcount := hspares.timesCalled_eq
  constructor
  · rw [Completed, Failed, hspares.entry, hcount]
    exact h.untried
  · rw [Failed, hspares.entry, hcount]
    exact h.failed
  · rw [Restrained, hcount]
    refine h.restrained.imp_right ?_
    rintro ⟨hskip, hcalled, hrevived⟩
    exact ⟨hskip, hcalled, hrevived.mono hspares.suffix⟩

/-- A turn tries a step only if it has not completed. -/
theorem Turned.tallied (h : Turned env d step r r' stop) (hstep : step ∈ d.steps)
    (hother : other ∈ d.steps) (hnodup : (d.steps.map Step.id).Nodup)
    (hshows : r.progress.ShowsCompleted) (hr : Tallied other r) :
    Restrained r'.session.journal other ∧ (stop = none → Tallied other r') := by
  cases h.involves other.id with
  | spared _ hspares =>
    have hkept := hr.spared hspares
    exact ⟨hkept.restrained, fun _ => hkept⟩
  | passed hid hunsettled hpassed hprogress hjournal =>
    have hentry : r'.progress.entries.get? other.id = some (.skipped "branch not taken") := by
      rw [hprogress]
      exact Entries.get?_insert_self _ _ _
    have hfresh := hr.untried (Progress.not_completed_of_unsettled hunsettled)
      (Progress.not_failed_of_unsettled hunsettled)
    have hrestrained : Restrained r'.session.journal other := hjournal ▸ hr.restrained
    refine ⟨hrestrained, fun _ => ⟨fun _ _ => hjournal ▸ hfresh, ?_, hrestrained⟩⟩
    rintro ⟨entry, hfound, hfailed⟩
    rw [hentry] at hfound
    cases hfound
    cases hfailed
  | executed _ hid hunsettled htaken hbegun htried hsettles =>
    obtain rfl := List.inj_on_of_nodup_map hnodup hother hstep hid
    have hfresh := hr.untried (Progress.not_completed_of_unsettled hunsettled)
      (Progress.not_failed_of_unsettled hunsettled)
    have hcalled := htried.called
    rw [hfresh, Nat.zero_add] at hcalled
    refine ⟨Or.inl hcalled, fun hstop => ?_⟩
    rcases hsettles hstop with hcompleted | ⟨hfailed, hskip, -⟩
    · exact .of_completed hcompleted (Or.inl hcalled)
    · exact ⟨fun _ hnot => absurd hfailed hnot, fun _ => ⟨hskip, hcalled⟩, Or.inl hcalled⟩
  | stoodIn _ hne hstands hcompleted =>
    obtain ⟨fallback, hfallback, htried⟩ := hstands.tried
    rw [Definition.step?_id hnodup hother] at hfallback
    cases hfallback
    have hcalled := htried.called
    have hrestrained : Restrained r'.session.journal other := by
      by_cases hfailed : Failed r.progress.entries other.id
      · -- Its result was a failure, so it is executed in spite of it.
        obtain ⟨hskip, hbefore⟩ := hr.failed hfailed
        obtain ⟨m, hm, hevent, hmoment⟩ := hstands.replaced
        rw [Policy.retries_of_skip hskip] at hcalled hbefore
        refine Or.inr ⟨hskip, by omega, m, hm, step.id, hevent, ?_⟩
        rw [hmoment]
        exact hfailed
      · rw [hr.untried (hshows.not_completed hstands.hidden) hfailed, Nat.zero_add] at hcalled
        exact Or.inl hcalled
    exact ⟨hrestrained, fun hstop => .of_completed (hcompleted hstop) hrestrained⟩

/-- Whatever way a run takes through its steps, and wherever it stops, it is restrained. -/
theorem restrained_turns {order : List Step} (horder : ∀ s ∈ order, s ∈ d.steps)
    (hother : other ∈ d.steps) (hnodup : (d.steps.map Step.id).Nodup)
    (hshows : r.progress.ShowsCompleted) (hr : Tallied other r) :
    Restrained (r.turns env d order).1.session.journal other := by
  apply (turns_course (P := fun r₁ => Tallied other r₁ ∧ r₁.progress.ShowsCompleted)
    (Q := fun r₁ => Restrained r₁.session.journal other) _ ⟨hr, hshows⟩ hr.restrained).1
  intro done step rest r₁ r₂ stop hsplit _ hturned ⟨htallied, hshows₁⟩
  have hstep : step ∈ d.steps :=
    horder step (hsplit ▸ List.mem_append_right done List.mem_cons_self)
  obtain ⟨hrestrained, hnext⟩ := hturned.tallied hstep hother hnodup hshows₁ htallied
  exact ⟨hrestrained, fun hstop => ⟨hnext hstop, hturned.showsCompleted hshows₁⟩⟩

theorem tallied_initial (env : Environment σ) (d : Definition) (executionId : String)
    (inputs : Entries Json) (clock : Clock) (world : σ) (step : Step) :
    Tallied step (initial env d executionId inputs clock world) := by
  refine ⟨fun _ _ => rfl, ?_, Or.inl (Nat.zero_le _)⟩
  rintro ⟨entry, hentry, -⟩
  cases hentry

end Run

variable {σ : Type}

/-- In every run of an accepted document the handler of a step is called once for each of its
attempts at most, at its own turn and in place of other steps together. The exception is a
step whose failure was passed over and that is executed again in place of another: its
handler is called twice at most. -/
theorem calls_bounded {document : Json} {d : Definition}
    (h : (Validation.analyze document).2 = some d) (env : Environment σ) (executionId : String)
    (inputs : Entries Json) (clock : Clock) (world : σ) :
    ∃ result session, execute env d executionId inputs clock world = .ok (some result, session) ∧
      ∀ step ∈ d.steps, ∃ most, Policy.maxAttempts step = some most ∧
        (timesCalled session.journal step.id ≤ most.toNat ∨
          step.onError = .skip ∧ timesCalled session.journal step.id ≤ 2 ∧
            Revived session.journal step.id) := by
  have hsound := Definition.sound_of_accepted h
  obtain ⟨order, horder⟩ := hsound.exists_sequence
  have hsteps : ∀ s ∈ order, s ∈ d.steps := fun s hs => (Plan.sequenced horder).perm.mem_iff.mp hs
  have hshows : (Run.initial env d executionId inputs clock world).progress.ShowsCompleted :=
    Progress.showsCompleted_initial _
  refine ⟨_, _, Run.execute_of_accepted h horder env executionId inputs clock world,
    fun step hstep => ?_⟩
  have hfits : Policy.limit step < UInt32.size :=
    Nat.lt_of_le_of_lt (Definition.limit_le_of_accepted h hstep) (by decide)
  obtain ⟨most, hmost, hlimit⟩ := Policy.exists_maxAttempts hfits
  refine ⟨most, hmost, ?_⟩
  rw [hlimit, ← Policy.retries_add_one hfits]
  exact Run.restrained_turns hsteps hstep hsound.nodup hshows
    (Run.tallied_initial env d executionId inputs clock world step)

/-! ## Failures that are passed over -/

/-- The steps of a document in which a step falls back on one that has failed before. -/
def relapseSteps : List Json := [
  .obj [("id", .str "fetch"), ("type", .str "code"),
    ("config", .obj [("language", .str "python3"), ("code", .str "pass")]),
    ("error_handling", .obj [("on_error", .str "skip")])],
  .obj [("id", .str "ask"), ("type", .str "code"),
    ("config", .obj [("language", .str "python3"), ("code", .str "pass")]),
    ("error_handling", .obj [("on_error", .str "fallback"), ("fallback_step", .str "fetch")])]]

theorem accepted_relapse :
    ∃ d, Definition.decoder (outline "relapse" relapseSteps) = .ok d ∧
      (Validation.analyze (outline "relapse" relapseSteps)).2 = some d := by
  obtain ⟨d, hdecoder⟩ :
      ∃ d, Definition.decoder (outline "relapse" relapseSteps) = .ok d := ⟨_, rfl⟩
  refine ⟨d, hdecoder, Validation.analyze_outline ?_ ?_ ?_ hdecoder⟩
  all_goals exact List.isEmpty_iff.mp (by decide +kernel)

theorem calls_bounded_in_relapse :
    ∃ d, (Validation.analyze (outline "relapse" relapseSteps)).2 = some d ∧
      ∃ result session,
        execute calm d "exec" [] (.initial false none) 0 = .ok (some result, session) ∧
        ∀ step ∈ d.steps, ∃ most, Policy.maxAttempts step = some most ∧
          (timesCalled session.journal step.id ≤ most.toNat ∨
            step.onError = .skip ∧ timesCalled session.journal step.id ≤ 2 ∧
              Revived session.journal step.id) := by
  obtain ⟨d, -, haccepted⟩ := accepted_relapse
  exact ⟨d, haccepted, calls_bounded haccepted calm "exec" [] (.initial false none) 0⟩

/-- A step may be tried more often than its policy says: `fetch`, which is never to be retried, is
called at its own turn and again in place of `ask`. -/
theorem fetch_called_twice :
    ∃ d, (Validation.analyze (outline "relapse" relapseSteps)).2 = some d ∧
      ∃ result session,
        execute calm d "exec" [] (.initial false none) 0 = .ok (some result, session) ∧
        ∃ step ∈ d.steps, step.id = "fetch" ∧ Policy.maxAttempts step = some 1 ∧
          timesCalled session.journal step.id = 2 := by
  obtain ⟨d, hdecoder, haccepted⟩ := accepted_relapse
  have hcourse : (Definition.decoder (outline "relapse" relapseSteps)).toOption.bind (fun d =>
      (Run.ended? (execute calm d "exec" [] (.initial false none) 0)).map fun pair =>
        ((d.step? "fetch").map Policy.maxAttempts,
          timesCalled pair.2.journal "fetch")) = some (some (some 1), 2) := by decide +kernel
  obtain ⟨result, session, hrun, hcourse⟩ := exists_run_of_decoder hdecoder hcourse
  obtain ⟨hstep, hcalled⟩ := Prod.mk.inj hcourse
  obtain ⟨step, hstep, hattempts⟩ := Option.map_eq_some_iff.mp hstep
  obtain ⟨hmem, hid⟩ := Definition.mem_of_step? hstep
  exact ⟨d, haccepted, result, session, hrun, step, hmem, hid, hattempts, hid ▸ hcalled⟩

end Workflow
