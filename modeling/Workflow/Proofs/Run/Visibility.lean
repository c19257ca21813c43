import Workflow.Proofs.Run.Settlement

/-!
# What steps can see

The context of a run and the entries of its steps are written one after the other, in an order that
differs from place to place. Whenever a step is executed they agree: templates can see the completed
steps, each with its data as far as that may be kept, and nothing else.
-/

namespace Workflow

namespace Progress

/-- The context shows what the entries of the completed steps hold. -/
def Agrees (p : Progress) : Prop :=
  ∀ id, p.context.result? id = ((p.entries.get? id).bind StepResult.data?).map Context.kept

variable {p : Progress} {id : String}

theorem agrees_initial (context : Context) (hresults : context.results = []) :
    (initial context).Agrees := by
  intro id
  rw [initial, Context.result?, hresults]
  rfl

theorem Agrees.leave (hp : p.Agrees) (target : Option String) : (p.leave target).Agrees := by
  intro id
  rw [context_leave, entries_leave]
  exact hp id

/-- Recording a value in both places keeps them in agreement, whatever stood there before. -/
theorem Agrees.record (hp : p.Agrees) (value : Json) (retries : Nat) (fallback : Option String) :
    (p.record id value (.completed value retries fallback)).Agrees := by
  intro other
  rw [context_record, entries_record, Context.result?_put, Entries.get?_insert, hp other]
  split <;> rfl

/-- A step that is not settled has no result in the context. -/
theorem Agrees.result?_eq_none (hp : p.Agrees) (hunsettled : p.isSettled id = false) :
    p.context.result? id = none := by
  have hentry : p.entries.get? id = none := by simpa [isSettled, Entries.contains] using hunsettled
  rw [hp id, hentry]
  rfl

/-- An entry without data may be written for a step that is not settled. -/
theorem Agrees.insert {q : Progress} {entry : StepResult} (hp : p.Agrees)
    (hunsettled : p.isSettled id = false) (hdata : entry.data? = none)
    (hcontext : q.context = p.context) (hentries : q.entries = p.entries.insert id entry) :
    q.Agrees := by
  intro other
  rw [hcontext, hentries, Entries.get?_insert]
  split
  · next heq =>
    rw [heq, hp.result?_eq_none hunsettled]
    simp [hdata]
  · exact hp other

/-- What can be seen of the steps of a run at a moment. -/
structure Visible (p : Progress) : Prop where
  /-- The steps that can be seen are those that have completed. -/
  completed : ∀ id, (∃ value, p.context.result? id = some value) ↔
    ∃ entry, p.entries.get? id = some entry ∧ entry.status = .completed
  /-- A step shows its data, or a marker in its place if that is too large. -/
  value : ∀ id entry data, p.entries.get? id = some entry → entry.data? = some data →
    p.context.result? id =
      some (if maxResultSize < data.textSize then Context.marker data.textSize else data)
  /-- A step that has failed or was passed over is hidden from templates, as
  is one that is not settled. -/
  hidden : ∀ id, (∀ entry, p.entries.get? id = some entry → entry.status ≠ .completed) →
    p.context.scope.result? id = none

theorem Agrees.visible (hp : p.Agrees) : p.Visible := by
  have hcompleted : ∀ id, (∃ value, p.context.result? id = some value) ↔
      ∃ entry, p.entries.get? id = some entry ∧ entry.status = .completed := by
    intro id
    rw [hp id]
    cases p.entries.get? id with
    | none => simp
    | some entry => cases entry <;> simp [StepResult.data?, StepResult.status]
  refine ⟨hcompleted, fun id entry data hentry hdata => ?_, fun id hnot => ?_⟩
  · rw [hp id, hentry, Option.bind_some, hdata]
    rfl
  · refine Option.eq_none_iff_forall_ne_some.mpr fun value hvalue => ?_
    obtain ⟨entry, hentry, hstatus⟩ := (hcompleted id).mp ⟨value, hvalue⟩
    exact hnot entry hentry hstatus

end Progress

namespace Run

variable {σ : Type} {env : Environment σ} {d : Definition} {step : Step} {r r' : Run σ}

/-- A fallback that has a value leaves the context and the entries in agreement. -/
theorem Substituted.agrees {target : String} {value : Json}
    (h : Substituted env d step target r (some (.ok value)) r') (hr : r.progress.Agrees) :
    r'.progress.Agrees := by
  cases h with
  | reused value hresult => exact hr
  | executed fallback success session hresult hstep hrun hfits =>
    exact hr.record success.value success.retries none

/-- So does the turn of a step that does not stop the run. -/
theorem Turned.agrees (h : Turned env d step r r' none) (hr : r.progress.Agrees) :
    r'.progress.Agrees := by
  cases h with
  | settled hlive hsettled => exact hr
  | passed hlive hunsettled hpassed => exact hr.insert hunsettled rfl rfl rfl
  | carriedOut hlive hunsettled htaken r' stop hcarried =>
    cases hcarried with
    | succeeded success session hrun hfits =>
      exact (hr.leave success.notTaken).record success.value success.retries none
    | skipped failure session hrun hlive hdecision => exact hr.insert hunsettled rfl rfl rfl
    | replaced failure session target value r' hrun hlive hdecision hsubstituted hfits =>
      exact (hsubstituted.agrees hr).record value failure.retries (some target)

theorem agrees_turns {steps : List Step} (h : r.turns env d steps = (r', none))
    (hr : r.progress.Agrees) :
    r'.progress.Agrees :=
  turns_preserve (fun _ _ _ _ hturned hp => hturned.agrees hp) h hr

end Run

variable {σ : Type}

/-- In every run of a definition with a plan, the completed steps and no others can be seen at every
moment of the execution of a step, and when the outputs are resolved at the end. -/
theorem completed_steps_visible (env : Environment σ) (d : Definition) (executionId : String)
    (inputs : Entries Json) (clock : Clock) (world : σ) {order : List Step}
    (h : Plan.sequence d.steps = .ok order) :
    ∃ (r : Run σ) (stop : Option Stop),
      execute env d executionId inputs clock world = .ok (r.outcome d stop, r.session) ∧
        (∀ moment ∈ r.session.journal, moment.progress.Visible) ∧
        (stop = none → r.progress.Visible ∧ r.outcome d stop = some (r.result d stop) ∧
          (r.result d stop).outputs = Outputs.resolve r.progress.context.scope d.outputs) := by
  have hinitial : (Run.initial env d executionId inputs clock world).progress.Agrees :=
    Progress.agrees_initial _ rfl
  refine ⟨_, _, Run.execute_eq h env executionId inputs clock world, fun moment hmoment => ?_,
    fun hstop => ?_⟩
  · rcases Run.journal_turns hmoment with hbefore | ⟨done, step, rest, r, horder, hdone, hturn⟩
    · exact absurd hbefore List.not_mem_nil
    · rw [hturn.progress]
      exact (Run.agrees_turns hdone hinitial).visible
  · refine ⟨(Run.agrees_turns (Prod.ext rfl hstop) hinitial).visible, ?_, ?_⟩
    · exact Run.outcome_of_not_breaksOff (by rw [hstop]; rfl)
    · rw [Run.result, hstop]
      rfl

theorem completed_steps_visible_in_detour :
    Plan.sequence detour.steps = .ok detourOrder ∧
      ∃ (r : Run Nat) (stop : Option Stop),
        execute calm detour "exec" [] (.initial false none) 0 =
            .ok (r.outcome detour stop, r.session) ∧
          (∃ moment ∈ r.session.journal, moment.event = .begun "report" ∧
            ∃ value, moment.progress.context.result? "mirror" = some value) ∧
          (∀ moment ∈ r.session.journal, moment.progress.Visible) ∧
          stop = none ∧ r.progress.Visible ∧
          r.outcome detour stop = some (r.result detour stop) ∧
          (r.result detour stop).outputs =
            Outputs.resolve r.progress.context.scope detour.outputs := by
  have hplan : Plan.sequence detour.steps = .ok detourOrder := rfl
  obtain ⟨r, stop, hrun, hvisible, hend⟩ :=
    completed_steps_visible calm detour "exec" [] (.initial false none) 0 hplan
  obtain ⟨moment, hmoment, hbegun, hentries⟩ := report_begins_in_detour hrun
  obtain ⟨hmirror, -⟩ := List.cons.inj hentries
  have hshown := ((hvisible moment hmoment).completed "mirror").mpr
    (Option.map_eq_some_iff.mp hmirror)
  obtain ⟨result, hresult, hcompleted⟩ := detour_completes hrun
  rw [← Run.eq_result_of_outcome hresult] at hcompleted
  have hstop : stop = none := Run.stop_eq_none_of_completed hcompleted
  exact ⟨hplan, r, stop, hrun, ⟨moment, hmoment, hbegun, hshown⟩, hvisible, hstop, hend hstop⟩

end Workflow
