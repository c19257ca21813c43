import Workflow.Proofs.Run.Involvement
import Workflow.Proofs.Run.Visibility

/-!
# Completed results are final

A step that has completed shows its result, so no other step has it executed in its place, and at
its own turn it is settled already. Once it has completed, nothing becomes of it any more.
-/

namespace Workflow

namespace Progress

/-- The steps that have completed show their results. -/
def ShowsCompleted (p : Progress) : Prop :=
  ∀ id, Completed p.entries id → ∃ value, p.context.result? id = some value

theorem ShowsCompleted.not_completed {p : Progress} (h : p.ShowsCompleted) {id : String}
    (hhidden : p.context.result? id = none) : ¬ Completed p.entries id := by
  intro hcompleted
  obtain ⟨value, hvalue⟩ := h id hcompleted
  rw [hhidden] at hvalue
  cases hvalue

theorem showsCompleted_initial (context : Context) : (initial context).ShowsCompleted := by
  rintro id ⟨entry, hentry, -⟩
  cases hentry

end Progress

namespace Run

variable {σ : Type} {env : Environment σ} {d : Definition} {step : Step} {r r' : Run σ}
  {stop : Option Stop} {id : String}

/-- Whatever a turn does, the steps that have completed show their results after it. -/
theorem Turned.showsCompleted (h : Turned env d step r r' stop)
    (hr : r.progress.ShowsCompleted) : r'.progress.ShowsCompleted := by
  intro id hcompleted
  cases h.involves id with
  | spared _ hspares =>
    rw [hspares.value]
    exact hr id (hspares.completed_iff.mp hcompleted)
  | passed hid hunsettled hpassed hprogress hjournal =>
    obtain ⟨entry, hentry, hstatus⟩ := hcompleted
    rw [hprogress] at hentry
    obtain rfl := Option.some.inj ((Entries.get?_insert_self _ _ _).symm.trans hentry)
    cases hstatus
  | executed _ hid hunsettled htaken hbegun htried hsettles =>
    subst hid
    exact htried.shown (Progress.not_completed_of_unsettled hunsettled) hcompleted
  | stoodIn _ hne hstands hdone =>
    obtain ⟨fallback, hstep, htried⟩ := hstands.tried
    obtain ⟨-, rfl⟩ := Definition.mem_of_step? hstep
    exact htried.shown (hr.not_completed hstands.hidden) hcompleted

/-- A turn spares the steps that have completed. -/
theorem Turned.spares_of_completed (h : Turned env d step r r' stop)
    (hr : r.progress.ShowsCompleted) (hcompleted : Completed r.progress.entries id) :
    Spares id r r' := by
  cases h.involves id with
  | spared _ hspares => exact hspares
  | passed hid hunsettled hpassed hprogress hjournal =>
    exact absurd hcompleted (Progress.not_completed_of_unsettled hunsettled)
  | executed _ hid hunsettled htaken hbegun htried hsettles =>
    exact absurd hcompleted (Progress.not_completed_of_unsettled hunsettled)
  | stoodIn _ hne hstands hdone => exact absurd hcompleted (hr.not_completed hstands.hidden)

theorem showsCompleted_turns {steps : List Step} (hr : r.progress.ShowsCompleted) :
    (r.turns env d steps).1.progress.ShowsCompleted :=
  turns_invariant (fun _ _ _ _ _ hturned hp => hturned.showsCompleted hp) hr

theorem spares_turns {steps : List Step} (hr : r.progress.ShowsCompleted)
    (hcompleted : Completed r.progress.entries id) : Spares id r (r.turns env d steps).1 := by
  have hkept : Spares id r (r.turns env d steps).1 ∧
      (r.turns env d steps).1.progress.ShowsCompleted := by
    apply turns_keep (P := fun r₁ => Spares id r r₁ ∧ r₁.progress.ShowsCompleted)
    · intro step _ r₁ r₂ stop hturned ⟨hspares, hshows⟩
      have hstill : Completed r₁.progress.entries id := hspares.completed_iff.mpr hcompleted
      exact ⟨hspares.trans (hturned.spares_of_completed hshows hstill),
        hturned.showsCompleted hshows⟩
    · exact ⟨.refl id r, hr⟩
  exact hkept.1

/-! ## Points of a run -/

/-- The points that a run passes through: those between turns, and those within the turn of a step
that has failed, when a fallback has been tried in its place and it is yet to be settled itself. -/
inductive Passes (env : Environment σ) (d : Definition) (start : Run σ) (order : List Step) :
    Run σ → Prop
  | between (done rest : List Step) (horder : order = done ++ rest) :
      Passes env d start order (start.turns env d done).1
  | within (done rest : List Step) (step : Step) (r : Run σ) (failure : Failure)
      (session : Session σ) (target : String) (horder : order = done ++ step :: rest)
      (hdone : start.turns env d done = (r, none))
      (hlive : (r.look env).session.isCancelled = false)
      (hunsettled : r.progress.isSettled step.id = false)
      (htaken : r.progress.passesOver step = false)
      (hrun : (r.look env).attempts env step = (some (.error failure), session))
      (hfault : failure.fault.isCancelled = false)
      (hdecision : Policy.decision step = .fallback target) :
      Passes env d start order ((⟨r.progress, session⟩ : Run σ).fallbackValue env d step target).2

theorem turn_eq_fallBack {failure : Failure} {session : Session σ} {target : String}
    (hlive : (r.look env).session.isCancelled = false)
    (hunsettled : r.progress.isSettled step.id = false)
    (htaken : r.progress.passesOver step = false)
    (hrun : (r.look env).attempts env step = (some (.error failure), session))
    (hfault : failure.fault.isCancelled = false)
    (hdecision : Policy.decision step = .fallback target) :
    r.turn env d step = (⟨r.progress, session⟩ : Run σ).fallBack env d step target failure := by
  rw [turn_eq_carryOut hlive hunsettled htaken, carryOut, ← attempts, hrun]
  simp only [hfault, Bool.false_eq_true, if_false, settleFailure, hdecision]
  rfl

/-- A result that is there already is taken over. -/
theorem fallBack_eq_reused {failure : Failure} {target : String} {value : Json}
    (hresult : r.progress.context.result? target = some value)
    (hfits : (r.progress.context.put step.id value).overflow? = none) :
    r.fallBack env d step target failure =
      (⟨r.progress.record step.id value (.completed value failure.retries (some target)),
        r.session⟩, none) := by
  rw [fallBack, fallbackValue, hresult]
  simp only [Progress.complete_of_fits _ hfits]

/-- When a fallback has been tried, only the step that it was to replace is still to be settled. -/
theorem spares_fallBack {failure : Failure} {target : String} (hne : id ≠ step.id) :
    Spares id (r.fallbackValue env d step target).2
      (r.fallBack env d step target failure).1 := by
  unfold fallBack
  rcases r.fallbackValue env d step target with ⟨_ | fault | value, r₁⟩
  · exact .refl id r₁
  · cases fault <;> exact spares_settle hne
  · cases hfits : (r₁.progress.context.put step.id value).overflow? with
    | none =>
      simp only [Progress.complete_of_fits _ hfits]
      exact spares_record hne
    | some overflow =>
      simp only [Progress.complete_of_overflow _ hfits]
      exact (spares_publish hne).trans (spares_settle hne)

/-- From any point on, a run spares the steps that have completed by then. -/
theorem Passes.spares {start point : Run σ} {order : List Step}
    (h : Passes env d start order point) (hstart : start.progress.ShowsCompleted)
    (hcompleted : Completed point.progress.entries id) :
    Spares id point (start.turns env d order).1 := by
  cases h with
  | between done rest horder =>
    rw [horder, turns_append_eq]
    have hshows : (start.turns env d done).1.progress.ShowsCompleted := showsCompleted_turns hstart
    rcases hdone : start.turns env d done with ⟨r, _ | stop⟩ <;>
      rw [hdone] at hcompleted hshows
    · exact spares_turns hshows hcompleted
    · exact .refl id r
  | within done rest step r failure session target horder hdone hlive hunsettled htaken hrun hfault
      hdecision =>
    have hvalue := substituted env d step target (⟨r.progress, session⟩ : Run σ)
    have hne : id ≠ step.id := by
      rintro rfl
      have hspares := hvalue.spares (Policy.target_ne hdecision).symm
      exact Progress.not_completed_of_unsettled hunsettled (hspares.completed_iff.mp hcompleted)
    have hrest : Spares id ((⟨r.progress, session⟩ : Run σ).fallbackValue env d step target).2
        (r.turn env d step).1 := by
      rw [turn_eq_fallBack hlive hunsettled htaken hrun hfault hdecision]
      exact spares_fallBack hne
    have hstill : Completed (r.turn env d step).1.progress.entries id :=
      hrest.completed_iff.mpr hcompleted
    have hshows : (r.turn env d step).1.progress.ShowsCompleted := by
      have hbefore : (start.turns env d done).1.progress.ShowsCompleted :=
        showsCompleted_turns hstart
      rw [hdone] at hbefore
      exact (turned env d step r).showsCompleted hbefore
    rw [horder, turns_append_eq, hdone]
    simp only [turns]
    rcases hafter : r.turn env d step with ⟨r₁, _ | stop⟩ <;>
      rw [hafter] at hrest hstill hshows
    · exact hrest.trans (spares_turns hshows hstill)
    · exact hrest

end Run

variable {σ : Type}

/-- Completed results are final. In every run of a definition with a plan, at whatever point a step
has completed, it is not executed any more, its entry and its value are the same in the end, and so
they are at every moment in between. -/
theorem completed_results_last (env : Environment σ) (d : Definition) (executionId : String)
    (inputs : Entries Json) (clock : Clock) (world : σ) {order : List Step}
    (h : Plan.sequence d.steps = .ok order) :
    ∃ (r : Run σ) (stop : Option Stop),
      execute env d executionId inputs clock world = .ok (r.outcome d stop, r.session) ∧
        ∀ point, (Run.initial env d executionId inputs clock world).Passes env d order point →
          ∀ id, Completed point.progress.entries id → point.Spares id r := by
  have hinitial : (Run.initial env d executionId inputs clock world).progress.ShowsCompleted :=
    Progress.showsCompleted_initial _
  refine ⟨_, _, Run.execute_eq h env executionId inputs clock world, ?_⟩
  intro point hpoint id hcompleted
  exact hpoint.spares hinitial hcompleted

theorem completed_results_last_in_fork :
    Plan.sequence fork.steps = .ok forkOrder ∧
      ∃ (r : Run Nat) (stop : Option Stop),
        execute calm fork "exec" [] (.initial false none) 0 = .ok (r.outcome fork stop, r.session) ∧
          ∃ point, (Run.initial calm fork "exec" [] (.initial false none) 0).Passes calm fork
              forkOrder point ∧
            Completed point.progress.entries "begin" ∧ point.Spares "begin" r := by
  have hplan : Plan.sequence fork.steps = .ok forkOrder := rfl
  obtain ⟨r, stop, hrun, hlast⟩ :=
    completed_results_last calm fork "exec" [] (.initial false none) 0 hplan
  have hpoint : (Run.initial calm fork "exec" [] (.initial false none) 0).Passes calm fork forkOrder
      ((Run.initial calm fork "exec" [] (.initial false none) 0).turns calm fork
        (forkOrder.take 2)).1 :=
    .between _ (forkOrder.drop 2) (List.take_append_drop 2 forkOrder).symm
  have hbegin : (((Run.initial calm fork "exec" [] (.initial false none) 0).turns calm fork
      (forkOrder.take 2)).1.progress.entries.get? "begin").map StepResult.status =
        some .completed := by decide +kernel
  have hcompleted : Completed ((Run.initial calm fork "exec" [] (.initial false none) 0).turns calm
      fork (forkOrder.take 2)).1.progress.entries "begin" := Option.map_eq_some_iff.mp hbegin
  exact ⟨hplan, r, stop, hrun, _, hpoint, hcompleted, hlast _ hpoint _ hcompleted⟩

end Workflow
