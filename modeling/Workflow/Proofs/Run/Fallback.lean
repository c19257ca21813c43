import Workflow.Proofs.Run.Turn

/-!
# Fallbacks that fail

A run that stops because a fallback has failed has executed it, unless the definition has no such
step. If every fallback is a step of the definition, the fault of a fallback is always its own.
-/

namespace Workflow

/-- Every step that a policy falls back on is a step of the definition. -/
def Definition.KnowsFallbacks (d : Definition) : Prop :=
  ∀ step ∈ d.steps, ∀ target, Policy.decision step = .fallback target →
    ∃ fallback ∈ d.steps, fallback.id = target ∧ d.step? target = some fallback

namespace Run

variable {σ : Type} {env : Environment σ} {d : Definition} {step : Step} {r r' : Run σ}

/-- A fallback is noted when it begins to stand in for a step. -/
theorem replaced_mem_standIn {target : String} {fallback : Step}
    {result : Option (Except Failure Success)} {session : Session σ}
    (h : r.standIn env step target fallback = (result, session)) :
    ∃ moment ∈ session.journal, moment.event = .replaced step.id target ∧
      moment.progress = r.progress := by
  have hsuffix := Attempt.suffix_all h
  rw [Session.journal_note] at hsuffix
  exact ⟨_, hsuffix.mem List.mem_cons_self, rfl, rfl⟩

theorem Substituted.replaced {target : String} {fault : StepFault}
    (h : Substituted env d step target r (some (.error fault)) r')
    (hknown : d.step? target ≠ none) :
    ∃ moment ∈ r'.session.journal, moment.event = .replaced step.id target := by
  cases h with
  | missing hresult hstep => exact absurd hstep hknown
  | outgrown fallback success session overflow hresult hstep hrun hoverflow =>
    obtain ⟨moment, hmoment, hevent, -⟩ := replaced_mem_standIn hrun
    exact ⟨moment, hmoment, hevent⟩
  | failed fallback failure session hresult hstep hrun =>
    obtain ⟨moment, hmoment, hevent, -⟩ := replaced_mem_standIn hrun
    exact ⟨moment, hmoment, hevent⟩

/-- The turn of a step that stops the run because a fallback has failed has executed it. -/
theorem Turned.replaced {id target : String} {fault targetFault : StepFault}
    (h : Turned env d step r r' (some (.fallbackFailed id fault target targetFault)))
    (hstep : step ∈ d.steps) (hknows : d.KnowsFallbacks) :
    ∃ moment ∈ r'.session.journal, moment.event = .replaced id target := by
  generalize hstop : Stop.fallbackFailed id fault target targetFault = stop at h
  cases h with
  | cancelled hcancelled => cases hstop
  | carriedOut hlive hunsettled htaken r' _ hcarried =>
    generalize hsome : some stop = reached at hcarried
    cases hcarried with
    | succeeded | skipped | replaced => cases hsome
    | outgrown | interrupted | aborted | overfilled | uncounted | brokenOff =>
      cases hsome
      cases hstop
    | unreplaced failure session other otherFault r₁ hrun hlive hdecision hsubstituted =>
      obtain rfl : stop = .ofFallback step failure other otherFault := Option.some.inj hsome
      obtain ⟨fallback, -, -, hfallback⟩ := hknows step hstep other hdecision
      have hreplaced :=
        hsubstituted.replaced (by rw [hfallback]; exact Option.some_ne_none fallback)
      cases otherFault <;> cases hstop <;> exact hreplaced

/-- So has the whole run. -/
theorem replaced_of_fallbackFailed {steps : List Step} {id target : String}
    {fault targetFault : StepFault}
    (h : r.turns env d steps = (r', some (.fallbackFailed id fault target targetFault)))
    (hsteps : ∀ s ∈ steps, s ∈ d.steps) (hknows : d.KnowsFallbacks) :
    ∃ moment ∈ r'.session.journal, moment.event = .replaced id target := by
  obtain ⟨done, step, rest, r₁, rfl, -, hstop⟩ := turns_stop h
  have hturned := turned env d step r₁
  rw [hstop] at hturned
  exact hturned.replaced (hsteps step (List.mem_append_right done List.mem_cons_self)) hknows

end Run

end Workflow
