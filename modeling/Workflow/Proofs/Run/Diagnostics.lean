import Workflow.Proofs.Run.Capacity
import Workflow.Proofs.Run.Involvement

/-!
# Steps that have been executed are accounted for

Whatever way a turn ends, a step whose handler it has called is settled, with its result or with its
failure. There is one exception: when the result of a step makes the context too large, the run
stops before the step is settled. The step is then the last of which anything was noted.
-/

namespace Workflow

namespace Run

variable {σ : Type} {env : Environment σ} {d : Definition} {step : Step} {r r' : Run σ}
  {stop : Option Stop} {id : String}

/-- A run that has stopped because the result of a step, executed at its own turn or in place of
another, has made its context too large. -/
structure OutgrownBy (id : String) (r : Run σ) (stop : Option Stop) : Prop where
  /-- The conclusion of the step is the last thing that has happened. -/
  concluded : ∃ m past output notTaken, r.session.journal = m :: past ∧
    m.event = .concluded id output notTaken
  shown : ∃ value, r.progress.context.result? id = some value
  stopped : ∃ overflow, r.progress.context.overflow? = some overflow ∧
    (stop = some (.overflow overflow) ∨
      ∃ other fault, stop = some (.fallbackFailed other fault id (.execution overflow.message)))

/-- A step whose handler has been called is settled, or its result has stopped the run. Nothing is
said of a run that is broken off. -/
def Recorded (id : String) (r : Run σ) (stop : Option Stop) : Prop :=
  stop.any Stop.breaksOff = false → 0 < timesCalled r.session.journal id →
    r.progress.isSettled id = true ∨ OutgrownBy id r stop

theorem Recorded.of_settled (h : r.progress.isSettled id = true) : Recorded id r stop :=
  fun _ _ => Or.inl h

theorem Recorded.of_brokenOff (other : String) : Recorded id r (some (.uncounted other)) := nofun

theorem OutgrownBy.recorded (h : OutgrownBy id r stop) : Recorded id r stop := fun _ _ => Or.inr h

/-- What spares a step leaves it recorded. -/
theorem Recorded.spared (h : Recorded id r none) (hspares : Spares id r r') :
    Recorded id r' stop := by
  intro _ hcalled
  rw [hspares.timesCalled_eq] at hcalled
  rcases h rfl hcalled with hsettled | ⟨-, -, overflow, -, hstop⟩
  · exact Or.inl (hspares.isSettled_eq.trans hsettled)
  · rcases hstop with hstop | ⟨other, fault, hstop⟩ <;> cases hstop

/-- Attempts that succeed leave their conclusion as the last thing that has happened. -/
theorem concluded_last {p : Progress} {s s' : Session σ} {success : Success}
    (h : Attempt.all env step p s = (some (.ok success), s')) :
    ∃ m past output notTaken, s'.journal = m :: past ∧
      m.event = .concluded step.id output notTaken := by
  obtain ⟨calls, cancelled, -, hjournal⟩ := Attempt.journal_all_ok h
  exact ⟨_, _, _, _, hjournal, rfl⟩

/-- A value that has been published can be seen. -/
theorem shown_publish (p : Progress) (id : String) (value : Json) :
    ∃ result, (p.publish id value).context.result? id = some result :=
  ⟨_, (Context.result?_put _ _ _ _).trans (if_pos rfl)⟩

/-- A fallback that has been executed is recorded, also when the step that it
was to replace is settled. -/
theorem Substituted.recorded {target : String} {fault : StepFault} {failure : Failure}
    (h : Substituted env d step target r (some (.error fault)) r') (hne : target ≠ step.id)
    (hr : Recorded target r none) :
    Recorded target ⟨r'.progress.settle step.id (Run.failed failure), r'.session⟩
      (some (.ofFallback step failure target fault)) := by
  cases h with
  | missing hresult hstep => exact hr.spared (spares_settle hne)
  | outgrown fallback success session overflow hresult hstep hrun hoverflow =>
    obtain ⟨-, rfl⟩ := Definition.mem_of_step? hstep
    apply OutgrownBy.recorded
    exact ⟨concluded_last hrun, shown_publish _ _ _, overflow, hoverflow,
      Or.inr ⟨step.id, failure.fault, rfl⟩⟩
  | failed fallback fallbackFailure session hresult hstep hrun =>
    obtain ⟨-, rfl⟩ := Definition.mem_of_step? hstep
    apply Recorded.of_settled
    simp

/-- A fallback that has a value is recorded. -/
theorem Substituted.recorded_of_value {target : String} {value : Json}
    (h : Substituted env d step target r (some (.ok value)) r') (hr : Recorded target r none) :
    Recorded target r' none := by
  cases h with
  | reused value hresult => exact hr
  | executed fallback success session hresult hstep hrun hfits =>
    obtain ⟨-, rfl⟩ := Definition.mem_of_step? hstep
    apply Recorded.of_settled
    simp

/-- The step whose turn it is and that is executed is recorded. -/
theorem CarriedOut.recorded_self (h : CarriedOut env d step r r' stop) :
    Recorded step.id r' stop := by
  cases h with
  | outgrown success session overflow hrun hoverflow =>
    apply OutgrownBy.recorded
    refine ⟨concluded_last hrun, shown_publish _ _ _, overflow, ?_, Or.inl rfl⟩
    rw [Progress.publish, Progress.context_leave]
    exact hoverflow
  | succeeded | interrupted | aborted | skipped | replaced | overfilled | unreplaced =>
    apply Recorded.of_settled
    simp
  | uncounted | brokenOff => exact .of_brokenOff _

/-- So is every other step. -/
theorem CarriedOut.recorded_other (h : CarriedOut env d step r r' stop) (hne : id ≠ step.id)
    (hr : Recorded id r none) : Recorded id r' stop := by
  have hattempts : ∀ {result : Option (Except Failure Success)} {session : Session σ},
      r.attempts env step = (result, session) → Spares id r ⟨r.progress, session⟩ :=
    fun hrun => spares_of_notes hne (notes_attempts hrun)
  have hvalue : ∀ {failure : Failure} {session : Session σ} {target : String} {value : Json}
      {r₁ : Run σ}, r.attempts env step = (some (.error failure), session) →
        Substituted env d step target ⟨r.progress, session⟩ (some (.ok value)) r₁ →
          Recorded id r₁ none := by
    intro failure session target value r₁ hrun hsubstituted
    have hbefore : Recorded id (⟨r.progress, session⟩ : Run σ) none := hr.spared (hattempts hrun)
    by_cases htarget : id = target
    · subst htarget
      exact hsubstituted.recorded_of_value hbefore
    · exact hbefore.spared (hsubstituted.spares htarget)
  cases h with
  | succeeded success session hrun hfits =>
    exact hr.spared (((hattempts hrun).trans (spares_leave _)).trans (spares_record hne))
  | outgrown success session overflow hrun hoverflow =>
    exact hr.spared (((hattempts hrun).trans (spares_leave _)).trans (spares_publish hne))
  | interrupted failure session hrun hcancelled =>
    exact hr.spared ((hattempts hrun).trans (spares_settle hne))
  | aborted failure session hrun hlive hdecision =>
    exact hr.spared ((hattempts hrun).trans (spares_settle hne))
  | skipped failure session hrun hlive hdecision =>
    exact hr.spared ((hattempts hrun).trans (spares_settle hne))
  | replaced failure session target value r₁ hrun hlive hdecision hsubstituted hfits =>
    exact (hvalue hrun hsubstituted).spared (spares_record hne)
  | overfilled failure session target value r₁ overflow hrun hlive hdecision hsubstituted
      hoverflow =>
    exact (hvalue hrun hsubstituted).spared ((spares_publish hne).trans (spares_settle hne))
  | unreplaced failure session target fault r₁ hrun hlive hdecision hsubstituted =>
    have hbefore : Recorded id (⟨r.progress, session⟩ : Run σ) none := hr.spared (hattempts hrun)
    by_cases htarget : id = target
    · subst htarget
      exact hsubstituted.recorded hne hbefore
    · exact hbefore.spared ((hsubstituted.spares htarget).trans (spares_settle hne))
  | uncounted | brokenOff => exact .of_brokenOff _

/-- After the turn of a step every step is recorded if it was so before. -/
theorem Turned.recorded (h : Turned env d step r r' stop) (hr : Recorded id r none) :
    Recorded id r' stop := by
  cases h with
  | cancelled hcancelled => exact hr.spared (spares_look env)
  | settled hlive hsettled => exact hr.spared (spares_look env)
  | passed hlive hunsettled hpassed =>
    by_cases hid : id = step.id
    · subst hid
      apply Recorded.of_settled
      simp
    · exact hr.spared ((spares_look env).trans (spares_passOver hid))
  | carriedOut hlive hunsettled htaken r' stop hcarried =>
    by_cases hid : id = step.id
    · subst hid
      exact hcarried.recorded_self
    · exact hcarried.recorded_other hid (hr.spared (spares_look env))

/-- So it is after several turns, whether or not the last of them has stopped the run. -/
theorem recorded_turns {steps : List Step} (hr : Recorded id r none) :
    Recorded id (r.turns env d steps).1 (r.turns env d steps).2 := by
  induction steps generalizing r with
  | nil => exact hr
  | cons step rest ih =>
    have hturned := turned env d step r
    rw [turns]
    rcases hturn : r.turn env d step with ⟨r₁, _ | stop⟩ <;> rw [hturn] at hturned
    · exact ih (hturned.recorded hr)
    · exact hturned.recorded hr

end Run

variable {σ : Type}

/-- In every run of a definition with a plan that has a result, however it ends, each step whose
handler has been called has an entry in the result. The only exception is a step whose own result
makes the context too large: then the run fails for that reason, right after the step has
concluded. There is a result if all attempts can be counted. -/
theorem called_steps_recorded (env : Environment σ) (d : Definition) (executionId : String)
    (inputs : Entries Json) (clock : Clock) (world : σ) {order : List Step}
    (h : Plan.sequence d.steps = .ok order) :
    ∃ (r : Run σ) (stop : Option Stop),
      execute env d executionId inputs clock world = .ok (r.outcome d stop, r.session) ∧
        (d.Countable → ∃ result, r.outcome d stop = some result) ∧
        ∀ result, r.outcome d stop = some result →
          ∀ id, 0 < timesCalled r.session.journal id →
            (∃ entry, result.steps.get? id = some entry) ∨
              result.status = .failed ∧ r.OutgrownBy id stop := by
  refine ⟨_, _, Run.execute_eq h env executionId inputs clock world,
    fun hcountable => Run.exists_outcome h hcountable env executionId inputs clock world, ?_⟩
  intro result hresult id hcalled
  obtain ⟨hends, rfl⟩ := Run.outcome_eq_some_iff.mp hresult
  have hinitial : Run.Recorded id (Run.initial env d executionId inputs clock world) none := by
    intro _ hcalled
    cases hcalled
  rcases Run.recorded_turns hinitial hends hcalled with hsettled | houtgrown
  · exact Or.inl (Option.isSome_iff_exists.mp hsettled)
  · obtain ⟨overflow, -, hstop⟩ := houtgrown.stopped
    refine Or.inr ⟨?_, houtgrown⟩
    rcases hstop with hstop | ⟨other, fault, hstop⟩ <;> rw [Run.result, hstop] <;> rfl

theorem called_steps_recorded_in_detour :
    Plan.sequence detour.steps = .ok detourOrder ∧
      ∃ (r : Run Nat) (stop : Option Stop),
        execute calm detour "exec" [] (.initial false none) 0 =
            .ok (r.outcome detour stop, r.session) ∧
          ∃ result, r.outcome detour stop = some result ∧ result.status = .completed ∧
            ∀ id, 0 < timesCalled r.session.journal id →
              (∃ entry, result.steps.get? id = some entry) ∨
                result.status = .failed ∧ r.OutgrownBy id stop := by
  have hplan : Plan.sequence detour.steps = .ok detourOrder := rfl
  obtain ⟨r, stop, hrun, -, hrecorded⟩ :=
    called_steps_recorded calm detour "exec" [] (.initial false none) 0 hplan
  obtain ⟨result, hresult, hcompleted⟩ := detour_completes hrun
  exact ⟨hplan, r, stop, hrun, result, hresult, hcompleted, hrecorded result hresult⟩

/-! ## Results that outgrow the context -/

def burden : Definition where
  metadata := ⟨"burden", "", "1.0.0", none, []⟩
  inputs := [("text", ⟨.string, true, none, none, none, none⟩)]
  steps := [⟨"begin", .start, none, none, [], .start, [], none⟩]
  outputs := []

/-- Inputs that leave no place for results. -/
def cargo : Entries Json := [("text", .str (Json.bulk maxContextSize))]

theorem totalSize_of_cargo {c : Context} (h : c.inputs = cargo) :
    maxContextSize < c.totalSize := by
  rw [Context.totalSize, h, cargo, Json.textSize, Json.textSizeFields, Json.textSize,
    Json.quotedSize_bulk]
  omega

/-- A step that has been executed may have no entry: the handler of `begin` is called and succeeds,
but its result does not fit into the context, and the run fails without an entry for it. -/
theorem begin_unrecorded_in_burden :
    Plan.sequence burden.steps = .ok burden.steps ∧
      ∃ result session,
        execute calm burden "exec" cargo (.initial false none) 0 = .ok (some result, session) ∧
          0 < timesCalled session.journal "begin" ∧ result.steps.get? "begin" = none := by
  have hplan : Plan.sequence burden.steps = .ok burden.steps := rfl
  let start := Run.initial calm burden "exec" cargo (.initial false none) 0
  let step : Step := ⟨"begin", .start, none, none, [], .start, [], none⟩
  let success : Success := ⟨.obj [("started_at", .str calm.time)], none, 0⟩
  obtain ⟨session, hrun, hcalled⟩ : ∃ session, (start.look calm).attempts calm step =
      (some (.ok success), session) ∧ timesCalled session.journal "begin" = 1 :=
    ⟨_, Attempt.all_of_once_ok rfl, rfl⟩
  obtain ⟨overflow, hoverflow⟩ :
      ∃ overflow, (start.progress.context.put step.id success.value).overflow? = some overflow :=
    ⟨_, if_pos (totalSize_of_cargo rfl)⟩
  have hturns : start.turns calm burden burden.steps =
      (⟨start.progress.publish step.id success.value, session⟩, some (.overflow overflow)) := by
    have hturn := Run.turn_eq_outgrown (d := burden) rfl rfl rfl hrun hoverflow
    exact Run.turns_of_stop hturn
  refine ⟨hplan, _, _, Run.execute_of_turns hplan hturns, ?_, rfl⟩
  rw [hcalled]
  exact Nat.one_pos

end Workflow
