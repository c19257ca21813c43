import Workflow.Run.Execution

/-!
# What a turn can do

The turn of a step ends in one of a few ways. Each is a case of a relation between the run before
and after the turn, with what led to it; all that is said about runs rests on these cases.
-/

namespace Workflow

namespace Progress

/-- Shows the value of a step to later steps. -/
def publish (p : Progress) (id : String) (value : Json) : Progress :=
  { p with context := p.context.put id value }

/-- Shows the value of a step to later steps, and settles it. -/
def record (p : Progress) (id : String) (value : Json) (result : StepResult) : Progress :=
  (p.publish id value).settle id result

theorem complete_of_fits {p : Progress} {id : String} {value : Json} (result : StepResult)
    (h : (p.context.put id value).overflow? = none) :
    p.complete id value result = (p.record id value result, none) := by
  simp [complete, Context.store, h, record, publish]

theorem complete_of_overflow {p : Progress} {id : String} {value : Json} {overflow : Overflow}
    (result : StepResult) (h : (p.context.put id value).overflow? = some overflow) :
    p.complete id value result = (p.publish id value, some overflow) := by
  simp [complete, Context.store, h, publish]

@[simp] theorem entries_publish (p : Progress) (id : String) (value : Json) :
    (p.publish id value).entries = p.entries := rfl

@[simp] theorem context_record (p : Progress) (id : String) (value : Json) (result : StepResult) :
    (p.record id value result).context = p.context.put id value := rfl

@[simp] theorem entries_record (p : Progress) (id : String) (value : Json) (result : StepResult) :
    (p.record id value result).entries = p.entries.insert id result := rfl

@[simp] theorem isSettled_record (p : Progress) (id other : String) (value : Json)
    (result : StepResult) :
    (p.record id value result).isSettled other = (decide (other = id) || p.isSettled other) :=
  Entries.contains_insert p.entries id other result

end Progress

/-- Why a run stops whose fallback has failed. -/
def Stop.ofFallback (step : Step) (failure : Failure) (target : String) : StepFault → Stop
  | .cancelled => .cancelled
  | fault => .fallbackFailed step.id failure.fault target fault

namespace Run

variable {σ : Type}

def look (env : Environment σ) (r : Run σ) : Run σ := { r with session := r.session.look env }

@[simp] theorem progress_look (env : Environment σ) (r : Run σ) :
    (r.look env).progress = r.progress :=
  rfl

@[simp] theorem journal_look (env : Environment σ) (r : Run σ) :
    (r.look env).session.journal = r.session.journal :=
  rfl

def attempts (env : Environment σ) (step : Step) (r : Run σ) :
    Option (Except Failure Success) × Session σ :=
  Attempt.all env step r.progress (r.session.note r.progress (.begun step.id))

def standIn (env : Environment σ) (step : Step) (target : String) (fallback : Step) (r : Run σ) :
    Option (Except Failure Success) × Session σ :=
  Attempt.all env fallback r.progress (r.session.note r.progress (.replaced step.id target))

def failed (failure : Failure) : StepResult := .failed failure.fault.message failure.retries

/-- How the value of a fallback comes about, and what becomes of the run. -/
inductive Substituted (env : Environment σ) (d : Definition) (step : Step) (target : String)
    (r : Run σ) :
    Option (Except StepFault Json) → Run σ → Prop
  | reused (value : Json) (hresult : r.progress.context.result? target = some value) :
      Substituted env d step target r (some (.ok value)) r
  | missing (hresult : r.progress.context.result? target = none) (hstep : d.step? target = none) :
      Substituted env d step target r
      (some (.error (.execution s!"fallback step '{target}' does not exist"))) r
  | executed (fallback : Step) (success : Success) (session : Session σ)
      (hresult : r.progress.context.result? target = none) (hstep : d.step? target = some fallback)
      (hrun : r.standIn env step target fallback = (some (.ok success), session))
      (hfits : (r.progress.context.put fallback.id success.value).overflow? = none) :
      Substituted env d step target r (some (.ok success.value))
        ⟨r.progress.record fallback.id success.value
        (.completed success.value success.retries none), session⟩
  | outgrown (fallback : Step) (success : Success) (session : Session σ) (overflow : Overflow)
      (hresult : r.progress.context.result? target = none) (hstep : d.step? target = some fallback)
      (hrun : r.standIn env step target fallback = (some (.ok success), session))
      (hoverflow : (r.progress.context.put fallback.id success.value).overflow? = some overflow) :
      Substituted env d step target r (some (.error (.execution overflow.message)))
        ⟨r.progress.publish fallback.id success.value, session⟩
  | failed (fallback : Step) (failure : Failure) (session : Session σ)
      (hresult : r.progress.context.result? target = none) (hstep : d.step? target = some fallback)
      (hrun : r.standIn env step target fallback = (some (.error failure), session)) :
      Substituted env d step target r (some (.error failure.fault))
        ⟨r.progress.settle fallback.id (Run.failed failure), session⟩
  | uncounted (fallback : Step) (session : Session σ)
      (hresult : r.progress.context.result? target = none) (hstep : d.step? target = some fallback)
      (hrun : r.standIn env step target fallback = (none, session)) :
      Substituted env d step target r none ⟨r.progress, session⟩

theorem substituted (env : Environment σ) (d : Definition) (step : Step) (target : String)
    (r : Run σ) :
    Substituted env d step target r (r.fallbackValue env d step target).1
    (r.fallbackValue env d step target).2 := by
  unfold fallbackValue
  cases hresult : r.progress.context.result? target with
  | some value => exact .reused value hresult
  | none =>
    cases hstep : d.step? target with
    | none => exact .missing hresult hstep
    | some fallback =>
      simp only
      rw [← standIn]
      rcases hrun : r.standIn env step target fallback with ⟨_ | failure | success, session⟩
      · exact .uncounted fallback session hresult hstep hrun
      · exact .failed fallback failure session hresult hstep hrun
      · cases hfits : (r.progress.context.put fallback.id success.value).overflow? with
        | none =>
          simp only [succeed, Progress.complete_of_fits _ hfits]
          exact .executed fallback success session hresult hstep hrun hfits
        | some overflow =>
          simp only [succeed, Progress.complete_of_overflow _ hfits]
          exact .outgrown fallback success session overflow hresult hstep hrun hfits

/-- What becomes of a run in which a step is executed at its turn. -/
inductive CarriedOut (env : Environment σ) (d : Definition) (step : Step) (r : Run σ) :
    Run σ → Option Stop → Prop
  | succeeded (success : Success) (session : Session σ)
      (hrun : r.attempts env step = (some (.ok success), session))
      (hfits : (r.progress.context.put step.id success.value).overflow? = none) :
      CarriedOut env d step r ⟨(r.progress.leave success.notTaken).record step.id success.value
        (.completed success.value success.retries none), session⟩ none
  | outgrown (success : Success) (session : Session σ) (overflow : Overflow)
      (hrun : r.attempts env step = (some (.ok success), session))
      (hoverflow : (r.progress.context.put step.id success.value).overflow? = some overflow) :
      CarriedOut env d step r ⟨(r.progress.leave success.notTaken).publish step.id success.value,
      session⟩
        (some (.overflow overflow))
  | interrupted (failure : Failure) (session : Session σ)
      (hrun : r.attempts env step = (some (.error failure), session))
      (hcancelled : failure.fault.isCancelled = true) :
      CarriedOut env d step r ⟨r.progress.settle step.id (Run.failed failure), session⟩
      (some .cancelled)
  | aborted (failure : Failure) (session : Session σ)
      (hrun : r.attempts env step = (some (.error failure), session))
      (hlive : failure.fault.isCancelled = false) (hdecision : Policy.decision step = .fail) :
      CarriedOut env d step r ⟨r.progress.settle step.id (Run.failed failure), session⟩
        (some (.failed step.id failure.fault))
  | skipped (failure : Failure) (session : Session σ)
      (hrun : r.attempts env step = (some (.error failure), session))
      (hlive : failure.fault.isCancelled = false) (hdecision : Policy.decision step = .skip) :
      CarriedOut env d step r ⟨r.progress.settle step.id (Run.failed failure), session⟩ none
  | replaced (failure : Failure) (session : Session σ) (target : String) (value : Json) (r' : Run σ)
      (hrun : r.attempts env step = (some (.error failure), session))
      (hlive : failure.fault.isCancelled = false)
      (hdecision : Policy.decision step = .fallback target)
      (hsubstituted : Substituted env d step target ⟨r.progress, session⟩ (some (.ok value)) r')
      (hfits : (r'.progress.context.put step.id value).overflow? = none) :
      CarriedOut env d step r
        ⟨r'.progress.record step.id value (.completed value failure.retries (some target)),
        r'.session⟩ none
  | overfilled (failure : Failure) (session : Session σ) (target : String) (value : Json)
      (r' : Run σ) (overflow : Overflow)
      (hrun : r.attempts env step = (some (.error failure), session))
      (hlive : failure.fault.isCancelled = false)
      (hdecision : Policy.decision step = .fallback target)
      (hsubstituted : Substituted env d step target ⟨r.progress, session⟩ (some (.ok value)) r')
      (hoverflow : (r'.progress.context.put step.id value).overflow? = some overflow) :
      CarriedOut env d step r
        ⟨(r'.progress.publish step.id value).settle step.id (Run.failed failure), r'.session⟩
        (some (.overflow overflow))
  | unreplaced (failure : Failure) (session : Session σ) (target : String) (fault : StepFault)
  (r' : Run σ)
      (hrun : r.attempts env step = (some (.error failure), session))
      (hlive : failure.fault.isCancelled = false)
      (hdecision : Policy.decision step = .fallback target)
      (hsubstituted : Substituted env d step target ⟨r.progress, session⟩
        (some (.error fault)) r') :
      CarriedOut env d step r ⟨r'.progress.settle step.id (Run.failed failure), r'.session⟩
        (some (.ofFallback step failure target fault))
  | uncounted (session : Session σ) (hrun : r.attempts env step = (none, session)) :
      CarriedOut env d step r ⟨r.progress, session⟩ (some (.uncounted step.id))
  | brokenOff (failure : Failure) (session : Session σ) (target : String) (r' : Run σ)
      (hrun : r.attempts env step = (some (.error failure), session))
      (hlive : failure.fault.isCancelled = false)
      (hdecision : Policy.decision step = .fallback target)
      (hsubstituted : Substituted env d step target ⟨r.progress, session⟩ none r') :
      CarriedOut env d step r r' (some (.uncounted target))

theorem carriedOut (env : Environment σ) (d : Definition) (step : Step) (r : Run σ) :
    CarriedOut env d step r (r.carryOut env d step).1 (r.carryOut env d step).2 := by
  unfold carryOut
  rw [← attempts]
  rcases hrun : r.attempts env step with ⟨_ | failure | success, session⟩
  · exact .uncounted session hrun
  · cases hcancelled : failure.fault.isCancelled with
    | true =>
      simp only [hcancelled, if_true]
      exact .interrupted failure session hrun hcancelled
    | false =>
      simp only [hcancelled, Bool.false_eq_true, if_false, settleFailure]
      cases hdecision : Policy.decision step with
      | fail => exact .aborted failure session hrun hcancelled hdecision
      | skip => exact .skipped failure session hrun hcancelled hdecision
      | fallback target =>
        have hsubstituted := substituted env d step target (⟨r.progress, session⟩ : Run σ)
        simp only [fallBack]
        rcases hvalue : (⟨r.progress, session⟩ : Run σ).fallbackValue env d step target
          with ⟨_ | fault | value, r'⟩
        · rw [hvalue] at hsubstituted
          exact .brokenOff failure session target r' hrun hcancelled hdecision hsubstituted
        · rw [hvalue] at hsubstituted
          have hunreplaced :=
            CarriedOut.unreplaced failure session target fault r'
              hrun hcancelled hdecision hsubstituted
          cases fault <;> exact hunreplaced
        · rw [hvalue] at hsubstituted
          cases hfits : (r'.progress.context.put step.id value).overflow? with
          | none =>
            simp only [Progress.complete_of_fits _ hfits]
            exact .replaced failure session target value r'
              hrun hcancelled hdecision hsubstituted hfits
          | some overflow =>
            simp only [Progress.complete_of_overflow _ hfits]
            exact .overfilled failure session target value r' overflow hrun hcancelled hdecision
              hsubstituted hfits
  · cases hfits : (r.progress.context.put step.id success.value).overflow? with
    | none =>
      have hleft : ((r.progress.leave success.notTaken).context.put step.id
          success.value).overflow? = none := by
        rw [Progress.context_leave, hfits]
      simp only [succeed, Progress.complete_of_fits _ hleft]
      exact .succeeded success session hrun hfits
    | some overflow =>
      have hleft :
        ((r.progress.leave success.notTaken).context.put step.id success.value).overflow? =
          some overflow := by
        rw [Progress.context_leave, hfits]
      simp only [succeed, Progress.complete_of_overflow _ hleft]
      exact .outgrown success session overflow hrun hfits

/-- The session in which the execution of a step ends is that of its own attempts, or that of the
attempts at a fallback that follow on them. -/
inductive Attempted (env : Environment σ) (d : Definition) (step : Step) (r : Run σ) :
    Session σ → Prop
  | own (result : Option (Except Failure Success)) (session : Session σ)
      (hrun : r.attempts env step = (result, session)) : Attempted env d step r session
  | fallback (failure : Failure) (session : Session σ) (target : String) (fallback : Step)
      (result : Option (Except Failure Success)) (session' : Session σ)
      (hrun : r.attempts env step = (some (.error failure), session))
      (hresult : r.progress.context.result? target = none) (hstep : d.step? target = some fallback)
      (hfallback : (⟨r.progress, session⟩ : Run σ).standIn env step target fallback =
        (result, session')) : Attempted env d step r session'

theorem Substituted.attempted {env : Environment σ} {d : Definition} {step : Step} {r r' : Run σ}
    {failure : Failure} {session : Session σ} {target : String}
    {value : Option (Except StepFault Json)}
    (h : Substituted env d step target ⟨r.progress, session⟩ value r')
    (hrun : r.attempts env step = (some (.error failure), session)) :
    Attempted env d step r r'.session := by
  cases h with
  | reused value hresult => exact .own _ _ hrun
  | missing hresult hstep => exact .own _ _ hrun
  | executed fallback success session' hresult hstep hfallback hfits =>
    exact .fallback failure session target fallback _ _ hrun hresult hstep hfallback
  | outgrown fallback success session' overflow hresult hstep hfallback hoverflow =>
    exact .fallback failure session target fallback _ _ hrun hresult hstep hfallback
  | failed fallback other session' hresult hstep hfallback =>
    exact .fallback failure session target fallback _ _ hrun hresult hstep hfallback
  | uncounted fallback session' hresult hstep hfallback =>
    exact .fallback failure session target fallback _ _ hrun hresult hstep hfallback

theorem CarriedOut.attempted {env : Environment σ} {d : Definition} {step : Step} {r r' : Run σ}
    {stop : Option Stop} (h : CarriedOut env d step r r' stop) :
    Attempted env d step r r'.session := by
  cases h with
  | succeeded success session hrun hfits => exact .own _ _ hrun
  | outgrown success session overflow hrun hoverflow => exact .own _ _ hrun
  | interrupted failure session hrun hcancelled => exact .own _ _ hrun
  | aborted failure session hrun hlive hdecision => exact .own _ _ hrun
  | skipped failure session hrun hlive hdecision => exact .own _ _ hrun
  | replaced failure session target value r' hrun hlive hdecision hsubstituted hfits =>
    exact hsubstituted.attempted hrun
  | overfilled failure session target value r' overflow hrun hlive hdecision hsubstituted
      hoverflow =>
    exact hsubstituted.attempted hrun
  | unreplaced failure session target fault r' hrun hlive hdecision hsubstituted =>
    exact hsubstituted.attempted hrun
  | uncounted session hrun => exact .own _ _ hrun
  | brokenOff failure session target r' hrun hlive hdecision hsubstituted =>
    exact hsubstituted.attempted hrun

/-- What becomes of a run in the turn of a step. -/
inductive Turned (env : Environment σ) (d : Definition) (step : Step) (r : Run σ) :
    Run σ → Option Stop → Prop
  | cancelled (hcancelled : (r.look env).session.isCancelled = true) :
      Turned env d step r (r.look env) (some .cancelled)
  | settled (hlive : (r.look env).session.isCancelled = false)
  (hsettled : r.progress.isSettled step.id = true) :
      Turned env d step r (r.look env) none
  | passed (hlive : (r.look env).session.isCancelled = false)
  (hunsettled : r.progress.isSettled step.id = false)
      (hpassed : r.progress.passesOver step = true) :
      Turned env d step r ⟨r.progress.passOver step.id, (r.look env).session⟩ none
  | carriedOut (hlive : (r.look env).session.isCancelled = false)
  (hunsettled : r.progress.isSettled step.id = false)
      (htaken : r.progress.passesOver step = false) (r' : Run σ) (stop : Option Stop)
      (hcarried : CarriedOut env d step (r.look env) r' stop) : Turned env d step r r' stop

theorem turned (env : Environment σ) (d : Definition) (step : Step) (r : Run σ) :
    Turned env d step r (r.turn env d step).1 (r.turn env d step).2 := by
  unfold turn
  rw [← look]
  cases hcancelled : (r.look env).session.isCancelled with
  | true =>
    simp only [hcancelled, if_true]
    exact .cancelled hcancelled
  | false =>
    cases hsettled : r.progress.isSettled step.id with
    | true =>
      simp only [hcancelled, progress_look, hsettled, Bool.false_eq_true, if_true, if_false]
      exact .settled hcancelled hsettled
    | false =>
      cases hpassed : r.progress.passesOver step with
      | true =>
        simp only [hcancelled, progress_look, hsettled, hpassed, Bool.false_eq_true, if_true,
          if_false]
        exact .passed hcancelled hsettled hpassed
      | false =>
        simp only [hcancelled, progress_look, hsettled, hpassed, Bool.false_eq_true, if_false]
        exact .carriedOut hcancelled hsettled hpassed _ _ (carriedOut env d step (r.look env))

end Run

/-! ## Moments of a turn -/

/-- A moment in the attempts at a step. -/
structure Moment.OfAttempt (m : Moment) (step : Step) (p : Progress) : Prop where
  progress : m.progress = p
  event : m.event = .called step.id ∨
    ∃ output notTaken, m.event = .concluded step.id output notTaken

namespace Attempt

variable {σ : Type} {env : Environment σ} {step : Step} {p : Progress} {s s' : Session σ}
  {m : Moment}

theorem journal_pause {go : Bool} (h : pause env s = (go, s')) : s'.journal = s.journal := by
  unfold pause at h
  simp only at h
  split at h
  · cases h
    rfl
  · split at h <;> cases h <;> rfl

/-- Moments in which the handler of a step is called. -/
def Calls (step : Step) (p : Progress) (moments : List Moment) : Prop :=
  ∀ m ∈ moments, m.event = .called step.id ∧ m.progress = p

theorem Calls.nil : Calls step p [] := fun _ hm => absurd hm List.not_mem_nil

theorem Calls.append {after before : List Moment} (hafter : Calls step p after)
    (hbefore : Calls step p before) : Calls step p (after ++ before) :=
  fun m hm => (List.mem_append.mp hm).elim (hafter m) (hbefore m)

theorem Calls.single : Calls step p [⟨.called step.id, p, false⟩] := by
  intro m hm
  obtain rfl := List.mem_singleton.mp hm
  exact ⟨rfl, rfl⟩

/-- An attempt finds the run cancelled, or it calls the handler. -/
theorem once_cases {result : Except StepFault (Json × Option String)}
    (h : once env step p s = (result, s')) :
    (s.look env).isCancelled = true ∧ result = .error .cancelled ∧ s' = s.look env ∨
      (s.look env).isCancelled = false ∧ s'.journal = ⟨.called step.id, p, false⟩ :: s.journal := by
  unfold once at h
  simp only at h
  split at h
  · next hcancelled =>
    cases h
    exact Or.inl ⟨hcancelled, rfl, rfl⟩
  · next hlive =>
    cases h
    have hlive := Bool.eq_false_iff.mpr hlive
    refine Or.inr ⟨hlive, ?_⟩
    rw [Session.journal_perform, Session.journal_note, hlive, Session.journal_look]

theorem calls_once {result : Except StepFault (Json × Option String)}
    (h : once env step p s = (result, s')) :
    ∃ calls, Calls step p calls ∧ s'.journal = calls ++ s.journal := by
  rcases once_cases h with ⟨-, -, rfl⟩ | ⟨-, hjournal⟩
  · exact ⟨[], Calls.nil, rfl⟩
  · exact ⟨[_], Calls.single, hjournal⟩

theorem calls_repeated {done : Nat} {result : Option (Except Failure Success)}
    (h : repeated env step p done s = (result, s')) :
    ∃ calls, Calls step p calls ∧ s'.journal = calls ++ s.journal := by
  fun_induction repeated env step p done s with
  | case1 done s value notTaken t honce =>
    cases h
    exact calls_once honce
  | case2 done s fault t honce hretry =>
    cases h
    exact calls_once honce
  | case3 done s fault t honce hretry =>
    cases h
    exact calls_once honce
  | case4 done s fault t honce hretry t' hpause ih =>
    obtain ⟨after, hafter, hjournal⟩ := ih h
    obtain ⟨before, hbefore, hfirst⟩ := calls_once honce
    refine ⟨after ++ before, hafter.append hbefore, ?_⟩
    rw [hjournal, journal_pause hpause, hfirst, List.append_assoc]
  | case5 done s fault t honce hretry t' hpause =>
    cases h
    rw [journal_pause hpause]
    exact calls_once honce

/-- Attempts that succeed note their conclusion last. -/
theorem journal_all_ok {success : Success} (h : all env step p s = (some (.ok success), s')) :
    ∃ calls cancelled, Calls step p calls ∧ s'.journal =
      ⟨.concluded step.id success.value success.notTaken, p, cancelled⟩ ::
        (calls ++ s.journal) := by
  unfold all at h
  split at h
  · next other t hrepeated =>
    cases h
    obtain ⟨calls, hcalls, hjournal⟩ := calls_repeated hrepeated
    exact ⟨calls, t.isCancelled, hcalls, by rw [Session.journal_note, hjournal]⟩
  · cases h
  · cases h

/-- A first attempt that succeeds is the only one. -/
theorem all_of_once_ok {value : Json} {notTaken : Option String}
    (h : once env step p s = (.ok (value, notTaken), s')) :
    all env step p s =
      (some (.ok ⟨value, notTaken, 0⟩), s'.note p (.concluded step.id value notTaken)) := by
  rw [all, repeated, h]

/-- What follows an attempt that has failed is up to the policy. -/
theorem repeated_of_error {done : Nat} {fault : StepFault}
    (h : once env step p s = (.error fault, s')) :
    repeated env step p done s =
      match Policy.shouldRetry step (done + 1) fault with
      | none => (none, s')
      | some false => (some (.error ⟨fault, done⟩), s')
      | some true =>
        match pause env s' with
        | (true, t) => repeated env step p (done + 1) t
        | (false, t) => (some (.error ⟨.cancelled, done⟩), t) := by
  rw [repeated, h]
  simp only
  split
  · next hretry => rw [hretry]
  · next hretry => rw [hretry]
  · next hretry => rcases pause env s' with ⟨_ | _, t⟩ <;> simp only [hretry]

/-- A first attempt that fails is the only one if the policy asks for no other. -/
theorem all_of_once_error {fault : StepFault} (h : once env step p s = (.error fault, s'))
    (hlast : Policy.shouldRetry step 1 fault = some false) :
    all env step p s = (some (.error ⟨fault, 0⟩), s') := by
  rw [all, repeated_of_error h, hlast]

/-- Attempts that do not succeed note no conclusion. -/
theorem journal_all_of_not_ok {result : Option (Except Failure Success)}
    (h : all env step p s = (result, s')) (hresult : ∀ success, result ≠ some (.ok success)) :
    ∃ calls, Calls step p calls ∧ s'.journal = calls ++ s.journal := by
  unfold all at h
  split at h
  · cases h
    exact absurd rfl (hresult _)
  · next other t hrepeated =>
    cases h
    exact calls_repeated hrepeated
  · next t hrepeated =>
    cases h
    exact calls_repeated hrepeated

/-- All that happens in the attempts at a step happens while nothing else is brought about. -/
theorem journal_all {result : Option (Except Failure Success)} (h : all env step p s = (result, s'))
    (hm : m ∈ s'.journal) :
    m ∈ s.journal ∨ m.OfAttempt step p := by
  have hcalled : ∀ {calls : List Moment}, Calls step p calls → m ∈ calls → m.OfAttempt step p :=
    fun hcalls hin => ⟨(hcalls m hin).2, Or.inl (hcalls m hin).1⟩
  by_cases hok : ∃ success, result = some (.ok success)
  · obtain ⟨success, rfl⟩ := hok
    obtain ⟨calls, cancelled, hcalls, hjournal⟩ := journal_all_ok h
    rw [hjournal, List.mem_cons, List.mem_append] at hm
    rcases hm with rfl | hin | hold
    · exact Or.inr ⟨rfl, Or.inr ⟨_, _, rfl⟩⟩
    · exact Or.inr (hcalled hcalls hin)
    · exact Or.inl hold
  · obtain ⟨calls, hcalls, hjournal⟩ := journal_all_of_not_ok h (not_exists.mp hok)
    rw [hjournal, List.mem_append] at hm
    exact hm.symm.imp_right (hcalled hcalls)

/-- Nor does any other step begin at its turn meanwhile, unless that is what was noted first. -/
theorem journal_noted {event : Event} {result : Option (Except Failure Success)}
    (h : all env step p (s.note p event) = (result, s')) (hm : m ∈ s'.journal) :
    m ∈ s.journal ∨ m.progress = p ∧ ∀ id, m.event = .begun id → event = .begun id := by
  rcases journal_all h hm with hnote | hattempt
  · rw [Session.journal_note, List.mem_cons] at hnote
    rcases hnote with rfl | hold
    · exact Or.inr ⟨rfl, fun _ heq => heq⟩
    · exact Or.inl hold
  · refine Or.inr ⟨hattempt.progress, fun id heq => ?_⟩
    rcases hattempt.event with hcalled | ⟨output, notTaken, hconcluded⟩
    · cases hcalled.symm.trans heq
    · cases hconcluded.symm.trans heq

/-- What has been noted stays in the journal. -/
theorem suffix_all {result : Option (Except Failure Success)}
    (h : all env step p s = (result, s')) :
    s.journal <:+ s'.journal := by
  by_cases hok : ∃ success, result = some (.ok success)
  · obtain ⟨success, rfl⟩ := hok
    obtain ⟨calls, cancelled, -, hjournal⟩ := journal_all_ok h
    rw [hjournal]
    exact (List.suffix_append calls _).trans (List.suffix_cons _ _)
  · obtain ⟨calls, -, hjournal⟩ := journal_all_of_not_ok h (not_exists.mp hok)
    rw [hjournal]
    exact List.suffix_append calls _

end Attempt

/-- A moment in the turn of a step that is executed. -/
structure Moment.OfTurn (m : Moment) (step : Step) (p : Progress) : Prop where
  progress : m.progress = p
  unsettled : p.isSettled step.id = false
  taken : p.passesOver step = false
  begun : ∀ id, m.event = .begun id → id = step.id

namespace Run

variable {σ : Type} {env : Environment σ} {d : Definition} {step : Step} {r r' : Run σ} {m : Moment}

theorem journal_attempts {result : Option (Except Failure Success)} {session : Session σ}
    (h : r.attempts env step = (result, session)) (hm : m ∈ session.journal) :
    m ∈ r.session.journal ∨ m.progress = r.progress ∧ ∀ id, m.event = .begun id → id = step.id := by
  refine (Attempt.journal_noted h hm).imp_right fun ⟨hprogress, hbegun⟩ =>
    ⟨hprogress, fun id heq => ?_⟩
  exact (Event.begun.inj (hbegun id heq)).symm

theorem journal_standIn {target : String} {fallback : Step}
    {result : Option (Except Failure Success)} {session : Session σ}
    (h : r.standIn env step target fallback = (result, session)) (hm : m ∈ session.journal) :
    m ∈ r.session.journal ∨ m.progress = r.progress ∧ ∀ id, m.event ≠ .begun id := by
  refine (Attempt.journal_noted h hm).imp_right fun ⟨hprogress, hbegun⟩ =>
    ⟨hprogress, fun id heq => ?_⟩
  cases hbegun id heq

theorem Substituted.journal {target : String} {value : Option (Except StepFault Json)}
    (h : Substituted env d step target r value r') (hm : m ∈ r'.session.journal) :
    m ∈ r.session.journal ∨ m.progress = r.progress ∧ ∀ id, m.event ≠ .begun id := by
  cases h with
  | reused value hresult => exact Or.inl hm
  | missing hresult hstep => exact Or.inl hm
  | executed fallback success session hresult hstep hrun hfits => exact journal_standIn hrun hm
  | outgrown fallback success session overflow hresult hstep hrun hoverflow =>
    exact journal_standIn hrun hm
  | failed fallback failure session hresult hstep hrun => exact journal_standIn hrun hm
  | uncounted fallback session hresult hstep hrun => exact journal_standIn hrun hm

/-- While a step is carried out, nothing else begins at its own turn, and nothing is
brought about before it is over. -/
theorem CarriedOut.journal {stop : Option Stop} (h : CarriedOut env d step r r' stop)
    (hm : m ∈ r'.session.journal) :
    m ∈ r.session.journal ∨ m.progress = r.progress ∧ ∀ id, m.event = .begun id → id = step.id := by
  have hreplaced :
    ∀ {failure : Failure} {session : Session σ} {target : String}
      {value : Option (Except StepFault Json)}
      {r' : Run σ}, r.attempts env step = (some (.error failure), session) →
      Substituted env d step target ⟨r.progress, session⟩ value r' →
      m ∈ r'.session.journal → m ∈ r.session.journal ∨
        m.progress = r.progress ∧ ∀ id, m.event = .begun id → id = step.id := by
    intro failure session target value r' hrun hsubstituted hm
    rcases hsubstituted.journal hm with hold | ⟨hprogress, hevent⟩
    · exact journal_attempts hrun hold
    · exact Or.inr ⟨hprogress, fun id heq => absurd heq (hevent id)⟩
  cases h with
  | succeeded success session hrun hfits => exact journal_attempts hrun hm
  | outgrown success session overflow hrun hoverflow => exact journal_attempts hrun hm
  | interrupted failure session hrun hcancelled => exact journal_attempts hrun hm
  | aborted failure session hrun hlive hdecision => exact journal_attempts hrun hm
  | skipped failure session hrun hlive hdecision => exact journal_attempts hrun hm
  | replaced failure session target value r' hrun hlive hdecision hsubstituted hfits =>
    exact hreplaced hrun hsubstituted hm
  | overfilled failure session target value r' overflow hrun hlive hdecision hsubstituted
      hoverflow =>
    exact hreplaced hrun hsubstituted hm
  | unreplaced failure session target fault r' hrun hlive hdecision hsubstituted =>
    exact hreplaced hrun hsubstituted hm
  | uncounted session hrun => exact journal_attempts hrun hm
  | brokenOff failure session target r' hrun hlive hdecision hsubstituted =>
    exact hreplaced hrun hsubstituted hm

/-- A turn notes moments only if its step is executed, and in each of them nothing
has been brought about yet. -/
theorem Turned.journal {stop : Option Stop} (h : Turned env d step r r' stop)
    (hm : m ∈ r'.session.journal) : m ∈ r.session.journal ∨ m.OfTurn step r.progress := by
  cases h with
  | cancelled hcancelled => exact Or.inl hm
  | settled hlive hsettled => exact Or.inl hm
  | passed hlive hunsettled hpassed => exact Or.inl hm
  | carriedOut hlive hunsettled htaken r' stop hcarried =>
    rcases hcarried.journal hm with hold | ⟨hprogress, hbegun⟩
    · exact Or.inl hold
    · exact Or.inr ⟨hprogress, hunsettled, htaken, hbegun⟩

theorem journal_turn (h : m ∈ (r.turn env d step).1.session.journal) :
    m ∈ r.session.journal ∨ m.OfTurn step r.progress :=
  (turned env d step r).journal h

/-! ## Whole runs -/

/-- Turns do not stop a run if neither the first of them does nor those after it. -/
theorem turns_cons {rest : List Step} :
    r.turns env d (step :: rest) = (r', none) ↔
      ∃ r₁, r.turn env d step = (r₁, none) ∧ r₁.turns env d rest = (r', none) := by
  rw [turns]
  rcases r.turn env d step with ⟨r₁, _ | stop⟩ <;> simp

theorem turned_of_turns {rest : List Step} (h : r.turns env d (step :: rest) = (r', none)) :
    ∃ r₁, Turned env d step r r₁ none ∧ r₁.turns env d rest = (r', none) := by
  obtain ⟨r₁, hturn, hrest⟩ := turns_cons.mp h
  have hturned := turned env d step r
  rw [hturn] at hturned
  exact ⟨r₁, hturned, hrest⟩

/-- A run goes on after some turns unless one of them has stopped it. -/
theorem turns_append_eq {first second : List Step} :
    r.turns env d (first ++ second) =
      match r.turns env d first with
      | (r₁, none) => r₁.turns env d second
      | (r₁, some stop) => (r₁, some stop) := by
  induction first generalizing r with
  | nil => rfl
  | cons head tail ih =>
    rw [List.cons_append, turns, turns]
    rcases r.turn env d head with ⟨r₁, _ | stop⟩
    · exact ih
    · rfl

theorem turns_append {first second : List Step} :
    r.turns env d (first ++ second) = (r', none) ↔
      ∃ r₁, r.turns env d first = (r₁, none) ∧ r₁.turns env d second = (r', none) := by
  rw [turns_append_eq]
  rcases r.turns env d first with ⟨r₁, _ | stop⟩ <;> simp

/-- The moments of a run belong to turns that follow on turns that have not stopped the run. -/
theorem journal_turns {steps : List Step} (h : m ∈ (r.turns env d steps).1.session.journal) :
    m ∈ r.session.journal ∨ ∃ done step rest r', steps = done ++ step :: rest ∧
      r.turns env d done = (r', none) ∧ m.OfTurn step r'.progress := by
  induction steps generalizing r with
  | nil => exact Or.inl h
  | cons head tail ih =>
    rw [turns] at h
    rcases hturn : r.turn env d head with ⟨r₁, _ | stop⟩ <;> rw [hturn] at h
    · rcases ih h with hold | ⟨done, step, rest, r', rfl, hdone, hmoment⟩
      · rcases journal_turn (hturn ▸ hold : m ∈ (r.turn env d head).1.session.journal)
          with hold | hmoment
        · exact Or.inl hold
        · exact Or.inr ⟨[], head, tail, r, rfl, rfl, hmoment⟩
      · exact Or.inr ⟨head :: done, step, rest, r', rfl, turns_cons.mpr ⟨r₁, hturn, hdone⟩, hmoment⟩
    · rcases journal_turn (hturn ▸ h : m ∈ (r.turn env d head).1.session.journal)
        with hold | hmoment
      · exact Or.inl hold
      · exact Or.inr ⟨[], head, tail, r, rfl, rfl, hmoment⟩

/-- Turns are stopped by one that follows on turns that have not stopped the run. -/
theorem turns_stop {steps : List Step} {stop : Stop} (h : r.turns env d steps = (r', some stop)) :
    ∃ done step rest r₁, steps = done ++ step :: rest ∧ r.turns env d done = (r₁, none) ∧
      r₁.turn env d step = (r', some stop) := by
  induction steps generalizing r with
  | nil => cases h
  | cons head tail ih =>
    rw [turns] at h
    rcases hturn : r.turn env d head with ⟨r₁, _ | stop'⟩ <;> rw [hturn] at h
    · obtain ⟨done, step, rest, r₂, rfl, hdone, hstop⟩ := ih h
      exact ⟨head :: done, step, rest, r₂, rfl, turns_cons.mpr ⟨r₁, hturn, hdone⟩, hstop⟩
    · cases h
      exact ⟨[], head, tail, r, rfl, rfl, hturn⟩

/-- What every turn keeps that does not stop the run, turns keep that do not stop it. -/
theorem turns_preserve {P : Progress → Prop} {steps : List Step}
    (hturn : ∀ step ∈ steps, ∀ r r' : Run σ,
      Turned env d step r r' none → P r.progress → P r'.progress)
    (h : r.turns env d steps = (r', none)) (hr : P r.progress) : P r'.progress := by
  induction steps generalizing r with
  | nil =>
    cases h
    exact hr
  | cons head tail ih =>
    obtain ⟨r₁, hturned, htail⟩ := turned_of_turns h
    exact ih (fun step hstep => hturn step (List.mem_cons_of_mem head hstep)) htail
      (hturn head List.mem_cons_self r r₁ hturned hr)

/-- What every turn keeps, turns keep, whether or not one of them stops the run. -/
theorem turns_keep {P : Run σ → Prop} {steps : List Step}
    (hturn : ∀ step ∈ steps, ∀ (r r' : Run σ) (stop : Option Stop),
      Turned env d step r r' stop → P r → P r')
    (hr : P r) : P (r.turns env d steps).1 := by
  induction steps generalizing r with
  | nil => exact hr
  | cons head tail ih =>
    rw [turns]
    have hturned := turned env d head r
    rcases hhead : r.turn env d head with ⟨r₁, _ | stop⟩ <;> rw [hhead] at hturned
    · exact ih (fun step hstep => hturn step (List.mem_cons_of_mem head hstep))
        (hturn head List.mem_cons_self r r₁ none hturned hr)
    · exact hturn head List.mem_cons_self r r₁ (some stop) hturned hr

theorem turns_invariant {P : Progress → Prop} {steps : List Step}
    (hturn : ∀ step ∈ steps, ∀ (r r' : Run σ) (stop : Option Stop),
      Turned env d step r r' stop → P r.progress → P r'.progress)
    (hr : P r.progress) : P (r.turns env d steps).1.progress :=
  turns_keep (P := fun r => P r.progress) hturn hr

/-- What one turn hands on to the next is told by a property of the points between turns. Whatever
each turn ensures from there holds at the end of the run, also if a turn has stopped it. -/
theorem turns_course {P Q : Run σ → Prop} {order : List Step}
    (hturn : ∀ (done : List Step) (step : Step) (rest : List Step) (r₁ r₂ : Run σ)
      (stop : Option Stop), order = done ++ step :: rest → r.turns env d done = (r₁, none) →
        Turned env d step r₁ r₂ stop → P r₁ → Q r₂ ∧ (stop = none → P r₂))
    (hP : P r) (hQ : Q r) :
    Q (r.turns env d order).1 ∧ ((r.turns env d order).2 = none → P (r.turns env d order).1) := by
  -- The induction is on the turns to come; those that are over have not stopped the run.
  have hrest : ∀ (rest done : List Step) (r₁ : Run σ), order = done ++ rest →
      r.turns env d done = (r₁, none) → P r₁ → Q r₁ →
        Q (r₁.turns env d rest).1 ∧
          ((r₁.turns env d rest).2 = none → P (r₁.turns env d rest).1) := by
    intro rest
    induction rest with
    | nil => exact fun done r₁ _ _ hP hQ => ⟨hQ, fun _ => hP⟩
    | cons step rest ih =>
      intro done r₁ horder hdone hP hQ
      have hturned := turned env d step r₁
      rw [turns]
      rcases hstep : r₁.turn env d step with ⟨r₂, stop⟩
      rw [hstep] at hturned
      obtain ⟨hQ₂, hP₂⟩ := hturn done step rest r₁ r₂ stop horder hdone hturned hP
      cases stop with
      | some stop => exact ⟨hQ₂, nofun⟩
      | none =>
        have hdone₂ : r.turns env d (done ++ [step]) = (r₂, none) :=
          turns_append.mpr ⟨r₁, hdone, turns_cons.mpr ⟨r₂, hstep, rfl⟩⟩
        exact ih (done ++ [step]) r₂ (horder.trans (List.append_cons done step rest)) hdone₂
          (hP₂ rfl) hQ₂
  exact hrest order [] r rfl rfl hP hQ

/-! ## Turns and runs of which everything is known -/

theorem turn_eq_carryOut (hlive : (r.look env).session.isCancelled = false)
    (hunsettled : r.progress.isSettled step.id = false)
    (htaken : r.progress.passesOver step = false) :
    r.turn env d step = (r.look env).carryOut env d step := by
  unfold turn
  rw [← look]
  simp only [hlive, progress_look, hunsettled, htaken, Bool.false_eq_true, if_false]

theorem turn_eq_recorded {success : Success} {session : Session σ}
    (hlive : (r.look env).session.isCancelled = false)
    (hunsettled : r.progress.isSettled step.id = false)
    (htaken : r.progress.passesOver step = false)
    (hrun : (r.look env).attempts env step = (some (.ok success), session))
    (hfits : (r.progress.context.put step.id success.value).overflow? = none) :
    r.turn env d step =
      (⟨(r.progress.leave success.notTaken).record step.id success.value
        (.completed success.value success.retries none), session⟩, none) := by
  have hleft : ((r.progress.leave success.notTaken).context.put step.id
      success.value).overflow? = none := by
    rw [Progress.context_leave, hfits]
  rw [turn_eq_carryOut hlive hunsettled htaken, carryOut, ← attempts, hrun]
  simp only [progress_look, succeed, Progress.complete_of_fits _ hleft]

theorem turn_eq_outgrown {success : Success} {session : Session σ} {overflow : Overflow}
    (hlive : (r.look env).session.isCancelled = false)
    (hunsettled : r.progress.isSettled step.id = false)
    (htaken : r.progress.passesOver step = false)
    (hrun : (r.look env).attempts env step = (some (.ok success), session))
    (hoverflow : (r.progress.context.put step.id success.value).overflow? = some overflow) :
    r.turn env d step =
      (⟨(r.progress.leave success.notTaken).publish step.id success.value, session⟩,
        some (.overflow overflow)) := by
  have hleft : ((r.progress.leave success.notTaken).context.put step.id
      success.value).overflow? = some overflow := by
    rw [Progress.context_leave, hoverflow]
  rw [turn_eq_carryOut hlive hunsettled htaken, carryOut, ← attempts, hrun]
  simp only [progress_look, succeed, Progress.complete_of_overflow _ hleft]

theorem turns_of_stop {rest : List Step} {stop : Stop}
    (h : r.turn env d step = (r', some stop)) :
    r.turns env d (step :: rest) = (r', some stop) := by
  rw [turns, h]

/-- A definition with a plan is run along it. -/
theorem execute_eq {order : List Step} (h : Plan.sequence d.steps = .ok order) (env : Environment σ)
    (executionId : String) (inputs : Entries Json) (clock : Clock) (world : σ) :
    let (r, stop) := (Run.initial env d executionId inputs clock world).turns env d order
    execute env d executionId inputs clock world = .ok (r.outcome d stop, r.session) := by
  simp only [execute, h]
  rfl

theorem execute_of_turns {order : List Step} {executionId : String} {inputs : Entries Json}
    {clock : Clock} {world : σ} {stop : Option Stop} (hplan : Plan.sequence d.steps = .ok order)
    (h : (initial env d executionId inputs clock world).turns env d order = (r, stop)) :
    execute env d executionId inputs clock world = .ok (r.outcome d stop, r.session) := by
  have hexecute := execute_eq hplan env executionId inputs clock world
  rw [h] at hexecute
  exact hexecute

end Run

end Workflow
