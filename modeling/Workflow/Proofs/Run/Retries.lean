import Workflow.Proofs.Run.Attempts
import Workflow.Proofs.Run.Repetition

/-!
# What entries say of retries

The entry of a step says how often the step was retried. If only one sequence of attempts has called
its handler, that is the number of calls after the first. There is one exception: a sequence that a
cancellation cuts off right before an attempt counts that attempt too, though it calls nothing.
-/

namespace Workflow

/-- An attempt that follows on another may find the run cancelled: there is no pause before it in
which that would be noticed, or someone may cancel the run right after the pause. -/
def Environment.Abrupt {σ : Type} (env : Environment σ) : Prop :=
  env.retryDelay = 0 ∨ ∃ world, (env.interrupts world).1 = true

/-- Whoever looks finds a run cancelled if it was so or someone has cancelled it. -/
theorem Session.isCancelled_look {σ : Type} {env : Environment σ} {s : Session σ} :
    (s.look env).isCancelled = true ↔ s.isCancelled = true ∨ (env.interrupts s.world).1 = true := by
  unfold look isCancelled
  rcases env.interrupts s.world with ⟨_ | _, world⟩
  · simp
  · simp [Clock.cancel]

/-! ## Sequences of attempts in the journal -/

/-- Whether a step begins, at its turn or in place of another. -/
def Event.starts (id : String) : Event → Bool
  | begun step => step = id
  | replaced _ target => target = id
  | called _ | concluded _ _ _ => false

/-- How many sequences of attempts have called the handler of a step. The first call of each comes
right after the step has begun. -/
def timesTried : List Moment → String → Nat
  | m :: start :: past, id =>
    (if m.event.isCall id && start.event.starts id then 1 else 0) + timesTried (start :: past) id
  | _, _ => 0

section

variable {m start : Moment} {noted past : List Moment} {id : String}

theorem timesTried_cons (h : m.event.isCall id = false) :
    timesTried (m :: past) id = timesTried past id := by
  cases past with
  | nil => rfl
  | cons start past => rw [timesTried, h, Bool.false_and, if_neg Bool.false_ne_true, Nat.zero_add]

theorem timesTried_append_of_ne (h : ∀ m ∈ noted, m.event.subject ≠ id) :
    timesTried (noted ++ past) id = timesTried past id := by
  induction noted with
  | nil => rfl
  | cons m noted ih =>
    rw [List.forall_mem_cons] at h
    rw [List.cons_append, timesTried_cons, ih h.2]
    exact Bool.eq_false_iff.mpr fun hcall => h.1 (Event.subject_of_isCall hcall)

theorem Event.not_isCall_of_starts {event : Event} (h : event.starts id = true) :
    event.isCall id = false := by
  cases event with
  | called | concluded => cases h
  | begun | replaced => rfl

/-- Calls that follow on each other and on the beginning of a step belong to one sequence. -/
theorem timesTried_calls {step : Step} {p : Progress} {calls : List Moment}
    (hcalls : Attempt.Calls step p calls) (hstart : start.event.starts step.id = true) :
    timesTried (calls ++ start :: past) step.id =
      timesTried past step.id + if calls.length = 0 then 0 else 1 := by
  have hfirst : timesTried (start :: past) step.id = timesTried past step.id :=
    timesTried_cons (Event.not_isCall_of_starts hstart)
  induction calls with
  | nil => exact hfirst
  | cons m calls ih =>
    have hm : m.event.isCall step.id = true := by
      rw [(hcalls m List.mem_cons_self).1, Event.isCall, decide_eq_true rfl]
    cases calls with
    | nil =>
      change timesTried (m :: start :: past) step.id = _
      rw [timesTried, hm, hstart, Bool.true_and, if_pos rfl, hfirst, Nat.add_comm]
      rfl
    | cons other calls =>
      have hother : other.event.starts step.id = false := by
        rw [(hcalls other (List.mem_cons_of_mem m List.mem_cons_self)).1, Event.starts]
      change timesTried (m :: other :: (calls ++ start :: past)) step.id = _
      rw [timesTried, hother, Bool.and_false, if_neg Bool.false_ne_true, Nat.zero_add]
      exact ih fun n hn => hcalls n (List.mem_cons_of_mem m hn)

end

/-- What a sequence of attempts that calls the handler so many times adds to the journal. -/
structure Counted (id : String) (calls : Nat) (past journal : List Moment) : Prop where
  called : timesCalled journal id = timesCalled past id + calls
  tried : timesTried journal id = timesTried past id + if calls = 0 then 0 else 1

namespace Attempt

variable {σ : Type} {env : Environment σ} {step : Step} {p : Progress} {s s' : Session σ}
  {done calls : Nat} {result : Option (Except Failure Success)} {failure : Failure}

/-- What attempts report that call the handler so many times, after `done` attempts. All but the
first of these calls are retries, unless the attempts are cut off. -/
inductive Reports (env : Environment σ) (s : Session σ) (done calls : Nat) :
    Option (Except Failure Success) → Prop
  | succeeded (success : Success) (h : success.retries + 1 = done + calls) :
      Reports env s done calls (some (.ok success))
  | failed (failure : Failure) (h : failure.retries + 1 = done + calls) :
      Reports env s done calls (some (.error failure))
  | cutOff (h : env.Abrupt ∨ calls = 0 ∧ (s.look env).isCancelled = true) :
      Reports env s done calls (some (.error ⟨.cancelled, done + calls⟩))
  | uncounted (h : calls ≠ 0) : Reports env s done calls none

/-- An attempt that is the last one because it fails. -/
theorem reports_once {fault : StepFault} (h : once env step p s = (.error fault, s')) :
    ∃ calls, Calls step p calls ∧ s'.journal = calls ++ s.journal ∧
      Reports env s done calls.length (some (.error ⟨fault, done⟩)) := by
  rcases once_cases h with ⟨hcancelled, hresult, rfl⟩ | ⟨-, hjournal⟩
  · cases hresult
    exact ⟨[], Calls.nil, rfl, .cutOff (Or.inr ⟨rfl, hcancelled⟩)⟩
  · exact ⟨[_], Calls.single, hjournal, .failed _ rfl⟩

/-- Another attempt goes before others that follow on it. -/
theorem Reports.after {t : Session σ} (hpause : pause env s = (true, t))
    (h : Reports env t (done + 1) calls result) : Reports env s' done (calls + 1) result := by
  have hmade : done + 1 + calls = done + (calls + 1) := Nat.add_right_comm done 1 calls
  cases h with
  | succeeded success h => exact .succeeded success (h.trans hmade)
  | failed failure h => exact .failed failure (h.trans hmade)
  | cutOff h =>
    rw [hmade]
    refine .cutOff (Or.inl ?_)
    rcases h with habrupt | ⟨-, hlook⟩
    · exact habrupt
    · -- The run was not cancelled after the pause, if there was one.
      have hlive := pause_cases hpause
      rw [if_pos rfl] at hlive
      rcases Session.isCancelled_look.mp hlook with hcancelled | hinterrupted
      · rw [hcancelled] at hlive
        exact Or.inl (hlive.resolve_right Bool.noConfusion)
      · exact Or.inr ⟨_, hinterrupted⟩
  | uncounted h => exact .uncounted (Nat.succ_ne_zero calls)

theorem reports_repeated (h : repeated env step p done s = (result, s')) :
    ∃ calls, Calls step p calls ∧ s'.journal = calls ++ s.journal ∧
      Reports env s done calls.length result := by
  fun_induction repeated env step p done s with
  | case1 done s value notTaken t honce =>
    cases h
    rcases once_cases honce with ⟨-, hresult, -⟩ | ⟨-, hjournal⟩
    · cases hresult
    · exact ⟨[_], Calls.single, hjournal, .succeeded _ rfl⟩
  | case2 done s fault t honce hretry =>
    cases h
    rcases once_cases honce with ⟨-, hresult, -⟩ | ⟨-, hjournal⟩
    · cases hresult
      cases (Policy.shouldRetry_of_cancelled rfl).symm.trans hretry
    · exact ⟨[_], Calls.single, hjournal, .uncounted (Nat.succ_ne_zero 0)⟩
  | case3 done s fault t honce hretry =>
    cases h
    exact reports_once honce
  | case4 done s fault t honce hretry t' hpause ih =>
    rcases once_cases honce with ⟨-, hresult, -⟩ | ⟨-, hfirst⟩
    · cases hresult
      cases (Policy.shouldRetry_of_cancelled rfl).symm.trans hretry
    · obtain ⟨calls, hcalls, hjournal, hreports⟩ := ih h
      refine ⟨calls ++ [⟨.called step.id, p, false⟩], hcalls.append Calls.single, ?_, ?_⟩
      · rw [hjournal, journal_pause hpause, hfirst, List.append_cons]
      · rw [List.length_append]
        exact hreports.after hpause
  | case5 done s fault t honce hretry t' hpause =>
    cases h
    rcases once_cases honce with ⟨-, hresult, -⟩ | ⟨-, hfirst⟩
    · cases hresult
      cases (Policy.shouldRetry_of_cancelled rfl).symm.trans hretry
    · refine ⟨[_], Calls.single, ?_, .failed _ rfl⟩
      rw [journal_pause hpause, hfirst]
      rfl

/-- All the attempts at a step that begins. -/
theorem counted_all {start : Event} (hstart : start.starts step.id = true)
    (h : all env step p (s.note p start) = (result, s')) :
    ∃ calls, Counted step.id calls s.journal s'.journal ∧
      Reports env (s.note p start) 0 calls result := by
  unfold all at h
  rcases hrepeated : repeated env step p 0 (s.note p start) with ⟨outcome, t⟩
  obtain ⟨calls, hcalls, hjournal, hreports⟩ := reports_repeated hrepeated
  rw [Session.journal_note] at hjournal
  have hcounted : Counted step.id calls.length s.journal t.journal := by
    constructor
    · have hcall : ∀ m ∈ calls, m.event.isCall step.id = true := fun m hm => by
        rw [(hcalls m hm).1, Event.isCall, decide_eq_true rfl]
      rw [hjournal, timesCalled, List.countP_append, List.countP_eq_length.mpr hcall,
        List.countP_cons_of_neg (by simp [Event.not_isCall_of_starts hstart]), Nat.add_comm,
        timesCalled]
    · rw [hjournal]
      exact timesTried_calls hcalls hstart
  refine ⟨calls.length, ?_, ?_⟩
  · rw [hrepeated] at h
    rcases outcome with _ | failure | success
    · cases h
      exact hcounted
    · cases h
      exact hcounted
    · cases h
      constructor
      · rw [Session.journal_note, timesCalled, List.countP_cons_of_neg (by simp [Event.isCall])]
        exact hcounted.called
      · rw [Session.journal_note, timesTried_cons rfl]
        exact hcounted.tried
  · rw [hrepeated] at h
    rcases outcome with _ | failure | success <;> cases h <;> exact hreports

theorem Reports.of_ok {success : Success} (h : Reports env s 0 calls (some (.ok success))) :
    success.retries + 1 = calls := by
  cases h with
  | succeeded _ h => exact h.trans (Nat.zero_add calls)

theorem Reports.of_error (h : Reports env s 0 calls (some (.error failure))) :
    failure.retries + 1 = calls ∨ failure = ⟨.cancelled, calls⟩ ∧ (calls = 0 ∨ env.Abrupt) := by
  cases h with
  | failed _ h => exact Or.inl (h.trans (Nat.zero_add calls))
  | cutOff h =>
    rw [Nat.zero_add]
    exact Or.inr ⟨rfl, h.symm.imp_left And.left⟩

theorem Reports.of_none (h : Reports env s done calls none) : calls ≠ 0 := by
  cases h with
  | uncounted h => exact h

theorem Reports.of_live (h : Reports env s 0 calls (some (.error failure)))
    (hlive : failure.fault.isCancelled = false) : failure.retries + 1 = calls := by
  rcases h.of_error with hretries | ⟨rfl, -⟩
  · exact hretries
  · cases hlive

end Attempt

namespace Run

variable {σ : Type} {env : Environment σ} {d : Definition} {step : Step} {r r' r₁ r₂ : Run σ}
  {stop : Option Stop} {id : String} {calls : Nat} {past : List Moment}

theorem Spares.timesTried_eq (h : Spares id r r') :
    timesTried r'.session.journal id = timesTried r.session.journal id := by
  obtain ⟨noted, hjournal, hspared⟩ := h.noted
  rw [hjournal, timesTried_append_of_ne fun m hm => (hspared m hm).1]

theorem counted_of_spared (h : Counted id calls past r.session.journal) (hspares : Spares id r r') :
    Counted id calls past r'.session.journal := by
  constructor
  · rw [hspares.timesCalled_eq]
    exact h.called
  · rw [hspares.timesTried_eq]
    exact h.tried

theorem counted_attempts {result : Option (Except Failure Success)} {session : Session σ}
    (h : r.attempts env step = (result, session)) :
    ∃ calls, Counted step.id calls r.session.journal session.journal ∧
      Attempt.Reports env (r.session.note r.progress (.begun step.id)) 0 calls result :=
  Attempt.counted_all (decide_eq_true rfl) h

theorem counted_standIn {target : String} {fallback : Step}
    {result : Option (Except Failure Success)} {session : Session σ}
    (hstep : d.step? target = some fallback)
    (h : r.standIn env step target fallback = (result, session)) :
    ∃ calls, Counted target calls r.session.journal session.journal ∧
      Attempt.Reports env (r.session.note r.progress (.replaced step.id target))
        0 calls result := by
  obtain ⟨-, rfl⟩ := Definition.mem_of_step? hstep
  exact Attempt.counted_all (decide_eq_true rfl) h

/-! ## What is written after a sequence of attempts -/

/-- What becomes of the entry of a step after a sequence of attempts. -/
inductive Written (env : Environment σ) (id : String) (calls : Nat) (r r' : Run σ) :
    Option Stop → Prop
  /-- It says how many calls there were after the first. -/
  | counted (stop : Option Stop) (entry : StepResult)
      (hentry : r'.progress.entries.get? id = some entry) (hretries : entry.retries + 1 = calls) :
      Written env id calls r r' stop
  /-- It stays as it was: the result is too large, or the attempts cannot be counted. -/
  | unwritten (stop : Stop) (hcalls : calls ≠ 0)
      (hentry : r'.progress.entries.get? id = r.progress.entries.get? id) :
      Written env id calls r r' (some stop)
  /-- It counts the attempt that found the run cancelled. -/
  | cutOff (hentry : r'.progress.entries.get? id = some (.failed StepFault.cancelled.message calls))
      (habrupt : calls = 0 ∨ env.Abrupt) : Written env id calls r r' (some .cancelled)

/-- A step is tried between two points of a run, with so many calls, and its entry is written. -/
structure TriedWith (env : Environment σ) (id : String) (calls : Nat) (r r' : Run σ)
    (stop : Option Stop) : Prop where
  counted : Counted id calls r.session.journal r'.session.journal
  written : Written env id calls r r' stop

/-- What spares a step before and after it is tried belongs to that. -/
theorem TriedWith.between (hbefore : Spares id r r₁) (h : TriedWith env id calls r₁ r₂ stop)
    (hafter : Spares id r₂ r') : TriedWith env id calls r r' stop := by
  constructor
  · have hcounted := counted_of_spared h.counted hafter
    constructor
    · rw [hcounted.called, hbefore.timesCalled_eq]
    · rw [hcounted.tried, hbefore.timesTried_eq]
  · cases h.written with
    | counted stop entry hentry hretries =>
      exact .counted stop entry (hafter.entry.trans hentry) hretries
    | unwritten stop hcalls hentry =>
      exact .unwritten stop hcalls ((hafter.entry.trans hentry).trans hbefore.entry)
    | cutOff hentry habrupt => exact .cutOff (hafter.entry.trans hentry) habrupt

/-- The turn of a step tries it. -/
theorem CarriedOut.triedWith (h : CarriedOut env d step r r' stop) :
    ∃ calls, TriedWith env step.id calls r r' stop := by
  have hspares : ∀ {session : Session σ} {target : String} {value : Option (Except StepFault Json)}
      {r₁ : Run σ}, Policy.decision step = .fallback target →
        Substituted env d step target ⟨r.progress, session⟩ value r₁ →
          Spares step.id ⟨r.progress, session⟩ r₁ :=
    fun hdecision hvalue => hvalue.spares (Policy.target_ne hdecision).symm
  cases h with
  | succeeded success session hrun hfits =>
    obtain ⟨calls, hcounted, hreports⟩ := counted_attempts hrun
    exact ⟨calls, hcounted, .counted _ _ (Entries.get?_insert_self _ _ _) hreports.of_ok⟩
  | outgrown success session overflow hrun hoverflow =>
    obtain ⟨calls, hcounted, hreports⟩ := counted_attempts hrun
    have hretries := hreports.of_ok
    refine ⟨calls, hcounted, .unwritten _ (by omega) ?_⟩
    exact congrArg (Entries.get? · step.id) (Progress.entries_leave _ _)
  | interrupted failure session hrun hcancelled =>
    obtain ⟨calls, hcounted, hreports⟩ := counted_attempts hrun
    refine ⟨calls, hcounted, ?_⟩
    rcases hreports.of_error with hretries | ⟨rfl, habrupt⟩
    · exact .counted _ _ (Entries.get?_insert_self _ _ _) hretries
    · exact .cutOff (Entries.get?_insert_self _ _ _) habrupt
  | aborted failure session hrun hlive hdecision =>
    obtain ⟨calls, hcounted, hreports⟩ := counted_attempts hrun
    exact ⟨calls, hcounted, .counted _ _ (Entries.get?_insert_self _ _ _) (hreports.of_live hlive)⟩
  | skipped failure session hrun hlive hdecision =>
    obtain ⟨calls, hcounted, hreports⟩ := counted_attempts hrun
    exact ⟨calls, hcounted, .counted _ _ (Entries.get?_insert_self _ _ _) (hreports.of_live hlive)⟩
  | replaced failure session target value r₁ hrun hlive hdecision hvalue hfits =>
    obtain ⟨calls, hcounted, hreports⟩ := counted_attempts hrun
    have hcounted₁ := counted_of_spared hcounted (hspares hdecision hvalue)
    exact ⟨calls, hcounted₁, .counted _ _ (Entries.get?_insert_self _ _ _)
      (hreports.of_live hlive)⟩
  | overfilled failure session target value r₁ overflow hrun hlive hdecision hvalue hoverflow =>
    obtain ⟨calls, hcounted, hreports⟩ := counted_attempts hrun
    have hcounted₁ := counted_of_spared hcounted (hspares hdecision hvalue)
    exact ⟨calls, hcounted₁, .counted _ _ (Entries.get?_insert_self _ _ _)
      (hreports.of_live hlive)⟩
  | unreplaced failure session target fault r₁ hrun hlive hdecision hvalue =>
    obtain ⟨calls, hcounted, hreports⟩ := counted_attempts hrun
    have hcounted₁ := counted_of_spared hcounted (hspares hdecision hvalue)
    exact ⟨calls, hcounted₁, .counted _ _ (Entries.get?_insert_self _ _ _)
      (hreports.of_live hlive)⟩
  | uncounted session hrun =>
    obtain ⟨calls, hcounted, hreports⟩ := counted_attempts hrun
    exact ⟨calls, hcounted, .unwritten _ hreports.of_none rfl⟩
  | brokenOff failure session target r₁ hrun hlive hdecision hvalue =>
    obtain ⟨calls, hcounted, hreports⟩ := counted_attempts hrun
    have hcounted₁ := counted_of_spared hcounted (hspares hdecision hvalue)
    have hretries := hreports.of_live hlive
    exact ⟨calls, hcounted₁, .unwritten _ (by omega) (hspares hdecision hvalue).entry⟩

/-- A fallback that has no result is tried. It can be cut off only if it has no value then. -/
theorem Substituted.triedWith {target : String} {value : Option (Except StepFault Json)}
    (h : Substituted env d step target r value r') (failure : Failure) (stop : Option Stop)
    (hstop : (∃ v, value = some (.ok v)) ∨
      (∃ fault, value = some (.error fault) ∧
        stop = some (.ofFallback step failure target fault)) ∨
      value = none ∧ stop = some (.uncounted target)) :
    Spares target r r' ∨ ∃ calls, TriedWith env target calls r r' stop := by
  cases h with
  | reused value hresult => exact Or.inl (.refl target r)
  | missing hresult hstep => exact Or.inl (.refl target r)
  | executed fallback success session hresult hstep hrun hfits =>
    obtain ⟨calls, hcounted, hreports⟩ := counted_standIn hstep hrun
    obtain ⟨-, rfl⟩ := Definition.mem_of_step? hstep
    exact Or.inr ⟨calls, hcounted, .counted _ _ (Entries.get?_insert_self _ _ _) hreports.of_ok⟩
  | outgrown fallback success session overflow hresult hstep hrun hoverflow =>
    obtain ⟨calls, hcounted, hreports⟩ := counted_standIn hstep hrun
    have hretries := hreports.of_ok
    rcases hstop with ⟨v, hv⟩ | ⟨fault, -, rfl⟩ | ⟨hv, -⟩
    · cases hv
    · exact Or.inr ⟨calls, hcounted, .unwritten _ (by omega) rfl⟩
    · cases hv
  | failed fallback other session hresult hstep hrun =>
    obtain ⟨calls, hcounted, hreports⟩ := counted_standIn hstep hrun
    obtain ⟨-, rfl⟩ := Definition.mem_of_step? hstep
    refine Or.inr ⟨calls, hcounted, ?_⟩
    rcases hstop with ⟨v, hv⟩ | ⟨fault, hfault, rfl⟩ | ⟨hv, -⟩
    · cases hv
    · cases hfault
      rcases hreports.of_error with hretries | ⟨rfl, habrupt⟩
      · exact .counted _ _ (Entries.get?_insert_self _ _ _) hretries
      · exact .cutOff (Entries.get?_insert_self _ _ _) habrupt
    · cases hv
  | uncounted fallback session hresult hstep hrun =>
    obtain ⟨calls, hcounted, hreports⟩ := counted_standIn hstep hrun
    rcases hstop with ⟨v, hv⟩ | ⟨fault, hfault, -⟩ | ⟨-, rfl⟩
    · cases hv
    · cases hfault
    · exact Or.inr ⟨calls, hcounted, .unwritten _ hreports.of_none rfl⟩

/-- The turn of another step spares a step, or tries it. -/
theorem CarriedOut.triedWith_other (h : CarriedOut env d step r r' stop) (hne : id ≠ step.id) :
    Spares id r r' ∨ ∃ calls, TriedWith env id calls r r' stop := by
  rcases h.spares_or_substitutes hne with hspares | ⟨failure, session, value, r₁, hsubstitutes⟩
  · exact Or.inl hspares
  · obtain ⟨hbefore, hvalue, hafter, -, hends⟩ := hsubstitutes
    rcases hvalue.triedWith failure stop hends with hspares | ⟨calls, htried⟩
    · exact Or.inl ((hbefore.trans hspares).trans hafter)
    · exact Or.inr ⟨calls, .between hbefore htried hafter⟩

/-! ## Entries that count right -/

/-- The entry of a step for which there was one sequence of attempts says how many calls
there were after the first. -/
def Truthful (id : String) (r : Run σ) : Prop :=
  ∀ entry, r.progress.entries.get? id = some entry → entry.status ≠ .skipped →
    timesTried r.session.journal id = 1 → entry.retries + 1 = timesCalled r.session.journal id

/-- The entry of a step counts an attempt that found the run cancelled and called nothing. -/
structure CutOff (env : Environment σ) (id : String) (r : Run σ) (stop : Option Stop) : Prop where
  entry : r.progress.entries.get? id =
    some (.failed StepFault.cancelled.message (timesCalled r.session.journal id))
  stopped : stop = some .cancelled
  abrupt : env.Abrupt

/-- How often a step has been tried at a point between turns, and what its entry says of it. -/
structure Told (id : String) (r : Run σ) : Prop where
  untried : ¬ Completed r.progress.entries id → ¬ Failed r.progress.entries id →
    timesCalled r.session.journal id = 0 ∧ timesTried r.session.journal id = 0
  failed : Failed r.progress.entries id →
    timesCalled r.session.journal id = 1 ∧ timesTried r.session.journal id = 1
  truthful : Truthful id r

theorem Told.of_completed (hcompleted : Completed r.progress.entries id) (h : Truthful id r) :
    Told id r :=
  ⟨fun hnot => absurd hcompleted hnot, fun hfailed => absurd hfailed hcompleted.not_failed, h⟩

theorem Told.of_skipped (hskipped : Skipped r.progress.entries id)
    (hcalled : timesCalled r.session.journal id = 0)
    (htried : timesTried r.session.journal id = 0) : Told id r := by
  obtain ⟨other, hother, hstatus⟩ := hskipped
  refine ⟨fun _ _ => ⟨hcalled, htried⟩, ?_, fun entry hentry hne => ?_⟩
  · rintro ⟨entry, hentry, hfailed⟩
    obtain rfl := Option.some.inj (hother.symm.trans hentry)
    rw [hstatus] at hfailed
    cases hfailed
  · obtain rfl := Option.some.inj (hother.symm.trans hentry)
    exact absurd hstatus hne

theorem Told.spared (h : Told id r) (hspares : Spares id r r') : Told id r' := by
  constructor
  · rw [Completed, Failed, hspares.entry, hspares.timesCalled_eq, hspares.timesTried_eq]
    exact h.untried
  · rw [Failed, hspares.entry, hspares.timesCalled_eq, hspares.timesTried_eq]
    exact h.failed
  · rw [Truthful, hspares.entry, hspares.timesCalled_eq, hspares.timesTried_eq]
    exact h.truthful

/-- A step is tried only if it has not completed. If it has failed before, this is its second
sequence of attempts, unless it calls nothing. -/
theorem TriedWith.truthful (h : TriedWith env id calls r r' stop) (hr : Told id r)
    (hnot : ¬ Completed r.progress.entries id) : Truthful id r' ∨ CutOff env id r' stop := by
  have hcalled := h.counted.called
  have htried := h.counted.tried
  by_cases hfailed : Failed r.progress.entries id
  · obtain ⟨hbefore, honce⟩ := hr.failed hfailed
    refine Or.inl fun entry hentry hstatus hsingle => ?_
    have hquiet : calls = 0 := by
      by_contra hcalls
      rw [if_neg hcalls] at htried
      omega
    subst hquiet
    cases h.written with
    | counted stop other hother hretries => omega
    | unwritten stop hcalls hkept => exact absurd rfl hcalls
    | cutOff hother habrupt =>
      obtain rfl := Option.some.inj (hother.symm.trans hentry)
      rw [hcalled, hbefore]
      rfl
  · obtain ⟨hbefore, hnever⟩ := hr.untried hnot hfailed
    rw [hbefore, Nat.zero_add] at hcalled
    rw [hnever, Nat.zero_add] at htried
    cases h.written with
    | counted stop other hother hretries =>
      refine Or.inl fun entry hentry _ _ => ?_
      obtain rfl := Option.some.inj (hother.symm.trans hentry)
      exact hretries.trans hcalled.symm
    | unwritten stop hcalls hkept =>
      refine Or.inl fun entry hentry hstatus _ => ?_
      rw [hkept] at hentry
      cases entry with
      | completed data retries fallback => exact absurd ⟨_, hentry, rfl⟩ hnot
      | failed error retries => exact absurd ⟨_, hentry, rfl⟩ hfailed
      | skipped reason => exact absurd rfl hstatus
    | cutOff hother habrupt =>
      rcases habrupt with rfl | habrupt
      · refine Or.inl fun entry hentry hstatus hsingle => ?_
        cases htried.symm.trans hsingle
      · exact Or.inr ⟨by rw [hcalled]; exact hother, rfl, habrupt⟩

/-- The step whose turn it is and that is executed. -/
theorem CarriedOut.told (h : CarriedOut env d step r r' stop)
    (hunsettled : r.progress.isSettled step.id = false) (hr : Told step.id r) :
    (Truthful step.id r' ∨ CutOff env step.id r' stop) ∧ (stop = none → Told step.id r') := by
  have hnot := Progress.not_completed_of_unsettled hunsettled
  obtain ⟨calls, htried⟩ := h.triedWith
  have hresult := htried.truthful hr hnot
  refine ⟨hresult, ?_⟩
  rintro rfl
  have htruthful := hresult.resolve_right fun hcut => nomatch hcut.stopped
  rcases h.settles with hcompleted | ⟨hfailed, hskip, -⟩
  · exact .of_completed hcompleted htruthful
  · -- It is not retried, so it has been called once.
    obtain ⟨hbefore, hnever⟩ := hr.untried hnot (Progress.not_failed_of_unsettled hunsettled)
    have hbound := h.tried.called
    have hcalled := htried.counted.called
    have hsequences := htried.counted.tried
    rw [Policy.retries_of_skip hskip, hbefore, hcalled, hbefore] at hbound
    cases htried.written with
    | counted _ entry hentry hretries =>
      rw [if_neg (by omega), hnever] at hsequences
      exact ⟨fun _ hnotFailed => absurd hfailed hnotFailed, fun _ => ⟨by omega, hsequences⟩,
        htruthful⟩

/-- Every other step. -/
theorem CarriedOut.told_other (h : CarriedOut env d step r r' stop) (hne : id ≠ step.id)
    (hshows : r.progress.ShowsCompleted) (hr : Told id r) :
    (Truthful id r' ∨ CutOff env id r' stop) ∧ (stop = none → Told id r') := by
  have hspared : Spares id r r' →
      (Truthful id r' ∨ CutOff env id r' stop) ∧ (stop = none → Told id r') :=
    fun hspares => ⟨Or.inl (hr.spared hspares).truthful, fun _ => hr.spared hspares⟩
  rcases h.bystander hne with hspares | ⟨hstands, hcompleted⟩
  · exact hspared hspares
  · rcases h.triedWith_other hne with hspares | ⟨calls, htried⟩
    · exact hspared hspares
    · have hresult := htried.truthful hr (hshows.not_completed hstands.hidden)
      refine ⟨hresult, ?_⟩
      rintro rfl
      exact .of_completed (hcompleted rfl) (hresult.resolve_right fun hcut => nomatch hcut.stopped)

theorem Turned.told (h : Turned env d step r r' stop) (hshows : r.progress.ShowsCompleted)
    (hr : Told id r) :
    (Truthful id r' ∨ CutOff env id r' stop) ∧ (stop = none → Told id r') := by
  have hlook : Told id (r.look env) := hr.spared (spares_look env)
  cases h with
  | cancelled hcancelled => exact ⟨Or.inl hlook.truthful, nofun⟩
  | settled hlive hsettled => exact ⟨Or.inl hlook.truthful, fun _ => hlook⟩
  | passed hlive hunsettled hpassed =>
    by_cases hid : id = step.id
    · subst hid
      obtain ⟨hcalled, htried⟩ := hr.untried (Progress.not_completed_of_unsettled hunsettled)
        (Progress.not_failed_of_unsettled hunsettled)
      have htold : Told step.id ⟨r.progress.passOver step.id, (r.look env).session⟩ :=
        .of_skipped (Progress.skipped_passOver _ _) hcalled htried
      exact ⟨Or.inl htold.truthful, fun _ => htold⟩
    · have hother := hlook.spared (spares_passOver hid)
      exact ⟨Or.inl hother.truthful, fun _ => hother⟩
  | carriedOut hlive hunsettled htaken r' stop hcarried =>
    by_cases hid : id = step.id
    · subst hid
      exact hcarried.told hunsettled hlook
    · exact hcarried.told_other hid hshows hlook

/-- So it is after several turns, whether or not the last of them has stopped the run. -/
theorem told_turns (env : Environment σ) (d : Definition) (steps : List Step)
    (hshows : r.progress.ShowsCompleted) (hr : Told id r) :
    Truthful id (r.turns env d steps).1 ∨
      CutOff env id (r.turns env d steps).1 (r.turns env d steps).2 := by
  induction steps generalizing r with
  | nil => exact Or.inl hr.truthful
  | cons step rest ih =>
    have hturned := turned env d step r
    rw [turns]
    rcases hturn : r.turn env d step with ⟨r₁, _ | stop⟩ <;> rw [hturn] at hturned
    · exact ih (hturned.showsCompleted hshows) ((hturned.told hshows hr).2 rfl)
    · exact (hturned.told hshows hr).1

end Run

variable {σ : Type}

/-- What a result says of retries is true but for one exception. In every run of a definition with a
plan, if one sequence of attempts has called the handler of a step and the step has completed or
failed, its entry says how many calls there were after the first. The exception is a run that is
cancelled between two attempts: the second one calls nothing, but it is counted. It takes an
environment without pauses, or one in which someone cancels runs just then. -/
theorem retries_counted (env : Environment σ) (d : Definition) (executionId : String)
    (inputs : Entries Json) (clock : Clock) (world : σ) {order : List Step}
    (h : Plan.sequence d.steps = .ok order) :
    ∃ outcome session, execute env d executionId inputs clock world = .ok (outcome, session) ∧
      (d.Countable → ∃ result, outcome = some result) ∧
      ∀ result, outcome = some result →
        ∀ id entry, result.steps.get? id = some entry → entry.status ≠ .skipped →
          timesTried session.journal id = 1 →
            entry.retries + 1 = timesCalled session.journal id ∨
              entry = .failed StepFault.cancelled.message (timesCalled session.journal id) ∧
                result.status = .cancelled ∧ env.Abrupt := by
  refine ⟨_, _, Run.execute_eq h env executionId inputs clock world,
    fun hcountable => Run.exists_outcome h hcountable env executionId inputs clock world, ?_⟩
  intro result hresult id entry hentry hstatus hsingle
  obtain rfl := Run.eq_result_of_outcome hresult
  have hshows : (Run.initial env d executionId inputs clock world).progress.ShowsCompleted :=
    Progress.showsCompleted_initial _
  have htold : Run.Told id (Run.initial env d executionId inputs clock world) := by
    refine ⟨fun _ _ => ⟨rfl, rfl⟩, ?_, nofun⟩
    rintro ⟨other, hother, -⟩
    cases hother
  rcases Run.told_turns env d order hshows htold with htruthful | hcut
  · exact Or.inl (htruthful entry hentry hstatus hsingle)
  · refine Or.inr ⟨Option.some.inj (hentry.symm.trans hcut.entry), ?_, hcut.abrupt⟩
    rw [Run.result, hcut.stopped]
    rfl

theorem retries_counted_in_persist :
    ∃ d, (Validation.analyze (outline "persist" persistSteps)).2 = some d ∧
      ∃ order, Plan.sequence d.steps = .ok order ∧ ∃ result session,
        execute hesitant d "exec" [] (.initial false none) 0 = .ok (some result, session) ∧
          ∀ id entry, result.steps.get? id = some entry → entry.status ≠ .skipped →
            timesTried session.journal id = 1 →
              entry.retries + 1 = timesCalled session.journal id ∨
                entry = .failed StepFault.cancelled.message (timesCalled session.journal id) ∧
                  result.status = .cancelled ∧ hesitant.Abrupt := by
  obtain ⟨d, -, haccepted⟩ := accepted_persist
  obtain ⟨order, horder⟩ := (Definition.sound_of_accepted haccepted).exists_sequence
  have hrun := Run.execute_of_accepted haccepted horder hesitant "exec" [] (.initial false none) 0
  obtain ⟨outcome, session, hrun', -, hcounted⟩ :=
    retries_counted hesitant d "exec" [] (.initial false none) 0 horder
  cases hrun'.symm.trans hrun
  exact ⟨d, haccepted, order, horder, _, _, hrun, hcounted _ rfl⟩

/-! ## A retry that was none -/

/-- A retry may be counted that was none: the handler of `ask` is called once, the run is cancelled
as it fails, and the next attempt finds that at once, for there is no pause. -/
theorem retry_miscounted_in_persist :
    ∃ d, (Validation.analyze (outline "persist" persistSteps)).2 = some d ∧
      ∃ result session,
        execute leaving d "exec" [] (.initial false none) 0 = .ok (some result, session) ∧
          ∃ entry, result.steps.get? "ask" = some entry ∧ entry.status = .failed ∧
            entry.retries = 1 ∧ timesTried session.journal "ask" = 1 ∧
              timesCalled session.journal "ask" = 1 := by
  obtain ⟨d, hdecoder, haccepted⟩ := accepted_persist
  have hcourse : (Definition.decoder (outline "persist" persistSteps)).toOption.bind (fun d =>
      (Run.ended? (execute leaving d "exec" [] (.initial false none) 0)).map fun pair =>
        ((pair.1.steps.get? "ask").map fun entry => (entry.status, entry.retries),
          timesTried pair.2.journal "ask", timesCalled pair.2.journal "ask")) =
      some (some (.failed, 1), 1, 1) := by decide +kernel
  obtain ⟨result, session, hrun, hcourse⟩ := exists_run_of_decoder hdecoder hcourse
  obtain ⟨hentry, htried, hcalled⟩ := by simpa only [Prod.mk.injEq] using hcourse
  obtain ⟨entry, hentry, hwritten⟩ := Option.map_eq_some_iff.mp hentry
  obtain ⟨hstatus, hretries⟩ := Prod.mk.inj hwritten
  exact ⟨d, haccepted, result, session, hrun, entry, hentry, hstatus, hretries, htried, hcalled⟩

end Workflow
