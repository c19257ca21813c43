import Workflow.Proofs.Run.Sharing

/-!
# Cancelled runs

A run that is cancelled stays so, and no handler is called any more. The turn under way ends by
itself; the next one finds the run cancelled and stops it, and what was settled by then is kept. One
thing may still change: if a step fails as the run is cancelled, and it falls back on a step that
has failed or was passed over before, the fallback is tried, and its entry is written anew.
-/

namespace Workflow

theorem timesCalled_mono {past journal : List Moment} {id : String} (h : past <:+ journal) :
    timesCalled past id ≤ timesCalled journal id := h.sublist.countP_le

theorem Stop.eq_cancelled {stop : Stop} (h : stop.status = .cancelled) : stop = .cancelled := by
  cases stop with
  | cancelled => rfl
  | failed | fallbackFailed | overflow | uncounted => cases h

namespace Session

variable {σ : Type} {env : Environment σ} {s s₁ s' : Session σ} {p : Progress}

/-- What the moments of a session say about its cancellation. -/
structure Heeds (s : Session σ) : Prop where
  /-- Whenever the handler of a step is called, the run is not cancelled. -/
  called : ∀ m ∈ s.journal, ∀ id, m.event = .called id → m.cancelled = false
  /-- Once the run is cancelled, it is so at every later moment. -/
  ordered : s.journal.Pairwise fun later earlier => earlier.cancelled = true →
    later.cancelled = true
  latest : ∀ m ∈ s.journal, m.cancelled = true → s.isCancelled = true

/-- What holds of the session of a run at a later time. -/
structure Follows (s s' : Session σ) : Prop where
  /-- What has been noted since then calls no handler if the run was cancelled already. -/
  noted : ∃ noted, s'.journal = noted ++ s.journal ∧
    (s.isCancelled = true → ∀ m ∈ noted, ∀ id, m.event ≠ .called id)
  cancelled : s.isCancelled = true → s'.isCancelled = true
  heeds : s.Heeds → s'.Heeds

theorem heeds_initial (clock : Clock) (world : σ) : (initial clock world).Heeds :=
  ⟨fun _ hm => absurd hm List.not_mem_nil, List.Pairwise.nil,
    fun _ hm => absurd hm List.not_mem_nil⟩

theorem Follows.of_journal_eq (hjournal : s'.journal = s.journal)
    (hcancelled : s.isCancelled = true → s'.isCancelled = true) : Follows s s' := by
  refine ⟨⟨[], hjournal, fun _ m hm => absurd hm List.not_mem_nil⟩, hcancelled, fun h => ?_⟩
  constructor
  · rw [hjournal]
    exact h.called
  · rw [hjournal]
    exact h.ordered
  · rw [hjournal]
    exact fun m hm hmoment => hcancelled (h.latest m hm hmoment)

theorem Follows.refl (s : Session σ) : Follows s s := .of_journal_eq rfl id

theorem Follows.trans (h : Follows s s₁) (h' : Follows s₁ s') : Follows s s' := by
  obtain ⟨before, hbefore, hquiet⟩ := h.noted
  obtain ⟨after, hafter, hquiet'⟩ := h'.noted
  refine ⟨⟨after ++ before, ?_, ?_⟩, fun hs => h'.cancelled (h.cancelled hs),
    fun hs => h'.heeds (h.heeds hs)⟩
  · rw [hafter, hbefore, List.append_assoc]
  · intro hs
    rw [List.forall_mem_append]
    exact ⟨hquiet' (h.cancelled hs), hquiet hs⟩

/-- Once a run is cancelled, no handler is called any more. -/
theorem Follows.timesCalled_eq (h : Follows s s') (hs : s.isCancelled = true) (id : String) :
    timesCalled s'.journal id = timesCalled s.journal id := by
  obtain ⟨noted, hjournal, hquiet⟩ := h.noted
  rw [hjournal, timesCalled, List.countP_append, List.countP_eq_zero.mpr, Nat.zero_add, timesCalled]
  intro m hm hcall
  cases hevent : m.event with
  | called other => exact hquiet hs m hm other hevent
  | begun | replaced | concluded =>
    rw [hevent] at hcall
    cases hcall

/-! ## What a session does -/

/-- Any event may be noted but the call of a handler in a cancelled run. -/
theorem follows_note {event : Event} (p : Progress)
    (h : ∀ id, event = .called id → s.isCancelled = false) : Follows s (s.note p event) := by
  refine ⟨⟨[⟨event, p, s.isCancelled⟩], rfl, ?_⟩, id, fun hs => ?_⟩
  · intro hcancelled m hm id hevent
    obtain rfl := List.mem_singleton.mp hm
    rw [h id hevent] at hcancelled
    cases hcancelled
  · constructor
    · rw [journal_note, List.forall_mem_cons]
      exact ⟨fun id hevent => h id hevent, hs.called⟩
    · rw [journal_note, List.pairwise_cons]
      exact ⟨hs.latest, hs.ordered⟩
    · rw [journal_note, List.forall_mem_cons]
      exact ⟨fun hcancelled => hcancelled, hs.latest⟩

theorem follows_look (env : Environment σ) (s : Session σ) : Follows s (s.look env) := by
  refine .of_journal_eq rfl fun hs => ?_
  rw [isCancelled] at hs
  unfold look
  rcases env.interrupts s.world with ⟨_ | _, world⟩
  · exact hs
  · rfl

theorem follows_ask (request : Request) (limit : Option Nat) :
    Follows s (s.ask env request limit).2 := by
  refine .of_journal_eq (journal_ask env request limit s) fun hs => ?_
  have hwait := Clock.cancelled_wait s.clock (env.collaborators.answer request s.world).1.delay
    limit hs
  unfold ask
  dsimp only
  split
  · exact hwait
  · exact hwait
  · split
    · rfl
    · exact hwait

theorem follows_perform (step : Step) (c : Context) (limit : Option Nat) :
    Follows s (s.perform env step c limit).2 := by
  unfold perform
  split
  · exact .refl s
  · exact follows_ask _ _

end Session

namespace Attempt

open Session

variable {σ : Type} {env : Environment σ} {step : Step} {p : Progress} {s s' : Session σ}

theorem follows_once {result : Except StepFault (Json × Option String)}
    (h : once env step p s = (result, s')) : Follows s s' := by
  have hlook := follows_look env s
  unfold once at h
  simp only at h
  split at h
  · cases h
    exact hlook
  · next hlive =>
    cases h
    have hcall : Follows (s.look env) ((s.look env).note p (.called step.id)) :=
      follows_note p fun _ _ => Bool.eq_false_iff.mpr hlive
    exact (hlook.trans hcall).trans (follows_perform _ _ _)

theorem follows_pause {go : Bool} (h : pause env s = (go, s')) : Follows s s' := by
  have hlook := follows_look env s
  unfold pause at h
  simp only at h
  split at h
  · cases h
    exact .refl s
  · split at h
    · cases h
      exact hlook
    · cases h
      exact hlook.trans (.of_journal_eq rfl fun hs => Clock.cancelled_wait _ _ _ hs)

theorem follows_repeated {done : Nat} {result : Option (Except Failure Success)}
    (h : repeated env step p done s = (result, s')) : Follows s s' := by
  fun_induction repeated env step p done s with
  | case1 done s value notTaken t honce =>
    cases h
    exact follows_once honce
  | case2 done s fault t honce hretry =>
    cases h
    exact follows_once honce
  | case3 done s fault t honce hretry =>
    cases h
    exact follows_once honce
  | case4 done s fault t honce hretry t' hpause ih =>
    exact ((follows_once honce).trans (follows_pause hpause)).trans (ih h)
  | case5 done s fault t honce hretry t' hpause =>
    cases h
    exact (follows_once honce).trans (follows_pause hpause)

theorem follows_all {result : Option (Except Failure Success)}
    (h : all env step p s = (result, s')) :
    Follows s s' := by
  unfold all at h
  split at h
  · next success t hrepeated =>
    cases h
    exact (follows_repeated hrepeated).trans (follows_note p nofun)
  · next failure t hrepeated =>
    cases h
    exact follows_repeated hrepeated
  · next t hrepeated =>
    cases h
    exact follows_repeated hrepeated

/-! ## Attempts that are made -/

/-- An attempt calls the handler, unless the run is cancelled. -/
theorem once_called {result : Except StepFault (Json × Option String)}
    (h : once env step p s = (result, s')) :
    result = .error .cancelled ∨ 0 < timesCalled s'.journal step.id := by
  rcases once_cases h with ⟨-, hresult, -⟩ | ⟨-, hjournal⟩
  · exact Or.inl hresult
  · right
    rw [hjournal, timesCalled, List.countP_cons_of_pos (by simp [Event.isCall])]
    exact Nat.succ_pos _

theorem repeated_called {done : Nat} {result : Option (Except Failure Success)}
    (h : repeated env step p done s = (result, s'))
    (hlive : ∀ failure, result = some (.error failure) → failure.fault.isCancelled = false) :
    0 < timesCalled s'.journal step.id := by
  fun_induction repeated env step p done s with
  | case1 done s value notTaken t honce =>
    cases h
    refine (once_called honce).resolve_left ?_
    rintro ⟨⟩
  | case2 done s fault t honce hretry =>
    cases h
    refine (once_called honce).resolve_left ?_
    rintro ⟨⟩
    cases (Policy.shouldRetry_eq_none_iff.mp hretry).1
  | case3 done s fault t honce hretry =>
    cases h
    refine (once_called honce).resolve_left ?_
    rintro ⟨⟩
    cases hlive _ rfl
  | case4 done s fault t honce hretry t' hpause ih => exact ih h
  | case5 done s fault t honce hretry t' hpause =>
    cases h
    cases hlive _ rfl

/-- Attempts that are not cut off by a cancellation call the handler. -/
theorem all_called {result : Option (Except Failure Success)} (h : all env step p s = (result, s'))
    (hlive : ∀ failure, result = some (.error failure) → failure.fault.isCancelled = false) :
    0 < timesCalled s'.journal step.id := by
  unfold all at h
  split at h
  · next success t hrepeated =>
    cases h
    have hcalled := repeated_called hrepeated nofun
    exact Nat.lt_of_lt_of_le hcalled (timesCalled_mono (List.suffix_cons _ _))
  · next failure t hrepeated =>
    cases h
    exact repeated_called hrepeated hlive
  · next t hrepeated =>
    cases h
    exact repeated_called hrepeated nofun

end Attempt

namespace Run

open Session

variable {σ : Type} {env : Environment σ} {d : Definition} {step : Step} {r r' : Run σ}
  {stop : Option Stop} {id target : String}

theorem follows_attempts {result : Option (Except Failure Success)} {session : Session σ}
    (hrun : r.attempts env step = (result, session)) : Follows r.session session :=
  (follows_note r.progress fun _ hevent => by cases hevent).trans (Attempt.follows_all hrun)

theorem follows_standIn {fallback : Step} {result : Option (Except Failure Success)}
    {session : Session σ} (hrun : r.standIn env step target fallback = (result, session)) :
    Follows r.session session :=
  (follows_note r.progress fun _ hevent => by cases hevent).trans (Attempt.follows_all hrun)

theorem Attempted.follows {session : Session σ} (h : Attempted env d step r session) :
    Follows r.session session := by
  cases h with
  | own result session hrun => exact follows_attempts hrun
  | fallback failure between other fallback result session hrun hresult hstep hfallback =>
    exact (follows_attempts hrun).trans (follows_standIn hfallback)

theorem Turned.follows (h : Turned env d step r r' stop) : Follows r.session r'.session := by
  have hlook := follows_look env r.session
  cases h with
  | cancelled hcancelled => exact hlook
  | settled hlive hsettled => exact hlook
  | passed hlive hunsettled hpassed => exact hlook
  | carriedOut hlive hunsettled htaken r' stop hcarried =>
    exact hlook.trans hcarried.attempted.follows

theorem follows_turns {steps : List Step} : Follows r.session (r.turns env d steps).1.session := by
  apply turns_keep (P := fun r₁ => Follows r.session r₁.session) _ (.refl r.session)
  intro step _ r₁ r₂ stop hturned hfollows
  exact hfollows.trans hturned.follows

theorem session_fallBack (failure : Failure) :
    (r.fallBack env d step target failure).1.session =
      (r.fallbackValue env d step target).2.session := by
  unfold fallBack
  rcases r.fallbackValue env d step target with ⟨_ | fault | value, r₁⟩
  · rfl
  · cases fault <;> rfl
  · cases hfits : (r₁.progress.context.put step.id value).overflow? with
    | none => simp only [Progress.complete_of_fits _ hfits]
    | some overflow => simp only [Progress.complete_of_overflow _ hfits, fail]

/-- The session at the end of a run follows that at every point. -/
theorem Passes.follows {start point : Run σ} {order : List Step}
    (h : Passes env d start order point) :
    Follows point.session (start.turns env d order).1.session := by
  cases h with
  | between done rest horder =>
    rw [horder, turns_append_eq]
    rcases start.turns env d done with ⟨r, _ | stop⟩
    · exact follows_turns
    · exact .refl r.session
  | within done rest step r failure session target horder hdone hlive hunsettled htaken hrun hfault
      hdecision =>
    rw [← session_fallBack failure,
      ← turn_eq_fallBack hlive hunsettled htaken hrun hfault hdecision, horder, turns_append_eq,
      hdone]
    simp only [turns]
    rcases r.turn env d step with ⟨r₁, _ | stop⟩
    · exact follows_turns
    · exact .refl r₁.session

/-! ## The turn in which a run is cancelled -/

/-- A step that its turn settles without stopping the run has been called, unless it was settled
before or the run is not cancelled after the turn. -/
theorem Turned.called (h : Turned env d step r r' none)
    (hunsettled : r.progress.isSettled step.id = false)
    (hcancelled : r'.session.isCancelled = true) :
    0 < timesCalled r'.session.journal step.id := by
  cases h with
  | settled hlive hsettled =>
    rw [hunsettled] at hsettled
    cases hsettled
  | passed hlive hunsettled hpassed =>
    rw [hlive] at hcancelled
    cases hcancelled
  | carriedOut hlive hunsettled htaken r' stop hcarried =>
    cases hcarried with
    | succeeded success session hrun hfits => exact Attempt.all_called hrun nofun
    | skipped failure session hrun hfault hdecision =>
      apply Attempt.all_called hrun
      rintro _ ⟨⟩
      exact hfault
    | replaced failure session other value r₁ hrun hfault hdecision hsubstituted hfits =>
      have hcalled : 0 < timesCalled session.journal step.id := by
        apply Attempt.all_called hrun
        rintro _ ⟨⟩
        exact hfault
      have hspares := hsubstituted.spares (Policy.target_ne hdecision).symm
      exact Nat.lt_of_lt_of_le hcalled (timesCalled_mono hspares.suffix)

/-- Turns of a cancelled run do nothing but stop it. -/
theorem turns_of_cancelled {rest : List Step} (hcancelled : r.session.isCancelled = true) :
    r.turns env d (step :: rest) = (r.look env, some .cancelled) := by
  have hlook : (r.look env).session.isCancelled = true :=
    (follows_look env r.session).cancelled hcancelled
  apply turns_of_stop
  unfold turn
  rw [← look]
  simp only [hlook, if_true]

/-- The turn of a step in which a run is cancelled: the turn does not fail the run, and there is
another step that is neither settled nor under way. -/
structure CancelledIn (env : Environment σ) (d : Definition) (start : Run σ) (order : List Step)
    (step : Step) (before : Run σ) : Prop where
  turn : ∃ done rest, order = done ++ step :: rest ∧ start.turns env d done = (before, none)
  cancelled : (before.turn env d step).1.session.isCancelled = true
  unfailed : ∀ stop, (before.turn env d step).2 = some stop → stop.status = .cancelled
  pending : ∃ other ∈ d.steps, before.progress.isSettled other.id = false ∧
    timesCalled (before.turn env d step).1.session.journal other.id = 0

/-- What has become of an entry that was written before a run was cancelled in the turn of a step.
It is kept, unless its step has not completed and was tried in place of the other. -/
def Retained (step : Step) (before r : Run σ) : Prop :=
  ∀ id entry, before.progress.entries.get? id = some entry →
    r.progress.entries.get? id = some entry ∨
      entry.status ≠ .completed ∧ ∃ m ∈ r.session.journal,
        m.event = .replaced step.id id ∧ m.progress = before.progress

theorem Turned.retained (h : Turned env d step r r' stop) (hshows : r.progress.ShowsCompleted) :
    Retained step r r' := by
  intro id entry hentry
  cases h.involves id with
  | spared _ hspares => exact Or.inl (hspares.entry.trans hentry)
  | passed hid hunsettled hpassed hprogress hjournal =>
    rw [Progress.get?_of_unsettled hunsettled] at hentry
    cases hentry
  | executed _ hid hunsettled htaken hbegun htried hsettles =>
    rw [Progress.get?_of_unsettled hunsettled] at hentry
    cases hentry
  | stoodIn _ hne hstands hcompleted =>
    refine Or.inr ⟨fun hstatus => ?_, hstands.replaced⟩
    exact hshows.not_completed hstands.hidden ⟨entry, hentry, hstatus⟩

/-- A turn that neither stops the run nor fails to notice that it is cancelled is not the last, if
there is another step that is neither settled nor under way. -/
theorem CancelledIn.ne_nil {start before after : Run σ} {order done rest : List Step}
    (hplan : Plan.Sequenced d.steps order) (h : CancelledIn env d start order step before)
    (horder : order = done ++ step :: rest) (hdone : start.turns env d done = (before, none))
    (hturn : before.turn env d step = (after, none)) : rest ≠ [] := by
  rintro rfl
  obtain ⟨other, hother, hunsettled, huncalled⟩ := h.pending
  have hsteps : ∀ s ∈ done, s ∈ d.steps := fun s hs =>
    hplan.perm.mem_iff.mp (horder ▸ List.mem_append_left [step] hs)
  have hin : other ∈ done ++ [step] := horder ▸ hplan.perm.mem_iff.mpr hother
  rcases List.mem_append.mp hin with hbefore | hlast
  · have hsettled := isSettled_turns hsteps hdone other hbefore
    rw [hunsettled] at hsettled
    cases hsettled
  · obtain rfl := List.mem_singleton.mp hlast
    have hturned := turned env d other before
    have hcancelled := h.cancelled
    rw [hturn] at hturned hcancelled huncalled
    have hcalled := hturned.called hunsettled hcancelled
    rw [huncalled] at hcalled
    cases hcalled

/-- After the turn in which it is cancelled a run ends as cancelled, and nothing more is settled. -/
theorem CancelledIn.turns {start before : Run σ} {order : List Step}
    (hplan : Plan.Sequenced d.steps order) (h : CancelledIn env d start order step before) :
    (start.turns env d order).2 = some .cancelled ∧
      (start.turns env d order).1.progress = (before.turn env d step).1.progress ∧
      (start.turns env d order).1.session.journal =
        (before.turn env d step).1.session.journal := by
  obtain ⟨done, rest, horder, hdone⟩ := h.turn
  have hcancelled := h.cancelled
  rw [horder, turns_append_eq, hdone]
  rcases hturn : before.turn env d step with ⟨after, _ | stop⟩
  · obtain ⟨next, more, rfl⟩ := List.exists_cons_of_ne_nil (h.ne_nil hplan horder hdone hturn)
    rw [hturn] at hcancelled
    simp only
    rw [Run.turns, hturn]
    simp only
    rw [turns_of_cancelled hcancelled]
    exact ⟨rfl, rfl, rfl⟩
  · obtain rfl := Stop.eq_cancelled (h.unfailed stop (by rw [hturn]))
    simp only
    rw [turns_of_stop hturn]
    exact ⟨rfl, rfl, rfl⟩

end Run

variable {σ : Type}

/-- Cancellation is effective. In every run of a definition with a plan, from the moment at which
it is cancelled, it stays so and no handler is called any more. If the turn in which that happens
does not fail the run and another step is neither settled nor under way, the run ends as cancelled
and without outputs, and the entries that were written before are kept. Only a step that has not
completed, and that was tried in place of the one whose turn it was, may have another entry. -/
theorem cancellation_stops_runs (env : Environment σ) (d : Definition) (executionId : String)
    (inputs : Entries Json) (clock : Clock) (world : σ) {order : List Step}
    (h : Plan.sequence d.steps = .ok order) :
    ∃ (r : Run σ) (stop : Option Stop),
      execute env d executionId inputs clock world = .ok (r.outcome d stop, r.session) ∧
        r.session.Heeds ∧
        (∀ point, (Run.initial env d executionId inputs clock world).Passes env d order point →
          point.session.isCancelled = true → r.session.isCancelled = true ∧
            ∀ id, timesCalled r.session.journal id = timesCalled point.session.journal id) ∧
        ∀ step before, (Run.initial env d executionId inputs clock world).CancelledIn env d order
            step before →
          r.outcome d stop = some (r.result d stop) ∧ (r.result d stop).status = .cancelled ∧
            (r.result d stop).outputs = [] ∧ before.Retained step r := by
  have hplan := Plan.sequenced h
  refine ⟨_, _, Run.execute_eq h env executionId inputs clock world, ?_, ?_, ?_⟩
  · exact Run.follows_turns.heeds (Session.heeds_initial clock world)
  · intro point hpoint hcancelled
    exact ⟨hpoint.follows.cancelled hcancelled, hpoint.follows.timesCalled_eq hcancelled⟩
  · intro step before hin
    obtain ⟨hstop, hprogress, hjournal⟩ := hin.turns hplan
    obtain ⟨done, rest, -, hdone⟩ := hin.turn
    have hshows : before.progress.ShowsCompleted := by
      have hbefore : ((Run.initial env d executionId inputs clock world).turns env d
          done).1.progress.ShowsCompleted :=
        Run.showsCompleted_turns (Progress.showsCompleted_initial _)
      rw [hdone] at hbefore
      exact hbefore
    refine ⟨Run.outcome_of_not_breaksOff (by rw [hstop]; rfl), by rw [Run.result, hstop]; rfl,
      by rw [Run.result, hstop]; rfl, ?_⟩
    intro id entry hentry
    rw [hprogress, hjournal]
    exact (Run.turned env d step before).retained hshows id entry hentry

/-- Collaborators that can do nothing, in a world whose fifth look finds the run cancelled. -/
def idle : Environment Nat := { calm with interrupts := fun world => (world = 4, world + 1) }

theorem cancellation_stops_fork :
    Plan.sequence fork.steps = .ok forkOrder ∧ ∃ (r : Run Nat) (stop : Option Stop),
      execute idle fork "exec" [] (.initial false none) 0 = .ok (r.outcome fork stop, r.session) ∧
        ∃ step before, (Run.initial idle fork "exec" [] (.initial false none) 0).CancelledIn idle
            fork forkOrder step before ∧
          r.outcome fork stop = some (r.result fork stop) ∧
          (r.result fork stop).status = .cancelled ∧ (r.result fork stop).outputs = [] ∧
            before.Retained step r := by
  have hplan : Plan.sequence fork.steps = .ok forkOrder := rfl
  obtain ⟨r, stop, hrun, -, -, hstops⟩ :=
    cancellation_stops_runs idle fork "exec" [] (.initial false none) 0 hplan
  let start := Run.initial idle fork "exec" [] (.initial false none) 0
  let before := (start.turns idle fork (forkOrder.take 2)).1
  -- The turn of the third step finds the run cancelled, and the last step is still to come.
  obtain ⟨step, hstep⟩ : ∃ step, forkOrder.drop 2 = step :: forkOrder.drop 3 := ⟨_, rfl⟩
  have hdone : (start.turns idle fork (forkOrder.take 2)).2 = none := by decide +kernel
  have hturn : ∀ step ∈ (forkOrder.drop 2).head?,
      (before.turn idle fork step).1.session.isCancelled = true ∧
        (before.turn idle fork step).2 = some .cancelled ∧
        ∃ other ∈ fork.steps, before.progress.isSettled other.id = false ∧
          timesCalled (before.turn idle fork step).1.session.journal other.id = 0 := by
    decide +kernel
  obtain ⟨hcancelled, hstop, hpending⟩ := hturn step (by rw [hstep]; rfl)
  have hin : start.CancelledIn idle fork forkOrder step before := by
    refine ⟨⟨forkOrder.take 2, forkOrder.drop 3, ?_, Prod.ext rfl hdone⟩, hcancelled, ?_, hpending⟩
    · rw [← hstep, List.take_append_drop]
    · intro other hother
      rw [hstop] at hother
      cases hother
      rfl
  exact ⟨hplan, r, stop, hrun, step, before, hin, hstops step before hin⟩

/-! ## Entries that are not kept -/

/-- Collaborators that fail; the run is cancelled as they do. -/
def leaving : Environment Nat where
  collaborators :=
    ⟨fun _ => false, true, false,
      fun _ world => (⟨0, true, .error (.execution "no answer")⟩, world)⟩
  timeouts := ⟨5000, 5000, 5000⟩
  retryDelay := 0
  time := "2000-01-01T00:00:00.000000001+00:00"

/-- The steps of a document in which a step falls back on one that has failed before. -/
def retreatSteps : List Json := [
  .obj [("id", .str "fetch"), ("type", .str "code"),
    ("config", .obj [("language", .str "python3"), ("code", .str "pass")]),
    ("error_handling", .obj [("on_error", .str "skip")])],
  .obj [("id", .str "ask"), ("type", .str "llm"),
    ("config", .obj [("model", .str "m"), ("prompt", .str "?")]),
    ("error_handling", .obj [("on_error", .str "fallback"), ("fallback_step", .str "fetch")])],
  .obj [("id", .str "close"), ("type", .str "end"), ("depends_on", .arr [.str "ask"])]]

theorem accepted_retreat :
    ∃ d, Definition.decoder (outline "retreat" retreatSteps) = .ok d ∧
      (Validation.analyze (outline "retreat" retreatSteps)).2 = some d := by
  obtain ⟨d, hdecoder⟩ :
      ∃ d, Definition.decoder (outline "retreat" retreatSteps) = .ok d := ⟨_, rfl⟩
  refine ⟨d, hdecoder, Validation.analyze_outline ?_ ?_ ?_ hdecoder⟩
  all_goals exact List.isEmpty_iff.mp (by decide +kernel)

/-- An entry may be lost: when `ask` is called, `fetch` has failed for want of its language, and
`close` is still to come. The run is cancelled as `ask` fails, and it ends as cancelled, but `fetch`
has been tried once more, and its entry says only that it was cancelled. -/
theorem fetch_overwritten_in_retreat :
    ∃ d, (Validation.analyze (outline "retreat" retreatSteps)).2 = some d ∧
      ∃ result session,
        execute leaving d "exec" [] (.initial false none) 0 = .ok (some result, session) ∧
          result.status = .cancelled ∧ d.step? "close" ≠ none ∧
            ∃ m ∈ session.journal, m.event = .called "ask" ∧ m.cancelled = false ∧
              m.progress.isSettled "close" = false ∧
              (m.progress.entries.get? "fetch").bind StepResult.error? =
                some "unsupported language: python3" ∧
              (result.steps.get? "fetch").bind StepResult.error? = some "step cancelled" := by
  obtain ⟨d, hdecoder, haccepted⟩ := accepted_retreat
  have hcourse : (Definition.decoder (outline "retreat" retreatSteps)).toOption.bind (fun d =>
      (Run.ended? (execute leaving d "exec" [] (.initial false none) 0)).map fun pair =>
        (pair.1.status, (d.step? "close").isSome,
          (pair.1.steps.get? "fetch").bind StepResult.error?,
          pair.2.journal.any fun m => m.event.isCall "ask" && !m.cancelled &&
            !m.progress.isSettled "close" && decide ((m.progress.entries.get? "fetch").bind
              StepResult.error? = some "unsupported language: python3"))) =
      some (.cancelled, true, some "step cancelled", true) := by decide +kernel
  obtain ⟨result, session, hrun, hcourse⟩ := exists_run_of_decoder hdecoder hcourse
  obtain ⟨hstatus, hclose, hafter, hmoment⟩ := by simpa only [Prod.mk.injEq] using hcourse
  obtain ⟨m, hm, hbefore⟩ := List.any_eq_true.mp hmoment
  simp only [Bool.and_eq_true, Bool.not_eq_true', decide_eq_true_eq] at hbefore
  obtain ⟨⟨⟨hcalled, hlive⟩, hunsettled⟩, hfetch⟩ := hbefore
  exact ⟨d, haccepted, result, session, hrun, hstatus, Option.isSome_iff_ne_none.mp hclose, m, hm,
    Event.eq_called_of_isCall hcalled, hlive, hunsettled, hfetch, hafter⟩

end Workflow
