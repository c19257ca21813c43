import Workflow.Proofs.Graph.Plan
import Workflow.Proofs.Run.Counting

/-!
# When steps are settled

A turn that does not stop the run settles its step, and entries never disappear. As the plan puts a
step after all that it depends on, nothing begins before its dependencies are settled; and a run
that gets to the end of its plan has settled every step.
-/

namespace Workflow

/-- With unique ids every step is found by its id. -/
theorem Definition.step?_id {d : Definition} (hnodup : (d.steps.map Step.id).Nodup) {step : Step}
    (hstep : step ∈ d.steps) : d.step? step.id = some step := by
  cases hfound : d.step? step.id with
  | none => exact absurd (List.find?_eq_none.mp hfound step hstep) (by simp)
  | some other =>
    obtain ⟨hother, hid⟩ := Definition.mem_of_step? hfound
    rw [List.inj_on_of_nodup_map hnodup hother hstep hid]

/-- Failures are passed over by the policy `skip` only. -/
theorem Policy.onError_of_skip {step : Step} (h : Policy.decision step = .skip) :
    step.onError = .skip := by
  unfold Policy.decision at h
  split at h
  · next heq => simp [Step.onError, heq]
  · split at h <;> cases h
  · cases h

/-- A step that the run goes on after may have failed only if its policy is to skip it. -/
def StepResult.PassableFor (step : Step) (entry : StepResult) : Prop :=
  entry.status = .failed → step.onError = .skip

namespace Run

variable {σ : Type} {env : Environment σ} {d : Definition} {step : Step} {r r' : Run σ}
  {stop : Option Stop}
  {P : Entries StepResult → Prop}

/-! ## Entries that turns write -/

theorem Substituted.entries {target : String} {value : Option (Except StepFault Json)}
    (hinsert : ∀ s ∈ d.steps, ∀ entry entries,
      ((∃ v, value = some (.ok v)) → StepResult.PassableFor s entry) →
        P entries → P (entries.insert s.id entry))
    (h : Substituted env d step target r value r') (hr : P r.progress.entries) :
    P r'.progress.entries := by
  cases h with
  | reused value hresult => exact hr
  | missing hresult hstep => exact hr
  | executed fallback success session hresult hstep hrun hfits =>
    exact hinsert fallback (Definition.mem_of_step? hstep).1 _ _
      (fun _ hfailed => by cases hfailed) hr
  | outgrown fallback success session overflow hresult hstep hrun hoverflow => exact hr
  | failed fallback failure session hresult hstep hrun =>
    exact hinsert fallback (Definition.mem_of_step? hstep).1 _ _ (fun ⟨v, hv⟩ => by cases hv) hr
  | uncounted fallback session hresult hstep hrun => exact hr

theorem CarriedOut.entries (hstep : step ∈ d.steps)
    (hinsert : ∀ s ∈ d.steps, ∀ entry entries, (stop = none → StepResult.PassableFor s entry) →
      P entries → P (entries.insert s.id entry))
    (h : CarriedOut env d step r r' stop) (hr : P r.progress.entries) : P r'.progress.entries := by
  cases h with
  | succeeded success session hrun hfits =>
    rw [Progress.entries_record, Progress.entries_leave]
    exact hinsert step hstep _ _ (fun _ hfailed => by cases hfailed) hr
  | outgrown success session overflow hrun hoverflow =>
    rw [Progress.entries_publish, Progress.entries_leave]
    exact hr
  | interrupted failure session hrun hcancelled =>
    exact hinsert step hstep _ _ (fun hnone => by cases hnone) hr
  | aborted failure session hrun hlive hdecision =>
    exact hinsert step hstep _ _ (fun hnone => by cases hnone) hr
  | skipped failure session hrun hlive hdecision =>
    exact hinsert step hstep _ _ (fun _ _ => Policy.onError_of_skip hdecision) hr
  | replaced failure session target value r' hrun hlive hdecision hsubstituted hfits =>
    refine hinsert step hstep _ _ (fun _ hfailed => by cases hfailed) (hsubstituted.entries ?_ hr)
    exact fun s hs entry entries hpassable => hinsert s hs entry entries fun _ =>
      hpassable ⟨value, rfl⟩
  | overfilled failure session target value r' overflow hrun hlive hdecision hsubstituted
      hoverflow =>
    refine hinsert step hstep _ _ (fun hnone => by cases hnone) (hsubstituted.entries ?_ hr)
    exact fun s hs entry entries _ => hinsert s hs entry entries fun hnone => by cases hnone
  | unreplaced failure session target fault r' hrun hlive hdecision hsubstituted =>
    refine hinsert step hstep _ _ (fun hnone => by cases hnone) (hsubstituted.entries ?_ hr)
    exact fun s hs entry entries _ => hinsert s hs entry entries fun hnone => by cases hnone
  | uncounted session hrun => exact hr
  | brokenOff failure session target r' hrun hlive hdecision hsubstituted =>
    refine hsubstituted.entries ?_ hr
    exact fun s hs entry entries _ => hinsert s hs entry entries fun hnone => by cases hnone

/-- A turn writes entries of steps only, and those of failed steps only if it
stops the run or they may fail. -/
theorem Turned.entries (hstep : step ∈ d.steps)
    (hinsert : ∀ s ∈ d.steps, ∀ entry entries, (stop = none → StepResult.PassableFor s entry) →
      P entries → P (entries.insert s.id entry))
    (h : Turned env d step r r' stop) (hr : P r.progress.entries) : P r'.progress.entries := by
  cases h with
  | cancelled hcancelled => exact hr
  | settled hlive hsettled => exact hr
  | passed hlive hunsettled hpassed =>
    exact hinsert step hstep _ _ (fun _ hfailed => by cases hfailed) hr
  | carriedOut hlive hunsettled htaken r' stop hcarried => exact hcarried.entries hstep hinsert hr

/-- No turn takes an entry away. -/
theorem Turned.isSettled_mono (hstep : step ∈ d.steps) (h : Turned env d step r r' stop)
    {id : String} (hid : r.progress.isSettled id = true) : r'.progress.isSettled id = true := by
  refine h.entries (P := fun entries => entries.contains id = true) hstep
    (fun s _ entry entries _ hin => ?_) hid
  rw [Entries.contains_insert, hin, Bool.or_true]

/-- A turn that does not stop the run settles its step. -/
theorem Turned.isSettled_self (h : Turned env d step r r' none) :
    r'.progress.isSettled step.id = true := by
  cases h with
  | settled hlive hsettled => exact hsettled
  | passed hlive hunsettled hpassed => simp
  | carriedOut hlive hunsettled htaken r' stop hcarried =>
    cases hcarried with
    | succeeded success session hrun hfits => simp
    | skipped failure session hrun hlive hdecision => simp
    | replaced failure session target value r' hrun hlive hdecision hsubstituted hfits => simp

/-- Turns that do not stop the run settle their steps. -/
theorem isSettled_turns {steps : List Step} (hsteps : ∀ s ∈ steps, s ∈ d.steps)
    (h : r.turns env d steps = (r', none)) : ∀ s ∈ steps, r'.progress.isSettled s.id = true := by
  induction steps generalizing r with
  | nil => exact fun s hs => absurd hs List.not_mem_nil
  | cons head tail ih =>
    obtain ⟨r₁, hturned, hrest⟩ := turned_of_turns h
    have htail : ∀ s ∈ tail, s ∈ d.steps := fun s hs => hsteps s (List.mem_cons_of_mem head hs)
    intro s hs
    rcases List.mem_cons.mp hs with rfl | hs
    · refine turns_preserve (P := fun p => p.isSettled s.id = true)
        (fun other hother _ _ hturn hp => ?_) hrest hturned.isSettled_self
      exact hturn.isSettled_mono (htail other hother) hp
    · exact ih htail hrest s hs

end Run

namespace Progress

/-- Only steps have entries, each of them at most one. -/
structure Accounted (d : Definition) (p : Progress) : Prop where
  nodup : p.entries.keys.Nodup
  known : ∀ id ∈ p.entries.keys, id ∈ d.steps.map Step.id

/-- The steps that have failed are to be skipped by their policy. -/
def Tolerated (d : Definition) (p : Progress) : Prop :=
  ∀ id entry, p.entries.get? id = some entry → entry.status = .failed →
    ∃ step ∈ d.steps, step.id = id ∧ step.onError = .skip

end Progress

namespace Run

variable {σ : Type} {env : Environment σ} {d : Definition} {step : Step} {r r' : Run σ}
  {stop : Option Stop}

theorem Turned.accounted (hstep : step ∈ d.steps) (h : Turned env d step r r' stop)
    (hr : r.progress.Accounted d) :
    r'.progress.Accounted d := by
  constructor
  · exact h.entries (P := fun entries => entries.keys.Nodup) hstep
      (fun s _ entry entries _ hnodup => Entries.nodup_keys_insert hnodup s.id entry) hr.nodup
  · refine h.entries (P := fun entries => ∀ id ∈ entries.keys, id ∈ d.steps.map Step.id) hstep ?_
      hr.known
    intro s hs entry entries _ hknown id hid
    rw [← Entries.contains_iff_mem_keys, Entries.contains_insert, Bool.or_eq_true,
      decide_eq_true_eq, Entries.contains_iff_mem_keys] at hid
    rcases hid with rfl | hid
    · exact List.mem_map_of_mem hs
    · exact hknown id hid

theorem Turned.tolerated (hstep : step ∈ d.steps) (h : Turned env d step r r' none)
    (hr : r.progress.Tolerated d) :
    r'.progress.Tolerated d := by
  refine h.entries (P := fun entries => ∀ id entry, entries.get? id = some entry →
    entry.status = .failed → ∃ step ∈ d.steps, step.id = id ∧ step.onError = .skip) hstep ?_ hr
  intro s hs entry entries hpassable hold id found hfound hfailed
  rw [Entries.get?_insert] at hfound
  split at hfound
  · next heq =>
    cases hfound
    exact ⟨s, hs, heq.symm, hpassable rfl hfailed⟩
  · exact hold id found hfound hfailed

theorem tolerated_turns {steps : List Step} (hsteps : ∀ s ∈ steps, s ∈ d.steps)
    (h : r.turns env d steps = (r', none)) (hr : r.progress.Tolerated d) :
    r'.progress.Tolerated d :=
  turns_preserve (fun s hs _ _ hturned hp => hturned.tolerated (hsteps s hs) hp) h hr

theorem accounted_turns {steps : List Step} (hsteps : ∀ s ∈ steps, s ∈ d.steps)
    (hr : r.progress.Accounted d) :
    (r.turns env d steps).1.progress.Accounted d :=
  turns_invariant (fun s hs _ _ _ hturned hp => hturned.accounted (hsteps s hs) hp) hr

/-! ## Runs from the beginning -/

variable (env d) (executionId : String) (inputs : Entries Json) (clock : Clock) (world : σ)

/-- At its beginning a run has settled nothing. -/
theorem tolerated_initial :
    (initial env d executionId inputs clock world).progress.Tolerated d := by
  intro id entry hfound
  cases hfound

theorem accounted_initial : (initial env d executionId inputs clock world).progress.Accounted d :=
  ⟨List.nodup_nil, fun _ hid => absurd hid List.not_mem_nil⟩

variable {env d}

/-- What a step depends on is settled when the turns before its own are over,
and has failed only if it may. -/
theorem settled_before_turn {order : List Step} (hplan : Plan.Sequenced d.steps order)
    {done rest : List Step} (horder : order = done ++ step :: rest)
    (hdone : (initial env d executionId inputs clock world).turns env d done = (r, none))
    {dependency : String} (hdependency : dependency ∈ step.dependsOn) :
    ∃ entry, r.progress.entries.get? dependency = some entry ∧
      (entry.status = .failed →
        ∃ other ∈ d.steps, other.id = dependency ∧ other.onError = .skip) := by
  have hsteps : ∀ s ∈ done, s ∈ d.steps := fun s hs =>
    hplan.perm.mem_iff.mp (horder ▸ List.mem_append_left (step :: rest) hs)
  obtain ⟨other, hother, rfl⟩ :=
    List.mem_map.mp (hplan.first done step rest horder dependency hdependency)
  obtain ⟨entry, hentry⟩ := Option.isSome_iff_exists.mp (isSettled_turns hsteps hdone other hother)
  exact ⟨entry, hentry, tolerated_turns hsteps hdone (tolerated_initial env d _ _ _ _) _ entry
    hentry⟩

end Run

variable {σ : Type}

/-- In every run of a definition with a plan, whenever a step begins at its own turn, all
that it depends on has an entry; an entry of a failed step belongs to one that its policy
lets the run go on without. -/
theorem dependencies_settled_when_begun (env : Environment σ) (d : Definition)
    (executionId : String) (inputs : Entries Json) (clock : Clock) (world : σ) {order : List Step}
    (h : Plan.sequence d.steps = .ok order) :
    ∃ outcome session, execute env d executionId inputs clock world = .ok (outcome, session) ∧
      ∀ moment ∈ session.journal, ∀ id, moment.event = .begun id →
        ∃ step, d.step? id = some step ∧ ∀ dependency ∈ step.dependsOn,
          ∃ entry, moment.progress.entries.get? dependency = some entry ∧
            (entry.status = .failed →
              ∃ other ∈ d.steps, other.id = dependency ∧ other.onError = .skip) := by
  have hplan := Plan.sequenced h
  refine ⟨_, _, Run.execute_eq h env executionId inputs clock world,
    fun moment hmoment id hbegun => ?_⟩
  rcases Run.journal_turns hmoment with hinitial | ⟨done, step, rest, r, horder, hdone, hturn⟩
  · exact absurd hinitial List.not_mem_nil
  have hstep : step ∈ d.steps :=
    hplan.perm.mem_iff.mp (horder ▸ List.mem_append_right done List.mem_cons_self)
  obtain rfl := hturn.begun id hbegun
  refine ⟨step, Definition.step?_id hplan.nodup hstep, fun dependency hdependency => ?_⟩
  rw [hturn.progress]
  exact Run.settled_before_turn executionId inputs clock world hplan horder hdone hdependency

/-- A definition whose steps stand in reverse, with a branch, a failure that is
passed over and a fallback. -/
def detour : Definition where
  metadata := ⟨"detour", "", "1.0.0", none, []⟩
  inputs := []
  steps := [
    ⟨"report", .finish, none, none, ["mirror", "wait", "fetch"], .finish, [], none⟩,
    ⟨"archive", .finish, none, none, ["mirror"], .finish, [], none⟩,
    ⟨"mirror", .http, none, none, ["choose"],
      .http ⟨"http://[::1]/mirror", .get, [], none, none⟩, [],
      some ⟨.fallback, none, some "archive"⟩⟩,
    ⟨"wait", .finish, none, none, ["choose"], .finish, [], none⟩,
    ⟨"choose", .condition, none, none, ["begin"],
      .condition ⟨"1 == 2", some "wait", some "mirror"⟩, [], none⟩,
    ⟨"fetch", .http, none, none, [], .http ⟨"http://[::1]/origin", .get, [], none, none⟩, [],
      some ⟨.skip, none, none⟩⟩,
    ⟨"begin", .start, none, none, [], .start, [], none⟩]
  outputs := [("page", ⟨"$\x7bmirror\x7d", none, none⟩)]

def detourOrder : List Step :=
  ["fetch", "begin", "choose", "mirror", "wait", "report", "archive"].filterMap detour.step?

/-- Collaborators that can do nothing, in a run that nobody cancels. -/
def calm : Environment Nat where
  collaborators :=
    ⟨fun _ => false, false, false, fun _ world => (⟨0, false, .error (.execution "idle")⟩, world)⟩
  timeouts := ⟨5000, 5000, 5000⟩
  retryDelay := 0
  time := "2000-01-01T00:00:00.000000001+00:00"

/-- Its run completes. -/
theorem detour_completes {outcome : Option RunResult} {session : Session Nat}
    (h : execute calm detour "exec" [] (.initial false none) 0 = .ok (outcome, session)) :
    ∃ result, outcome = some result ∧ result.status = .completed := by
  have hstatus : (Run.ended? (execute calm detour "exec" [] (.initial false none) 0)).map
      (fun pair => pair.1.status) = some .completed := by decide +kernel
  obtain ⟨⟨result, _⟩, hrun, hcompleted⟩ := Option.map_eq_some_iff.mp hstatus
  cases h.symm.trans (Run.ended?_eq_some_iff.mp hrun)
  exact ⟨result, rfl, hcompleted⟩

/-- The last step to begin depends on one for which its fallback stands in, on one that was passed
over and on one that has failed. -/
theorem report_begins_in_detour {outcome : Option RunResult} {session : Session Nat}
    (h : execute calm detour "exec" [] (.initial false none) 0 = .ok (outcome, session)) :
    ∃ moment ∈ session.journal, moment.event = .begun "report" ∧
      ["mirror", "wait", "fetch"].map (fun id =>
        (moment.progress.entries.get? id).map StepResult.status) =
          [some .completed, some .skipped, some .failed] := by
  have hbegun : (execute calm detour "exec" [] (.initial false none) 0).toOption.any (fun pair =>
      pair.2.journal.any fun moment =>
        (match moment.event with
          | .begun id => id = "report"
          | _ => false) &&
        ["mirror", "wait", "fetch"].map (fun id =>
          (moment.progress.entries.get? id).map StepResult.status) =
            [some .completed, some .skipped, some .failed]) = true := by decide +kernel
  rw [h] at hbegun
  obtain ⟨moment, hmoment, hfound⟩ := List.any_eq_true.mp hbegun
  obtain ⟨hevent, hentries⟩ := (Bool.and_eq_true _ _).mp hfound
  refine ⟨moment, hmoment, ?_, of_decide_eq_true hentries⟩
  split at hevent
  · next id heq => rw [heq, of_decide_eq_true hevent]
  · cases hevent

theorem dependencies_settled_in_detour :
    Plan.sequence detour.steps = .ok detourOrder ∧
      ∃ outcome session,
        execute calm detour "exec" [] (.initial false none) 0 = .ok (outcome, session) ∧
          (∃ moment ∈ session.journal, moment.event = .begun "report") ∧
          ∀ moment ∈ session.journal, ∀ id, moment.event = .begun id →
            ∃ step, detour.step? id = some step ∧ ∀ dependency ∈ step.dependsOn,
              ∃ entry, moment.progress.entries.get? dependency = some entry ∧
                (entry.status = .failed →
                  ∃ other ∈ detour.steps, other.id = dependency ∧ other.onError = .skip) := by
  have hplan : Plan.sequence detour.steps = .ok detourOrder := rfl
  obtain ⟨outcome, session, hrun, hsettled⟩ :=
    dependencies_settled_when_begun calm detour "exec" [] (.initial false none) 0 hplan
  obtain ⟨moment, hmoment, hevent, -⟩ := report_begins_in_detour hrun
  exact ⟨hplan, outcome, session, hrun, ⟨moment, hmoment, hevent⟩, hsettled⟩

/-! ## Results -/

/-- What the result of a run says about the steps of its definition. -/
structure RunResult.Accounts (d : Definition) (result : RunResult) : Prop where
  /-- A completed run has one entry for each step and no other. -/
  steps : result.status = .completed →
    result.steps.keys.Nodup ∧ result.steps.keys.Perm (d.steps.map Step.id)
  failed : result.status = .completed → ∀ id entry, (id, entry) ∈ result.steps →
    entry.status = .failed → ∃ step ∈ d.steps, step.id = id ∧ step.onError = .skip
  completed : result.status = .completed →
    result.error = none ∧ result.outputs.keys = d.outputs.keys
  stopped : result.status ≠ .completed →
    result.outputs = [] ∧ ∃ message, result.error = some message
  succeeded : result.succeeded = true ↔ result.status = .completed
  count : result.completedSteps =
    (result.steps.filter fun pair => pair.2.status = .completed).length
  bound : result.completedSteps ≤ result.totalSteps
  total : result.totalSteps = d.steps.length

theorem RunResult.completedSteps_eq (result : RunResult) :
    result.completedSteps =
      (result.steps.filter fun pair => pair.2.status = .completed).length := by
  rw [completedSteps, Entries.values, List.countP_map, List.countP_eq_length_filter]
  rfl

/-- A stop is no completion. -/
theorem Stop.status_ne_completed (stop : Stop) : stop.status ≠ .completed := by
  cases stop <;> simp [Stop.status]

/-- A run along a plan has a result if all attempts can be counted. -/
theorem Run.exists_outcome {d : Definition} {order : List Step}
    (h : Plan.sequence d.steps = .ok order) (hcountable : d.Countable) (env : Environment σ)
    (executionId : String) (inputs : Entries Json) (clock : Clock) (world : σ) :
    let (r, stop) := (Run.initial env d executionId inputs clock world).turns env d order
    ∃ result, r.outcome d stop = some result :=
  have hplan := Plan.sequenced h
  ⟨_, Run.outcome_of_countable hcountable (fun _ hs => hplan.perm.mem_iff.mp hs) rfl⟩

/-- A run that has completed was not stopped. -/
theorem Run.stop_eq_none_of_completed {r : Run σ} {d : Definition} {stop : Option Stop}
    (h : (r.result d stop).status = .completed) : stop = none := by
  cases stop with
  | none => rfl
  | some stop => exact absurd h stop.status_ne_completed

/-- The entries of known steps, each of them once, are not more than the steps. -/
theorem Progress.Accounted.length_le {d : Definition} {p : Progress} (h : p.Accounted d) :
    p.entries.length ≤ d.steps.length := by
  have hkeys := List.Nodup.length_le_of_subset h.nodup h.known
  simpa [Entries.keys] using hkeys

/-- What a run amounts to accounts for the steps, whether or not it comes to the end of its plan. -/
theorem Run.accounts_turns {env : Environment σ} {d : Definition} {order : List Step}
    (hplan : Plan.Sequenced d.steps order) (executionId : String) (inputs : Entries Json)
    (clock : Clock) (world : σ) :
    ((Run.initial env d executionId inputs clock world).turns env d order).1.result d
      ((Run.initial env d executionId inputs clock world).turns env d order).2 |>.Accounts d := by
  have hsteps : ∀ s ∈ order, s ∈ d.steps := fun s hs => hplan.perm.mem_iff.mp hs
  have haccounted : ((Run.initial env d executionId inputs clock world).turns env d
      order).1.progress.Accounted d :=
    Run.accounted_turns hsteps (Run.accounted_initial env d executionId inputs clock world)
  rcases hturns :
    (Run.initial env d executionId inputs clock world).turns env d order with ⟨r, _ | stop⟩ <;>
    rw [hturns] at haccounted
  · -- The run has come to the end of its plan, so every step is settled.
    have hsettled := Run.isSettled_turns hsteps hturns
    have htolerated :=
      Run.tolerated_turns hsteps hturns (Run.tolerated_initial env d executionId inputs clock world)
    have hperm : r.progress.entries.keys.Perm (d.steps.map Step.id) := by
      refine (List.perm_ext_iff_of_nodup haccounted.nodup hplan.nodup).mpr fun id =>
        ⟨haccounted.known id, fun hid => ?_⟩
      obtain ⟨step, hstep, rfl⟩ := List.mem_map.mp hid
      exact (Entries.contains_iff_mem_keys _ _).mp (hsettled step (hplan.perm.mem_iff.mpr hstep))
    refine ⟨fun _ => ⟨haccounted.nodup, hperm⟩, fun _ id entry hmem => ?_, fun _ => ⟨rfl, ?_⟩, ?_,
      ?_, ?_, ?_, rfl⟩
    · exact htolerated id entry (Entries.get?_eq_some_of_mem haccounted.nodup hmem)
    · exact Entries.keys_mapValues _ _
    · exact fun hne => absurd rfl hne
    · simp [RunResult.succeeded]
    · exact RunResult.completedSteps_eq _
    · rw [RunResult.completedSteps_eq]
      exact Nat.le_trans (List.length_filter_le _ _) haccounted.length_le
  · have hstatus : (r.result d (some stop)).status ≠ .completed := stop.status_ne_completed
    refine ⟨fun hc => absurd hc hstatus, fun hc => absurd hc hstatus, fun hc => absurd hc hstatus,
      ?_, ?_, ?_, ?_, rfl⟩
    · exact fun _ => ⟨rfl, stop.message, rfl⟩
    · simp [RunResult.succeeded]
    · exact RunResult.completedSteps_eq _
    · rw [RunResult.completedSteps_eq]
      exact Nat.le_trans (List.length_filter_le _ _) haccounted.length_le

/-- The result of every run of a definition with a plan accounts for its steps, and there is one if
the attempts at the steps can be counted. -/
theorem result_accounts (env : Environment σ) (d : Definition) (executionId : String)
    (inputs : Entries Json) (clock : Clock) (world : σ) {order : List Step}
    (h : Plan.sequence d.steps = .ok order) :
    ∃ outcome session, execute env d executionId inputs clock world = .ok (outcome, session) ∧
      (∀ result, outcome = some result → result.Accounts d) ∧
      (d.Countable → ∃ result, outcome = some result) := by
  refine ⟨_, _, Run.execute_eq h env executionId inputs clock world, ?_, ?_⟩
  · intro result hresult
    rw [← Run.eq_result_of_outcome hresult]
    exact Run.accounts_turns (Plan.sequenced h) executionId inputs clock world
  · intro hcountable
    exact Run.exists_outcome h hcountable env executionId inputs clock world

theorem result_accounts_for_detour :
    Plan.sequence detour.steps = .ok detourOrder ∧ detour.Countable ∧
      ∃ result session,
        execute calm detour "exec" [] (.initial false none) 0 = .ok (some result, session) ∧
          result.status = .completed ∧ result.Accounts detour := by
  have hplan : Plan.sequence detour.steps = .ok detourOrder := rfl
  have hcountable : detour.Countable := by decide
  obtain ⟨outcome, session, hrun, haccounts, hresult⟩ :=
    result_accounts calm detour "exec" [] (.initial false none) 0 hplan
  obtain ⟨result, houtcome⟩ := hresult hcountable
  obtain ⟨completed, hcompletes, hstatus⟩ := detour_completes hrun
  obtain rfl := Option.some.inj (houtcome.symm.trans hcompletes)
  exact ⟨hplan, hcountable, result, session, houtcome ▸ hrun, hstatus, haccounts result houtcome⟩

end Workflow
