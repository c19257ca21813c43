import Workflow.Proofs.Run.Untaken

/-!
# Steps that conditions select

If a condition selects a step that depends on it, the step is not passed over. That holds as long as
no other branch leads to the step and the condition itself is to be taken: a condition that is
executed in place of another step although it is not to be taken selects in vain.
-/

namespace Workflow

/-- The step that a condition selects: the branch that its verdict takes leads there. -/
def Step.selection? (step : Step) (context : Context) : Option String :=
  match step.config with
  | .condition config =>
    (Condition.verdict config.condition (.obj context.bindings)).toOption.bind config.target?
  | _ => none

/-- Only if both branches lead there may a condition turn from the step that it selects. -/
theorem Step.Leaves.selection?_ne {step : Step} {context : Context} {target : String}
    (h : step.Leaves context target) (hbranches : step.branches.Nodup) :
    step.selection? context ≠ some target := by
  obtain ⟨config, verdict, hconfig, hverdict, hleft⟩ := h
  intro hselected
  simp only [selection?, hconfig, hverdict, Except.toOption, Option.bind_some] at hselected
  have hboth : config.trueStep = some target ∧ config.falseStep = some target := by
    cases verdict with
    | false => exact ⟨hleft, hselected⟩
    | true => exact ⟨hselected, hleft⟩
  simp [branches, hconfig, hboth.1, hboth.2] at hbranches

def Executed (journal : List Moment) (id : String) : Prop :=
  ∃ m ∈ journal, m.event = .begun id ∨ ∃ other, m.event = .replaced other id

theorem Event.isConclusion_concluded (step : String) (data : Json) (notTaken : Option String) :
    (concluded step data notTaken).isConclusion step = true :=
  decide_eq_true rfl

theorem timesConcluded_ne_zero {journal : List Moment} {id : String} {m : Moment}
    (hm : m ∈ journal) (hconclusion : m.event.isConclusion id = true) :
    timesConcluded journal id ≠ 0 :=
  fun hzero => List.countP_eq_zero.mp hzero m hm hconclusion

/-- A step that concludes once at most does so at a single moment. -/
theorem eq_of_timesConcluded_le_one {journal : List Moment} {id : String}
    (h : timesConcluded journal id ≤ 1) {m m' : Moment} (hm : m ∈ journal) (hm' : m' ∈ journal)
    (hconclusion : m.event.isConclusion id = true)
    (hconclusion' : m'.event.isConclusion id = true) : m = m' := by
  rw [timesConcluded, List.countP_eq_length_filter] at h
  have hin : m ∈ journal.filter fun m => m.event.isConclusion id :=
    List.mem_filter.mpr ⟨hm, hconclusion⟩
  have hin' : m' ∈ journal.filter fun m => m.event.isConclusion id :=
    List.mem_filter.mpr ⟨hm', hconclusion'⟩
  obtain ⟨only, hconclusions⟩ := List.length_eq_one_iff.mp
    (Nat.le_antisymm h (List.length_pos_of_mem hin))
  rw [hconclusions, List.mem_singleton] at hin hin'
  rw [hin, hin']

namespace Run

variable {σ : Type} {env : Environment σ} {d : Definition} {step : Step} {r r' : Run σ}
  {stop : Option Stop} {id : String}

/-! ## Conclusions -/

theorem Spares.mem_of_isConclusion (h : Spares id r r') {m : Moment}
    (hm : m ∈ r'.session.journal) (hconclusion : m.event.isConclusion id = true) :
    m ∈ r.session.journal := by
  obtain ⟨noted, hjournal, hspared⟩ := h.noted
  rw [hjournal, List.mem_append] at hm
  apply hm.resolve_left
  intro hnew
  exact (hspared m hnew).1 (Event.subject_of_isConclusion hconclusion)

/-- Between turns, a step has concluded only if it has completed, and then only once. -/
structure ConcludesOnce (id : String) (r : Run σ) : Prop where
  fresh : ¬ Completed r.progress.entries id → timesConcluded r.session.journal id = 0
  once : timesConcluded r.session.journal id ≤ 1

theorem ConcludesOnce.completed (h : ConcludesOnce id r) {m : Moment}
    (hm : m ∈ r.session.journal) (hconclusion : m.event.isConclusion id = true) :
    Completed r.progress.entries id := by
  by_contra hnot
  exact timesConcluded_ne_zero hm hconclusion (h.fresh hnot)

/-- So a turn in which it concludes is the only one. -/
theorem Turned.concludesOnce (h : Turned env d step r r' stop)
    (hshows : r.progress.ShowsCompleted) (hr : ConcludesOnce id r) :
    timesConcluded r'.session.journal id ≤ 1 ∧ (stop = none → ConcludesOnce id r') := by
  cases h.involves id with
  | spared _ hspares =>
    have hcount := hspares.timesConcluded_eq
    have honce : timesConcluded r'.session.journal id ≤ 1 := hcount ▸ hr.once
    refine ⟨honce, fun _ => ⟨?_, honce⟩⟩
    rw [hspares.completed_iff, hcount]
    exact hr.fresh
  | passed hid hunsettled hpassed hprogress hjournal =>
    have hzero := hr.fresh (Progress.not_completed_of_unsettled hunsettled)
    rw [← hjournal] at hzero
    exact ⟨hjournal ▸ hr.once, fun _ => ⟨fun _ => hzero, hjournal ▸ hr.once⟩⟩
  | executed _ hid hunsettled htaken hbegun htried hsettles =>
    subst hid
    have hzero := hr.fresh (Progress.not_completed_of_unsettled hunsettled)
    have honce := htried.concluded
    rw [hzero] at honce
    refine ⟨honce, fun hstop => ⟨fun hnot => ?_, honce⟩⟩
    obtain ⟨-, -, hcount⟩ := (hsettles hstop).resolve_left hnot
    exact hcount.trans hzero
  | stoodIn _ hne hstands hcompleted =>
    have hzero := hr.fresh (hshows.not_completed hstands.hidden)
    obtain ⟨fallback, hfallback, htried⟩ := hstands.tried
    obtain ⟨-, rfl⟩ := Definition.mem_of_step? hfallback
    have honce := htried.concluded
    rw [hzero] at honce
    exact ⟨honce, fun hstop => ⟨fun hnot => absurd (hcompleted hstop) hnot, honce⟩⟩

/-- If a step that has concluded is not to be taken, that was known by then. -/
def Foreseen (id : String) (r : Run σ) : Prop :=
  ∀ m ∈ r.session.journal, m.event.isConclusion id = true →
    id ∈ r.progress.untaken → id ∈ m.progress.untaken

theorem Turned.foreseen (h : Turned env d step r r' stop)
    (hself : ∀ context, ¬ step.Leaves context step.id) (honce : ConcludesOnce id r)
    (hr : Foreseen id r) : Foreseen id r' := by
  intro m hm hconclusion hid
  -- A step that has concluded before the turn is settled, so the turn does not mark it.
  have hbefore : m ∈ r.session.journal → id ∈ m.progress.untaken := by
    intro hold
    rcases h.mem_untaken hid with hin | ⟨hunsettled, -⟩
    · exact hr m hold hconclusion hin
    · exact absurd (honce.completed hold hconclusion)
        (Progress.not_completed_of_unsettled hunsettled)
  rcases h.journal hm with hold | hnew
  · exact hbefore hold
  rcases h.mem_untaken hid with hin | ⟨-, ⟨-, hpassed⟩ | hturns⟩
  · rw [hnew.progress]
    exact hin
  · exact absurd hpassed (Bool.eq_false_iff.mp hnew.taken)
  · cases h.involves id with
    | spared _ hspares => exact hbefore (hspares.mem_of_isConclusion hm hconclusion)
    | passed _ hunsettled hpassed hprogress hjournal => exact hbefore (hjournal ▸ hm)
    | executed _ hid hunsettled htaken hbegun htried hsettles =>
      subst hid
      exact absurd hturns.leaves (hself _)
    | stoodIn _ hne hstands hcompleted =>
      rw [hnew.progress, ← hstands.untaken]
      exact hid

/-! ## Targets of a single condition -/

/-- If a step is not taken, that is because a condition is not, or because the
condition has turned from the step. -/
def Traced (condition : Step) (target : String) (r : Run σ) : Prop :=
  target ∈ r.progress.untaken → condition.id ∈ r.progress.untaken ∨
    ∃ m ∈ r.session.journal, ∃ data, m.event = .concluded condition.id data (some target) ∧
      condition.Leaves m.progress.context target

theorem Turned.traced {condition target : Step} (h : Turned env d step r r' stop)
    (hstep : step ∈ d.steps) (hcondition : condition ∈ d.steps) (htarget : target ∈ d.steps)
    (hnodup : (d.steps.map Step.id).Nodup) (hdepends : condition.id ∈ target.dependsOn)
    (honly : ∀ other ∈ d.steps, target.id ∈ other.branches → other.id = condition.id)
    (hr : Traced condition target.id r) : Traced condition target.id r' := by
  have hbefore : target.id ∈ r.progress.untaken → condition.id ∈ r'.progress.untaken ∨
      ∃ m ∈ r'.session.journal, ∃ data, m.event = .concluded condition.id data (some target.id) ∧
        condition.Leaves m.progress.context target.id := by
    intro hin
    refine (hr hin).imp (fun hcondition => h.untaken_subset hcondition) ?_
    exact fun ⟨m, hm, hleft⟩ => ⟨m, h.suffix.subset hm, hleft⟩
  intro hin
  rcases h.mem_untaken hin with hin | ⟨-, ⟨hid, hpassed⟩ | hturns⟩
  · exact hbefore hin
  · obtain rfl := List.inj_on_of_nodup_map hnodup htarget hstep hid
    rcases Progress.passesOver_iff.mp hpassed with hin | ⟨-, hall⟩
    · exact hbefore hin
    · exact Or.inl (h.untaken_subset (hall condition.id hdepends))
  · have hid := honly step hstep hturns.leaves.mem_branches
    obtain rfl := List.inj_on_of_nodup_map hnodup hcondition hstep hid.symm
    obtain ⟨m, hm, data, hevent, hmoment, -⟩ := hturns.concluded
    exact Or.inr ⟨m, hm, data, hevent, hmoment ▸ hturns.leaves⟩

/-- So a step that the condition selects while it is to be taken itself is to
be taken in the end. -/
theorem not_mem_untaken_of_selected {condition : Step} {target : String}
    (honce : timesConcluded r.session.journal condition.id ≤ 1)
    (hforeseen : Foreseen condition.id r) (htraced : Traced condition target r)
    (hbranches : condition.branches.Nodup) {m : Moment} (hm : m ∈ r.session.journal) {data : Json}
    {notTaken : Option String} (hevent : m.event = .concluded condition.id data notTaken)
    (hselected : condition.selection? m.progress.context = some target)
    (htaken : condition.id ∉ m.progress.untaken) : target ∉ r.progress.untaken := by
  have hconclusion : m.event.isConclusion condition.id = true := by
    rw [hevent]
    exact Event.isConclusion_concluded _ _ _
  intro hin
  rcases htraced hin with hcondition | ⟨m', hm', data', hevent', hleaves⟩
  · exact htaken (hforeseen m hm hconclusion hcondition)
  · have hconclusion' : m'.event.isConclusion condition.id = true := by
      rw [hevent']
      exact Event.isConclusion_concluded _ _ _
    obtain rfl := eq_of_timesConcluded_le_one honce hm' hm hconclusion' hconclusion
    exact hleaves.selection?_ne hbranches hselected

/-! ## Steps that are passed over at some point -/

/-- Steps that are passed over are not taken. -/
theorem skipped_subset_turns {steps : List Step}
    (hr : ∀ id, Skipped r.progress.entries id → id ∈ r.progress.untaken) :
    ∀ id, Skipped (r.turns env d steps).1.progress.entries id →
      id ∈ (r.turns env d steps).1.progress.untaken := by
  apply turns_invariant (P := fun p => ∀ id, Skipped p.entries id → id ∈ p.untaken) _ hr
  intro step _ r₁ r₂ stop hturned hbefore id hskipped
  rcases hturned.skipped hskipped with hskipped | ⟨-, -, -, hin⟩
  · exact hturned.untaken_subset (hbefore id hskipped)
  · exact hin

theorem skipped_of_insert {entries : Entries StepResult} {other : String} {entry : StepResult}
    (hentry : entry.status ≠ .skipped) (h : Skipped (entries.insert other entry) id) :
    Skipped entries id := by
  obtain ⟨found, hfound, hstatus⟩ := h
  refine ⟨found, Entries.get?_of_insert hfound ?_, hstatus⟩
  rintro rfl
  exact hentry hstatus

theorem Substituted.skipped {target : String} {value : Option (Except StepFault Json)}
    (h : Substituted env d step target r value r') (hskipped : Skipped r'.progress.entries id) :
    Skipped r.progress.entries id := by
  cases h with
  | reused | missing | outgrown | uncounted => exact hskipped
  | executed | failed =>
    apply skipped_of_insert _ hskipped
    nofun

/-- What is passed over at any point of a run is still not taken in the end. -/
theorem Passes.mem_untaken {start point : Run σ} {order : List Step}
    (h : Passes env d start order point)
    (hstart : ∀ id, Skipped start.progress.entries id → id ∈ start.progress.untaken)
    (hskipped : Skipped point.progress.entries id) :
    id ∈ (start.turns env d order).1.progress.untaken := by
  have hbetween : ∀ done rest, order = done ++ rest →
      Skipped (start.turns env d done).1.progress.entries id →
        id ∈ (start.turns env d order).1.progress.untaken := by
    intro done rest horder hdone
    have hin := skipped_subset_turns hstart id hdone
    rw [horder, turns_append_eq]
    rcases hturns : start.turns env d done with ⟨r, _ | stop⟩ <;> rw [hturns] at hin
    · apply turns_invariant (P := fun p => id ∈ p.untaken) _ hin
      exact fun step _ r₁ r₂ stop hturned hid => hturned.untaken_subset hid
    · exact hin
  cases h with
  | between done rest horder => exact hbetween done rest horder hskipped
  | within done rest step r failure session target horder hdone hlive hunsettled htaken hrun hfault
      hdecision =>
    have hbefore : Skipped r.progress.entries id :=
      (substituted env d step target (⟨r.progress, session⟩ : Run σ)).skipped hskipped
    apply hbetween done (step :: rest) horder
    rw [hdone]
    exact hbefore

/-- A step that is settled was passed over, unless it has been executed. -/
theorem Turned.skipped_or_executed (h : Turned env d step r r' stop)
    (hr : r.progress.isSettled id = true →
      Skipped r.progress.entries id ∨ Executed r.session.journal id)
    (hsettled : r'.progress.isSettled id = true) :
    Skipped r'.progress.entries id ∨ Executed r'.session.journal id := by
  cases h.involves id with
  | spared _ hspares =>
    rw [hspares.isSettled_eq] at hsettled
    apply (hr hsettled).imp hspares.skipped_iff.mpr
    exact fun ⟨m, hm, hevent⟩ => ⟨m, hspares.suffix.subset hm, hevent⟩
  | passed hid hunsettled hpassed hprogress hjournal =>
    rw [hprogress]
    exact Or.inl (Progress.skipped_passOver _ _)
  | executed _ hid hunsettled htaken hbegun htried hsettles =>
    obtain ⟨m, hm, hevent⟩ := hbegun
    exact Or.inr ⟨m, hm, Or.inl hevent⟩
  | stoodIn _ hne hstands hcompleted =>
    obtain ⟨m, hm, hevent, -⟩ := hstands.replaced
    exact Or.inr ⟨m, hm, Or.inr ⟨step.id, hevent⟩⟩

/-! ## Runs from the beginning -/

variable (env d) (executionId : String) (inputs : Entries Json) (clock : Clock) (world : σ)

theorem skipped_or_executed_turns {order : List Step}
    (hsettled : ((initial env d executionId inputs clock world).turns env d
      order).1.progress.isSettled id = true) :
    Skipped ((initial env d executionId inputs clock world).turns env d order).1.progress.entries
        id ∨
      Executed ((initial env d executionId inputs clock world).turns env d order).1.session.journal
        id := by
  apply turns_keep (P := fun r => r.progress.isSettled id = true →
    Skipped r.progress.entries id ∨ Executed r.session.journal id) _ _ hsettled
  · exact fun step _ r₁ r₂ stop hturned hbefore => hturned.skipped_or_executed hbefore
  · exact fun hsettled => absurd hsettled Bool.false_ne_true

variable {d}

theorem traced_turns {order : List Step} (hsound : d.Sound) (horder : ∀ s ∈ order, s ∈ d.steps)
    {condition target : Step} (hcondition : condition ∈ d.steps) (htarget : target ∈ d.steps)
    (hdepends : condition.id ∈ target.dependsOn)
    (honly : ∀ other ∈ d.steps, target.id ∈ other.branches → other.id = condition.id) :
    let ended := ((initial env d executionId inputs clock world).turns env d order).1
    timesConcluded ended.session.journal condition.id ≤ 1 ∧ Foreseen condition.id ended ∧
      Traced condition target.id ended := by
  apply (turns_course (P := fun r => r.progress.ShowsCompleted ∧ ConcludesOnce condition.id r ∧
      Foreseen condition.id r ∧ Traced condition target.id r)
    (Q := fun r => timesConcluded r.session.journal condition.id ≤ 1 ∧
      Foreseen condition.id r ∧ Traced condition target.id r) _ _ _).1
  · intro done step rest r₁ r₂ stop hsplit _ hturned ⟨hshows, honce, hforeseen, htraced⟩
    have hstep : step ∈ d.steps :=
      horder step (hsplit ▸ List.mem_append_right done List.mem_cons_self)
    obtain ⟨hcount, honce₂⟩ := hturned.concludesOnce hshows honce
    have hforeseen₂ := hturned.foreseen (hsound.not_leaves_self hstep) honce hforeseen
    have htraced₂ := hturned.traced hstep hcondition htarget hsound.nodup hdepends honly htraced
    exact ⟨⟨hcount, hforeseen₂, htraced₂⟩, fun hstop =>
      ⟨hturned.showsCompleted hshows, honce₂ hstop, hforeseen₂, htraced₂⟩⟩
  · exact ⟨Progress.showsCompleted_initial _, ⟨fun _ => rfl, Nat.zero_le _⟩, nofun, nofun⟩
  · exact ⟨Nat.zero_le _, nofun, nofun⟩

end Run

variable {σ : Type}

/-- Steps that are selected are not passed over. In every run of an accepted document, if a
condition whose branches differ concludes, selects a step that depends on it, and no other condition
has a branch to that step, then the step is not settled as passed over at any point of the run, and
if the run gets to its end the step has been executed. The condition must be one that is to be
taken, as it is at its own turn; in place of another step it may be executed although it is not. -/
theorem selected_never_skipped {document : Json} {d : Definition}
    (h : (Validation.analyze document).2 = some d) (env : Environment σ) (executionId : String)
    (inputs : Entries Json) (clock : Clock) (world : σ) :
    ∃ order, Plan.sequence d.steps = .ok order ∧ ∃ (r : Run σ) (stop : Option Stop),
      execute env d executionId inputs clock world = .ok (some (r.result d stop), r.session) ∧
        ∀ condition ∈ d.steps, ∀ step ∈ d.steps, condition.id ∈ step.dependsOn →
          condition.branches.Nodup →
          (∀ other ∈ d.steps, step.id ∈ other.branches → other.id = condition.id) →
          ∀ moment ∈ r.session.journal, ∀ data notTaken,
            moment.event = .concluded condition.id data notTaken →
            condition.selection? moment.progress.context = some step.id →
            condition.id ∉ moment.progress.untaken →
              (∀ point,
                (Run.initial env d executionId inputs clock world).Passes env d order point →
                  ¬ Skipped point.progress.entries step.id) ∧
              (stop = none → Executed r.session.journal step.id) := by
  have hsound := Definition.sound_of_accepted h
  obtain ⟨order, horder⟩ := hsound.exists_sequence
  have hplan := Plan.sequenced horder
  have hsteps : ∀ s ∈ order, s ∈ d.steps := fun s hs => hplan.perm.mem_iff.mp hs
  refine ⟨order, horder, _, _, Run.execute_of_accepted h horder env executionId inputs clock world,
    ?_⟩
  intro condition hcondition step hstep hdepends hbranches honly moment hmoment data notTaken hevent
    hselected htaken
  have hinitial : ∀ id, Skipped (Run.initial env d executionId inputs clock world).progress.entries
      id → id ∈ (Run.initial env d executionId inputs clock world).progress.untaken :=
    (Run.reasoned_initial env d executionId inputs clock world).skipped
  obtain ⟨honce, hforeseen, htraced⟩ := Run.traced_turns env executionId inputs clock world hsound
    hsteps hcondition hstep hdepends honly
  have huntaken := Run.not_mem_untaken_of_selected honce hforeseen htraced hbranches hmoment hevent
    hselected htaken
  have hnever : ∀ point,
      (Run.initial env d executionId inputs clock world).Passes env d order point →
        ¬ Skipped point.progress.entries step.id :=
    fun point hpoint hskipped => huntaken (hpoint.mem_untaken hinitial hskipped)
  refine ⟨hnever, fun hstop => ?_⟩
  have hsettled := Run.isSettled_turns hsteps (Prod.ext rfl hstop) step
    (hplan.perm.mem_iff.mpr hstep)
  apply (Run.skipped_or_executed_turns env d executionId inputs clock world hsettled).resolve_left
  exact hnever _ (.between order [] (List.append_nil order).symm)

theorem accepted_rescue :
    ∃ d, Definition.decoder (outline "rescue" rescueSteps) = .ok d ∧
      (Validation.analyze (outline "rescue" rescueSteps)).2 = some d := by
  obtain ⟨d, hdecoder⟩ : ∃ d, Definition.decoder (outline "rescue" rescueSteps) = .ok d := ⟨_, rfl⟩
  refine ⟨d, hdecoder, Validation.analyze_outline ?_ ?_ ?_ hdecoder⟩
  all_goals exact List.isEmpty_iff.mp (by decide +kernel)

/-- A condition that stands in for another step selects a step that is executed. -/
theorem selected_never_skipped_in_rescue :
    ∃ d, (Validation.analyze (outline "rescue" rescueSteps)).2 = some d ∧
      ∃ order, Plan.sequence d.steps = .ok order ∧ ∃ (r : Run Nat) (stop : Option Stop),
        execute calm d "exec" [] (.initial false none) 0 = .ok (some (r.result d stop), r.session) ∧
          (∀ point, (Run.initial calm d "exec" [] (.initial false none) 0).Passes calm d order
            point → ¬ Skipped point.progress.entries "accept") ∧
          (stop = none → Executed r.session.journal "accept") := by
  obtain ⟨d, hdecoder, haccepted⟩ := accepted_rescue
  have hsteps : (Definition.decoder (outline "rescue" rescueSteps)).toOption.map (fun d =>
      ((d.step? "choose").map fun condition => decide condition.branches.Nodup,
        (d.step? "accept").map Step.dependsOn,
        d.steps.all fun other => "accept" ∈ other.branches → other.id = "choose")) =
      some (some true, some ["choose"], true) := by decide +kernel
  have hcourse : (Definition.decoder (outline "rescue" rescueSteps)).toOption.bind (fun d =>
      (Run.ended? (execute calm d "exec" [] (.initial false none) 0)).map fun pair =>
        (d.step? "choose").bind fun condition => pair.2.journal[6]?.map fun m =>
          (m.event.words, condition.selection? m.progress.context,
            decide ("choose" ∈ m.progress.untaken))) =
      some (some (["conclude", "choose", "refuse"], some "accept", false)) := by decide +kernel
  rw [hdecoder] at hsteps
  simp only [Except.toOption, Option.map_some, Option.some.injEq, Prod.mk.injEq, List.all_eq_true,
    decide_eq_true_eq, Option.map_eq_some_iff] at hsteps
  obtain ⟨⟨condition, hchoose, hbranches⟩, ⟨step, haccept, hdependsOn⟩, honly⟩ := hsteps
  obtain ⟨result, session, hrun, hcourse⟩ := exists_run_of_decoder hdecoder hcourse
  simp only [hchoose, Option.bind_some, Option.map_eq_some_iff, Prod.mk.injEq,
    decide_eq_false_iff_not] at hcourse
  obtain ⟨moment, hmoment, hwords, hselected, htaken⟩ := hcourse
  obtain ⟨output, hevent⟩ := Event.exists_concluded_of_words hwords
  obtain ⟨hcondition, hcid⟩ := Definition.mem_of_step? hchoose
  obtain ⟨hstep, hsid⟩ := Definition.mem_of_step? haccept
  obtain ⟨order, horder, r, stop, hrun', hselection⟩ :=
    selected_never_skipped haccepted calm "exec" [] (.initial false none) 0
  cases hrun.symm.trans hrun'
  have hdepends : condition.id ∈ step.dependsOn := by
    rw [hdependsOn, hcid]
    exact List.mem_cons_self
  rw [← hcid, ← hsid] at honly
  have hselected' := hselection condition hcondition step hstep hdepends hbranches honly moment
    (List.mem_of_getElem? hmoment) output _ (hcid.symm ▸ hevent) (hsid.symm ▸ hselected)
    (hcid.symm ▸ htaken)
  rw [hsid] at hselected'
  exact ⟨d, haccepted, order, horder, r, stop, hrun', hselected'⟩

/-! ## Conditions with a single target -/

/-- The steps of a document in which both branches of a condition lead to the same step. -/
def junctionSteps : List Json := [
  .obj [("id", .str "choose"), ("type", .str "condition"),
    ("config",
      .obj [("condition", .str "true"), ("true_step", .str "go"), ("false_step", .str "go")])],
  .obj [("id", .str "go"), ("type", .str "end"), ("depends_on", .arr [.str "choose"])]]

/-- A step may be passed over although it is selected: `choose` selects `go` and turns from it. -/
theorem go_skipped_at_junction :
    ∃ d, (Validation.analyze (outline "junction" junctionSteps)).2 = some d ∧
      ∃ result session, execute calm d "exec" [] (.initial false none) 0 =
        .ok (some result, session) ∧
        result.selected? "choose" = some "go" ∧ Completed result.steps "choose" ∧
        ∃ step ∈ d.steps, step.id = "go" ∧ step.dependsOn = ["choose"] ∧
          (∀ other ∈ d.steps, step.id ∈ other.branches → other.id = "choose") ∧
          Skipped result.steps step.id := by
  obtain ⟨d, hdecoder⟩ :
      ∃ d, Definition.decoder (outline "junction" junctionSteps) = .ok d := ⟨_, rfl⟩
  have haccepted : (Validation.analyze (outline "junction" junctionSteps)).2 = some d := by
    apply Validation.analyze_outline _ _ _ hdecoder
    all_goals exact List.isEmpty_iff.mp (by decide +kernel)
  have hcourse : (Definition.decoder (outline "junction" junctionSteps)).toOption.bind (fun d =>
      (Run.ended? (execute calm d "exec" [] (.initial false none) 0)).map fun pair =>
        (pair.1.selected? "choose", (pair.1.steps.get? "choose").map StepResult.status,
          (d.step? "go").map Step.dependsOn,
          (d.steps.all fun other => "go" ∈ other.branches → other.id = "choose"),
          (pair.1.steps.get? "go").map StepResult.status)) =
      some (some "go", some .completed, some ["choose"], true, some .skipped) := by
    decide +kernel
  obtain ⟨result, session, hrun, hcourse⟩ := exists_run_of_decoder hdecoder hcourse
  simp only [Prod.mk.injEq, List.all_eq_true, decide_eq_true_eq] at hcourse
  obtain ⟨hselected, hcompleted, hstep, honly, hskipped⟩ := hcourse
  obtain ⟨step, hstep, hdependsOn⟩ := Option.map_eq_some_iff.mp hstep
  obtain ⟨hmem, hid⟩ := Definition.mem_of_step? hstep
  exact ⟨d, haccepted, result, session, hrun, hselected, Option.map_eq_some_iff.mp hcompleted, step,
    hmem, hid, hdependsOn, hid ▸ honly, hid ▸ Option.map_eq_some_iff.mp hskipped⟩

end Workflow
