import Workflow.Proofs.Run.Exclusion
import Workflow.Proofs.Run.Finality

/-!
# Why steps are passed over

A step is passed over because a condition has turned from it, or because everything that it depends
on is not taken. What is not taken was passed over itself; or it was executed all the same, in place
of a step that failed, and the steps that depend on it are passed over nevertheless.
-/

namespace Workflow

/-- A step that is not taken is executed in place of another. -/
def Recalled (journal : List Moment) (id : String) : Prop :=
  ∃ m ∈ journal, ∃ other, m.event = .replaced other id ∧ id ∈ m.progress.untaken

/-- A step is not taken, whatever has become of it since. -/
def Forsaken (journal : List Moment) (entries : Entries StepResult) (id : String) : Prop :=
  Skipped entries id ∨ Recalled journal id

theorem Progress.isSettled_of_skipped {p : Progress} {id : String} (h : Skipped p.entries id) :
    p.isSettled id = true := by
  obtain ⟨entry, hentry, -⟩ := h
  simp [isSettled, Entries.contains, hentry]

namespace Run

variable {σ : Type} {env : Environment σ} {d : Definition} {step : Step} {r r' : Run σ}
  {stop : Option Stop} {id : String}

/-! ## What turns add to the steps that are not taken -/

theorem Substituted.untaken {target : String} {value : Option (Except StepFault Json)}
    (h : Substituted env d step target r value r') :
    r'.progress.untaken = r.progress.untaken := by
  cases h <;> rfl

/-- A step concludes in its turn, and the branch that it does not take leads to another. -/
structure TurnsFrom (step : Step) (id : String) (r r' : Run σ) (stop : Option Stop) : Prop where
  leaves : step.Leaves r.progress.context id
  concluded : ∃ m ∈ r'.session.journal, ∃ data, m.event = .concluded step.id data (some id) ∧
    m.progress = r.progress ∧ (stop = none → ∃ retries,
      r'.progress.entries.get? step.id = some (.completed data retries none))

theorem turnsFrom_of_ok {success : Success} {session : Session σ} {p : Progress} {target : String}
    (hrun : r.attempts env step = (some (.ok success), session))
    (htarget : success.notTaken = some target) (hentry : stop = none → p.entries.get? step.id =
      some (.completed success.value success.retries none)) :
    TurnsFrom step target r ⟨p, session⟩ stop := by
  obtain ⟨calls, cancelled, -, hjournal⟩ := Attempt.journal_all_ok hrun
  have hconcluded : (⟨.concluded step.id success.value (some target), r.progress, cancelled⟩ :
      Moment) ∈ session.journal := by
    rw [hjournal, htarget]
    exact List.mem_cons_self
  constructor
  · exact Attempt.leaves_all hrun htarget
  · exact ⟨_, hconcluded, _, rfl, rfl, fun hstop => ⟨_, hentry hstop⟩⟩

/-- The execution of a step adds at most the step that it turns from. -/
theorem CarriedOut.untaken (h : CarriedOut env d step r r' stop) :
    ∃ notTaken, r'.progress.untaken = (r.progress.leave notTaken).untaken ∧
      ∀ target, notTaken = some target → TurnsFrom step target r r' stop := by
  cases h with
  | succeeded success session hrun hfits =>
    exact ⟨_, rfl, fun target htarget =>
      turnsFrom_of_ok hrun htarget fun _ => Entries.get?_insert_self _ _ _⟩
  | outgrown success session overflow hrun hoverflow =>
    exact ⟨_, rfl, fun target htarget => turnsFrom_of_ok hrun htarget nofun⟩
  | interrupted failure session hrun hcancelled => exact ⟨none, rfl, nofun⟩
  | aborted failure session hrun hlive hdecision => exact ⟨none, rfl, nofun⟩
  | skipped failure session hrun hlive hdecision => exact ⟨none, rfl, nofun⟩
  | replaced failure session target value r₁ hrun hlive hdecision hvalue hfits =>
    exact ⟨none, hvalue.untaken, nofun⟩
  | overfilled failure session target value r₁ overflow hrun hlive hdecision hvalue hoverflow =>
    exact ⟨none, hvalue.untaken, nofun⟩
  | unreplaced failure session target fault r₁ hrun hlive hdecision hvalue =>
    exact ⟨none, hvalue.untaken, nofun⟩
  | uncounted session hrun => exact ⟨none, rfl, nofun⟩
  | brokenOff failure session target r₁ hrun hlive hdecision hvalue =>
    exact ⟨none, hvalue.untaken, nofun⟩

theorem Turned.untaken_subset (h : Turned env d step r r' stop) :
    r.progress.untaken ⊆ r'.progress.untaken := by
  cases h with
  | cancelled hcancelled => exact List.Subset.refl _
  | settled hlive hsettled => exact List.Subset.refl _
  | passed hlive hunsettled hpassed => exact List.subset_cons_self _ _
  | carriedOut hlive hunsettled htaken r' stop hcarried =>
    obtain ⟨notTaken, huntaken, -⟩ := hcarried.untaken
    rw [huntaken]
    exact fun id hid => Progress.mem_untaken_leave.mpr (Or.inl hid)

/-- A turn adds only steps that are not settled: its own step if that is passed over, and the step
that it turns from. -/
theorem Turned.mem_untaken (h : Turned env d step r r' stop) (hid : id ∈ r'.progress.untaken) :
    id ∈ r.progress.untaken ∨ r.progress.isSettled id = false ∧
      (id = step.id ∧ r.progress.passesOver step = true ∨ TurnsFrom step id r r' stop) := by
  cases h with
  | cancelled hcancelled => exact Or.inl hid
  | settled hlive hsettled => exact Or.inl hid
  | passed hlive hunsettled hpassed =>
    rcases List.mem_cons.mp hid with rfl | hid
    · exact Or.inr ⟨hunsettled, Or.inl ⟨rfl, hpassed⟩⟩
    · exact Or.inl hid
  | carriedOut hlive hunsettled htaken r' stop hcarried =>
    obtain ⟨notTaken, huntaken, hturns⟩ := hcarried.untaken
    rw [huntaken] at hid
    apply (Progress.mem_untaken_leave.mp hid).imp_right
    intro ⟨htarget, hunsettled⟩
    have hturned := hturns id htarget
    exact ⟨hunsettled, Or.inr ⟨hturned.leaves, hturned.concluded⟩⟩

/-! ## What turns leave of the reasons -/

theorem Turned.suffix (h : Turned env d step r r' stop) :
    r.session.journal <:+ r'.session.journal := by
  cases h.involves step.id with
  | spared _ hspares => exact hspares.suffix
  | passed hid hunsettled hpassed hprogress hjournal => exact hjournal ▸ List.suffix_refl _
  | executed _ hid hunsettled htaken hbegun htried hsettles => exact htried.suffix
  | stoodIn _ hne hstands hcompleted => exact absurd rfl hne

/-- A step that is tried is not passed over then. -/
theorem Tried.skipped (h : Tried step r r') (hskipped : Skipped r'.progress.entries step.id) :
    Skipped r.progress.entries step.id := by
  obtain ⟨entry, hentry, hstatus⟩ := hskipped
  rcases h.entry with hsame | ⟨other, hother, hne⟩
  · exact ⟨entry, hsame.symm.trans hentry, hstatus⟩
  · obtain rfl := Option.some.inj (hother.symm.trans hentry)
    exact absurd hstatus hne

/-- Only its own turn has a step passed over. -/
theorem Turned.skipped (h : Turned env d step r r' stop)
    (hskipped : Skipped r'.progress.entries id) :
    Skipped r.progress.entries id ∨ id = step.id ∧ r.progress.isSettled id = false ∧
      r.progress.passesOver step = true ∧ id ∈ r'.progress.untaken := by
  cases h.involves id with
  | spared _ hspares =>
    exact Or.inl (hspares.skipped_iff.mp hskipped)
  | passed hid hunsettled hpassed hprogress hjournal =>
    refine Or.inr ⟨hid, hunsettled, hpassed, ?_⟩
    rw [hprogress]
    exact List.mem_cons_self
  | executed _ hid hunsettled htaken hbegun htried hsettles =>
    subst hid
    exact Or.inl (htried.skipped hskipped)
  | stoodIn _ hne hstands hcompleted =>
    obtain ⟨fallback, hfallback, htried⟩ := hstands.tried
    obtain ⟨-, rfl⟩ := Definition.mem_of_step? hfallback
    exact Or.inl (htried.skipped hskipped)

theorem Turned.rejects (h : Turned env d step r r' stop) (hshows : r.progress.ShowsCompleted)
    {condition : Step} (hrejects : Rejects r.session.journal r.progress.entries condition id) :
    Rejects r'.session.journal r'.progress.entries condition id := by
  obtain ⟨m, hm, data, retries, hevent, hleaves, hentry⟩ := hrejects
  have hspares := h.spares_of_completed hshows (completed_of_entry hentry)
  exact ⟨m, hspares.suffix.subset hm, data, retries, hevent, hleaves, hspares.entry.trans hentry⟩

/-- A step that is not taken is settled by being passed over or by standing in for another. -/
theorem Turned.forsaken (h : Turned env d step r r' stop) (hid : id ∈ r.progress.untaken)
    (hr : r.progress.isSettled id = true → Forsaken r.session.journal r.progress.entries id)
    (hsettled : r'.progress.isSettled id = true) :
    Forsaken r'.session.journal r'.progress.entries id := by
  cases h.involves id with
  | spared _ hspares =>
    rw [hspares.isSettled_eq] at hsettled
    apply (hr hsettled).imp hspares.skipped_iff.mpr
    exact fun ⟨m, hm, hrecalled⟩ => ⟨m, hspares.suffix.subset hm, hrecalled⟩
  | passed hstep hunsettled hpassed hprogress hjournal =>
    rw [hprogress]
    exact Or.inl (Progress.skipped_passOver _ _)
  | executed _ hstep hunsettled htaken hbegun htried hsettles =>
    subst hstep
    exact absurd hid (Progress.not_mem_untaken htaken)
  | stoodIn _ hne hstands hcompleted =>
    obtain ⟨m, hm, hevent, hmoment⟩ := hstands.replaced
    refine Or.inr ⟨m, hm, step.id, hevent, ?_⟩
    rw [hmoment]
    exact hid

/-! ## Reasons -/

/-- Why a step is passed over: a condition has turned from it, or all that it
depends on is not taken. -/
def Explained (d : Definition) (journal : List Moment) (entries : Entries StepResult)
    (step : Step) : Prop :=
  (∃ condition ∈ d.steps, Rejects journal entries condition step.id) ∨
    step.dependsOn ≠ [] ∧ ∀ dependency ∈ step.dependsOn, Forsaken journal entries dependency

/-- There is a reason for everything that is not taken at a point between turns. -/
structure Reasoned (d : Definition) (r : Run σ) : Prop where
  skipped : ∀ id, Skipped r.progress.entries id → id ∈ r.progress.untaken
  settled : ∀ id ∈ r.progress.untaken, r.progress.isSettled id = true →
    Forsaken r.session.journal r.progress.entries id
  waiting : ∀ id ∈ r.progress.untaken, r.progress.isSettled id = false →
    ∃ condition ∈ d.steps, Rejects r.session.journal r.progress.entries condition id
  explained : ∀ step ∈ d.steps, Skipped r.progress.entries step.id →
    Explained d r.session.journal r.progress.entries step

/-- Reasons last. -/
theorem Turned.explained_mono {other : Step} (h : Turned env d step r r' stop)
    (hstep : step ∈ d.steps) (hshows : r.progress.ShowsCompleted) (hr : Reasoned d r)
    (hother : Explained d r.session.journal r.progress.entries other) :
    Explained d r'.session.journal r'.progress.entries other := by
  refine hother.imp (fun ⟨condition, hcondition, hrejects⟩ => ?_) fun ⟨hne, hall⟩ => ?_
  · exact ⟨condition, hcondition, h.rejects hshows hrejects⟩
  · refine ⟨hne, fun dependency hdependency => ?_⟩
    rcases hall dependency hdependency with hskipped | ⟨m, hm, hrecalled⟩
    · exact h.forsaken (hr.skipped dependency hskipped) (fun _ => Or.inl hskipped)
        (h.isSettled_mono hstep (Progress.isSettled_of_skipped hskipped))
    · exact Or.inr ⟨m, h.suffix.subset hm, hrecalled⟩

/-- A turn passes over its step for a reason. -/
theorem Turned.explained (h : Turned env d step r r' stop) (hstep : step ∈ d.steps)
    (hnodup : (d.steps.map Step.id).Nodup) (hshows : r.progress.ShowsCompleted)
    (hready : ∀ dependency ∈ step.dependsOn, r.progress.isSettled dependency = true)
    (hr : Reasoned d r) :
    ∀ other ∈ d.steps, Skipped r'.progress.entries other.id →
      Explained d r'.session.journal r'.progress.entries other := by
  intro other hother hskipped
  apply h.explained_mono hstep hshows hr
  rcases h.skipped hskipped with hbefore | ⟨hid, hunsettled, hpassed, -⟩
  · exact hr.explained other hother hbefore
  · obtain rfl := List.inj_on_of_nodup_map hnodup hother hstep hid
    rcases Progress.passesOver_iff.mp hpassed with hin | ⟨hne, hall⟩
    · exact Or.inl (hr.waiting other.id hin hunsettled)
    · exact Or.inr ⟨hne, fun dependency hdependency =>
        hr.settled dependency (hall dependency hdependency) (hready dependency hdependency)⟩

theorem Turned.reasoned (h : Turned env d step r r' none) (hstep : step ∈ d.steps)
    (hnodup : (d.steps.map Step.id).Nodup)
    (hself : ∀ context, ¬ step.Leaves context step.id) (hshows : r.progress.ShowsCompleted)
    (hready : ∀ dependency ∈ step.dependsOn, r.progress.isSettled dependency = true)
    (hr : Reasoned d r) : Reasoned d r' := by
  constructor
  case skipped =>
    intro id hskipped
    rcases h.skipped hskipped with hbefore | ⟨-, -, -, hin⟩
    · exact h.untaken_subset (hr.skipped id hbefore)
    · exact hin
  case settled =>
    intro id hid hsettled
    by_cases hin : id ∈ r.progress.untaken
    · exact h.forsaken hin (hr.settled id hin) hsettled
    · obtain ⟨hunsettled, hnew⟩ := (h.mem_untaken hid).resolve_left hin
      cases h.involves id with
      | spared _ hspares =>
        rw [hspares.isSettled_eq, hunsettled] at hsettled
        cases hsettled
      | passed hstep hunsettled hpassed hprogress hjournal =>
        rw [hprogress]
        exact Or.inl (Progress.skipped_passOver _ _)
      | executed _ hstep hunsettled htaken hbegun htried hsettles =>
        subst hstep
        rcases hnew with ⟨-, hpassed⟩ | hturns
        · exact absurd hpassed (Bool.eq_false_iff.mp htaken)
        · exact absurd hturns.leaves (hself _)
      | stoodIn _ hne hstands hcompleted => exact absurd (hstands.untaken ▸ hid) hin
  case waiting =>
    intro id hid hunsettled
    have hbefore : r.progress.isSettled id = false := by
      rw [← Bool.not_eq_true]
      intro hsettled
      exact absurd (h.isSettled_mono hstep hsettled) (Bool.eq_false_iff.mp hunsettled)
    rcases h.mem_untaken hid with hin | ⟨-, ⟨rfl, -⟩ | hturns⟩
    · obtain ⟨condition, hcondition, hrejects⟩ := hr.waiting id hin hbefore
      exact ⟨condition, hcondition, h.rejects hshows hrejects⟩
    · exact absurd h.isSettled_self (Bool.eq_false_iff.mp hunsettled)
    · obtain ⟨m, hm, data, hevent, hmoment, hentry⟩ := hturns.concluded
      obtain ⟨retries, hentry⟩ := hentry rfl
      exact ⟨step, hstep, m, hm, data, retries, hevent, hmoment ▸ hturns.leaves, hentry⟩
  case explained => exact h.explained hstep hnodup hshows hready hr

theorem reasoned_initial (env : Environment σ) (d : Definition) (executionId : String)
    (inputs : Entries Json) (clock : Clock) (world : σ) :
    Reasoned d (initial env d executionId inputs clock world) := by
  have hnone : ∀ id, ¬ Skipped ([] : Entries StepResult) id := by
    rintro id ⟨entry, hentry, -⟩
    cases hentry
  exact ⟨fun id hskipped => absurd hskipped (hnone id), nofun, nofun,
    fun step _ hskipped => absurd hskipped (hnone step.id)⟩

end Run

/-- No step of an accepted document turns from itself. -/
theorem Definition.Sound.not_leaves_self {d : Definition} (h : d.Sound) {step : Step}
    (hstep : step ∈ d.steps) (context : Context) : ¬ step.Leaves context step.id := by
  rintro ⟨config, verdict, hconfig, -, htarget⟩
  have hother := h.branches step hstep config hconfig step.id
  cases verdict with
  | false => exact (hother (Or.inl htarget)).2 rfl
  | true => exact (hother (Or.inr htarget)).2 rfl

variable {σ : Type}

/-- In every run of an accepted document a step is passed over for a reason: a condition has
completed and turned from it, or it depends on others, each of which was passed over itself or is
executed in place of another step though it was not to be taken. -/
theorem skipped_for_reason {document : Json} {d : Definition}
    (h : (Validation.analyze document).2 = some d) (env : Environment σ) (executionId : String)
    (inputs : Entries Json) (clock : Clock) (world : σ) :
    ∃ result session, execute env d executionId inputs clock world = .ok (some result, session) ∧
      ∀ step ∈ d.steps, Skipped result.steps step.id →
        (∃ condition ∈ d.steps, Rejects session.journal result.steps condition step.id) ∨
          step.dependsOn ≠ [] ∧ ∀ dependency ∈ step.dependsOn,
            Skipped result.steps dependency ∨ Recalled session.journal dependency := by
  have hsound := Definition.sound_of_accepted h
  obtain ⟨order, horder⟩ := hsound.exists_sequence
  have hplan := Plan.sequenced horder
  have hinitial := Run.reasoned_initial env d executionId inputs clock world
  have hshows : (Run.initial env d executionId inputs clock world).progress.ShowsCompleted :=
    Progress.showsCompleted_initial _
  refine ⟨_, _, Run.execute_of_accepted h horder env executionId inputs clock world, ?_⟩
  apply (Run.turns_course (P := fun r => Run.Reasoned d r ∧ r.progress.ShowsCompleted)
    (Q := fun r => ∀ step ∈ d.steps, Skipped r.progress.entries step.id →
      Run.Explained d r.session.journal r.progress.entries step) _ ⟨hinitial, hshows⟩
      hinitial.explained).1
  intro done step rest r₁ r₂ stop hsplit hdone hturned ⟨hreasoned, hshows₁⟩
  have hstep : step ∈ d.steps :=
    hplan.perm.mem_iff.mp (hsplit ▸ List.mem_append_right done List.mem_cons_self)
  have hready : ∀ dependency ∈ step.dependsOn, r₁.progress.isSettled dependency = true := by
    intro dependency hdependency
    obtain ⟨entry, hentry, -⟩ :=
      Run.settled_before_turn executionId inputs clock world hplan hsplit hdone hdependency
    simp [Progress.isSettled, Entries.contains, hentry]
  refine ⟨hturned.explained hstep hsound.nodup hshows₁ hready hreasoned, fun hstop => ?_⟩
  subst hstop
  exact ⟨hturned.reasoned hstep hsound.nodup (hsound.not_leaves_self hstep) hshows₁ hready
    hreasoned, hturned.showsCompleted hshows₁⟩

/-! ## Steps that are recalled -/

/-- The steps of a document in which a branch that is not taken stands in for a step that fails, and
a step follows on it. -/
def recallSteps : List Json := [
  .obj [("id", .str "gate"), ("type", .str "condition"),
    ("config",
      .obj [("condition", .str "true"), ("true_step", .str "ask"), ("false_step", .str "backup")])],
  .obj [("id", .str "ask"), ("type", .str "code"), ("depends_on", .arr [.str "gate"]),
    ("config", .obj [("language", .str "python3"), ("code", .str "pass")]),
    ("error_handling", .obj [("on_error", .str "fallback"), ("fallback_step", .str "backup")])],
  .obj [("id", .str "backup"), ("type", .str "end"), ("depends_on", .arr [.str "gate"])],
  .obj [("id", .str "follow"), ("type", .str "end"), ("depends_on", .arr [.str "backup"])]]

theorem accepted_recall :
    ∃ d, Definition.decoder (outline "recall" recallSteps) = .ok d ∧
      (Validation.analyze (outline "recall" recallSteps)).2 = some d := by
  obtain ⟨d, hdecoder⟩ : ∃ d, Definition.decoder (outline "recall" recallSteps) = .ok d := ⟨_, rfl⟩
  refine ⟨d, hdecoder, Validation.analyze_outline ?_ ?_ ?_ hdecoder⟩
  all_goals exact List.isEmpty_iff.mp (by decide +kernel)

theorem skipped_for_reason_in_recall :
    ∃ d, (Validation.analyze (outline "recall" recallSteps)).2 = some d ∧
      ∃ result session,
        execute calm d "exec" [] (.initial false none) 0 = .ok (some result, session) ∧
        (∃ step ∈ d.steps, Skipped result.steps step.id) ∧
        ∀ step ∈ d.steps, Skipped result.steps step.id →
          (∃ condition ∈ d.steps, Rejects session.journal result.steps condition step.id) ∨
            step.dependsOn ≠ [] ∧ ∀ dependency ∈ step.dependsOn,
              Skipped result.steps dependency ∨ Recalled session.journal dependency := by
  obtain ⟨d, hdecoder, haccepted⟩ := accepted_recall
  have hcourse : (Definition.decoder (outline "recall" recallSteps)).toOption.bind (fun d =>
      (Run.ended? (execute calm d "exec" [] (.initial false none) 0)).map fun pair =>
        ((d.step? "follow").map Step.id, (pair.1.steps.get? "follow").map StepResult.status)) =
      some (some "follow", some .skipped) := by decide +kernel
  obtain ⟨result, session, hrun, hcourse⟩ := exists_run_of_decoder hdecoder hcourse
  obtain ⟨hstep, hskipped⟩ := Prod.mk.inj hcourse
  obtain ⟨step, hstep, hid⟩ := Option.map_eq_some_iff.mp hstep
  have hfollow : Skipped result.steps step.id := hid ▸ Option.map_eq_some_iff.mp hskipped
  obtain ⟨other, session', hrun', hreasons⟩ :=
    skipped_for_reason haccepted calm "exec" [] (.initial false none) 0
  cases hrun.symm.trans hrun'
  exact ⟨d, haccepted, result, session, hrun,
    ⟨step, (Definition.mem_of_step? hstep).1, hfollow⟩, hreasons⟩

/-- A step may be passed over although all that it depends on has completed: `follow` depends on
`backup` only, which completes in place of `ask`, and no branch leads to it. -/
theorem follow_skipped_after_recall :
    ∃ d, (Validation.analyze (outline "recall" recallSteps)).2 = some d ∧
      ∃ result session,
        execute calm d "exec" [] (.initial false none) 0 = .ok (some result, session) ∧
        ∃ step ∈ d.steps, step.dependsOn = ["backup"] ∧ Skipped result.steps step.id ∧
          Completed result.steps "backup" ∧ ∀ condition ∈ d.steps,
            step.id ∉ condition.branches := by
  obtain ⟨d, hdecoder, haccepted⟩ := accepted_recall
  have hcourse : (Definition.decoder (outline "recall" recallSteps)).toOption.bind (fun d =>
      (Run.ended? (execute calm d "exec" [] (.initial false none) 0)).map fun pair =>
        ((d.step? "follow").map Step.dependsOn,
          (pair.1.steps.get? "follow").map StepResult.status,
          (pair.1.steps.get? "backup").map StepResult.status,
          d.steps.all fun condition => "follow" ∉ condition.branches)) =
      some (some ["backup"], some .skipped, some .completed, true) := by decide +kernel
  obtain ⟨result, session, hrun, hcourse⟩ := exists_run_of_decoder hdecoder hcourse
  simp only [Prod.mk.injEq, List.all_eq_true, decide_eq_true_eq] at hcourse
  obtain ⟨hstep, hskipped, hcompleted, hbranches⟩ := hcourse
  obtain ⟨step, hstep, hdependsOn⟩ := Option.map_eq_some_iff.mp hstep
  obtain ⟨hmem, hid⟩ := Definition.mem_of_step? hstep
  exact ⟨d, haccepted, result, session, hrun, step, hmem, hdependsOn,
    hid ▸ Option.map_eq_some_iff.mp hskipped, Option.map_eq_some_iff.mp hcompleted, hid ▸ hbranches⟩

end Workflow
