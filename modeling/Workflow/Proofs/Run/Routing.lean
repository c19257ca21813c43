import Mathlib.Data.List.Induction
import Workflow.Proofs.Run.Conclusion
import Workflow.Proofs.Run.Settlement

/-!
# Branches that are not taken

In a run without fallbacks a step is passed over exactly if a condition has turned from it before
its turn, or everything it depends on was passed over. Every other step begins when it is its turn.
-/

namespace Workflow

/-- The step that an event is about. -/
def Event.step : Event → String
  | begun step => step
  | replaced step _ => step
  | called step => step
  | concluded step _ _ => step

def Skipped (entries : Entries StepResult) (id : String) : Prop :=
  ∃ entry, entries.get? id = some entry ∧ entry.status = .skipped

/-- A condition step has completed at its turn, and by its verdict there the branch that leads to a
target is not taken. -/
def Rejects (journal : List Moment) (entries : Entries StepResult) (step : Step) (target : String) :
    Prop :=
  ∃ moment ∈ journal, ∃ data retries,
    moment.event = .concluded step.id data (some target) ∧
      step.Leaves moment.progress.context target ∧
      entries.get? step.id = some (.completed data retries none)

/-- A step that neither falls back on another step nor chooses whether it is taken itself. -/
structure Step.Direct (step : Step) : Prop where
  policy : step.onError ≠ .fallback
  branches : ∀ config, step.config = .condition config →
    config.trueStep ≠ some step.id ∧ config.falseStep ≠ some step.id

theorem Step.Direct.decision_ne {step : Step} (h : step.Direct) (target : String) :
    Policy.decision step ≠ .fallback target := by
  intro hdecision
  apply h.policy
  unfold Policy.decision at hdecision
  split at hdecision
  · cases hdecision
  · next heq => simp [Step.onError, heq]
  · cases hdecision

theorem Step.Direct.not_leaves_self {step : Step} (h : step.Direct) (context : Context) :
    ¬ step.Leaves context step.id := by
  rintro ⟨config, verdict, hconfig, -, htarget⟩
  cases verdict with
  | false => exact (h.branches config hconfig).1 htarget
  | true => exact (h.branches config hconfig).2 htarget

theorem Progress.passesOver_iff {p : Progress} {step : Step} :
    p.passesOver step = true ↔ step.id ∈ p.untaken ∨
      step.dependsOn ≠ [] ∧ ∀ dependency ∈ step.dependsOn, dependency ∈ p.untaken := by
  simp [passesOver]

theorem Progress.not_mem_untaken {p : Progress} {step : Step} (h : p.passesOver step = false) :
    step.id ∉ p.untaken := by
  intro hin
  rw [passesOver_iff.mpr (Or.inl hin)] at h
  cases h

theorem Progress.mem_untaken_leave {p : Progress} {target : Option String} {id : String} :
    id ∈ (p.leave target).untaken ↔
      id ∈ p.untaken ∨ target = some id ∧ p.isSettled id = false := by
  cases target with
  | none => simp [leave]
  | some target =>
    rw [leave]
    split
    · next hsettled =>
      constructor
      · exact Or.inl
      · rintro (hid | ⟨⟨⟩, hunsettled⟩)
        · exact hid
        · rw [hsettled] at hunsettled
          cases hunsettled
    · next hunsettled =>
      rw [Bool.not_eq_true] at hunsettled
      rw [List.mem_cons, Option.some_inj]
      constructor
      · rintro (rfl | hid)
        · exact Or.inr ⟨rfl, hunsettled⟩
        · exact Or.inl hid
      · rintro (hid | ⟨rfl, -⟩)
        · exact Or.inr hid
        · exact Or.inl rfl

namespace Run

variable {σ : Type} {env : Environment σ} {d : Definition} {step : Step} {r r' : Run σ}

/-- What the turn of a direct step can do that does not stop the run, and what it notes. -/
inductive DirectTurn (step : Step) (r : Run σ) : Run σ → Prop
  | settled (session : Session σ) (hjournal : session.journal = r.session.journal)
      (hsettled : r.progress.isSettled step.id = true) : DirectTurn step r ⟨r.progress, session⟩
  | passed (session : Session σ) (hjournal : session.journal = r.session.journal)
      (hpassed : r.progress.passesOver step = true) :
      DirectTurn step r ⟨r.progress.passOver step.id, session⟩
  | succeeded (success : Success) (session : Session σ) (calls : List Moment)
      (concluded begun : Bool) (htaken : r.progress.passesOver step = false)
      (hcalls : Attempt.Calls step r.progress calls)
      (hleaves : ∀ target, success.notTaken = some target →
        step.Leaves r.progress.context target)
      (hjournal : session.journal =
        ⟨.concluded step.id success.value success.notTaken, r.progress, concluded⟩ ::
          (calls ++ ⟨.begun step.id, r.progress, begun⟩ :: r.session.journal)) :
      DirectTurn step r ⟨(r.progress.leave success.notTaken).record step.id success.value
        (.completed success.value success.retries none), session⟩
  | failed (failure : Failure) (session : Session σ) (calls : List Moment) (begun : Bool)
      (htaken : r.progress.passesOver step = false) (hcalls : Attempt.Calls step r.progress calls)
      (hjournal : session.journal =
        calls ++ ⟨.begun step.id, r.progress, begun⟩ :: r.session.journal) :
      DirectTurn step r ⟨r.progress.settle step.id (Run.failed failure), session⟩

theorem Turned.directTurn (hdirect : step.Direct) (h : Turned env d step r r' none) :
    DirectTurn step r r' := by
  cases h with
  | settled hlive hsettled => exact .settled _ rfl hsettled
  | passed hlive hunsettled hpassed => exact .passed _ rfl hpassed
  | carriedOut hlive hunsettled htaken r' stop hcarried =>
    cases hcarried with
    | succeeded success session hrun hfits =>
      obtain ⟨calls, concluded, hcalls, hjournal⟩ := Attempt.journal_all_ok hrun
      exact .succeeded success session calls concluded _ htaken hcalls
        (fun target htarget => Attempt.leaves_all hrun htarget) hjournal
    | skipped failure session hrun hlive hdecision =>
      obtain ⟨calls, hcalls, hjournal⟩ := Attempt.journal_all_of_not_ok hrun nofun
      exact .failed failure session calls _ htaken hcalls hjournal
    | replaced failure session target value r' hrun hlive hdecision hsubstituted hfits =>
      exact absurd hdecision (hdirect.decision_ne target)

/-! ## What turns leave alone -/

/-- Nothing has become of the step with an id between two moments of a run. -/
structure Keeps (id : String) (r r' : Run σ) : Prop where
  entry : r'.progress.entries.get? id = r.progress.entries.get? id
  noted : ∀ m : Moment, m.event.step = id → (m ∈ r'.session.journal ↔ m ∈ r.session.journal)

theorem Keeps.refl (id : String) (r : Run σ) : Keeps id r r :=
  ⟨rfl, fun _ _ => Iff.rfl⟩

theorem Keeps.trans {id : String} {r₁ r₂ r₃ : Run σ} (h₁ : Keeps id r₁ r₂) (h₂ : Keeps id r₂ r₃) :
    Keeps id r₁ r₃ :=
  ⟨h₂.entry.trans h₁.entry, fun m hm => (h₂.noted m hm).trans (h₁.noted m hm)⟩

theorem Keeps.skipped_iff {id : String} (h : Keeps id r r') :
    Skipped r'.progress.entries id ↔ Skipped r.progress.entries id := by
  rw [Skipped, Skipped, h.entry]

theorem Keeps.rejects_iff {target : String} (h : Keeps step.id r r') :
    Rejects r'.session.journal r'.progress.entries step target ↔
      Rejects r.session.journal r.progress.entries step target := by
  have hnoted : ∀ (moment : Moment) {data : Json},
      moment.event = .concluded step.id data (some target) →
        (moment ∈ r'.session.journal ↔ moment ∈ r.session.journal) :=
    fun moment _ hevent => h.noted moment (by rw [hevent, Event.step])
  rw [Rejects, Rejects, h.entry]
  constructor
  · rintro ⟨moment, hmoment, data, retries, hevent, hrest⟩
    exact ⟨moment, (hnoted moment hevent).mp hmoment, data, retries, hevent, hrest⟩
  · rintro ⟨moment, hmoment, data, retries, hevent, hrest⟩
    exact ⟨moment, (hnoted moment hevent).mpr hmoment, data, retries, hevent, hrest⟩

/-- All that is noted in the turn of a direct step is about the step. -/
theorem DirectTurn.noted (h : DirectTurn step r r') :
    ∃ noted, r'.session.journal = noted ++ r.session.journal ∧
      ∀ m ∈ noted, m.event.step = step.id := by
  have hcalled : ∀ {calls : List Moment}, Attempt.Calls step r.progress calls →
      ∀ m ∈ calls, m.event.step = step.id := by
    intro calls hcalls m hm
    rw [(hcalls m hm).1, Event.step]
  cases h with
  | settled session hjournal hsettled => exact ⟨[], hjournal, by simp⟩
  | passed session hjournal hpassed => exact ⟨[], hjournal, by simp⟩
  | succeeded success session calls concluded begun htaken hcalls hleaves hjournal =>
    refine ⟨⟨.concluded step.id success.value success.notTaken, r.progress, concluded⟩ ::
      (calls ++ [⟨.begun step.id, r.progress, begun⟩]), ?_, ?_⟩
    · rw [hjournal, List.cons_append, ← List.append_cons]
    · rw [List.forall_mem_cons, List.forall_mem_append, List.forall_mem_singleton]
      exact ⟨rfl, hcalled hcalls, rfl⟩
  | failed failure session calls begun htaken hcalls hjournal =>
    refine ⟨_, hjournal.trans (List.append_cons calls _ _), ?_⟩
    rw [List.forall_mem_append, List.forall_mem_singleton]
    exact ⟨hcalled hcalls, rfl⟩

/-- While a direct step takes its turn, nothing becomes of the others. -/
theorem DirectTurn.keeps (h : DirectTurn step r r') {id : String} (hne : id ≠ step.id) :
    Keeps id r r' := by
  constructor
  case entry =>
    cases h with
    | settled session hjournal hsettled => rfl
    | passed session hjournal hpassed => exact Entries.get?_insert_of_ne _ _ hne
    | succeeded success session calls concluded begun htaken hcalls hleaves hjournal =>
      rw [Progress.entries_record, Entries.get?_insert_of_ne _ _ hne, Progress.entries_leave]
    | failed failure session calls begun htaken hcalls hjournal =>
      exact Entries.get?_insert_of_ne _ _ hne
  case noted =>
    obtain ⟨noted, hjournal, hstep⟩ := h.noted
    intro m hm
    rw [hjournal, List.mem_append]
    refine or_iff_right fun hnew => hne ?_
    rw [← hm, hstep m hnew]

theorem keeps_turns {steps : List Step} (hdirect : ∀ s ∈ steps, s.Direct)
    (h : r.turns env d steps = (r', none)) {id : String} (hid : id ∉ steps.map Step.id) :
    Keeps id r r' := by
  induction steps generalizing r with
  | nil =>
    cases h
    exact Keeps.refl id _
  | cons head tail ih =>
    rw [List.map_cons, List.mem_cons, not_or] at hid
    rw [List.forall_mem_cons] at hdirect
    obtain ⟨r₁, hturned, htail⟩ := turned_of_turns h
    exact ((hturned.directTurn hdirect.1).keeps hid.1).trans (ih hdirect.2 htail hid.2)

/-! ## Which steps are not taken -/

/-- What is not taken after the turns of some steps: those of them that were passed over, and of the
others those that a condition among them has turned from. -/
structure Routed (done : List Step) (r : Run σ) : Prop where
  settled : ∀ id, r.progress.isSettled id = true ↔ id ∈ done.map Step.id
  skipped : ∀ step ∈ done, step.id ∈ r.progress.untaken ↔ Skipped r.progress.entries step.id
  rejected : ∀ id ∉ done.map Step.id, (id ∈ r.progress.untaken ↔
    ∃ step ∈ done, Rejects r.session.journal r.progress.entries step id)
  noted : ∀ m ∈ r.session.journal, m.event.step ∈ done.map Step.id

theorem Routed.noted_ne {done : List Step} (hr : Routed done r)
    (hnew : step.id ∉ done.map Step.id) : ∀ m ∈ r.session.journal, m.event.step ≠ step.id :=
  fun m hm heq => hnew (heq ▸ hr.noted m hm)

/-- What the turn of a step adds to the steps that are not taken. -/
theorem Routed.snoc {done : List Step} (hr : Routed done r) (hkeeps : ∀ id ≠ step.id, Keeps id r r')
    (hnew : step.id ∉ done.map Step.id)
    (hsettled : ∀ id, r'.progress.isSettled id = true ↔
      id = step.id ∨ r.progress.isSettled id = true)
    (hskipped : step.id ∈ r'.progress.untaken ↔ Skipped r'.progress.entries step.id)
    (huntaken : ∀ id ≠ step.id, id ∈ r'.progress.untaken ↔ id ∈ r.progress.untaken ∨
      r.progress.isSettled id = false ∧
        Rejects r'.session.journal r'.progress.entries step id) :
    Routed (done ++ [step]) r' := by
  have hids : ∀ id, id ∈ (done ++ [step]).map Step.id ↔ id ∈ done.map Step.id ∨ id = step.id := by
    intro id
    rw [List.map_append, List.mem_append, List.map_singleton, List.mem_singleton]
  have hne : ∀ other ∈ done, other.id ≠ step.id := by
    intro other hother heq
    exact hnew (heq ▸ List.mem_map_of_mem hother)
  constructor
  case settled =>
    intro id
    rw [hsettled, hr.settled, hids, or_comm]
  case skipped =>
    intro other hother
    rcases List.mem_append.mp hother with hother | hother
    · have hdone : r.progress.isSettled other.id = true :=
        (hr.settled other.id).mpr (List.mem_map_of_mem hother)
      rw [huntaken other.id (hne other hother), (hkeeps other.id (hne other hother)).skipped_iff,
        hr.skipped other hother, hdone]
      simp
    · obtain rfl := List.mem_singleton.mp hother
      exact hskipped
  case rejected =>
    intro id hid
    rw [hids, not_or] at hid
    have hunsettled : r.progress.isSettled id = false := by
      rw [← Bool.not_eq_true, hr.settled]
      exact hid.1
    rw [huntaken id hid.2, hr.rejected id hid.1, and_iff_right hunsettled]
    constructor
    · rintro (⟨other, hother, hrejects⟩ | hrejects)
      · exact ⟨other, List.mem_append_left _ hother,
          (hkeeps other.id (hne other hother)).rejects_iff.mpr hrejects⟩
      · exact ⟨step, List.mem_append_right _ List.mem_cons_self, hrejects⟩
    · rintro ⟨other, hother, hrejects⟩
      rcases List.mem_append.mp hother with hother | hother
      · exact Or.inl ⟨other, hother,
          (hkeeps other.id (hne other hother)).rejects_iff.mp hrejects⟩
      · obtain rfl := List.mem_singleton.mp hother
        exact Or.inr hrejects
  case noted =>
    intro m hm
    rw [hids]
    by_cases hid : m.event.step = step.id
    · exact Or.inr hid
    · exact Or.inl (hr.noted m (((hkeeps _ hid).noted m rfl).mp hm))

theorem not_rejects_of_entry {journal : List Moment} {entries : Entries StepResult}
    {entry : StepResult} {target : String} (hentry : entries.get? step.id = some entry)
    (hstatus : entry.status ≠ .completed) : ¬ Rejects journal entries step target := by
  rintro ⟨moment, -, data, retries, -, -, hcompleted⟩
  rw [hentry] at hcompleted
  cases hcompleted
  exact hstatus rfl

theorem not_skipped_of_entry {entries : Entries StepResult} {entry : StepResult} {id : String}
    (hentry : entries.get? id = some entry) (hstatus : entry.status ≠ .skipped) :
    ¬ Skipped entries id := by
  rintro ⟨other, hother, hskipped⟩
  rw [hentry] at hother
  cases hother
  exact hstatus hskipped

/-- A step that has completed in its only turn rejects what the conclusion of the turn leaves. -/
theorem rejects_iff_of_concluded {past calls : List Moment} {p : Progress} {value : Json}
    {notTaken : Option String} {entries : Entries StepResult} {retries : Nat}
    {concluded begun : Bool}
    (hentry : entries.get? step.id = some (.completed value retries none))
    (hpast : ∀ m ∈ past, m.event.step ≠ step.id) (hcalls : Attempt.Calls step p calls)
    (hleaves : ∀ target, notTaken = some target → step.Leaves p.context target) {target : String} :
    Rejects (⟨.concluded step.id value notTaken, p, concluded⟩ ::
      (calls ++ ⟨.begun step.id, p, begun⟩ :: past)) entries step target ↔
      notTaken = some target := by
  constructor
  · rintro ⟨m, hm, data, retries, hevent, -⟩
    rw [List.mem_cons, List.mem_append, List.mem_cons] at hm
    rcases hm with rfl | hm | rfl | hm
    · exact (Event.concluded.inj hevent).2.2
    · rw [(hcalls m hm).1] at hevent
      cases hevent
    · cases hevent
    · exact absurd (by rw [hevent, Event.step]) (hpast m hm)
  · intro htarget
    exact ⟨_, List.mem_cons_self, _, _, by rw [htarget], hleaves target htarget, hentry⟩

/-- The turn of a direct step passes over it or adds what its verdict leaves. -/
theorem DirectTurn.routed (h : DirectTurn step r r') (hdirect : step.Direct) {done : List Step}
    (hnew : step.id ∉ done.map Step.id) (hr : Routed done r) : Routed (done ++ [step]) r' := by
  have hunsettled : r.progress.isSettled step.id = false := by
    rw [← Bool.not_eq_true, hr.settled]
    exact hnew
  have hkeeps : ∀ id ≠ step.id, Keeps id r r' := fun id hid => h.keeps hid
  cases h with
  | settled session hjournal hsettled =>
    rw [hunsettled] at hsettled
    cases hsettled
  | passed session hjournal hpassed =>
    have hentry : (r.progress.passOver step.id).entries.get? step.id =
        some (.skipped "branch not taken") := Entries.get?_insert_self _ _ _
    refine hr.snoc hkeeps hnew ?_ ?_ ?_
    · intro id
      simp
    · exact iff_of_true List.mem_cons_self ⟨_, hentry, rfl⟩
    · intro id hid
      have hnone : ¬ Rejects session.journal _ step id := not_rejects_of_entry hentry nofun
      rw [or_iff_left fun h => hnone h.2]
      exact (List.mem_cons.trans (or_iff_right hid))
  | succeeded success session calls concluded begun htaken hcalls hleaves hjournal =>
    have hentry : ((r.progress.leave success.notTaken).record step.id success.value
        (.completed success.value success.retries none)).entries.get? step.id =
          some (.completed success.value success.retries none) := Entries.get?_insert_self _ _ _
    have hself : success.notTaken ≠ some step.id := fun hself =>
      hdirect.not_leaves_self _ (hleaves step.id hself)
    have hmem := Progress.not_mem_untaken htaken
    refine hr.snoc hkeeps hnew ?_ ?_ ?_
    · intro id
      rw [Progress.isSettled_record, Bool.or_eq_true, decide_eq_true_eq, Progress.isSettled,
        Progress.entries_leave, Progress.isSettled]
    · refine iff_of_false (fun hin => ?_) (not_skipped_of_entry hentry nofun)
      rcases Progress.mem_untaken_leave.mp hin with hin | ⟨hself', -⟩
      · exact hmem hin
      · exact hself hself'
    · intro id hid
      rw [hjournal, rejects_iff_of_concluded hentry (hr.noted_ne hnew) hcalls hleaves, and_comm]
      exact Progress.mem_untaken_leave
  | failed failure session calls begun htaken hcalls hjournal =>
    have hentry : (r.progress.settle step.id (Run.failed failure)).entries.get? step.id =
        some (Run.failed failure) := Entries.get?_insert_self _ _ _
    have hmem := Progress.not_mem_untaken htaken
    refine hr.snoc hkeeps hnew ?_ ?_ ?_
    · intro id
      simp
    · exact iff_of_false hmem (not_skipped_of_entry hentry nofun)
    · intro id hid
      have hnone : ¬ Rejects session.journal _ step id := not_rejects_of_entry hentry nofun
      rw [or_iff_left fun h => hnone h.2]
      exact Iff.rfl

variable (env d) (executionId : String) (inputs : Entries Json) (clock : Clock) (world : σ)

theorem routed_initial : Routed [] (initial env d executionId inputs clock world) := by
  constructor
  · intro id
    exact iff_of_false Bool.false_ne_true List.not_mem_nil
  · exact fun step hstep => absurd hstep List.not_mem_nil
  · intro id _
    refine iff_of_false List.not_mem_nil ?_
    rintro ⟨step, hstep, -⟩
    exact List.not_mem_nil hstep
  · exact fun m hm => absurd hm List.not_mem_nil

variable {env d executionId inputs clock world}

/-- Turns of direct steps from the beginning route the run. -/
theorem routed_turns {done : List Step} (hdirect : ∀ s ∈ done, s.Direct)
    (hnodup : (done.map Step.id).Nodup)
    (h : (initial env d executionId inputs clock world).turns env d done = (r, none)) :
    Routed done r := by
  induction done using List.reverseRecOn generalizing r with
  | nil =>
    cases h
    exact routed_initial env d executionId inputs clock world
  | append_singleton done step ih =>
    obtain ⟨r₁, hdone, hlast⟩ := turns_append.mp h
    rw [List.map_append, List.map_singleton, List.nodup_append'] at hnodup
    have hnew : step.id ∉ done.map Step.id := fun hin =>
      hnodup.2.2 hin List.mem_cons_self
    have hr : Routed done r₁ :=
      ih (fun s hs => hdirect s (List.mem_append_left _ hs)) hnodup.1 hdone
    have hstep : step.Direct := hdirect step (List.mem_append_right _ List.mem_cons_self)
    obtain ⟨r₂, hturned, ⟨⟩⟩ := turned_of_turns hlast
    exact (hturned.directTurn hstep).routed hstep hnew hr

/-- A direct step whose turn it is for the first time is passed over, or begins. -/
theorem DirectTurn.skipped_iff (h : DirectTurn step r r')
    (hunsettled : r.progress.isSettled step.id = false) :
    Skipped r'.progress.entries step.id ↔ r.progress.passesOver step = true := by
  cases h with
  | settled session hjournal hsettled =>
    rw [hunsettled] at hsettled
    cases hsettled
  | passed session hjournal hpassed =>
    exact iff_of_true ⟨_, Entries.get?_insert_self _ _ _, rfl⟩ hpassed
  | succeeded success session calls concluded begun htaken hcalls hleaves hjournal =>
    rw [htaken]
    exact iff_of_false (not_skipped_of_entry (Entries.get?_insert_self _ _ _) nofun) nofun
  | failed failure session calls begun htaken hcalls hjournal =>
    rw [htaken]
    exact iff_of_false (not_skipped_of_entry (Entries.get?_insert_self _ _ _) nofun) nofun

theorem DirectTurn.begun_iff (h : DirectTurn step r r') (P : Progress → Prop)
    (hunsettled : r.progress.isSettled step.id = false)
    (hnew : ∀ m ∈ r.session.journal, m.event.step ≠ step.id) (hP : P r.progress) :
    (∃ m ∈ r'.session.journal, m.event = .begun step.id ∧ P m.progress) ↔
      r.progress.passesOver step = false := by
  cases h with
  | settled session hjournal hsettled =>
    rw [hunsettled] at hsettled
    cases hsettled
  | passed session hjournal hpassed =>
    rw [hjournal, hpassed]
    refine iff_of_false ?_ nofun
    rintro ⟨m, hm, hevent, -⟩
    exact hnew m hm (by rw [hevent, Event.step])
  | succeeded success session calls concluded begun htaken hcalls hleaves hjournal =>
    have hmoment : (⟨.begun step.id, r.progress, begun⟩ : Moment) ∈ session.journal := by
      rw [hjournal]
      exact List.mem_cons_of_mem _ (List.mem_append_right calls List.mem_cons_self)
    exact iff_of_true ⟨_, hmoment, rfl, hP⟩ htaken
  | failed failure session calls begun htaken hcalls hjournal =>
    have hmoment : (⟨.begun step.id, r.progress, begun⟩ : Moment) ∈ session.journal := by
      rw [hjournal]
      exact List.mem_append_right calls List.mem_cons_self
    exact iff_of_true ⟨_, hmoment, rfl, hP⟩ htaken

/-- In a run of direct steps to the end, what each step is settled as is
decided when its turn comes. -/
theorem routed_split {order done rest : List Step} (hplan : Plan.Sequenced d.steps order)
    (hdirect : ∀ s ∈ d.steps, s.Direct) (horder : order = done ++ step :: rest)
    (h : (initial env d executionId inputs clock world).turns env d order = (r, none)) :
    ∃ r₁ r₂, Routed done r₁ ∧ DirectTurn step r₁ r₂ ∧ Keeps step.id r₂ r ∧
      r₁.progress.isSettled step.id = false ∧ ∀ id ∈ done.map Step.id, Keeps id r₁ r := by
  subst horder
  have hsteps : ∀ s ∈ done ++ step :: rest, s.Direct := fun s hs =>
    hdirect s (hplan.perm.mem_iff.mp hs)
  rw [List.forall_mem_append, List.forall_mem_cons] at hsteps
  have hnodup : ((done ++ step :: rest).map Step.id).Nodup :=
    (hplan.perm.map Step.id).nodup_iff.mpr hplan.nodup
  rw [List.map_append, List.nodup_append', List.map_cons, List.nodup_cons] at hnodup
  obtain ⟨hdone, ⟨hrest, -⟩, hdisjoint⟩ := hnodup
  obtain ⟨r₁, hbefore, hafter⟩ := turns_append.mp h
  obtain ⟨r₂, hturned, hlast⟩ := turned_of_turns hafter
  have hrouted : Routed done r₁ := routed_turns hsteps.1 hdone hbefore
  have hlater : ∀ id ∈ done.map Step.id, Keeps id r₁ r := fun id hid =>
    keeps_turns (List.forall_mem_cons.mpr hsteps.2) hafter (hdisjoint hid)
  have hnew : r₁.progress.isSettled step.id = false := by
    rw [← Bool.not_eq_true, hrouted.settled]
    exact fun hid => hdisjoint hid List.mem_cons_self
  exact ⟨r₁, r₂, hrouted, hturned.directTurn hsteps.2.1, keeps_turns hsteps.2.2 hlast hrest, hnew,
    hlater⟩

end Run

variable {σ : Type}

/-- A definition whose steps stand in reverse: a condition turns from one of two branches, what
follows on that branch is passed over too, and a step that joins the branches is not, though another
one that it depends on has failed. -/
def fork : Definition where
  metadata := ⟨"fork", "", "1.0.0", none, []⟩
  inputs := []
  steps := [
    ⟨"join", .finish, none, none, ["left", "after", "fetch"], .finish, [], none⟩,
    ⟨"after", .finish, none, none, ["right"], .finish, [], none⟩,
    ⟨"right", .finish, none, none, ["choose"], .finish, [], none⟩,
    ⟨"left", .finish, none, none, ["choose"], .finish, [], none⟩,
    ⟨"choose", .condition, none, none, ["begin"], .condition ⟨"true", some "left", some "right"⟩,
      [], none⟩,
    ⟨"fetch", .code, none, none, [], .code ⟨.python3, "pass", none⟩, [],
      some ⟨.skip, none, none⟩⟩,
    ⟨"begin", .start, none, none, [], .start, [], none⟩]
  outputs := []

def forkOrder : List Step :=
  ["fetch", "begin", "choose", "right", "left", "after", "join"].filterMap fork.step?

end Workflow
