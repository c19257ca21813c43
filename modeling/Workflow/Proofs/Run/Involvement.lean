import Workflow.Proofs.Run.Fallback
import Workflow.Proofs.Run.Routing

/-!
# What becomes of a step in a turn

A turn executes its own step and at most one other, which stands in for it if it fails. Nothing
becomes of the rest. So a turn involves the step with an id in one of four ways, and what happens to
a single step in the course of a run is told by these cases.
-/

namespace Workflow

namespace Event

/-- The step that is executed when an event happens. -/
def subject : Event → String
  | begun step => step
  | replaced _ target => target
  | called step => step
  | concluded step _ _ => step

def isCall (id : String) : Event → Bool
  | called step => step = id
  | begun _ | replaced _ _ | concluded _ _ _ => false

def isConclusion (id : String) : Event → Bool
  | concluded step _ _ => step = id
  | begun _ | replaced _ _ | called _ => false

theorem subject_of_isCall {id : String} {event : Event} (h : event.isCall id = true) :
    event.subject = id := by
  cases event with
  | called step => exact of_decide_eq_true h
  | begun | replaced | concluded => cases h

theorem eq_called_of_isCall {id : String} {event : Event} (h : event.isCall id = true) :
    event = .called id := by
  cases event with
  | called step => rw [of_decide_eq_true h]
  | begun | replaced | concluded => cases h

theorem subject_of_isConclusion {id : String} {event : Event} (h : event.isConclusion id = true) :
    event.subject = id := by
  cases event with
  | concluded step data notTaken => exact of_decide_eq_true h
  | begun | replaced | called => cases h

end Event

def timesCalled (journal : List Moment) (id : String) : Nat :=
  journal.countP fun m => m.event.isCall id

def timesConcluded (journal : List Moment) (id : String) : Nat :=
  journal.countP fun m => m.event.isConclusion id

section

variable {noted past : List Moment} {id : String}

/-- Moments of other steps count for nothing. -/
theorem timesCalled_append_of_ne (h : ∀ m ∈ noted, m.event.subject ≠ id) :
    timesCalled (noted ++ past) id = timesCalled past id := by
  rw [timesCalled, List.countP_append, List.countP_eq_zero.mpr, Nat.zero_add, timesCalled]
  exact fun m hm hcall => h m hm (Event.subject_of_isCall hcall)

theorem timesConcluded_append_of_ne (h : ∀ m ∈ noted, m.event.subject ≠ id) :
    timesConcluded (noted ++ past) id = timesConcluded past id := by
  rw [timesConcluded, List.countP_append, List.countP_eq_zero.mpr, Nat.zero_add, timesConcluded]
  exact fun m hm hconclusion => h m hm (Event.subject_of_isConclusion hconclusion)

end

def Completed (entries : Entries StepResult) (id : String) : Prop :=
  ∃ entry, entries.get? id = some entry ∧ entry.status = .completed

def Failed (entries : Entries StepResult) (id : String) : Prop :=
  ∃ entry, entries.get? id = some entry ∧ entry.status = .failed

theorem completed_of_entry {entries : Entries StepResult} {id : String} {data : Json}
    {retries : Nat} {fallback : Option String}
    (h : entries.get? id = some (.completed data retries fallback)) :
    Completed entries id :=
  ⟨_, h, rfl⟩

theorem Progress.get?_of_unsettled {p : Progress} {id : String} (h : p.isSettled id = false) :
    p.entries.get? id = none := by
  simpa [isSettled, Entries.contains] using h

theorem Progress.skipped_passOver (p : Progress) (id : String) :
    Skipped (p.passOver id).entries id :=
  ⟨_, Entries.get?_insert_self _ _ _, rfl⟩

theorem Progress.not_completed_of_unsettled {p : Progress} {id : String}
    (h : p.isSettled id = false) : ¬ Completed p.entries id := by
  rintro ⟨entry, hentry, -⟩
  rw [get?_of_unsettled h] at hentry
  cases hentry

/-- No step is its own fallback. -/
theorem Policy.target_ne {step : Step} {target : String}
    (h : Policy.decision step = .fallback target) : target ≠ step.id := by
  unfold Policy.decision at h
  split at h
  · cases h
  · split at h
    · cases h
    · next hne =>
      cases h
      exact hne
  · cases h

namespace Attempt

variable {σ : Type} {env : Environment σ} {step : Step} {p : Progress} {s s' : Session σ}

/-! ## What attempts note -/

theorem timesCalled_once {result : Except StepFault (Json × Option String)}
    (h : once env step p s = (result, s')) :
    timesCalled s'.journal step.id ≤ timesCalled s.journal step.id + 1 := by
  rcases once_cases h with ⟨-, -, rfl⟩ | ⟨-, hjournal⟩
  · exact Nat.le_succ _
  · rw [hjournal, timesCalled, timesCalled, List.countP_cons]
    split <;> simp

theorem timesCalled_repeated {done : Nat} {result : Option (Except Failure Success)}
    (h : repeated env step p done s = (result, s')) :
    timesCalled s'.journal step.id ≤
      timesCalled s.journal step.id + (Policy.retries step - done + 1) := by
  fun_induction repeated env step p done s with
  | case1 done s value notTaken t honce =>
    cases h
    have hcalled := timesCalled_once honce
    omega
  | case2 done s fault t honce hretry =>
    cases h
    have hcalled := timesCalled_once honce
    omega
  | case3 done s fault t honce hretry =>
    cases h
    have hcalled := timesCalled_once honce
    omega
  | case4 done s fault t honce hretry t' hpause ih =>
    have hcalled := timesCalled_once honce
    have hrest := ih h
    have hmost := Policy.le_retries_of_shouldRetry hretry
    rw [journal_pause hpause] at hrest
    omega
  | case5 done s fault t honce hretry t' hpause =>
    cases h
    have hcalled := timesCalled_once honce
    rw [journal_pause hpause]
    omega

/-- The attempts at a step note its execution and nothing else: calls of its handler, one more than
retries at most, and its conclusion if they succeed. -/
structure Notes (step : Step) (p : Progress) (past journal : List Moment) (succeeds : Bool) :
    Prop where
  noted : ∃ noted, journal = noted ++ past ∧
    ∀ m ∈ noted, m.event.subject = step.id ∧ m.progress = p
  called : timesCalled journal step.id ≤ timesCalled past step.id + (Policy.retries step + 1)
  concluded : timesConcluded journal step.id =
    timesConcluded past step.id + if succeeds then 1 else 0

theorem notes_all {start : Event} {result : Option (Except Failure Success)}
    (hsubject : start.subject = step.id) (hcall : start.isCall step.id = false)
    (hconclusion : start.isConclusion step.id = false)
    (h : all env step p (s.note p start) = (result, s')) :
    Notes step p s.journal s'.journal (result.any Except.isOk) := by
  unfold all at h
  rcases hrepeated : repeated env step p 0 (s.note p start) with ⟨outcome, t⟩
  obtain ⟨calls, hcalls, hjournal⟩ := calls_repeated hrepeated
  have hcount := timesCalled_repeated hrepeated
  rw [Session.journal_note] at hjournal hcount
  have hpast : timesCalled (⟨start, p, s.isCancelled⟩ :: s.journal) step.id =
      timesCalled s.journal step.id := by
    rw [timesCalled, List.countP_cons_of_neg (by simp [hcall]), timesCalled]
  have hnoted : ∀ m ∈ calls ++ [⟨start, p, s.isCancelled⟩],
      m.event.subject = step.id ∧ m.progress = p := by
    rw [List.forall_mem_append, List.forall_mem_singleton]
    refine ⟨fun m hm => ?_, hsubject, rfl⟩
    rw [(hcalls m hm).1]
    exact ⟨rfl, (hcalls m hm).2⟩
  have hconcluded : timesConcluded t.journal step.id = timesConcluded s.journal step.id := by
    rw [hjournal, timesConcluded, List.countP_append,
      List.countP_cons_of_neg (by simp [hconclusion]), List.countP_eq_zero.mpr, Nat.zero_add,
      timesConcluded]
    intro m hm
    rw [(hcalls m hm).1, Event.isConclusion]
    exact Bool.false_ne_true
  rw [hpast] at hcount
  rw [hrepeated] at h
  rcases outcome with _ | failure | success
  · cases h
    exact ⟨⟨_, hjournal.trans (List.append_cons calls _ _), hnoted⟩, hcount, hconcluded⟩
  · cases h
    exact ⟨⟨_, hjournal.trans (List.append_cons calls _ _), hnoted⟩, hcount, hconcluded⟩
  · cases h
    refine ⟨⟨⟨.concluded step.id success.value success.notTaken, p, t.isCancelled⟩ ::
      (calls ++ [⟨start, p, s.isCancelled⟩]), ?_, ?_⟩, ?_, ?_⟩
    · rw [Session.journal_note, hjournal, List.append_cons calls, List.cons_append]
    · rw [List.forall_mem_cons]
      exact ⟨⟨rfl, rfl⟩, hnoted⟩
    · rw [Session.journal_note, timesCalled, List.countP_cons_of_neg (by simp [Event.isCall])]
      exact hcount
    · rw [Session.journal_note, timesConcluded,
        List.countP_cons_of_pos (by simp [Event.isConclusion])]
      exact congrArg (· + 1) hconcluded

end Attempt

namespace Run

variable {σ : Type} {env : Environment σ} {d : Definition} {step : Step} {r r' r₁ : Run σ}
  {stop : Option Stop} {id : String}

theorem notes_attempts {result : Option (Except Failure Success)} {session : Session σ}
    (h : r.attempts env step = (result, session)) :
    Attempt.Notes step r.progress r.session.journal session.journal (result.any Except.isOk) :=
  Attempt.notes_all rfl rfl rfl h

theorem notes_standIn {target : String} {fallback : Step} {result : Option (Except Failure Success)}
    {session : Session σ} (hstep : d.step? target = some fallback)
    (h : r.standIn env step target fallback = (result, session)) :
    Attempt.Notes fallback r.progress r.session.journal session.journal
      (result.any Except.isOk) := by
  obtain ⟨-, rfl⟩ := Definition.mem_of_step? hstep
  exact Attempt.notes_all rfl rfl rfl h

/-! ## Steps that are spared -/

/-- Nothing becomes of the step with an id between two points of a run: its entry and its value
stay, it is not executed, and at every moment that is noted they are what they were. -/
structure Spares (id : String) (r r' : Run σ) : Prop where
  entry : r'.progress.entries.get? id = r.progress.entries.get? id
  value : r'.progress.context.result? id = r.progress.context.result? id
  noted : ∃ noted, r'.session.journal = noted ++ r.session.journal ∧ ∀ m ∈ noted,
    m.event.subject ≠ id ∧ m.progress.entries.get? id = r.progress.entries.get? id ∧
      m.progress.context.result? id = r.progress.context.result? id

theorem Spares.of_eq (hentry : r'.progress.entries.get? id = r.progress.entries.get? id)
    (hvalue : r'.progress.context.result? id = r.progress.context.result? id)
    (hjournal : r'.session.journal = r.session.journal) : Spares id r r' :=
  ⟨hentry, hvalue, [], hjournal, fun _ hm => absurd hm List.not_mem_nil⟩

theorem Spares.refl (id : String) (r : Run σ) : Spares id r r := .of_eq rfl rfl rfl

theorem Spares.trans (h : Spares id r r₁) (h' : Spares id r₁ r') : Spares id r r' := by
  obtain ⟨before, hbefore, hspared⟩ := h.noted
  obtain ⟨after, hafter, hspared'⟩ := h'.noted
  refine ⟨h'.entry.trans h.entry, h'.value.trans h.value, after ++ before, ?_, ?_⟩
  · rw [hafter, hbefore, List.append_assoc]
  · rw [List.forall_mem_append]
    refine ⟨fun m hm => ?_, hspared⟩
    rw [← h.entry, ← h.value]
    exact hspared' m hm

theorem Spares.timesCalled_eq (h : Spares id r r') :
    timesCalled r'.session.journal id = timesCalled r.session.journal id := by
  obtain ⟨noted, hjournal, hspared⟩ := h.noted
  rw [hjournal, timesCalled_append_of_ne fun m hm => (hspared m hm).1]

theorem Spares.timesConcluded_eq (h : Spares id r r') :
    timesConcluded r'.session.journal id = timesConcluded r.session.journal id := by
  obtain ⟨noted, hjournal, hspared⟩ := h.noted
  rw [hjournal, timesConcluded_append_of_ne fun m hm => (hspared m hm).1]

theorem Spares.isSettled_eq (h : Spares id r r') :
    r'.progress.isSettled id = r.progress.isSettled id := by
  rw [Progress.isSettled, Entries.contains, h.entry, Progress.isSettled, Entries.contains]

theorem Spares.skipped_iff (h : Spares id r r') :
    Skipped r'.progress.entries id ↔ Skipped r.progress.entries id := by
  rw [Skipped, h.entry, Skipped]

theorem Spares.completed_iff (h : Spares id r r') :
    Completed r'.progress.entries id ↔ Completed r.progress.entries id := by
  rw [Completed, h.entry, Completed]

theorem Spares.suffix (h : Spares id r r') : r.session.journal <:+ r'.session.journal := by
  obtain ⟨noted, hjournal, -⟩ := h.noted
  exact ⟨noted, hjournal.symm⟩

/-- The execution of a step spares the others. -/
theorem spares_of_notes {session : Session σ} {succeeds : Bool} (hne : id ≠ step.id)
    (h : Attempt.Notes step r.progress r.session.journal session.journal succeeds) :
    Spares id r ⟨r.progress, session⟩ := by
  obtain ⟨noted, hjournal, hnoted⟩ := h.noted
  refine ⟨rfl, rfl, noted, hjournal, fun m hm => ?_⟩
  obtain ⟨hsubject, hprogress⟩ := hnoted m hm
  rw [hsubject, hprogress]
  exact ⟨hne.symm, rfl, rfl⟩

/-- So does what is written for it. -/
theorem spares_settle {entry : StepResult} {other : String} (hne : id ≠ other) :
    Spares id r ⟨r.progress.settle other entry, r.session⟩ :=
  .of_eq (Entries.get?_insert_of_ne _ _ hne) rfl rfl

theorem spares_publish {value : Json} {other : String} (hne : id ≠ other) :
    Spares id r ⟨r.progress.publish other value, r.session⟩ :=
  .of_eq rfl ((Context.result?_put _ _ _ _).trans (if_neg hne)) rfl

theorem spares_record {value : Json} {entry : StepResult} {other : String} (hne : id ≠ other) :
    Spares id r ⟨r.progress.record other value entry, r.session⟩ :=
  (spares_publish hne).trans (spares_settle hne)

theorem spares_leave (target : Option String) :
    Spares id r ⟨r.progress.leave target, r.session⟩ :=
  .of_eq (congrArg (Entries.get? · id) (Progress.entries_leave _ _))
    (congrArg (Context.result? · id) (Progress.context_leave _ _)) rfl

theorem spares_passOver {other : String} (hne : id ≠ other) :
    Spares id r ⟨r.progress.passOver other, r.session⟩ :=
  .of_eq (Entries.get?_insert_of_ne _ _ hne) rfl rfl

theorem spares_look (env : Environment σ) : Spares id r (r.look env) := .of_eq rfl rfl rfl

/-- A fallback spares all but itself. -/
theorem Substituted.spares {target : String} {value : Option (Except StepFault Json)}
    (h : Substituted env d step target r value r') (hne : id ≠ target) : Spares id r r' := by
  cases h with
  | reused value hresult => exact .refl id r
  | missing hresult hstep => exact .refl id r
  | executed fallback success session hresult hstep hrun hfits =>
    obtain ⟨-, rfl⟩ := Definition.mem_of_step? hstep
    exact (spares_of_notes hne (notes_standIn hstep hrun)).trans (spares_record hne)
  | outgrown fallback success session overflow hresult hstep hrun hoverflow =>
    obtain ⟨-, rfl⟩ := Definition.mem_of_step? hstep
    exact (spares_of_notes hne (notes_standIn hstep hrun)).trans (spares_publish hne)
  | failed fallback failure session hresult hstep hrun =>
    obtain ⟨-, rfl⟩ := Definition.mem_of_step? hstep
    exact (spares_of_notes hne (notes_standIn hstep hrun)).trans (spares_settle hne)
  | uncounted fallback session hresult hstep hrun =>
    obtain ⟨-, rfl⟩ := Definition.mem_of_step? hstep
    exact spares_of_notes hne (notes_standIn hstep hrun)

/-! ## Steps that are tried -/

/-- A step is tried between two points of a run, whether or not that settles it. -/
structure Tried (step : Step) (r r' : Run σ) : Prop where
  suffix : r.session.journal <:+ r'.session.journal
  called : timesCalled r'.session.journal step.id ≤
    timesCalled r.session.journal step.id + (Policy.retries step + 1)
  concluded : timesConcluded r'.session.journal step.id ≤
    timesConcluded r.session.journal step.id + 1
  entry : r'.progress.entries.get? step.id = r.progress.entries.get? step.id ∨
    ∃ entry, r'.progress.entries.get? step.id = some entry ∧ entry.status ≠ .skipped
  shown : ¬ Completed r.progress.entries step.id → Completed r'.progress.entries step.id →
    ∃ value, r'.progress.context.result? step.id = some value

/-- The attempts at a step, what happens meanwhile to others and what is written for it
in the end make up its trial. -/
theorem Tried.of_notes {session : Session σ} {succeeds : Bool}
    (hnotes : Attempt.Notes step r.progress r.session.journal session.journal succeeds)
    (hspares : Spares step.id ⟨r.progress, session⟩ r₁) (hsession : r'.session = r₁.session)
    (hentry : r'.progress.entries.get? step.id = r.progress.entries.get? step.id ∨
      ∃ entry, r'.progress.entries.get? step.id = some entry ∧ entry.status ≠ .skipped)
    (hshown : ¬ Completed r.progress.entries step.id → Completed r'.progress.entries step.id →
      ∃ value, r'.progress.context.result? step.id = some value) : Tried step r r' := by
  obtain ⟨noted, hjournal, -⟩ := hnotes.noted
  have hsuffix : r.session.journal <:+ session.journal := ⟨noted, hjournal.symm⟩
  have hcalled := hspares.timesCalled_eq
  have hconcluded := hspares.timesConcluded_eq
  rw [← hsession] at hcalled hconcluded
  refine ⟨?_, ?_, ?_, hentry, hshown⟩
  · rw [hsession]
    exact hsuffix.trans hspares.suffix
  · rw [hcalled]
    exact hnotes.called
  · rw [hconcluded, hnotes.concluded]
    split <;> simp

theorem Tried.record {session : Session σ} {succeeds : Bool} {p : Progress} {value : Json}
    {retries : Nat} {fallback : Option String}
    (hnotes : Attempt.Notes step r.progress r.session.journal session.journal succeeds)
    (hspares : Spares step.id ⟨r.progress, session⟩ r₁) :
    Tried step r ⟨p.record step.id value (.completed value retries fallback), r₁.session⟩ :=
  .of_notes hnotes hspares rfl (Or.inr ⟨_, Entries.get?_insert_self _ _ _, nofun⟩)
    fun _ _ => ⟨_, (Context.result?_put _ _ _ _).trans (if_pos rfl)⟩

theorem Tried.settle {session : Session σ} {succeeds : Bool} {p : Progress} {failure : Failure}
    (hnotes : Attempt.Notes step r.progress r.session.journal session.journal succeeds)
    (hspares : Spares step.id ⟨r.progress, session⟩ r₁) :
    Tried step r ⟨p.settle step.id (failed failure), r₁.session⟩ := by
  have hentry : (p.settle step.id (failed failure)).entries.get? step.id = some (failed failure) :=
    Entries.get?_insert_self _ _ _
  refine .of_notes hnotes hspares rfl (Or.inr ⟨_, hentry, nofun⟩) ?_
  rintro - ⟨entry, hother, hcompleted⟩
  obtain rfl := Option.some.inj (hentry.symm.trans hother)
  cases hcompleted

theorem Tried.publish {session : Session σ} {succeeds : Bool} {p : Progress} {value : Json}
    (hnotes : Attempt.Notes step r.progress r.session.journal session.journal succeeds)
    (hentries : p.entries = r.progress.entries) :
    Tried step r ⟨p.publish step.id value, session⟩ :=
  .of_notes hnotes (.refl _ _) rfl (Or.inl (congrArg (Entries.get? · step.id) hentries))
    fun _ _ => ⟨_, (Context.result?_put _ _ _ _).trans (if_pos rfl)⟩

/-- A trial of which nothing is written down. -/
theorem Tried.unsettled {session : Session σ} {succeeds : Bool}
    (hnotes : Attempt.Notes step r.progress r.session.journal session.journal succeeds)
    (hspares : Spares step.id ⟨r.progress, session⟩ r₁) : Tried step r r₁ :=
  .of_notes hnotes hspares rfl (Or.inl hspares.entry)
    fun hbefore hafter => absurd (hspares.completed_iff.mp hafter) hbefore

/-- What spares a step before and after its trial belongs to it. -/
theorem Tried.between {r₂ : Run σ} (hbefore : Spares step.id r r₁) (h : Tried step r₁ r₂)
    (hafter : Spares step.id r₂ r') : Tried step r r' := by
  refine ⟨(hbefore.suffix.trans h.suffix).trans hafter.suffix, ?_, ?_, ?_, ?_⟩
  · rw [hafter.timesCalled_eq, ← hbefore.timesCalled_eq]
    exact h.called
  · rw [hafter.timesConcluded_eq, ← hbefore.timesConcluded_eq]
    exact h.concluded
  · rw [hafter.entry, ← hbefore.entry]
    exact h.entry
  · rw [hafter.completed_iff, hafter.value, ← hbefore.completed_iff]
    exact h.shown

/-- The turn of a step tries it, unless it is passed over. -/
theorem CarriedOut.tried (h : CarriedOut env d step r r' stop) : Tried step r r' := by
  have hsubstituted : ∀ {session : Session σ} {target : String}
      {value : Option (Except StepFault Json)} {r₁ : Run σ},
      Policy.decision step = .fallback target →
        Substituted env d step target ⟨r.progress, session⟩ value r₁ →
          Spares step.id ⟨r.progress, session⟩ r₁ :=
    fun hdecision hsubstituted => hsubstituted.spares (Policy.target_ne hdecision).symm
  cases h with
  | succeeded success session hrun hfits =>
    exact .record (notes_attempts hrun) (.refl step.id ⟨r.progress, session⟩)
  | outgrown success session overflow hrun hoverflow =>
    exact .publish (notes_attempts hrun) (Progress.entries_leave _ _)
  | interrupted failure session hrun hcancelled =>
    exact .settle (notes_attempts hrun) (.refl step.id ⟨r.progress, session⟩)
  | aborted failure session hrun hlive hdecision =>
    exact .settle (notes_attempts hrun) (.refl step.id ⟨r.progress, session⟩)
  | skipped failure session hrun hlive hdecision =>
    exact .settle (notes_attempts hrun) (.refl step.id ⟨r.progress, session⟩)
  | replaced failure session target value r₁ hrun hlive hdecision hvalue hfits =>
    exact .record (notes_attempts hrun) (hsubstituted hdecision hvalue)
  | overfilled failure session target value r₁ overflow hrun hlive hdecision hvalue hoverflow =>
    exact .settle (notes_attempts hrun) (hsubstituted hdecision hvalue)
  | unreplaced failure session target fault r₁ hrun hlive hdecision hvalue =>
    exact .settle (notes_attempts hrun) (hsubstituted hdecision hvalue)
  | uncounted session hrun => exact .unsettled (notes_attempts hrun) (.refl step.id _)
  | brokenOff failure session target r₁ hrun hlive hdecision hvalue =>
    exact .unsettled (notes_attempts hrun) (hsubstituted hdecision hvalue)

/-- It begins with that. -/
theorem CarriedOut.begun (h : CarriedOut env d step r r' stop) :
    ∃ m ∈ r'.session.journal, m.event = .begun step.id := by
  have hattempts : ∀ {result : Option (Except Failure Success)} {session : Session σ},
      r.attempts env step = (result, session) →
        ∃ m ∈ session.journal, m.event = .begun step.id := by
    intro result session hrun
    have hsuffix := Attempt.suffix_all hrun
    rw [Session.journal_note] at hsuffix
    exact ⟨_, hsuffix.mem List.mem_cons_self, rfl⟩
  have hsubstituted : ∀ {failure : Failure} {session : Session σ} {target : String}
      {value : Option (Except StepFault Json)} {r₁ : Run σ},
      Policy.decision step = .fallback target →
        r.attempts env step = (some (.error failure), session) →
          Substituted env d step target ⟨r.progress, session⟩ value r₁ →
            ∃ m ∈ r₁.session.journal, m.event = .begun step.id := by
    intro failure session target value r₁ hdecision hrun hvalue
    obtain ⟨m, hm, hevent⟩ := hattempts hrun
    exact ⟨m, (hvalue.spares (Policy.target_ne hdecision).symm).suffix.mem hm, hevent⟩
  cases h with
  | succeeded success session hrun hfits => exact hattempts hrun
  | outgrown success session overflow hrun hoverflow => exact hattempts hrun
  | interrupted failure session hrun hcancelled => exact hattempts hrun
  | aborted failure session hrun hlive hdecision => exact hattempts hrun
  | skipped failure session hrun hlive hdecision => exact hattempts hrun
  | uncounted session hrun => exact hattempts hrun
  | replaced failure session target value r₁ hrun hlive hdecision hvalue hfits =>
    have hbegun := hsubstituted hdecision hrun hvalue
    exact hbegun
  | overfilled failure session target value r₁ overflow hrun hlive hdecision hvalue hoverflow =>
    have hbegun := hsubstituted hdecision hrun hvalue
    exact hbegun
  | unreplaced failure session target fault r₁ hrun hlive hdecision hvalue =>
    have hbegun := hsubstituted hdecision hrun hvalue
    exact hbegun
  | brokenOff failure session target r₁ hrun hlive hdecision hvalue =>
    exact hsubstituted hdecision hrun hvalue

/-- If it does not stop the run, the step completes, or it fails without a conclusion and the run
goes on without it. -/
theorem CarriedOut.settles (h : CarriedOut env d step r r' none) :
    Completed r'.progress.entries step.id ∨
      Failed r'.progress.entries step.id ∧ step.onError = .skip ∧
        timesConcluded r'.session.journal step.id = timesConcluded r.session.journal step.id := by
  cases h with
  | succeeded success session hrun hfits =>
    exact Or.inl (completed_of_entry (Entries.get?_insert_self _ _ _))
  | skipped failure session hrun hlive hdecision =>
    exact Or.inr ⟨⟨_, Entries.get?_insert_self _ _ _, rfl⟩, Policy.onError_of_skip hdecision,
      (notes_attempts hrun).concluded⟩
  | replaced failure session target value r₁ hrun hlive hdecision hvalue hfits =>
    exact Or.inl (completed_of_entry (Entries.get?_insert_self _ _ _))

/-! ## Steps that stand in for others -/

/-- A step that shows no result is tried in place of the step whose turn it is. -/
structure StandsIn (d : Definition) (step : Step) (id : String) (r r' : Run σ) : Prop where
  hidden : r.progress.context.result? id = none
  tried : ∃ fallback, d.step? id = some fallback ∧ Tried fallback r r'
  replaced : ∃ m ∈ r'.session.journal, m.event = .replaced step.id id ∧ m.progress = r.progress
  untaken : r'.progress.untaken = r.progress.untaken

theorem Substituted.standsIn {target : String} {value : Option (Except StepFault Json)}
    (h : Substituted env d step target r value r') :
    Spares target r r' ∨ StandsIn d step target r r' ∧
      ((∃ v, value = some (.ok v)) → Completed r'.progress.entries target) := by
  cases h with
  | reused value hresult => exact Or.inl (.refl target r)
  | missing hresult hstep => exact Or.inl (.refl target r)
  | executed fallback success session hresult hstep hrun hfits =>
    obtain ⟨-, rfl⟩ := Definition.mem_of_step? hstep
    refine Or.inr ⟨⟨hresult, ⟨fallback, hstep, ?_⟩, ?_, rfl⟩, fun _ => ?_⟩
    · exact .record (notes_standIn hstep hrun) (.refl fallback.id ⟨r.progress, session⟩)
    · exact replaced_mem_standIn hrun
    · exact completed_of_entry (Entries.get?_insert_self _ _ _)
  | outgrown fallback success session overflow hresult hstep hrun hoverflow =>
    obtain ⟨-, rfl⟩ := Definition.mem_of_step? hstep
    refine Or.inr ⟨⟨hresult, ⟨fallback, hstep, ?_⟩, ?_, rfl⟩, nofun⟩
    · exact .publish (notes_standIn hstep hrun) rfl
    · exact replaced_mem_standIn hrun
  | failed fallback failure session hresult hstep hrun =>
    obtain ⟨-, rfl⟩ := Definition.mem_of_step? hstep
    refine Or.inr ⟨⟨hresult, ⟨fallback, hstep, ?_⟩, ?_, rfl⟩, nofun⟩
    · exact .settle (notes_standIn hstep hrun) (.refl fallback.id ⟨r.progress, session⟩)
    · exact replaced_mem_standIn hrun
  | uncounted fallback session hresult hstep hrun =>
    obtain ⟨-, rfl⟩ := Definition.mem_of_step? hstep
    refine Or.inr ⟨⟨hresult, ⟨fallback, hstep, ?_⟩, ?_, rfl⟩, nofun⟩
    · exact .unsettled (notes_standIn hstep hrun) (.refl fallback.id ⟨r.progress, session⟩)
    · exact replaced_mem_standIn hrun

/-- What spares a step before and after it stands in belongs to that. -/
theorem StandsIn.between {r₂ : Run σ} (hbefore : Spares id r r₁)
    (hprogress : r₁.progress = r.progress) (h : StandsIn d step id r₁ r₂) (hafter : Spares id r₂ r')
    (huntaken : r'.progress.untaken = r₂.progress.untaken) : StandsIn d step id r r' := by
  obtain ⟨fallback, hstep, htried⟩ := h.tried
  obtain ⟨m, hm, hevent, hmoment⟩ := h.replaced
  refine ⟨hprogress ▸ h.hidden, ⟨fallback, hstep, ?_⟩, ⟨m, hafter.suffix.subset hm, hevent, ?_⟩, ?_⟩
  · obtain ⟨-, rfl⟩ := Definition.mem_of_step? hstep
    exact .between hbefore htried hafter
  · rw [hmoment, hprogress]
  · rw [huntaken, h.untaken, hprogress]

/-- In the turn of a step another one is substituted for it, and spared before and after that. If
there is no value, the run stops. -/
structure Substitutes (env : Environment σ) (d : Definition) (step : Step) (id : String)
    (r r' : Run σ) (stop : Option Stop) (failure : Failure) (session : Session σ)
    (value : Option (Except StepFault Json)) (r₁ : Run σ) : Prop where
  before : Spares id r ⟨r.progress, session⟩
  substituted : Substituted env d step id ⟨r.progress, session⟩ value r₁
  after : Spares id r₁ r'
  untaken : r'.progress.untaken = r₁.progress.untaken
  ends : (∃ v, value = some (.ok v)) ∨
    (∃ fault, value = some (.error fault) ∧ stop = some (.ofFallback step failure id fault)) ∨
      value = none ∧ stop = some (.uncounted id)

/-- In the turn of a step any other is spared, or it is substituted for it. -/
theorem CarriedOut.spares_or_substitutes (h : CarriedOut env d step r r' stop)
    (hne : id ≠ step.id) :
    Spares id r r' ∨ ∃ failure session value r₁,
      Substitutes env d step id r r' stop failure session value r₁ := by
  have hattempts : ∀ {result : Option (Except Failure Success)} {session : Session σ},
      r.attempts env step = (result, session) → Spares id r ⟨r.progress, session⟩ :=
    fun hrun => spares_of_notes hne (notes_attempts hrun)
  have hsubstituted : ∀ {failure : Failure} {session : Session σ} {target : String}
      {value : Option (Except StepFault Json)} {r₁ : Run σ} {p : Progress} {stop : Option Stop},
      r.attempts env step = (some (.error failure), session) →
        Substituted env d step target ⟨r.progress, session⟩ value r₁ →
          Spares id r₁ ⟨p, r₁.session⟩ → p.untaken = r₁.progress.untaken →
            ((∃ v, value = some (.ok v)) ∨
              (∃ fault, value = some (.error fault) ∧
                stop = some (.ofFallback step failure target fault)) ∨
              value = none ∧ stop = some (.uncounted target)) →
            Spares id r ⟨p, r₁.session⟩ ∨ ∃ failure session value r₂,
              Substitutes env d step id r ⟨p, r₁.session⟩ stop failure session value r₂ := by
    intro failure session target value r₁ p stop hrun hvalue hafter huntaken hends
    by_cases htarget : id = target
    · subst htarget
      exact Or.inr ⟨failure, session, value, r₁, hattempts hrun, hvalue, hafter, huntaken, hends⟩
    · exact Or.inl (((hattempts hrun).trans (hvalue.spares htarget)).trans hafter)
  cases h with
  | succeeded success session hrun hfits =>
    exact Or.inl (((hattempts hrun).trans (spares_leave _)).trans (spares_record hne))
  | outgrown success session overflow hrun hoverflow =>
    exact Or.inl (((hattempts hrun).trans (spares_leave _)).trans (spares_publish hne))
  | interrupted failure session hrun hcancelled =>
    exact Or.inl ((hattempts hrun).trans (spares_settle hne))
  | aborted failure session hrun hlive hdecision =>
    exact Or.inl ((hattempts hrun).trans (spares_settle hne))
  | skipped failure session hrun hlive hdecision =>
    exact Or.inl ((hattempts hrun).trans (spares_settle hne))
  | replaced failure session target value r₁ hrun hlive hdecision hvalue hfits =>
    exact hsubstituted hrun hvalue (spares_record hne) rfl (Or.inl ⟨value, rfl⟩)
  | overfilled failure session target value r₁ overflow hrun hlive hdecision hvalue hoverflow =>
    exact hsubstituted hrun hvalue ((spares_publish hne).trans (spares_settle hne)) rfl
      (Or.inl ⟨value, rfl⟩)
  | unreplaced failure session target fault r₁ hrun hlive hdecision hvalue =>
    exact hsubstituted hrun hvalue (spares_settle hne) rfl (Or.inr (Or.inl ⟨fault, rfl, rfl⟩))
  | uncounted session hrun => exact Or.inl (hattempts hrun)
  | brokenOff failure session target r₁ hrun hlive hdecision hvalue =>
    exact hsubstituted hrun hvalue (.refl id _) rfl (Or.inr (Or.inr ⟨rfl, rfl⟩))

/-- In the turn of another step nothing becomes of a step, unless it stands in. -/
theorem CarriedOut.bystander (h : CarriedOut env d step r r' stop) (hne : id ≠ step.id) :
    Spares id r r' ∨ StandsIn d step id r r' ∧
      (stop = none → Completed r'.progress.entries id) := by
  rcases h.spares_or_substitutes hne with hspares | ⟨failure, session, value, r₁, hsubstitutes⟩
  · exact Or.inl hspares
  · obtain ⟨hbefore, hvalue, hafter, huntaken, hends⟩ := hsubstitutes
    refine hvalue.standsIn.imp (fun hspares => ?_) fun ⟨hstands, hcompleted⟩ => ?_
    · exact (hbefore.trans hspares).trans hafter
    · refine ⟨.between hbefore rfl hstands hafter huntaken, fun hstop => ?_⟩
      rcases hends with hok | ⟨fault, -, hstopped⟩ | ⟨-, hstopped⟩
      · exact hafter.completed_iff.mpr (hcompleted hok)
      · cases hstop.symm.trans hstopped
      · cases hstop.symm.trans hstopped

/-! ## Turns -/

/-- How the turn of a step involves the step with an id. -/
inductive Involves (d : Definition) (step : Step) (id : String) (r r' : Run σ) :
    Option Stop → Prop
  /-- Nothing becomes of it. -/
  | spared (stop : Option Stop) (hspares : Spares id r r') : Involves d step id r r' stop
  /-- It is its turn, but it is not to be taken. -/
  | passed (hid : id = step.id) (hunsettled : r.progress.isSettled id = false)
      (hpassed : r.progress.passesOver step = true)
      (hprogress : r'.progress = r.progress.passOver id)
      (hjournal : r'.session.journal = r.session.journal) : Involves d step id r r' none
  /-- It is its turn, and it is executed. -/
  | executed (stop : Option Stop) (hid : id = step.id)
      (hunsettled : r.progress.isSettled id = false)
      (htaken : r.progress.passesOver step = false)
      (hbegun : ∃ m ∈ r'.session.journal, m.event = .begun id) (htried : Tried step r r')
      (hsettles : stop = none → Completed r'.progress.entries id ∨
        Failed r'.progress.entries id ∧ step.onError = .skip ∧
          timesConcluded r'.session.journal id = timesConcluded r.session.journal id) :
      Involves d step id r r' stop
  /-- It is not its turn, but it is executed in place of the step whose turn it is. -/
  | stoodIn (stop : Option Stop) (hne : id ≠ step.id) (hstands : StandsIn d step id r r')
      (hcompleted : stop = none → Completed r'.progress.entries id) : Involves d step id r r' stop

/-- What a turn can do to a step. -/
theorem Turned.involves (h : Turned env d step r r' stop) (id : String) :
    Involves d step id r r' stop := by
  cases h with
  | cancelled hcancelled => exact .spared _ (spares_look env)
  | settled hlive hsettled => exact .spared _ (spares_look env)
  | passed hlive hunsettled hpassed =>
    by_cases hid : id = step.id
    · subst hid
      exact .passed rfl hunsettled hpassed rfl rfl
    · exact .spared _ ((spares_look env).trans (spares_passOver hid))
  | carriedOut hlive hunsettled htaken r' stop hcarried =>
    by_cases hid : id = step.id
    · subst hid
      have htried : Tried step r r' := .between (spares_look env) hcarried.tried (.refl _ _)
      refine .executed _ rfl hunsettled htaken hcarried.begun htried fun hstop => ?_
      subst hstop
      exact hcarried.settles
    · rcases hcarried.bystander hid with hspares | ⟨hstands, hcompleted⟩
      · exact .spared _ ((spares_look env).trans hspares)
      · exact .stoodIn _ hid (.between (spares_look env) rfl hstands (.refl _ _) rfl) hcompleted

end Run

end Workflow
