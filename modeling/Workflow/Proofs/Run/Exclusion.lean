import Workflow.Proofs.Document.Acceptance
import Workflow.Proofs.Run.Routing

/-!
# Targets that never begin

If a condition turns from a target at its own turn, before the target is settled, the target never
begins at its own turn afterwards. A condition that stands in for another step turns from no one:
the branch that it does not take may still be taken.
-/

namespace Workflow

def Event.isStart : Event → Bool
  | begun _ | replaced _ _ => true
  | called _ | concluded _ _ _ => false

def latestStart? (journal : List Moment) : Option Event :=
  (journal.map Moment.event).find? Event.isStart

/-- An event in words, without the output of a conclusion. -/
def Event.words : Event → List String
  | begun step => ["begin", step]
  | replaced step target => ["replace", step, target]
  | called step => ["call", step]
  | concluded step _ notTaken => "conclude" :: step :: notTaken.toList

theorem Event.eq_begun_of_words {event : Event} {step : String}
    (h : event.words = ["begin", step]) : event = .begun step := by
  cases event <;> simp_all [words]

theorem Event.eq_replaced_of_words {event : Event} {step target : String}
    (h : event.words = ["replace", step, target]) : event = .replaced step target := by
  cases event <;> simp_all [words]

theorem Event.exists_concluded_of_words {event : Event} {step target : String}
    (h : event.words = ["conclude", step, target]) :
    ∃ output, event = .concluded step output (some target) := by
  cases event <;> simp_all [words]

theorem drop_of_getElem? {journal : List Moment} {n : Nat} {moment : Moment}
    (h : journal[n]? = some moment) : journal.drop n = moment :: journal.drop (n + 1) := by
  obtain ⟨hn, rfl⟩ := List.getElem?_eq_some_iff.mp h
  exact List.drop_eq_getElem_cons hn

/-- A step has concluded at its own turn, and the branch that it did not take leads to a target that
was not settled then. -/
def Excludes (journal : List Moment) (target : String) : Prop :=
  ∃ moment past id data, (moment :: past) <:+ journal ∧
    moment.event = .concluded id data (some target) ∧ latestStart? past = some (.begun id) ∧
      moment.progress.isSettled target = false

theorem excludes_cons {moment : Moment} {past : List Moment} {target : String} :
    Excludes (moment :: past) target ↔ Excludes past target ∨
      ∃ id data, moment.event = .concluded id data (some target) ∧
        latestStart? past = some (.begun id) ∧ moment.progress.isSettled target = false := by
  constructor
  · rintro ⟨m, before, id, data, hsuffix, hrest⟩
    rcases List.suffix_cons_iff.mp hsuffix with heq | hsuffix
    · obtain ⟨rfl, rfl⟩ := List.cons.inj heq
      exact Or.inr ⟨id, data, hrest⟩
    · exact Or.inl ⟨m, before, id, data, hsuffix, hrest⟩
  · rintro (⟨m, before, id, data, hsuffix, hrest⟩ | ⟨id, data, hrest⟩)
    · exact ⟨m, before, id, data, hsuffix.trans (List.suffix_cons _ _), hrest⟩
    · exact ⟨moment, past, id, data, List.suffix_refl _, hrest⟩

/-- The targets that are excluded are not taken, and none of them has begun after it was. -/
structure Upheld (untaken : List String) (journal : List Moment) : Prop where
  untaken : ∀ target, Excludes journal target → target ∈ untaken
  begun : ∀ moment past, (moment :: past) <:+ journal → ∀ target, moment.event = .begun target →
    ¬ Excludes past target

namespace Upheld

variable {untaken : List String} {moment : Moment} {past : List Moment}

theorem nil : Upheld untaken [] := by
  constructor
  · rintro target ⟨m, before, id, data, hsuffix, -⟩
    cases List.suffix_nil.mp hsuffix
  · intro m before hsuffix
    cases List.suffix_nil.mp hsuffix

theorem mono (h : Upheld untaken past) {untaken' : List String} (hsub : untaken ⊆ untaken') :
    Upheld untaken' past :=
  ⟨fun target hexcludes => hsub (h.untaken target hexcludes), h.begun⟩

theorem cons (h : Upheld untaken past)
    (hbegun : ∀ target, moment.event = .begun target → target ∉ untaken)
    (hconcluded : ∀ id data target, moment.event = .concluded id data (some target) →
      latestStart? past = some (.begun id) → moment.progress.isSettled target = false →
        target ∈ untaken) :
    Upheld untaken (moment :: past) := by
  constructor
  · intro target hexcludes
    rcases excludes_cons.mp hexcludes with hbefore | ⟨id, data, hevent, hstart, hunsettled⟩
    · exact h.untaken target hbefore
    · exact hconcluded id data target hevent hstart hunsettled
  · intro m before hsuffix target hevent
    rcases List.suffix_cons_iff.mp hsuffix with heq | hsuffix
    · obtain ⟨rfl, rfl⟩ := List.cons.inj heq
      exact fun hexcludes => hbegun target hevent (h.untaken target hexcludes)
    · exact h.begun m before hsuffix target hevent

/-- A start that is no turn of an untaken step, and the calls that follow it. -/
theorem calls {step : Step} {p q : Progress} {start : Event} {cancelled : Bool}
    {calls : List Moment} (h : Upheld untaken past) (hcalls : Attempt.Calls step p calls)
    (hstart : start.isStart = true) (hbegun : ∀ target, start = .begun target → target ∉ untaken) :
    Upheld untaken (calls ++ ⟨start, q, cancelled⟩ :: past) := by
  induction calls with
  | nil =>
    refine h.cons hbegun fun id data target hevent => ?_
    obtain rfl : start = .concluded id data (some target) := hevent
    cases hstart
  | cons call calls ih =>
    have hcall := (hcalls call List.mem_cons_self).1
    refine (ih fun m hm => hcalls m (List.mem_cons_of_mem call hm)).cons ?_ ?_
    · intro target hevent
      cases hcall.symm.trans hevent
    · intro id data target hevent
      cases hcall.symm.trans hevent

end Upheld

/-- After the calls that follow it a start is still the latest one. -/
theorem latestStart?_calls {step : Step} {p q : Progress} {start : Event} {cancelled : Bool}
    {calls past : List Moment} (hcalls : Attempt.Calls step p calls)
    (hstart : start.isStart = true) :
    latestStart? (calls ++ ⟨start, q, cancelled⟩ :: past) = some start := by
  have hnone : (calls.map Moment.event).find? Event.isStart = none := by
    refine List.find?_eq_none.mpr (List.forall_mem_map.mpr fun m hm => ?_)
    rw [(hcalls m hm).1, Event.isStart]
    exact Bool.false_ne_true
  rw [latestStart?, List.map_append, List.find?_append, hnone, Option.none_or, List.map_cons,
    List.find?_cons_of_pos (by exact hstart)]

namespace Run

variable {σ : Type} {env : Environment σ} {d : Definition} {step : Step} {r r' : Run σ}

/-- In a run, targets that are excluded are not taken. -/
def Upholds (r : Run σ) : Prop := Upheld r.progress.untaken r.session.journal

/-- A fallback excludes no target. -/
theorem upheld_standIn {target : String} {fallback : Step}
    {result : Option (Except Failure Success)} {session : Session σ}
    (h : r.standIn env step target fallback = (result, session)) (hr : r.Upholds) :
    Upheld r.progress.untaken session.journal := by
  have hbegun : ∀ other, Event.replaced step.id target = .begun other →
      other ∉ r.progress.untaken := nofun
  by_cases hok : ∃ success, result = some (.ok success)
  · obtain ⟨success, rfl⟩ := hok
    obtain ⟨calls, cancelled, hcalls, hjournal⟩ := Attempt.journal_all_ok h
    rw [hjournal]
    refine (hr.calls hcalls rfl hbegun).cons nofun ?_
    intro id data other _ hstart
    cases (latestStart?_calls hcalls rfl).symm.trans hstart
  · obtain ⟨calls, hcalls, hjournal⟩ := Attempt.journal_all_of_not_ok h (not_exists.mp hok)
    rw [hjournal]
    exact hr.calls hcalls rfl hbegun

theorem Substituted.upholds {target : String} {value : Option (Except StepFault Json)}
    (h : Substituted env d step target r value r') (hr : r.Upholds) : r'.Upholds := by
  cases h with
  | reused value hresult => exact hr
  | missing hresult hstep => exact hr
  | executed fallback success session hresult hstep hrun hfits =>
    exact upheld_standIn (r := r) hrun hr
  | outgrown fallback success session overflow hresult hstep hrun hoverflow =>
    exact upheld_standIn (r := r) hrun hr
  | failed fallback failure session hresult hstep hrun => exact upheld_standIn (r := r) hrun hr
  | uncounted fallback session hresult hstep hrun => exact upheld_standIn (r := r) hrun hr

/-- So does the execution of a step that was not excluded: what it excludes itself is not taken. -/
theorem CarriedOut.upholds {stop : Option Stop} (h : CarriedOut env d step r r' stop)
    (htaken : step.id ∉ r.progress.untaken) (hr : r.Upholds) : r'.Upholds := by
  have hbegun : ∀ target, Event.begun step.id = .begun target → target ∉ r.progress.untaken := by
    rintro target ⟨⟩
    exact htaken
  have hfailed : ∀ {result : Option (Except Failure Success)} {session : Session σ},
      r.attempts env step = (result, session) → (∀ success, result ≠ some (.ok success)) →
        (⟨r.progress, session⟩ : Run σ).Upholds := by
    intro result session hrun hresult
    obtain ⟨calls, hcalls, hjournal⟩ := Attempt.journal_all_of_not_ok hrun hresult
    rw [Upholds, hjournal]
    exact hr.calls hcalls rfl hbegun
  have hsucceeded : ∀ {success : Success} {session : Session σ},
      r.attempts env step = (some (.ok success), session) →
        Upheld (r.progress.leave success.notTaken).untaken session.journal := by
    intro success session hrun
    obtain ⟨calls, cancelled, hcalls, hjournal⟩ := Attempt.journal_all_ok hrun
    have hsub : r.progress.untaken ⊆ (r.progress.leave success.notTaken).untaken :=
      fun id hid => Progress.mem_untaken_leave.mpr (Or.inl hid)
    rw [hjournal]
    refine ((hr.calls hcalls rfl hbegun).mono hsub).cons nofun ?_
    intro id data target hevent _ hunsettled
    exact Progress.mem_untaken_leave.mpr (Or.inr ⟨(Event.concluded.inj hevent).2.2, hunsettled⟩)
  cases h with
  | succeeded success session hrun hfits => exact hsucceeded hrun
  | outgrown success session overflow hrun hoverflow => exact hsucceeded hrun
  | interrupted failure session hrun hcancelled => exact hfailed hrun nofun
  | aborted failure session hrun hlive hdecision => exact hfailed hrun nofun
  | skipped failure session hrun hlive hdecision => exact hfailed hrun nofun
  | replaced failure session target value r' hrun hlive hdecision hsubstituted hfits =>
    exact hsubstituted.upholds (hfailed hrun nofun)
  | overfilled failure session target value r' overflow hrun hlive hdecision hsubstituted
      hoverflow =>
    exact hsubstituted.upholds (hfailed hrun nofun)
  | unreplaced failure session target fault r' hrun hlive hdecision hsubstituted =>
    exact hsubstituted.upholds (hfailed hrun nofun)
  | uncounted session hrun => exact hfailed hrun nofun
  | brokenOff failure session target r' hrun hlive hdecision hsubstituted =>
    exact hsubstituted.upholds (hfailed hrun nofun)

theorem Turned.upholds {stop : Option Stop} (h : Turned env d step r r' stop) (hr : r.Upholds) :
    r'.Upholds := by
  cases h with
  | cancelled hcancelled => exact hr
  | settled hlive hsettled => exact hr
  | passed hlive hunsettled hpassed => exact Upheld.mono hr (List.subset_cons_self _ _)
  | carriedOut hlive hunsettled htaken r' stop hcarried =>
    exact hcarried.upholds (Progress.not_mem_untaken htaken) hr

theorem upholds_turns {steps : List Step} (hr : r.Upholds) : (r.turns env d steps).1.Upholds :=
  turns_keep (fun _ _ _ _ _ hturned h => hturned.upholds h) hr

end Run

variable {σ : Type}

/-- In every run of a definition with a plan, when a step begins at its own turn, no
step has concluded at its own turn before with a branch to it that was not taken,
unless it was settled by then. -/
theorem excluded_never_begins (env : Environment σ) (d : Definition) (executionId : String)
    (inputs : Entries Json) (clock : Clock) (world : σ) {order : List Step}
    (h : Plan.sequence d.steps = .ok order) :
    ∃ outcome session, execute env d executionId inputs clock world = .ok (outcome, session) ∧
      ∀ moment past, (moment :: past) <:+ session.journal →
        ∀ target, moment.event = .begun target → ¬ Excludes past target := by
  have hinitial : (Run.initial env d executionId inputs clock world).Upholds := Upheld.nil
  exact ⟨_, _, Run.execute_eq h env executionId inputs clock world,
    (Run.upholds_turns hinitial).begun⟩

theorem excluded_never_begins_in_fork :
    Plan.sequence fork.steps = .ok forkOrder ∧
      ∃ outcome session, execute calm fork "exec" [] (.initial false none) 0 =
          .ok (outcome, session) ∧
        Excludes session.journal "right" ∧
        ∀ moment past, (moment :: past) <:+ session.journal →
          ∀ target, moment.event = .begun target → ¬ Excludes past target := by
  have hplan : Plan.sequence fork.steps = .ok forkOrder := rfl
  obtain ⟨outcome, session, hrun, hnever⟩ :=
    excluded_never_begins calm fork "exec" [] (.initial false none) 0 hplan
  have hcourse : (execute calm fork "exec" [] (.initial false none) 0).toOption.map (fun pair =>
      (pair.2.journal[6]?.map fun m => (m.event.words, m.progress.isSettled "right"),
        (latestStart? (pair.2.journal.drop 7)).map Event.words)) =
      some (some (["conclude", "choose", "right"], false), some ["begin", "choose"]) := by
    decide +kernel
  rw [hrun] at hcourse
  obtain ⟨hmoment, hstart⟩ := Prod.mk.inj (Option.some.inj hcourse)
  obtain ⟨moment, hmoment, hwords⟩ := Option.map_eq_some_iff.mp hmoment
  obtain ⟨start, hstart, hbegin⟩ := Option.map_eq_some_iff.mp hstart
  obtain ⟨hwords, hunsettled⟩ := Prod.mk.inj hwords
  obtain ⟨output, hevent⟩ := Event.exists_concluded_of_words hwords
  obtain rfl := Event.eq_begun_of_words hbegin
  have hsuffix : (moment :: session.journal.drop 7) <:+ session.journal :=
    drop_of_getElem? hmoment ▸ List.drop_suffix 6 session.journal
  exact ⟨hplan, outcome, session, hrun,
    ⟨moment, _, "choose", output, hsuffix, hevent, hstart, hunsettled⟩, hnever⟩

/-! ## Conditions as fallbacks -/

/-- The steps of a document in which a condition stands in for a step that fails. -/
def rescueSteps : List Json := [
  .obj [("id", .str "ask"), ("type", .str "code"),
    ("config", .obj [("language", .str "python3"), ("code", .str "pass")]),
    ("error_handling", .obj [("on_error", .str "fallback"), ("fallback_step", .str "choose")])],
  .obj [("id", .str "choose"), ("type", .str "condition"),
    ("config",
      .obj [("condition", .str "true"), ("true_step", .str "accept"),
        ("false_step", .str "refuse")])],
  .obj [("id", .str "accept"), ("type", .str "end"), ("depends_on", .arr [.str "choose"])],
  .obj [("id", .str "refuse"), ("type", .str "end"), ("depends_on", .arr [.str "choose"])]]

/-- The step that a condition has selected by its result. -/
def RunResult.selected? (result : RunResult) (id : String) : Option String :=
  (((result.steps.get? id).bind StepResult.data?).bind (Json.field? · "selected_step")).bind
    Json.string?

/-- The branch that a condition does not take when it stands in for another step is taken all the
same: `refuse` begins after `choose` has selected `accept`. -/
theorem refuse_begins_after_rescue :
    ∃ d, (Validation.analyze (outline "rescue" rescueSteps)).2 = some d ∧
      ∃ result session,
        execute calm d "exec" [] (.initial false none) 0 = .ok (some result, session) ∧
        result.selected? "choose" = some "accept" ∧
        ∃ later moment past output, session.journal = later ++ moment :: past ∧
          moment.event = .concluded "choose" output (some "refuse") ∧
          latestStart? past = some (.replaced "ask" "choose") ∧
          moment.progress.isSettled "refuse" = false ∧
          ∃ m ∈ later, m.event = .begun "refuse" := by
  have hform : Validation.Schema.document (outline "rescue" rescueSteps) = [] :=
    Validation.Schema.document_outline (List.isEmpty_iff.mp (by decide +kernel))
      (List.isEmpty_iff.mp (by decide +kernel))
  have hfits : (Validation.Semantics.document (outline "rescue" rescueSteps)).errors = [] :=
    List.isEmpty_iff.mp (by decide +kernel)
  obtain ⟨d, hdecoder⟩ : ∃ d, Definition.decoder (outline "rescue" rescueSteps) = .ok d := ⟨_, rfl⟩
  have haccepted := Validation.analyze_eq_some_iff.mpr ⟨hform, hfits, hdecoder⟩
  have hcourse : (Definition.decoder (outline "rescue" rescueSteps)).toOption.bind (fun d =>
      (Run.ended? (execute calm d "exec" [] (.initial false none) 0)).map fun pair =>
        (pair.1.selected? "choose",
          pair.2.journal[6]?.map fun m => (m.event.words, m.progress.isSettled "refuse"),
          (latestStart? (pair.2.journal.drop 7)).map Event.words,
          (pair.2.journal.take 6)[2]?.map fun m => m.event.words)) =
      some (some "accept", some (["conclude", "choose", "refuse"], false),
        some ["replace", "ask", "choose"], some ["begin", "refuse"]) := by decide +kernel
  obtain ⟨result, session, hrun, hcourse⟩ := exists_run_of_decoder hdecoder hcourse
  simp only [Prod.mk.injEq] at hcourse
  obtain ⟨hselected, hmoment, hstart, hlater⟩ := hcourse
  obtain ⟨moment, hmoment, hwords⟩ := Option.map_eq_some_iff.mp hmoment
  obtain ⟨start, hstart, hreplace⟩ := Option.map_eq_some_iff.mp hstart
  obtain ⟨later, hlater, hbegin⟩ := Option.map_eq_some_iff.mp hlater
  obtain ⟨hwords, hunsettled⟩ := Prod.mk.inj hwords
  obtain ⟨output, hevent⟩ := Event.exists_concluded_of_words hwords
  obtain rfl := Event.eq_replaced_of_words hreplace
  have hsplit : session.journal =
      session.journal.take 6 ++ moment :: session.journal.drop 7 := by
    rw [← drop_of_getElem? hmoment, List.take_append_drop]
  exact ⟨d, haccepted, result, session, hrun, hselected, _, moment, _, output, hsplit, hevent,
    hstart, hunsettled, later, List.mem_of_getElem? hlater, Event.eq_begun_of_words hbegin⟩

end Workflow
