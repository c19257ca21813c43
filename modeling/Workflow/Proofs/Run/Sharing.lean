import Workflow.Proofs.Document.Acceptance
import Workflow.Proofs.Run.Capacity
import Workflow.Proofs.Run.Finality

/-!
# Results of fallbacks are shared

A step that a fallback has stood in for has the result of the fallback. If the fallback is executed
for it, both have the same data. If its result is there already, the step takes over what is kept of
it, which is a marker if the result is too large. The context shows the same value for both.
-/

namespace Workflow

def Replaced (journal : List Moment) (id target : String) : Prop :=
  ∃ m ∈ journal, m.event = .replaced id target

theorem Replaced.mono {past journal : List Moment} {id target : String}
    (h : Replaced past id target) (hsuffix : past <:+ journal) : Replaced journal id target := by
  obtain ⟨m, hm, hevent⟩ := h
  exact ⟨m, hsuffix.subset hm, hevent⟩

namespace Progress

/-- A context that agrees with the entries shows the result of every completed step. -/
theorem Agrees.showsCompleted {p : Progress} (hp : p.Agrees) : p.ShowsCompleted :=
  fun id hcompleted => (hp.visible.completed id).mpr hcompleted

/-- A value that the context shows is what is kept of the data of a completed step. -/
theorem Agrees.exists_data {p : Progress} (hp : p.Agrees) {id : String} {value : Json}
    (h : p.context.result? id = some value) :
    ∃ data retries fallback, p.entries.get? id = some (.completed data retries fallback) ∧
      value = Context.kept data := by
  rw [hp id, Option.map_eq_some_iff] at h
  obtain ⟨data, hdata, hvalue⟩ := h
  obtain ⟨entry, hentry, hsome⟩ := Option.bind_eq_some_iff.mp hdata
  cases entry with
  | completed other retries fallback =>
    cases hsome
    exact ⟨data, retries, fallback, hentry, hvalue.symm⟩
  | failed error retries => cases hsome
  | skipped reason => cases hsome

end Progress

namespace Run

variable {σ : Type} {env : Environment σ} {d : Definition} {step : Step} {r r' : Run σ}
  {stop : Option Stop} {id target : String} {data shared : Json}

/-- How the data of a step and that of its fallback are related. -/
structure Shares (r : Run σ) (id target : String) (data shared : Json) : Prop where
  /-- The fallback has completed. -/
  entry : ∃ retries fallback,
    r.progress.entries.get? target = some (.completed shared retries fallback)
  /-- If it was executed for the step, they have the same data. -/
  executed : Replaced r.session.journal id target → data = shared
  /-- Otherwise the step has what is kept of the data of its fallback. -/
  reused : ¬ Replaced r.session.journal id target → data = Context.kept shared
  /-- The context shows the same value for both. -/
  value : shared.textSize < 2 ^ 64 → ∃ value, r.progress.context.result? id = some value ∧
    r.progress.context.result? target = some value

/-- Data that is not too large is shared as it is. -/
theorem Shares.eq_of_le (h : Shares r id target data shared)
    (hsize : shared.textSize ≤ maxResultSize) : data = shared := by
  by_cases hreplaced : Replaced r.session.journal id target
  · exact h.executed hreplaced
  · rw [h.reused hreplaced, Context.kept_of_le hsize]

/-- What is shared stays so while both steps are spared. -/
theorem Shares.spared (h : Shares r id target data shared) (hid : Spares id r r')
    (htarget : Spares target r r')
    (hreplaced : Replaced r'.session.journal id target → Replaced r.session.journal id target) :
    Shares r' id target data shared := by
  constructor
  · rw [htarget.entry]
    exact h.entry
  · intro hlater
    exact h.executed (hreplaced hlater)
  · intro hnever
    exact h.reused fun hbefore => hnever (hbefore.mono hid.suffix)
  · rw [hid.value, htarget.value]
    exact h.value

/-- Every step that names a fallback shares its result. -/
def AllShared (r : Run σ) : Prop :=
  ∀ id data retries target,
    r.progress.entries.get? id = some (.completed data retries (some target)) →
      ∃ shared, Shares r id target data shared

/-- What is shared at a point is shared later on, as long as no step that has completed changes and
no fallback is tried for it. -/
theorem AllShared.spared (h : AllShared r) (hspares : ∀ id, Completed r.progress.entries id →
      Spares id r r' ∧ ∀ target, Replaced r'.session.journal id target →
        Replaced r.session.journal id target)
    {retries : Nat}
    (hentry : r.progress.entries.get? id = some (.completed data retries (some target))) :
    ∃ shared, Shares r' id target data shared := by
  obtain ⟨shared, hshares⟩ := h id data retries target hentry
  obtain ⟨otherRetries, fallback, htarget⟩ := hshares.entry
  obtain ⟨hid, hreplaced⟩ := hspares id (completed_of_entry hentry)
  obtain ⟨hother, -⟩ := hspares target (completed_of_entry htarget)
  exact ⟨shared, hshares.spared hid hother (hreplaced target)⟩

/-! ## What a turn notes and writes -/

/-- No fallback is tried in the attempts at a step. -/
theorem replaced_all {p : Progress} {s s' : Session σ} {result : Option (Except Failure Success)}
    (hrun : Attempt.all env step p s = (result, s')) (h : Replaced s'.journal id target) :
    Replaced s.journal id target := by
  obtain ⟨m, hm, hevent⟩ := h
  rcases Attempt.journal_all hrun hm with hold | hattempt
  · exact ⟨m, hold, hevent⟩
  · rcases hattempt.event with hcalled | ⟨output, notTaken, hconcluded⟩
    · cases hcalled.symm.trans hevent
    · cases hconcluded.symm.trans hevent

theorem replaced_attempts {result : Option (Except Failure Success)} {session : Session σ}
    (hrun : r.attempts env step = (result, session)) (h : Replaced session.journal id target) :
    Replaced r.session.journal id target := by
  obtain ⟨m, hm, hevent⟩ := replaced_all hrun h
  rcases List.mem_cons.mp hm with rfl | hold
  · cases hevent
  · exact ⟨m, hold, hevent⟩

theorem replaced_standIn {other : String} {fallback : Step}
    {result : Option (Except Failure Success)} {session : Session σ}
    (hrun : r.standIn env step other fallback = (result, session))
    (h : Replaced session.journal id target) :
    Replaced r.session.journal id target ∨ id = step.id := by
  obtain ⟨m, hm, hevent⟩ := replaced_all hrun h
  rcases List.mem_cons.mp hm with rfl | hold
  · cases hevent
    exact Or.inr rfl
  · exact Or.inl ⟨m, hold, hevent⟩

/-- A fallback is tried only for the step whose turn it is. -/
theorem Attempted.replaced {session : Session σ} (h : Attempted env d step r session)
    (hreplaced : Replaced session.journal id target) :
    Replaced r.session.journal id target ∨ id = step.id := by
  cases h with
  | own result session hrun => exact Or.inl (replaced_attempts hrun hreplaced)
  | fallback failure between other fallback result session hrun hresult hstep hfallback =>
    exact (replaced_standIn hfallback hreplaced).imp_left (replaced_attempts hrun)

theorem Turned.of_replaced (h : Turned env d step r r' stop)
    (hreplaced : Replaced r'.session.journal id target) :
    Replaced r.session.journal id target ∨
      id = step.id ∧ r.progress.isSettled step.id = false := by
  cases h with
  | cancelled hcancelled => exact Or.inl hreplaced
  | settled hlive hsettled => exact Or.inl hreplaced
  | passed hlive hunsettled hpassed => exact Or.inl hreplaced
  | carriedOut hlive hunsettled htaken r' stop hcarried =>
    exact (hcarried.attempted.replaced hreplaced).imp_right fun hid => ⟨hid, hunsettled⟩

/-- The entry of a fallback that has been executed names no fallback. -/
theorem Substituted.entry_of_fallback {other : String} {value : Option (Except StepFault Json)}
    {retries : Nat} (h : Substituted env d step other r value r')
    (hentry : r'.progress.entries.get? id = some (.completed data retries (some target))) :
    r.progress.entries.get? id = some (.completed data retries (some target)) := by
  cases h with
  | reused value hresult => exact hentry
  | missing hresult hstep => exact hentry
  | executed fallback success session hresult hstep hrun hfits =>
    exact Entries.get?_of_insert hentry nofun
  | outgrown fallback success session overflow hresult hstep hrun hoverflow => exact hentry
  | failed fallback failure session hresult hstep hrun =>
    exact Entries.get?_of_insert hentry nofun
  | uncounted fallback session hresult hstep hrun => exact hentry

/-- How a step has come to name a fallback at its turn. -/
structure TakesOver (env : Environment σ) (d : Definition) (step : Step) (r r' : Run σ)
    (target : String) (data : Json) (retries : Nat) : Prop where
  decision : Policy.decision step = .fallback target
  run : ∃ failure session r₁, r.attempts env step = (some (.error failure), session) ∧
    Substituted env d step target ⟨r.progress, session⟩ (some (.ok data)) r₁ ∧
    r' = ⟨r₁.progress.record step.id data (.completed data retries (some target)), r₁.session⟩

theorem CarriedOut.entry_of_fallback {retries : Nat} (h : CarriedOut env d step r r' stop)
    (hentry : r'.progress.entries.get? id = some (.completed data retries (some target))) :
    r.progress.entries.get? id = some (.completed data retries (some target)) ∨
      id = step.id ∧ TakesOver env d step r r' target data retries := by
  cases h with
  | succeeded success session hrun hfits =>
    rw [Progress.entries_record, Progress.entries_leave] at hentry
    exact Or.inl (Entries.get?_of_insert hentry nofun)
  | outgrown success session overflow hrun hoverflow =>
    rw [Progress.entries_publish, Progress.entries_leave] at hentry
    exact Or.inl hentry
  | interrupted | aborted | skipped => exact Or.inl (Entries.get?_of_insert hentry nofun)
  | replaced failure session other value r₁ hrun hlive hdecision hsubstituted hfits =>
    rw [Progress.entries_record, Entries.get?_insert] at hentry
    split at hentry
    · next hid =>
      cases hentry
      exact Or.inr ⟨hid, hdecision, failure, session, r₁, hrun, hsubstituted, rfl⟩
    · exact Or.inl (hsubstituted.entry_of_fallback hentry)
  | overfilled failure session other value r₁ overflow hrun hlive hdecision hsubstituted
      hoverflow =>
    exact Or.inl (hsubstituted.entry_of_fallback (Entries.get?_of_insert hentry nofun))
  | unreplaced failure session other fault r₁ hrun hlive hdecision hsubstituted =>
    exact Or.inl (hsubstituted.entry_of_fallback (Entries.get?_of_insert hentry nofun))
  | uncounted session hrun => exact Or.inl hentry
  | brokenOff failure session other r₁ hrun hlive hdecision hsubstituted =>
    exact Or.inl (hsubstituted.entry_of_fallback hentry)

/-! ## Turns -/

/-- A step shares the result of its fallback when it has taken it over. -/
theorem TakesOver.shares {retries : Nat} (h : TakesOver env d step r r' target data retries)
    (hr : r.progress.Agrees) (hfirst : ¬ Replaced r.session.journal step.id target) :
    ∃ shared, Shares r' step.id target data shared := by
  obtain ⟨failure, session, r₁, hrun, hsubstituted, rfl⟩ := h.run
  have hne : target ≠ step.id := Policy.target_ne h.decision
  have hown : (r₁.progress.context.put step.id data).result? step.id = some (Context.kept data) :=
    (Context.result?_put _ _ _ _).trans (if_pos rfl)
  have hothers : Spares target r₁ ⟨r₁.progress.record step.id data
      (.completed data retries (some target)), r₁.session⟩ := spares_record hne
  cases hsubstituted with
  | reused value hresult =>
    -- The step has taken over a result that was kept already, so it is kept once more.
    obtain ⟨shared, otherRetries, fallback, htarget, rfl⟩ := hr.exists_data hresult
    refine ⟨shared, ⟨⟨otherRetries, fallback, hothers.entry.trans htarget⟩, ?_, fun _ => rfl, ?_⟩⟩
    · intro hreplaced
      exact absurd (replaced_attempts hrun hreplaced) hfirst
    · intro hsize
      rw [Context.kept_kept hsize] at hown
      exact ⟨_, hown, hothers.value.trans hresult⟩
  | executed fallback success session' hresult hstep hfallback hfits =>
    obtain ⟨-, rfl⟩ := Definition.mem_of_step? hstep
    obtain ⟨m, hm, hevent, -⟩ := replaced_mem_standIn hfallback
    refine ⟨success.value, ⟨⟨success.retries, none, ?_⟩, fun _ => rfl, ?_, fun _ => ?_⟩⟩
    · exact hothers.entry.trans (Entries.get?_insert_self _ _ _)
    · intro hnever
      exact absurd ⟨m, hm, hevent⟩ hnever
    · exact ⟨_, hown, hothers.value.trans ((Context.result?_put _ _ _ _).trans (if_pos rfl))⟩

/-- Points between turns: fallbacks have been tried for settled steps only. -/
structure Sharing (r : Run σ) : Prop where
  agrees : r.progress.Agrees
  settled : ∀ id target, Replaced r.session.journal id target → r.progress.isSettled id = true
  shared : AllShared r

/-- A turn spares the steps that have completed, and tries no fallback for them. -/
theorem Turned.spares_shared (h : Turned env d step r r' stop) (hr : Sharing r)
    (hcompleted : Completed r.progress.entries id) :
    Spares id r r' ∧ ∀ target, Replaced r'.session.journal id target →
      Replaced r.session.journal id target := by
  refine ⟨h.spares_of_completed hr.agrees.showsCompleted hcompleted, fun target hreplaced => ?_⟩
  rcases h.of_replaced hreplaced with hbefore | ⟨rfl, hunsettled⟩
  · exact hbefore
  · exact absurd hcompleted (Progress.not_completed_of_unsettled hunsettled)

theorem Turned.allShared (h : Turned env d step r r' stop) (hr : Sharing r) : AllShared r' := by
  intro id data retries target hentry
  have hspares : ∀ id, Completed r.progress.entries id → Spares id r r' ∧
      ∀ target, Replaced r'.session.journal id target → Replaced r.session.journal id target :=
    fun id hcompleted => h.spares_shared hr hcompleted
  cases h with
  | cancelled hcancelled => exact hr.shared.spared hspares hentry
  | settled hlive hsettled => exact hr.shared.spared hspares hentry
  | passed hlive hunsettled hpassed =>
    exact hr.shared.spared hspares (Entries.get?_of_insert hentry nofun)
  | carriedOut hlive hunsettled htaken r' stop hcarried =>
    rcases hcarried.entry_of_fallback hentry with hbefore | ⟨rfl, htakes⟩
    · exact hr.shared.spared hspares hbefore
    · apply htakes.shares hr.agrees
      intro hreplaced
      have hsettled := hr.settled _ _ hreplaced
      rw [hunsettled] at hsettled
      cases hsettled

theorem Turned.sharing (h : Turned env d step r r' none) (hstep : step ∈ d.steps)
    (hr : Sharing r) : Sharing r' := by
  refine ⟨h.agrees hr.agrees, fun id target hreplaced => ?_, h.allShared hr⟩
  rcases h.of_replaced hreplaced with hbefore | ⟨rfl, -⟩
  · exact h.isSettled_mono hstep (hr.settled id target hbefore)
  · exact h.isSettled_self

/-- Wherever a run stops, everything is shared. -/
theorem sharing_turns {order : List Step} (horder : ∀ s ∈ order, s ∈ d.steps) (hr : Sharing r) :
    AllShared (r.turns env d order).1 ∧
      ((r.turns env d order).2 = none → Sharing (r.turns env d order).1) := by
  apply turns_course _ hr hr.shared
  intro done step rest r₁ r₂ stop hsplit _ hturned hr₁
  have hstep : step ∈ d.steps :=
    horder step (hsplit ▸ List.mem_append_right done List.mem_cons_self)
  refine ⟨hturned.allShared hr₁, ?_⟩
  rintro rfl
  exact hturned.sharing hstep hr₁

theorem Sharing.look (h : Sharing r) (env : Environment σ) : Sharing (r.look env) := by
  refine ⟨h.agrees, h.settled, fun id data retries target hentry => ?_⟩
  exact h.shared.spared (fun id _ => ⟨spares_look env, fun _ hreplaced => hreplaced⟩) hentry

/-- So it is when a fallback has been tried and the step itself is yet to be settled. -/
theorem Substituted.allShared {other : String} {failure : Failure} {session : Session σ}
    {value : Option (Except StepFault Json)}
    (h : Substituted env d step other ⟨r.progress, session⟩ value r')
    (hrun : r.attempts env step = (some (.error failure), session))
    (hunsettled : r.progress.isSettled step.id = false) (hr : Sharing r) : AllShared r' := by
  intro id data retries target hentry
  refine hr.shared.spared (fun id hcompleted => ?_) (h.entry_of_fallback hentry)
  have hown : id ≠ step.id := by
    rintro rfl
    exact Progress.not_completed_of_unsettled hunsettled hcompleted
  have hattempts : Spares id r ⟨r.progress, session⟩ := spares_of_notes hown (notes_attempts hrun)
  constructor
  · rcases h.standsIn with hspares | ⟨hstands, -⟩
    · by_cases hid : id = other
      · subst hid
        exact hattempts.trans hspares
      · exact hattempts.trans (h.spares hid)
    · apply hattempts.trans
      apply h.spares
      rintro rfl
      exact hr.agrees.showsCompleted.not_completed hstands.hidden hcompleted
  · intro target hreplaced
    exact ((h.attempted hrun).replaced hreplaced).resolve_right hown

theorem sharing_initial (env : Environment σ) (d : Definition) (executionId : String)
    (inputs : Entries Json) (clock : Clock) (world : σ) :
    Sharing (initial env d executionId inputs clock world) := by
  refine ⟨Progress.agrees_initial _ rfl, ?_, ?_⟩
  · rintro id target ⟨m, hm, -⟩
    cases hm
  · intro id data retries target hentry
    cases hentry

/-- At every point of a run everything is shared. -/
theorem Passes.allShared {start point : Run σ} {order : List Step}
    (h : Passes env d start order point) (horder : ∀ s ∈ order, s ∈ d.steps)
    (hstart : Sharing start) : AllShared point := by
  cases h with
  | between done rest hsplit =>
    have hdone : ∀ s ∈ done, s ∈ d.steps :=
      fun s hs => horder s (hsplit ▸ List.mem_append_left rest hs)
    exact (sharing_turns hdone hstart).1
  | within done rest step r failure session target hsplit hturns hlive hunsettled htaken hrun hfault
      hdecision =>
    have hdone : ∀ s ∈ done, s ∈ d.steps :=
      fun s hs => horder s (hsplit ▸ List.mem_append_left (step :: rest) hs)
    have hshared : (start.turns env d done).2 = none → Sharing (start.turns env d done).1 :=
      (sharing_turns hdone hstart).2
    rw [hturns] at hshared
    exact (substituted env d step target ⟨r.progress, session⟩).allShared
      (r := r.look env) hrun hunsettled ((hshared rfl).look env)

end Run

variable {σ : Type}

/-- The result of a fallback is shared. In every run of a definition with a plan, at whatever
point a step has completed with the result of a fallback, the fallback has completed, and the
context shows the same value for both. They have the same data if the fallback was executed for
the step. If its result was there already, the step has what is kept of the data, which is the
data unless it is too large. -/
theorem fallback_results_shared (env : Environment σ) (d : Definition) (executionId : String)
    (inputs : Entries Json) (clock : Clock) (world : σ) {order : List Step}
    (h : Plan.sequence d.steps = .ok order) :
    ∃ (r : Run σ) (stop : Option Stop),
      execute env d executionId inputs clock world = .ok (r.outcome d stop, r.session) ∧
        (Run.initial env d executionId inputs clock world).Passes env d order r ∧
        ∀ point, (Run.initial env d executionId inputs clock world).Passes env d order point →
          ∀ id data retries target,
            point.progress.entries.get? id = some (.completed data retries (some target)) →
              ∃ shared, point.Shares id target data shared ∧
                (shared.textSize ≤ maxResultSize → data = shared) := by
  have hsteps : ∀ s ∈ order, s ∈ d.steps := fun s hs => (Plan.sequenced h).perm.mem_iff.mp hs
  have hinitial : (Run.initial env d executionId inputs clock world).Sharing :=
    Run.sharing_initial env d executionId inputs clock world
  refine ⟨_, _, Run.execute_eq h env executionId inputs clock world,
    .between order [] (List.append_nil order).symm, ?_⟩
  intro point hpoint id data retries target hentry
  obtain ⟨shared, hshares⟩ := hpoint.allShared hsteps hinitial id data retries target hentry
  exact ⟨shared, hshares, hshares.eq_of_le⟩

/-! ## Results that are kept as markers -/

/-- A generator that always writes the same. -/
def writing (text : String) : Environment Nat where
  collaborators :=
    ⟨fun _ => false, true, false, fun request world =>
      match request with
      | .code _ => (⟨0, false, .error (.execution "idle")⟩, world)
      | .generation _ => (⟨0, false, .ok ⟨text, .null⟩⟩, world)
      | .http _ => (⟨0, false, .error (.execution "idle")⟩, world)⟩
  timeouts := ⟨5000, 5000, 5000⟩
  retryDelay := 0
  time := "2000-01-01T00:00:00.000000001+00:00"

/-- The result of a step for which it writes. -/
def written (text : String) : Json := .obj [("text", .str text), ("metadata", .null)]

/-- The steps of a document in which a step falls back on one that has been executed before it. -/
def digestSteps : List Json := [
  .obj [("id", .str "draft"), ("type", .str "llm"),
    ("config", .obj [("model", .str "m"), ("prompt", .str "?")])],
  .obj [("id", .str "ask"), ("type", .str "code"),
    ("config", .obj [("language", .str "python3"), ("code", .str "pass")]),
    ("error_handling", .obj [("on_error", .str "fallback"), ("fallback_step", .str "draft")])]]

def draft : Step :=
  ⟨"draft", .llm, none, none, [], .llm ⟨"m", "?", none, none, none, none⟩, [], none⟩

def ask : Step :=
  ⟨"ask", .code, none, none, [], .code ⟨.python3, "pass", none⟩, [],
    some ⟨.fallback, none, some "draft"⟩⟩

def digest : Definition where
  metadata := ⟨"digest", "", "1.0.0", none, []⟩
  inputs := []
  steps := [draft, ask]
  outputs := []

theorem accepted_digest : (Validation.analyze (outline "digest" digestSteps)).2 = some digest := by
  have hdecoder : Definition.decoder (outline "digest" digestSteps) = .ok digest := rfl
  refine Validation.analyze_outline ?_ ?_ ?_ hdecoder
  all_goals exact List.isEmpty_iff.mp (by decide +kernel)

/-- Whatever is written for `draft`, `ask` has what is kept of it. -/
theorem exists_run_of_digest {text : String} (hsize : (written text).textSize < 2 ^ 64) :
    ∃ r : Run Nat,
      execute (writing text) digest "exec" [] (.initial false none) 0 =
          .ok (some (r.result digest none), r.session) ∧
        r.progress.entries.get? "draft" = some (.completed (written text) 0 none) ∧
        r.progress.entries.get? "ask" =
          some (.completed (Context.kept (written text)) 0 (some "draft")) := by
  let env := writing text
  let start := Run.initial env digest "exec" [] (.initial false none) 0
  have hkept := Context.textSize_kept_le hsize
  have htwice := Context.kept_kept hsize
  -- The first step writes its text.
  have hwritten : (start.look env).attempts env draft = (some (.ok ⟨written text, none, 0⟩), _) :=
    Attempt.all_of_once_ok rfl
  obtain ⟨world, journal, hdraft⟩ : ∃ world journal, (start.look env).attempts env draft =
      (some (.ok ⟨written text, none, 0⟩), ⟨.initial false none, world, journal⟩) :=
    ⟨_, _, hwritten⟩
  have hfits : (start.progress.context.put draft.id (written text)).overflow? = none := by
    rw [Context.overflow?_eq_none_iff]
    change (Context.kept (written text)).textSize + 0 + 2 ≤ maxContextSize
    rw [maxResultSize] at hkept
    rw [maxContextSize]
    omega
  have hfirst := Run.turn_eq_recorded (d := digest) rfl rfl rfl hdraft hfits
  let r₁ : Run Nat := ⟨start.progress.record draft.id (written text)
    (.completed (written text) 0 none), ⟨.initial false none, world, journal⟩⟩
  -- The second step fails and takes over what the context shows for the first.
  obtain ⟨session, hask⟩ : ∃ session, (r₁.look env).attempts env ask =
      (some (.error ⟨.language "python3", 0⟩), session) :=
    ⟨_, Attempt.all_of_once_error rfl rfl⟩
  have hresult : r₁.progress.context.result? "draft" = some (Context.kept (written text)) :=
    (Context.result?_put _ _ _ _).trans (if_pos rfl)
  have hfits₁ :
      (r₁.progress.context.put ask.id (Context.kept (written text))).overflow? = none := by
    rw [Context.overflow?_eq_none_iff]
    change (Context.kept (written text)).textSize +
      ((Context.kept (Context.kept (written text))).textSize + 0) + 2 ≤ maxContextSize
    rw [htwice]
    rw [maxResultSize] at hkept
    rw [maxContextSize]
    omega
  have hsecond := Run.turn_eq_fallBack (d := digest) (r := r₁) rfl rfl rfl hask rfl rfl
  rw [Run.fallBack_eq_reused (r := ⟨r₁.progress, session⟩) hresult hfits₁] at hsecond
  have hturns : start.turns env digest digest.steps =
      (⟨r₁.progress.record ask.id (Context.kept (written text))
        (.completed (Context.kept (written text)) 0 (some "draft")), session⟩, none) := by
    refine Run.turns_cons.mpr ⟨r₁, hfirst, Run.turns_cons.mpr ⟨_, hsecond, rfl⟩⟩
  exact ⟨_, Run.execute_of_turns rfl hturns, rfl, rfl⟩

theorem fallback_results_shared_in_digest :
    Plan.sequence digest.steps = .ok digest.steps ∧ ∃ (r : Run Nat) (stop : Option Stop),
      execute (writing "brief") digest "exec" [] (.initial false none) 0 =
          .ok (r.outcome digest stop, r.session) ∧
        ∃ data shared, r.progress.entries.get? "ask" = some (.completed data 0 (some "draft")) ∧
          r.Shares "ask" "draft" data shared ∧
          (shared.textSize ≤ maxResultSize → data = shared) := by
  have hplan : Plan.sequence digest.steps = .ok digest.steps := rfl
  obtain ⟨r, stop, hrun, hpoint, hshared⟩ :=
    fallback_results_shared (writing "brief") digest "exec" [] (.initial false none) 0 hplan
  have hbrief : (written "brief").textSize < 2 ^ 64 := by decide +kernel
  obtain ⟨r', hrun', -, hask⟩ := exists_run_of_digest hbrief
  have houtcome : r.outcome digest stop = some (r'.result digest none) :=
    congrArg Prod.fst (Except.ok.inj (hrun.symm.trans hrun'))
  have hentries : r.progress.entries = r'.progress.entries :=
    congrArg RunResult.steps (Run.eq_result_of_outcome houtcome)
  rw [← hentries] at hask
  obtain ⟨shared, hshares, hequal⟩ := hshared r hpoint _ _ _ _ hask
  exact ⟨hplan, r, stop, hrun, _, shared, hask, hshares, hequal⟩

theorem textSize_written (text : String) :
    (written text).textSize = Json.quotedSize text + 25 := by
  have hnames : Json.quotedSize "text" = 6 ∧ Json.quotedSize "metadata" = 10 := by decide +kernel
  simp only [written, Json.textSize, Json.textSizeFields]
  omega

/-- The data of a step and of its fallback may differ: `draft` has completed with a long text, and
`ask`, which takes it over, has a marker in its place. -/
theorem ask_differs_from_draft :
    (Validation.analyze (outline "digest" digestSteps)).2 = some digest ∧ ∃ result session,
      execute (writing (Json.bulk maxResultSize)) digest "exec" [] (.initial false none) 0 =
          .ok (some result, session) ∧
        ∃ data shared, result.steps.get? "ask" = some (.completed data 0 (some "draft")) ∧
          result.steps.get? "draft" = some (.completed shared 0 none) ∧ data ≠ shared := by
  have htext := textSize_written (Json.bulk maxResultSize)
  rw [Json.quotedSize_bulk] at htext
  have hlarge : maxResultSize < (written (Json.bulk maxResultSize)).textSize := by omega
  have hsize : (written (Json.bulk maxResultSize)).textSize < 2 ^ 64 := by
    rw [htext, maxResultSize]
    decide
  obtain ⟨r, hrun, hdraft, hask⟩ := exists_run_of_digest hsize
  refine ⟨accepted_digest, _, _, hrun, _, _, hask, hdraft, ?_⟩
  rw [Context.kept_of_lt hlarge]
  intro hequal
  have hcount := congrArg List.length (Json.obj.inj hequal)
  cases hcount

end Workflow
