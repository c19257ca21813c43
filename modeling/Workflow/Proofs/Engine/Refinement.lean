import Mathlib.Data.List.Lemmas
import Mathlib.Data.String.Basic
import Workflow.Engine
import Workflow.Proofs.Decode.Record
import Workflow.Proofs.Document.Acceptance

/-!
# Engines as maps and queues

Whatever an engine is asked to do, it holds a map from names to definitions and a queue of
results, and both can be read off the log of what it was asked and what it answered: a
name stands for the definition of its last load unless it was removed later, and the
history has the last of all the results.
-/

namespace Workflow

theorem Validation.exists_accepted_of_load {text : String} {d : Definition} {report : Report}
    (h : load text = .ok (d, report)) : ∃ document, (analyze document).2 = some d := by
  unfold load loadBy at h
  split at h
  · cases h
  · next document _ =>
    refine ⟨document, ?_⟩
    split at h
    · next hanalyze =>
      cases h
      rw [hanalyze]
    · cases h

namespace Engine

open Decode (bind_eq_ok map_eq_ok)

variable {σ : Type}

/-! ## Operations -/

/-- What an engine is asked to do. A run is carried out at once, or it is started and finished with
other operations in between. -/
inductive Operation (σ : Type) where
  | load (text : String)
  | remove (name : String)
  | run (env : Environment σ) (name : String) (inputs : Entries Json) (id : String)
    (interruption : Option Interruption) (world : σ)
  | start (name : String) (inputs : Entries Json) (id : String)
  | finish (id : String) (ending : Ending)

/-- What an engine answers if it does not refuse. -/
inductive Answer where
  | loaded (loaded : Loaded)
  | removed
  | started
  | ended (ending : Ending)
  /-- There is no such run under way. -/
  | idle

/-- An operation and the answer to it. -/
structure Entry (σ : Type) where
  operation : Operation σ
  answer : Except Refusal Answer

def attempt (e : Engine) : Operation σ → Except Refusal (Answer × Engine)
  | .load text => (e.load text).map fun (loaded, e) => (.loaded loaded, e)
  | .remove name => (e.remove name).map fun e => (.removed, e)
  | .run env name inputs id interruption world =>
    (run env name inputs id interruption world e).map fun (ending, _, e) => (.ended ending, e)
  | .start name inputs id => (e.start name inputs id).map fun (_, _, e) => (.started, e)
  | .finish id ending =>
    .ok (if e.cancels id then (.ended ending, e.finish id ending) else (.idle, e))

/-- The answer to an operation, and the engine after it. -/
def perform (e : Engine) (operation : Operation σ) : Except Refusal Answer × Engine :=
  match e.attempt operation with
  | .ok (answer, e) => (.ok answer, e)
  | .error refusal => (.error refusal, e)

/-- The log of several operations, and the engine after them. -/
def performAll (e : Engine) : List (Operation σ) → List (Entry σ) × Engine
  | [] => ([], e)
  | operation :: rest =>
    let (answer, e) := e.perform operation
    let (log, e) := e.performAll rest
    (⟨operation, answer⟩ :: log, e)

/-! ## What a log says -/

namespace Entry

def loaded? : Entry σ → Option Definition
  | ⟨.load text, .ok _⟩ => (Validation.load text).toOption.map Prod.fst
  | _ => none

def removed? : Entry σ → Option String
  | ⟨.remove name, .ok _⟩ => some name
  | _ => none

def started? : Entry σ → Option String
  | ⟨.run _ _ _ id _ _, .ok _⟩ => some id
  | ⟨.start _ _ id, .ok _⟩ => some id
  | _ => none

def ended? : Entry σ → Option String
  | ⟨.run _ _ _ id _ _, .ok _⟩ => some id
  | ⟨.finish id _, .ok (.ended _)⟩ => some id
  | _ => none

def result? : Entry σ → Option RunResult
  | ⟨_, .ok (.ended (.finished result))⟩ => some result
  | _ => none

/-- A load or a removal of a name. -/
def Touches (entry : Entry σ) (name : String) : Prop :=
  (∃ d, entry.loaded? = some d ∧ d.name = name) ∨ entry.removed? = some name

end Entry

/-- The last load of a name has brought a definition in, and the name was not removed later. -/
def Registered (log : List (Entry σ)) (name : String) (d : Definition) : Prop :=
  ∃ before entry after, log = before ++ entry :: after ∧ entry.loaded? = some d ∧ d.name = name ∧
    ∀ later ∈ after, ¬ later.Touches name

/-- The results of the runs that have ended, in the order of their ends. -/
def results (log : List (Entry σ)) : List RunResult := log.filterMap Entry.result?

/-- An engine holds what its log says. -/
structure Refines (limit : Nat) (log : List (Entry σ)) (e : Engine) : Prop where
  /-- The names are sorted, and there are no others. -/
  sorted : e.registry.names.Pairwise (· < ·)
  names : ∀ name, name ∈ e.registry.names ↔ ∃ d, Registered log name d
  detail : ∀ name d, e.detail name = .ok d ↔ Registered log name d
  unknown : ∀ name, (∀ d, ¬ Registered log name d) → e.detail name = .error (.notFound name)
  /-- The history has the last results, as many as are kept. -/
  history : e.registry.history = (results log).drop ((results log).length - limit)
  /-- A run is under way if it has been started and has not ended. -/
  running : ∀ id, e.running.count id + (log.filterMap Entry.ended?).count id =
    (log.filterMap Entry.started?).count id
  /-- Without such runs, nothing is left of any. -/
  idle : (log.filterMap Entry.started?).Perm (log.filterMap Entry.ended?) → e.running = []

def UnderWay (log : List (Entry σ)) (id : String) : Prop :=
  (log.filterMap Entry.ended?).count id < (log.filterMap Entry.started?).count id

/-- What an engine with a log has to answer. -/
inductive Answers (log : List (Entry σ)) : Operation σ → Except Refusal Answer → Prop where
  | loaded {text : String} {d : Definition} {report : Validation.Report} :
    Validation.load text = .ok (d, report) →
      Answers log (.load text) (.ok (.loaded ⟨d.name, report.warnings⟩))
  | invalid {text : String} {fault : Validation.LoadFault} :
    Validation.load text = .error fault → Answers log (.load text) (.error (.load fault))
  | removed {name : String} {d : Definition} :
    Registered log name d → Answers log (.remove name) (.ok .removed)
  | unremoved {name : String} :
    (∀ d, ¬ Registered log name d) → Answers log (.remove name) (.error (.notFound name))
  | ran {env : Environment σ} {name : String} {inputs prepared : Entries Json} {id : String}
      {interruption : Option Interruption} {world : σ} {d : Definition} {result : RunResult}
      {session : Session σ} :
    Registered log name d → Inputs.prepare d.inputs inputs = .ok prepared →
      execute env d id prepared (.initial false (interruption.map Interruption.moment)) world =
        .ok (some result, session) →
      Answers log (.run env name inputs id interruption world)
        (.ok (.ended (if isAbandoned interruption session then .abandoned else .finished result)))
  | notRun {env : Environment σ} {name : String} {inputs : Entries Json} {id : String}
      {interruption : Option Interruption} {world : σ} {refusal : Refusal} :
    Answers log (.start name inputs id) (.error refusal) →
      Answers log (.run env name inputs id interruption world) (.error refusal)
  | started {name : String} {inputs prepared : Entries Json} {id : String} {d : Definition} :
    Registered log name d → Inputs.prepare d.inputs inputs = .ok prepared →
      Answers log (.start name inputs id) (.ok .started)
  | unknown {name : String} {inputs : Entries Json} {id : String} :
    (∀ d, ¬ Registered log name d) → Answers log (.start name inputs id) (.error (.notFound name))
  | unfit {name : String} {inputs : Entries Json} {id : String} {d : Definition}
      {problems : List InputProblem} :
    Registered log name d → Inputs.prepare d.inputs inputs = .error problems →
      Answers log (.start name inputs id) (.error (.inputs problems))
  | ended {id : String} {ending : Ending} :
    UnderWay log id → Answers log (.finish id ending) (.ok (.ended ending))
  | idle {id : String} {ending : Ending} :
    ¬ UnderWay log id → Answers log (.finish id ending) (.ok .idle)

/-! ## What one operation does -/

section

variable {e e' : Engine} {name id text : String} {inputs : Entries Json}

theorem detail_eq_ok_iff {d : Definition} :
    e.detail name = .ok d ↔ e.registry.get? name = some d := by
  unfold detail
  cases e.registry.get? name <;> simp

theorem of_load {loaded : Loaded} (h : e.load text = .ok (loaded, e')) :
    ∃ d report, Validation.load text = .ok (d, report) ∧
      e' = { e with registry := e.registry.insert d } := by
  unfold load at h
  split at h
  · next d report hload =>
    cases h
    exact ⟨d, report, hload, rfl⟩
  · cases h

theorem of_remove (h : e.remove name = .ok e') :
    e' = { e with registry := e.registry.erase name } := by
  unfold remove at h
  split at h
  · cases h
    rfl
  · cases h

theorem start_of_detail {d : Definition} (h : e.detail name = .ok d) :
    e.start name inputs id = match Inputs.prepare d.inputs inputs with
      | .ok prepared => .ok (d, prepared, { e with running := id :: e.running })
      | .error problems => .error (.inputs problems) := by
  simp only [start, prepare, h, bind, Except.bind]
  cases Inputs.prepare d.inputs inputs <;> rfl

theorem start_of_unknown {refusal : Refusal} (h : e.detail name = .error refusal) :
    e.start name inputs id = .error refusal := by
  rw [start, h]
  rfl

theorem of_start {d : Definition} {prepared : Entries Json}
    (h : e.start name inputs id = .ok (d, prepared, e')) :
    e.detail name = .ok d ∧ Inputs.prepare d.inputs inputs = .ok prepared ∧
      e' = { e with running := id :: e.running } := by
  obtain ⟨found, hfound, hrest⟩ := bind_eq_ok h
  obtain ⟨given, -, heq⟩ := bind_eq_ok hrest
  cases heq
  rw [start_of_detail hfound] at h
  split at h
  · next hinputs =>
    cases h
    exact ⟨hfound, hinputs, rfl⟩
  · cases h

/-- A run leaves nothing but its result. -/
theorem of_run {env : Environment σ} {interruption : Option Interruption} {world after : σ}
    {ending : Ending} (h : run env name inputs id interruption world e = .ok (ending, after, e')) :
    e' = ({ e with running := id :: e.running } : Engine).finish id ending := by
  obtain ⟨⟨d, prepared, begun⟩, hstart, h⟩ := bind_eq_ok h
  obtain ⟨⟨result, session⟩, -, h⟩ := bind_eq_ok h
  cases h
  rw [(of_start hstart).2.2]

end

/-- What an entry of the log changes about an engine. -/
structure Effect (e : Engine) (entry : Entry σ) (e' : Engine) : Prop where
  nodup : e.registry.definitions.keys.Nodup → e'.registry.definitions.keys.Nodup
  limit : e'.registry.limit = e.registry.limit
  registered : ∀ name d, e'.registry.get? name = some d ↔
    (entry.loaded? = some d ∧ d.name = name) ∨
      (e.registry.get? name = some d ∧ ¬ entry.Touches name)
  history : e'.registry.history = match entry.result? with
    | some result => (e.registry.record result).history
    | none => e.registry.history
  running : ∀ id, e'.running.count id + entry.ended?.toList.count id =
    e.running.count id + entry.started?.toList.count id

namespace Effect

variable {e e' : Engine} {entry : Entry σ}

/-- An operation that neither loads nor removes anything keeps the definitions. -/
theorem registered_of_untouched (hloaded : entry.loaded? = none) (hremoved : entry.removed? = none)
    (h : e'.registry.definitions = e.registry.definitions) (name : String) (d : Definition) :
    e'.registry.get? name = some d ↔ (entry.loaded? = some d ∧ d.name = name) ∨
      (e.registry.get? name = some d ∧ ¬ entry.Touches name) := by
  simp [Registry.get?, h, Entry.Touches, hloaded, hremoved]

theorem of_insert {text : String} {d : Definition} {report : Validation.Report} {loaded : Loaded}
    (h : Validation.load text = .ok (d, report)) :
    Effect e (⟨.load text, .ok (.loaded loaded)⟩ : Entry σ)
      { e with registry := e.registry.insert d } where
  nodup hnodup := Entries.nodup_keys_insert hnodup d.name d
  limit := rfl
  registered name found := by
    have hloaded : (⟨.load text, .ok (.loaded loaded)⟩ : Entry σ).loaded? = some d := by
      simp [Entry.loaded?, h, Except.toOption]
    have hremoved : (⟨.load text, .ok (.loaded loaded)⟩ : Entry σ).removed? = none := rfl
    rw [Registry.get?_insert, Entry.Touches, hloaded, hremoved]
    by_cases hname : name = d.name
    · subst hname
      simp only [if_true, Option.some.injEq]
      constructor
      · rintro rfl
        exact Or.inl ⟨rfl, rfl⟩
      · rintro (⟨heq, -⟩ | ⟨-, htouches⟩)
        · exact heq
        · exact absurd (Or.inl ⟨d, rfl, rfl⟩) htouches
    · simp only [if_neg hname, Option.some.injEq]
      constructor
      · intro hfound
        refine Or.inr ⟨hfound, ?_⟩
        rintro (⟨_, rfl, heq⟩ | hnone)
        · exact hname heq.symm
        · cases hnone
      · rintro (⟨rfl, heq⟩ | ⟨hfound, -⟩)
        · exact absurd heq.symm hname
        · exact hfound
  history := rfl
  running _ := rfl

theorem of_erase (name : String) :
    Effect e (⟨.remove name, .ok .removed⟩ : Entry σ)
      { e with registry := e.registry.erase name } where
  nodup hnodup := hnodup.sublist (List.filter_sublist.map Prod.fst)
  limit := rfl
  registered other d := by
    have htouches : (⟨.remove name, .ok .removed⟩ : Entry σ).Touches other ↔ other = name := by
      simp [Entry.Touches, Entry.loaded?, Entry.removed?, eq_comm]
    rw [Registry.get?_erase, htouches]
    by_cases hname : other = name <;> simp [hname, Entry.loaded?]
  history := rfl
  running _ := rfl

theorem definitions_finish (id : String) (ending : Ending) :
    (e.finish id ending).registry.definitions = e.registry.definitions := by
  cases ending <;> simp [finish]

theorem limit_finish (id : String) (ending : Ending) :
    (e.finish id ending).registry.limit = e.registry.limit := by
  cases ending <;> simp [finish]

theorem of_run (env : Environment σ) (name : String) (inputs : Entries Json) (id : String)
    (interruption : Option Interruption) (world : σ) (ending : Ending) :
    Effect e (⟨.run env name inputs id interruption world, .ok (.ended ending)⟩ : Entry σ)
      (({ e with running := id :: e.running } : Engine).finish id ending) where
  nodup hnodup := by rwa [definitions_finish]
  limit := limit_finish id ending
  registered := registered_of_untouched rfl rfl (definitions_finish id ending)
  history := by cases ending <;> rfl
  running other := by simp [finish, Entry.ended?, Entry.started?]

theorem of_start (name : String) (inputs : Entries Json) (id : String) :
    Effect e (⟨.start name inputs id, .ok .started⟩ : Entry σ)
      { e with running := id :: e.running } where
  nodup hnodup := hnodup
  limit := rfl
  registered := registered_of_untouched rfl rfl rfl
  history := rfl
  running other := by
    simp [Entry.ended?, Entry.started?, List.count_cons]

theorem of_finish {id : String} (h : e.cancels id = true) (ending : Ending) :
    Effect e (⟨.finish id ending, .ok (.ended ending)⟩ : Entry σ) (e.finish id ending) where
  nodup hnodup := by rwa [definitions_finish]
  limit := limit_finish id ending
  registered := registered_of_untouched rfl rfl (definitions_finish id ending)
  history := by cases ending <;> rfl
  running other := by
    have hmem : id ∈ e.running := List.contains_iff_mem.mp h
    have hcount := (List.perm_cons_erase hmem).count_eq other
    simp only [finish, Entry.ended?, Entry.started?, Option.toList_some, Option.toList_none,
      List.count_nil, hcount, List.count_cons]
    omega

theorem of_idle (id : String) (ending : Ending) :
    Effect e (⟨.finish id ending, .ok .idle⟩ : Entry σ) e where
  nodup hnodup := hnodup
  limit := rfl
  registered := registered_of_untouched rfl rfl rfl
  history := rfl
  running _ := rfl

theorem of_refusal (operation : Operation σ) (refusal : Refusal) :
    Effect e ⟨operation, .error refusal⟩ e where
  nodup hnodup := hnodup
  limit := rfl
  registered := by
    cases operation <;> exact registered_of_untouched rfl rfl rfl
  history := by cases operation <;> rfl
  running _ := by cases operation <;> rfl

end Effect

theorem perform_of_ok {e e' : Engine} {operation : Operation σ} {answer : Answer}
    (h : e.attempt operation = .ok (answer, e')) : e.perform operation = (.ok answer, e') := by
  rw [perform, h]

theorem perform_of_error {e : Engine} {operation : Operation σ} {refusal : Refusal}
    (h : e.attempt operation = .error refusal) : e.perform operation = (.error refusal, e) := by
  rw [perform, h]

theorem effect_attempt {e e' : Engine} {operation : Operation σ} {answer : Answer}
    (h : e.attempt operation = .ok (answer, e')) : Effect e ⟨operation, .ok answer⟩ e' := by
  cases operation with
  | load text =>
    obtain ⟨⟨loaded, after⟩, hload, heq⟩ := map_eq_ok h
    cases heq
    obtain ⟨d, report, hd, rfl⟩ := of_load hload
    exact .of_insert hd
  | remove name =>
    obtain ⟨after, hremove, heq⟩ := map_eq_ok h
    cases heq
    rw [of_remove hremove]
    exact .of_erase name
  | run env name inputs id interruption world =>
    obtain ⟨⟨ending, _, after⟩, hrun, heq⟩ := map_eq_ok h
    cases heq
    rw [of_run hrun]
    exact .of_run env name inputs id interruption world ending
  | start name inputs id =>
    obtain ⟨⟨d, prepared, after⟩, hstart, heq⟩ := map_eq_ok h
    cases heq
    rw [(of_start hstart).2.2]
    exact .of_start name inputs id
  | finish id ending =>
    rw [attempt] at h
    split at h
    · next hcancels =>
      cases h
      exact .of_finish hcancels ending
    · cases h
      exact .of_idle id ending

/-- What an engine answers tells what it has done. -/
theorem effect_perform (e : Engine) (operation : Operation σ) :
    Effect e ⟨operation, (e.perform operation).1⟩ (e.perform operation).2 := by
  cases h : e.attempt operation with
  | ok pair =>
    rw [perform_of_ok h]
    exact effect_attempt h
  | error refusal =>
    rw [perform_of_error h]
    exact .of_refusal operation refusal

/-! ## What several operations do -/

/-- One more entry registers its own definition and keeps the ones that it does not touch. -/
theorem registered_snoc {log : List (Entry σ)} {entry : Entry σ} {name : String} {d : Definition} :
    Registered (log ++ [entry]) name d ↔ (entry.loaded? = some d ∧ d.name = name) ∨
      (Registered log name d ∧ ¬ entry.Touches name) := by
  constructor
  · rintro ⟨before, loading, after, heq, hloaded, hname, hafter⟩
    rcases List.eq_nil_or_concat' after with rfl | ⟨between, last, rfl⟩
    · obtain ⟨-, rfl⟩ := List.append_inj' heq rfl |>.imp_right List.singleton_inj.mp
      exact Or.inl ⟨hloaded, hname⟩
    · rw [← List.cons_append, ← List.append_assoc] at heq
      obtain ⟨rfl, hlast⟩ := List.append_inj' heq rfl
      cases List.singleton_inj.mp hlast
      exact Or.inr ⟨⟨before, loading, between, rfl, hloaded, hname,
        fun later hlater => hafter later (List.mem_append_left _ hlater)⟩, hafter _ (by simp)⟩
  · rintro (⟨hloaded, hname⟩ | ⟨⟨before, loading, after, rfl, hloaded, hname, hafter⟩, htouches⟩)
    · exact ⟨log, entry, [], rfl, hloaded, hname, by simp⟩
    · refine ⟨before, loading, after ++ [entry], by simp, hloaded, hname, fun later hlater => ?_⟩
      rcases List.mem_append.mp hlater with hlater | hlater
      · exact hafter later hlater
      · rwa [List.mem_singleton.mp hlater]

/-- What every operation keeps up between the log and the engine. -/
structure Mirrors (limit : Nat) (log : List (Entry σ)) (e : Engine) : Prop where
  nodup : e.registry.definitions.keys.Nodup
  bound : e.registry.limit = limit
  registered : ∀ name d, e.registry.get? name = some d ↔ Registered log name d
  history : e.registry.history = (results log).drop ((results log).length - limit)
  running : ∀ id, e.running.count id + (log.filterMap Entry.ended?).count id =
    (log.filterMap Entry.started?).count id

namespace Mirrors

variable {limit : Nat} {log : List (Entry σ)} {e e' : Engine} {entry : Entry σ}

theorem step (h : Mirrors limit log e) (heffect : Effect e entry e') :
    Mirrors limit (log ++ [entry]) e' where
  nodup := heffect.nodup h.nodup
  bound := heffect.limit.trans h.bound
  registered name d := by rw [heffect.registered, h.registered, registered_snoc]
  history := by
    rw [heffect.history, results, List.filterMap_append, ← results]
    cases hresult : entry.result? with
    | none => simpa [hresult] using h.history
    | some result =>
      simp only [List.filterMap_cons, List.filterMap_nil, hresult]
      rw [← h.bound]
      exact Registry.history_record (h.bound ▸ h.history) result
  running id := by
    have hrunning := h.running id
    have hentry := heffect.running id
    rw [List.filterMap_append, List.filterMap_append, List.count_append, List.count_append]
    cases hended : entry.ended? <;> cases hstarted : entry.started? <;> simp_all <;> omega

theorem performAll (h : Mirrors limit log e) (operations : List (Operation σ)) :
    Mirrors limit (log ++ (e.performAll operations).1) (e.performAll operations).2 := by
  induction operations generalizing log e with
  | nil => simpa [Engine.performAll] using h
  | cons operation rest ih =>
    have hrest := ih (h.step (effect_perform e operation))
    rwa [List.append_assoc] at hrest

theorem initial (c : Configuration) :
    Mirrors c.historyLimit.toNat ([] : List (Entry σ)) (initial c) where
  nodup := List.nodup_nil
  bound := rfl
  registered name d := by
    constructor
    · intro h
      cases h
    · rintro ⟨before, entry, after, heq, -⟩
      simp at heq
  history := List.drop_nil.symm
  running id := rfl

/-- A registered name has a definition. -/
theorem mem_names_iff (h : Mirrors limit log e) {name : String} :
    name ∈ e.registry.names ↔ ∃ d, Registered log name d := by
  rw [Registry.names, List.mem_mergeSort, ← Entries.contains_iff_mem_keys, Entries.contains,
    Option.isSome_iff_exists]
  exact exists_congr fun d => h.registered name d

theorem pairwise_names (h : Mirrors limit log e) : e.registry.names.Pairwise (· < ·) := by
  have hsorted : e.registry.names.Pairwise (· ≤ ·) := by
    have htrans (a b c : String) (hab : decide (a ≤ b) = true) (hbc : decide (b ≤ c) = true) :
        decide (a ≤ c) = true :=
      decide_eq_true (le_trans (of_decide_eq_true hab) (of_decide_eq_true hbc))
    have htotal (a b : String) : (decide (a ≤ b) || decide (b ≤ a)) = true := by
      simpa using le_total a b
    exact (List.pairwise_mergeSort htrans htotal _).imp of_decide_eq_true
  have hnodup : e.registry.names.Nodup := (List.mergeSort_perm _ _).nodup_iff.mpr h.nodup
  exact (hsorted.and hnodup).imp fun hle => lt_of_le_of_ne hle.1 hle.2

theorem refines (h : Mirrors limit log e) : Refines limit log e where
  sorted := h.pairwise_names
  names _ := h.mem_names_iff
  detail name d := detail_eq_ok_iff.trans (h.registered name d)
  unknown name hname := by
    have hnone : e.registry.get? name = none :=
      Option.eq_none_iff_forall_ne_some.mpr fun d hd => hname d ((h.registered name d).mp hd)
    rw [detail, hnone]
  history := h.history
  running := h.running
  idle hperm := List.eq_nil_iff_forall_not_mem.mpr fun id hid => by
    have hcount := h.running id
    rw [hperm.count_eq] at hcount
    exact absurd (List.count_pos_iff.mpr hid) (by omega)

/-! ## Refusals -/

/-- A registered definition comes from a document that was accepted. -/
theorem exists_accepted (h : Mirrors limit log e) {name : String} {d : Definition}
    (hd : e.detail name = .ok d) : ∃ document, (Validation.analyze document).2 = some d := by
  obtain ⟨_, entry, _, -, hloaded, -⟩ := (h.refines.detail name d).mp hd
  unfold Entry.loaded? at hloaded
  split at hloaded
  · next text answer =>
    obtain ⟨⟨found, report⟩, hload, rfl⟩ := Option.map_eq_some_iff.mp hloaded
    have hload : Validation.load text = .ok (found, report) := by
      cases heq : Validation.load text with
      | error fault => simp [heq, Except.toOption] at hload
      | ok pair => simpa [heq, Except.toOption] using hload
    exact Validation.exists_accepted_of_load hload
  · cases hloaded

theorem underWay_iff (h : Mirrors limit log e) {id : String} :
    UnderWay log id ↔ e.cancels id = true := by
  have hcount := h.running id
  rw [cancels, List.contains_iff_mem, ← List.count_pos_iff, UnderWay]
  omega

theorem answers_start (h : Mirrors limit log e) (name : String) (inputs : Entries Json)
    (id : String) : Answers log (.start name inputs id)
      (e.perform (.start name inputs id : Operation σ)).1 := by
  cases hfound : e.detail name with
  | error refusal =>
    have hunknown (d : Definition) (hd : Registered log name d) : False := by
      rw [(h.refines.detail name d).mpr hd] at hfound
      cases hfound
    have hstart : e.start name inputs id = .error (.notFound name) :=
      start_of_unknown (h.refines.unknown name hunknown)
    rw [perform, attempt, hstart]
    exact .unknown hunknown
  | ok d =>
    have hd := (h.refines.detail name d).mp hfound
    rw [perform, attempt, start_of_detail hfound]
    cases hinputs : Inputs.prepare d.inputs inputs with
    | error problems => exact .unfit hd hinputs
    | ok prepared => exact .started hd hinputs

/-- A registered definition has a plan, and its attempts can be counted, so a run
that is started has a result. -/
theorem answers_run (h : Mirrors limit log e) (env : Environment σ) (name : String)
    (inputs : Entries Json) (id : String) (interruption : Option Interruption) (world : σ) :
    Answers log (.run env name inputs id interruption world)
      (e.perform (.run env name inputs id interruption world)).1 := by
  have hanswer := h.answers_start name inputs id
  rw [perform, attempt] at hanswer
  rw [perform, attempt]
  cases hstart : e.start name inputs id with
  | error refusal =>
    rw [hstart] at hanswer
    rw [run, hstart]
    exact .notRun hanswer
  | ok started =>
    obtain ⟨d, prepared, after⟩ := started
    obtain ⟨hfound, hinputs, -⟩ := of_start hstart
    obtain ⟨document, haccepted⟩ := h.exists_accepted hfound
    obtain ⟨order, horder⟩ := (Definition.sound_of_accepted haccepted).exists_sequence
    have hrun : execute env d id prepared (.initial false (interruption.map Interruption.moment))
        world = .ok (some _, _) := Run.execute_of_accepted haccepted horder env id prepared _ world
    rw [run, hstart]
    simp only [bind, Except.bind, hrun]
    exact .ran ((h.refines.detail name d).mp hfound) hinputs hrun

theorem answers (h : Mirrors limit log e) (operation : Operation σ) :
    Answers log operation (e.perform operation).1 := by
  cases operation with
  | load text =>
    rw [perform, attempt, load]
    cases hload : Validation.load text with
    | error fault => exact .invalid hload
    | ok pair => exact .loaded hload
  | remove name =>
    rw [perform, attempt, remove]
    cases hcontains : e.registry.contains name with
    | true =>
      obtain ⟨d, hd⟩ := Option.isSome_iff_exists.mp hcontains
      exact .removed ((h.registered name d).mp hd)
    | false =>
      refine .unremoved fun d hd => ?_
      have hfound : e.registry.contains name = true :=
        Option.isSome_of_eq_some ((h.registered name d).mpr hd)
      rw [hcontains] at hfound
      cases hfound
  | run env name inputs id interruption world =>
    exact h.answers_run env name inputs id interruption world
  | start name inputs id => exact h.answers_start name inputs id
  | finish id ending =>
    rw [perform, attempt]
    cases hcancels : e.cancels id with
    | true => exact .ended (h.underWay_iff.mpr hcancels)
    | false => exact .idle fun hunder => by simp [h.underWay_iff.mp hunder] at hcancels

end Mirrors

/-- After any operations an engine holds what its log says: the names that are listed are
those that have been loaded and not removed since, each stands for the definition of its last
load, the history has the last of all the results, as many as are kept, and only runs that
have not ended are under way. From this it also follows what is answered to the next
operation, and a refusal changes nothing. -/
theorem refines_performAll (c : Configuration) (operations : List (Operation σ)) :
    let (log, e) := (initial c).performAll operations
    Refines c.historyLimit.toNat log e ∧
      ∀ operation, Answers log operation (e.perform operation).1 ∧
        ∀ refusal, (e.perform operation).1 = .error refusal → (e.perform operation).2 = e := by
  have h : Mirrors c.historyLimit.toNat ((initial c).performAll operations).1
      ((initial c).performAll operations).2 := (Mirrors.initial c).performAll operations
  refine ⟨h.refines, fun operation => ⟨h.answers operation, fun refusal hrefusal => ?_⟩⟩
  cases hattempt : ((initial c).performAll operations).2.attempt operation with
  | ok pair =>
    rw [perform_of_ok hattempt] at hrefusal
    cases hrefusal
  | error found => rw [perform_of_error hattempt]

end Engine

end Workflow
