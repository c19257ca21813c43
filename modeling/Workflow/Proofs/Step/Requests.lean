import Workflow.Proofs.Run.Routing
import Workflow.Proofs.Template.Splice

/-!
# Steps and their requests

A step makes its request when everything that it refers to has been resolved, and it makes no other.
So what is wrong with a step before its request keeps the request from being made: a language that
is not supported, a reference that leads nowhere, or the text of a URL that is none. The references
fail in the order in which the step resolves what they stand in.

What is asked of collaborators is kept in a log beside the state of their world.
-/

namespace Workflow

open Template (Scope FailsFirst failsFirst_cons_iff failsFirst_append_iff forall_ok_or_failsFirst)

/-! ## What a step resolves -/

namespace Template

/-- Something that a step resolves: a text, the texts in a value, or a path. -/
inductive Source where
  | text (template : String)
  | value (template : Json)
  | reference (path : String)

/-- Resolves a source, for its fault alone. -/
def Source.check (scope : Scope) : Source → Except Fault Unit
  | text template => (resolveString scope template).map fun _ => ()
  | value template => (resolveValue scope template).map fun _ => ()
  | reference path => (resolvePath scope path).map fun _ => ()

end Template

open Template (Source)

namespace Step

variable {σ : Type}

/-- What a step resolves before it makes its request, in order. A body counts
only if its method has one. -/
def sources (step : Step) : List Source :=
  match step.config with
  | .llm config => .text config.prompt :: config.systemPrompt.toList.map .text
  | .http config =>
    .text config.url :: (config.headers.values.map .text ++
      if config.method.carriesBody then config.body.toList.map .value else [])
  | .condition config => (Template.tokens config.condition).map fun token => .reference token.path
  | _ => []

def Unsupported (cs : Collaborators σ) (step : Step) : Prop :=
  ∃ config, step.config = .code config ∧ cs.supports config.language = false

/-- The address of the step's request is a text that is no URL. -/
def Misaddressed (scope : Scope) (step : Step) : Prop :=
  ∃ config url fault, step.config = .http config ∧
    Template.resolveString scope config.url = .ok url ∧ Url.read url = .error fault

/-- What keeps a step from making its request. -/
inductive Barred (cs : Collaborators σ) (scope : Scope) (step : Step) : Prop
  | language (h : step.Unsupported cs)
  | source {source : Source} {fault : Template.Fault} (hmem : source ∈ step.sources)
    (h : source.check scope = .error fault)
  | address (h : step.Misaddressed scope)

end Step

/-! ## Faults before requests -/

namespace Handler

variable {σ : Type} {cs : Collaborators σ} {timeouts : Timeouts} {time : String} {step : Step}
  {c : Context}
  {fault : Template.Fault}

theorem resolve_of_error {template : String}
    (h : (Source.text template).check c.scope = .error fault) :
    resolve c template = .error (.ofTemplate fault) := by
  rw [resolve, Decode.map_eq_error h]
  rfl

theorem exists_resolve {template : String} (h : ∃ u, (Source.text template).check c.scope = .ok u) :
    ∃ text, Template.resolveString c.scope template = .ok text ∧ resolve c template = .ok text := by
  obtain ⟨u, hcheck⟩ := h
  obtain ⟨text, htext, -⟩ := Decode.map_eq_ok hcheck
  refine ⟨text, htext, ?_⟩
  rw [resolve, htext]
  rfl

/-- The first header that fails is the fault of all of them. -/
theorem resolveHeaders_of_failsFirst {headers : Entries String}
    (h : FailsFirst (Source.check c.scope) (headers.values.map .text) fault) :
    resolveHeaders c headers = .error (.ofTemplate fault) := by
  induction headers with
  | nil => exact absurd h Template.not_failsFirst_nil
  | cons header rest ih =>
    obtain ⟨name, template⟩ := header
    rcases failsFirst_cons_iff.mp h with hfails | ⟨hok, hrest⟩
    · rw [resolveHeaders, resolve_of_error hfails]
      rfl
    · obtain ⟨text, -, hresolve⟩ := exists_resolve hok
      rw [resolveHeaders, hresolve, ih hrest]
      rfl

theorem exists_resolveHeaders {headers : Entries String}
    (h : ∀ source ∈ headers.values.map Source.text, ∃ u, source.check c.scope = .ok u) :
    ∃ values, resolveHeaders c headers = .ok values := by
  induction headers with
  | nil => exact ⟨[], rfl⟩
  | cons header rest ih =>
    obtain ⟨name, template⟩ := header
    obtain ⟨hfirst, hrest⟩ := List.forall_mem_cons.mp h
    obtain ⟨text, -, hresolve⟩ := exists_resolve hfirst
    obtain ⟨values, hvalues⟩ := ih hrest
    refine ⟨(name, text) :: values, ?_⟩
    rw [resolveHeaders, hresolve, hvalues]
    rfl

theorem checkReferences_of_failsFirst {tokens : List Template.Token}
    (h : FailsFirst (Source.check c.scope) (tokens.map fun token => .reference token.path) fault) :
    checkReferences c tokens = .error (.ofTemplate fault) := by
  induction tokens with
  | nil => exact absurd h Template.not_failsFirst_nil
  | cons token rest ih =>
    have hcheck : (Source.reference token.path).check c.scope =
      (Template.resolvePath c.scope token.path).map fun _ => () := rfl
    rcases failsFirst_cons_iff.mp h with hfails | ⟨⟨u, hok⟩, hrest⟩
    · rw [hcheck] at hfails
      rw [checkReferences, Decode.map_eq_error hfails]
      rfl
    · rw [hcheck] at hok
      obtain ⟨value, hvalue, -⟩ := Decode.map_eq_ok hok
      rw [checkReferences, hvalue]
      exact ih hrest

theorem llm_of_failsFirst {config : LlmConfig}
    (h : FailsFirst (Source.check c.scope)
      (.text config.prompt :: config.systemPrompt.toList.map .text) fault) :
    llm cs config time c = .done (.error (.ofTemplate fault)) := by
  rcases failsFirst_cons_iff.mp h with hprompt | ⟨hok, hsystem⟩
  · rw [llm, resolve_of_error hprompt]
    rfl
  · obtain ⟨prompt, -, hprompt⟩ := exists_resolve hok
    rw [llm, hprompt]
    cases hconfig : config.systemPrompt with
    | none =>
      rw [hconfig] at hsystem
      exact absurd hsystem Template.not_failsFirst_nil
    | some template =>
      rw [hconfig] at hsystem
      have hfails := Template.failsFirst_singleton_iff.mp hsystem
      simp only [resolve_of_error hfails]
      rfl

/-- An address that is no URL is found out before the headers are resolved. -/
theorem http_of_unreadable {config : HttpConfig} {url : String} {problem : Url.Fault}
    (hurl : Template.resolveString c.scope config.url = .ok url)
    (hread : Url.read url = .error problem) :
    http cs timeouts config c =
      .done (.error (.http s!"invalid url '{url}': {problem.message}")) := by
  have hresolve : resolve c config.url = .ok url := by
    rw [resolve, hurl]
    rfl
  rw [http, hresolve]
  simp only [bind, Except.bind, hread]
  rfl

theorem http_of_failsFirst {config : HttpConfig}
    (h : FailsFirst (Source.check c.scope)
      (.text config.url :: (config.headers.values.map .text ++
        if config.method.carriesBody then config.body.toList.map .value else [])) fault)
    (haddress : ∀ url, Template.resolveString c.scope config.url = .ok url →
      ∃ parsed, Url.read url = .ok parsed) :
    http cs timeouts config c = .done (.error (.ofTemplate fault)) := by
  rcases failsFirst_cons_iff.mp h with hurl | ⟨hok, hrest⟩
  · rw [http, resolve_of_error hurl]
    rfl
  · obtain ⟨url, htext, hurl⟩ := exists_resolve hok
    obtain ⟨parsed, hread⟩ := haddress url htext
    rw [http, hurl]
    simp only [bind, Except.bind, hread]
    rcases failsFirst_append_iff.mp hrest with hheaders | ⟨hheaders, hbody⟩
    · rw [resolveHeaders_of_failsFirst hheaders]
      rfl
    · obtain ⟨headers, hvalues⟩ := exists_resolveHeaders hheaders
      rw [hvalues]
      split at hbody
      · next hcarries =>
        cases hconfig : config.body with
        | none =>
          rw [hconfig] at hbody
          exact absurd hbody Template.not_failsFirst_nil
        | some body =>
          rw [hconfig] at hbody
          have hcheck : (Source.value body).check c.scope = .error fault :=
            Template.failsFirst_singleton_iff.mp hbody
          simp only [hcarries, Decode.map_eq_error hcheck]
          rfl
      · exact absurd hbody Template.not_failsFirst_nil

/-- The first source that fails is the fault of the step, unless its address is no URL. -/
theorem handle_of_failsFirst (cs : Collaborators σ) (timeouts : Timeouts) (time : String)
    (h : FailsFirst (Source.check c.scope) step.sources fault)
    (haddress : ¬ step.Misaddressed c.scope) :
    handle cs timeouts time step c = .done (.error (.ofTemplate fault)) := by
  unfold Step.sources at h
  rw [handle]
  split at h
  · next config hconfig =>
    rw [hconfig]
    exact llm_of_failsFirst h
  · next config hconfig =>
    rw [hconfig]
    refine http_of_failsFirst h fun url hurl => ?_
    cases hread : Url.read url with
    | ok parsed => exact ⟨parsed, rfl⟩
    | error problem => exact absurd ⟨config, url, problem, hconfig, hurl, hread⟩ haddress
  · next config hconfig =>
    rw [hconfig]
    simp only [condition, checkReferences_of_failsFirst h]
    rfl
  · exact absurd h Template.not_failsFirst_nil

/-- A step that is kept from its request fails at once. -/
theorem handle_of_barred (timeouts : Timeouts) (time : String) (h : step.Barred cs c.scope) :
    ∃ fault, handle cs timeouts time step c = .done (.error fault) := by
  have haddressed : step.Misaddressed c.scope →
      ∃ fault, handle cs timeouts time step c = .done (.error fault) := by
    rintro ⟨config, url, problem, hconfig, hurl, hread⟩
    rw [handle, hconfig]
    exact ⟨_, http_of_unreadable hurl hread⟩
  cases h with
  | language h =>
    obtain ⟨config, hconfig, hlanguage⟩ := h
    rw [handle, hconfig]
    simp [code, hlanguage]
  | @source source fault hmem hfails =>
    by_cases haddress : step.Misaddressed c.scope
    · exact haddressed haddress
    · rcases forall_ok_or_failsFirst (Source.check c.scope) step.sources with hall | ⟨first, hfirst⟩
      · obtain ⟨u, hok⟩ := hall source hmem
        exact absurd (hfails.symm.trans hok) nofun
      · exact ⟨_, handle_of_failsFirst cs timeouts time hfirst haddress⟩
  | address h => exact haddressed h

end Handler

/-! ## Requests and their log -/

section

variable {σ : Type}

/-- Collaborators with a log of what they have been asked, the latest first. -/
def Collaborators.logged (cs : Collaborators σ) : Collaborators (σ × List Request) where
  supports := cs.supports
  generates := cs.generates
  sends := cs.sends
  answer request world :=
    ((cs.answer request world.1).1, ((cs.answer request world.1).2, request :: world.2))

/-- An environment whose collaborators keep a log. -/
def Environment.logged (env : Environment σ) : Environment (σ × List Request) where
  collaborators := env.collaborators.logged
  timeouts := env.timeouts
  retryDelay := env.retryDelay
  time := env.time
  interrupts world := ((env.interrupts world.1).1, ((env.interrupts world.1).2, world.2))

namespace Session

variable {env : Environment σ} {s : Session (σ × List Request)} {step : Step} {c : Context}
  {limit : Option Nat}

def asked (s : Session (σ × List Request)) : List Request := s.world.2

def unlogged (s : Session (σ × List Request)) : Session σ := ⟨s.clock, s.world.1, s.journal⟩

theorem asked_ask (env : Environment σ) (request : Request) (limit : Option Nat)
    (s : Session (σ × List Request)) :
    (s.ask env.logged request limit).2.asked = request :: s.asked := by
  unfold ask
  dsimp only
  split
  · rfl
  · rfl
  · split <;> rfl

/-- The log changes nothing of what is answered. -/
theorem unlogged_ask (env : Environment σ) (request : Request) (limit : Option Nat)
    (s : Session (σ × List Request)) :
    s.unlogged.ask env request limit =
      ((s.ask env.logged request limit).1, (s.ask env.logged request limit).2.unlogged) := by
  rcases hwait : s.clock.wait (env.collaborators.answer request s.world.1).1.delay limit with
    ⟨waking, clock⟩
  simp only [ask, Environment.logged, Collaborators.logged, unlogged, hwait]
  cases waking with
  | cancelled => rfl
  | expired => rfl
  | elapsed =>
    cases (env.collaborators.answer request s.world.1).1.cancels <;> rfl

/-- Nor of what a step does. -/
theorem handle_logged (env : Environment σ) (step : Step) (c : Context) :
    Handler.handle env.logged.collaborators env.logged.timeouts env.logged.time step c =
      Handler.handle env.collaborators env.timeouts env.time step c := rfl

theorem unlogged_perform (env : Environment σ) (step : Step) (c : Context) (limit : Option Nat)
    (s : Session (σ × List Request)) :
    s.unlogged.perform env step c limit =
      ((s.perform env.logged step c limit).1, (s.perform env.logged step c limit).2.unlogged) := by
  unfold perform
  rw [handle_logged]
  cases Handler.handle env.collaborators env.timeouts env.time step c with
  | done result => rfl
  | request request finish => simp only [unlogged_ask]

/-- A step asks at most once. -/
theorem asked_perform (env : Environment σ) (step : Step) (c : Context) (limit : Option Nat)
    (s : Session (σ × List Request)) :
    (s.perform env.logged step c limit).2.asked = s.asked ∨
      ∃ request, (s.perform env.logged step c limit).2.asked = request :: s.asked := by
  unfold perform
  split
  · exact Or.inl rfl
  · next request finish _ => exact Or.inr ⟨request, asked_ask env request limit s⟩

theorem perform_of_done {env : Environment σ} {s : Session σ} {result : Except StepFault StepOutput}
    (h : Handler.handle env.collaborators env.timeouts env.time step c = .done result) :
    s.perform env step c limit = (result, s) := by
  rw [perform, h]

/-- A step asks at most one thing of its collaborators, and nothing before all that it refers to has
been resolved: with an unsupported language, a source that cannot be resolved or an address that is
no URL it fails and has asked nothing. Unless its address is no URL, it fails with the first of its
sources that cannot be resolved. The log of what is asked changes none of this. -/
theorem nothing_asked_before_resolution (env : Environment σ) (step : Step) (c : Context)
    (limit : Option Nat) (s : Session (σ × List Request)) :
    let (result, after) := s.perform env.logged step c limit
    s.unlogged.perform env step c limit = (result, after.unlogged) ∧
    (after.asked = s.asked ∨ ∃ request, after.asked = request :: s.asked) ∧
    (step.Barred env.collaborators c.scope → after = s ∧ ∃ fault, result = .error fault) ∧
    ∀ fault, FailsFirst (Source.check c.scope) step.sources fault → ¬ step.Misaddressed c.scope →
      after = s ∧ result = .error (.ofTemplate fault) := by
  refine ⟨unlogged_perform env step c limit s, asked_perform env step c limit s, fun hbarred => ?_,
    fun fault hfails haddress => ?_⟩
  · obtain ⟨fault, hdone⟩ := Handler.handle_of_barred env.timeouts env.time hbarred
    have hperform : s.perform env.logged step c limit = (.error fault, s) := perform_of_done hdone
    exact ⟨congrArg Prod.snd hperform, fault, congrArg Prod.fst hperform⟩
  · have hdone :=
      Handler.handle_of_failsFirst env.collaborators env.timeouts env.time hfails haddress
    have hperform : s.perform env.logged step c limit = (.error (.ofTemplate fault), s) :=
      perform_of_done hdone
    exact ⟨congrArg Prod.snd hperform, congrArg Prod.fst hperform⟩

/-- A request whose second header and whose body refer to steps without results. -/
def courier : Step where
  id := "send"
  type := .http
  name := none
  description := none
  dependsOn := []
  config := .http ⟨"http://[::1]/", .post, [("accept", "*/*"), ("token", "$\x7bkey\x7d")],
    some (.str "$\x7btext\x7d"), none⟩
  outputs := []
  errorHandling := none

def bare : Context := ⟨"exec", "send", [], [], [], .null⟩

theorem nothing_asked_before_header :
    let missing : Template.Fault := .unresolved "key" "no result for 'key' in scope"
    let s : Session (Nat × List Request) := .initial (.initial false none) (0, [])
    FailsFirst (Source.check bare.scope) courier.sources missing ∧
      ¬ courier.Misaddressed bare.scope ∧
      courier.Barred calm.collaborators bare.scope ∧
      (s.perform calm.logged courier bare none).2.asked = [] ∧
      (s.perform calm.logged courier bare none).1 = .error (.ofTemplate missing) := by
  intro missing s
  have hheader : (Source.text "$\x7bkey\x7d").check bare.scope = .error missing := rfl
  have hfails : FailsFirst (Source.check bare.scope) courier.sources missing := by
    refine ⟨[.text "http://[::1]/", .text "*/*"], .text "$\x7bkey\x7d",
      [.value (.str "$\x7btext\x7d")], rfl, fun source hsource => ?_, hheader⟩
    rcases List.mem_pair.mp hsource with rfl | rfl <;> exact ⟨(), rfl⟩
  have haddress : ¬ courier.Misaddressed bare.scope := by
    rintro ⟨config, url, problem, hconfig, hurl, hread⟩
    cases hconfig
    cases hurl
    have hread' : (Url.read "http://[::1]/").toOption.isSome = true := by decide +kernel
    rw [hread] at hread'
    cases hread'
  have hbarred : courier.Barred calm.collaborators bare.scope := by
    obtain ⟨source, hsource, hfault⟩ := hfails.exists_mem
    exact .source hsource hfault
  obtain ⟨-, -, -, hfirst⟩ := nothing_asked_before_resolution calm courier bare none s
  obtain ⟨hsame, hresult⟩ := hfirst missing hfails haddress
  exact ⟨hfails, haddress, hbarred, congrArg asked hsame, hresult⟩

end Session

end

end Workflow
