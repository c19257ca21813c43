import Workflow.Run.Clock
import Workflow.Run.Progress
import Workflow.Run.Request
import Workflow.Step.Handler

/-!
# Sessions

What goes on during a run: its clock, the world of its collaborators, and a journal of what has
happened. Each moment in the journal keeps what the run had brought about by then.
-/

namespace Workflow

/-- What happens during a run. -/
inductive Event where
  /-- A step begins because it is its turn. -/
  | begun (step : String)
  /-- A target begins in place of a step that has failed. -/
  | replaced (step target : String)
  /-- The handler of a step is called. -/
  | called (step : String)
  /-- A step has its result; the branch that it did not take leads to a step. -/
  | concluded (step : String) (output : Json) (notTaken : Option String)
  deriving Inhabited

/-- An event and what there was when it happened. -/
structure Moment where
  event : Event
  progress : Progress
  cancelled : Bool

/-- The course of a run in a world whose state is of type `σ`. -/
structure Session (σ : Type) where
  clock : Clock
  world : σ
  /-- What has happened, the latest first. -/
  journal : List Moment

/-- What a run depends on besides its definition and its inputs. -/
structure Environment (σ : Type) where
  collaborators : Collaborators σ
  timeouts : Timeouts
  /-- The pause before a step is tried again, in milliseconds. -/
  retryDelay : Nat
  /-- The time of day, as texts show it. -/
  time : String
  /-- Whether someone has cancelled the run since it was last looked at; the
  world has gone on meanwhile. -/
  interrupts : σ → Bool × σ := fun world => (false, world)

namespace Session

variable {σ : Type}

def initial (clock : Clock) (world : σ) : Session σ := ⟨clock, world, []⟩

def note (s : Session σ) (p : Progress) (event : Event) : Session σ :=
  { s with journal := ⟨event, p, s.clock.cancelled⟩ :: s.journal }

def isCancelled (s : Session σ) : Bool := s.clock.cancelled

def look (env : Environment σ) (s : Session σ) : Session σ :=
  let (interrupted, world) := env.interrupts s.world
  { s with world := world, clock := if interrupted then s.clock.cancel else s.clock }

/-- Asks for a reply and waits for it, up to a limit. What the reply brings
about comes after the wait. -/
def ask (env : Environment σ) (request : Request) (limit : Option Nat) (s : Session σ) :
    Except StepFault request.Response × Session σ :=
  let (reply, world) := env.collaborators.answer request s.world
  let (waking, clock) := s.clock.wait reply.delay limit
  let s := { s with world := world, clock := clock }
  match waking with
  | .cancelled => (.error .cancelled, s)
  | .expired => (.error (.timeout (limit.getD 0)), s)
  | .elapsed => (reply.outcome, if reply.cancels then { s with clock := s.clock.cancel } else s)

def perform (env : Environment σ) (step : Step) (c : Context) (limit : Option Nat) (s : Session σ) :
    Except StepFault StepOutput × Session σ :=
  match Handler.handle env.collaborators env.timeouts env.time step c with
  | .done result => (result, s)
  | .request request finish =>
    let (response, s) := s.ask env request limit
    (response.bind finish, s)

@[simp] theorem journal_note (s : Session σ) (p : Progress) (event : Event) :
    (s.note p event).journal = ⟨event, p, s.isCancelled⟩ :: s.journal := rfl

@[simp] theorem journal_look (env : Environment σ) (s : Session σ) :
    (s.look env).journal = s.journal := rfl

/-- Waiting for a reply is no event. -/
theorem journal_ask (env : Environment σ) (request : Request) (limit : Option Nat) (s : Session σ) :
    (s.ask env request limit).2.journal = s.journal := by
  unfold ask
  dsimp only
  split
  · rfl
  · rfl
  · split <;> rfl

theorem journal_perform (env : Environment σ) (step : Step) (c : Context) (limit : Option Nat)
    (s : Session σ) :
    (s.perform env step c limit).2.journal = s.journal := by
  unfold perform
  split
  · rfl
  · exact journal_ask env _ limit s

end Session

end Workflow
