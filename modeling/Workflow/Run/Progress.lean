import Workflow.Run.Context
import Workflow.Run.Result

/-!
# Progress of a run

What a run has brought about: a context that later steps can see, an entry for each step that is
settled, and the steps that will not be taken because their branch was not.
-/

namespace Workflow

/-- What a run has brought about. -/
structure Progress where
  context : Context
  /-- The steps that are settled, in the order in which they were. -/
  entries : Entries StepResult
  /-- The steps that are passed over when it is their turn. -/
  untaken : List String

namespace Progress

/-- Nothing, at the beginning of a run. -/
def initial (context : Context) : Progress := ⟨context, [], []⟩

/-- Whether a step is settled. -/
def isSettled (p : Progress) (id : String) : Bool := p.entries.contains id

def settle (p : Progress) (id : String) (result : StepResult) : Progress :=
  { p with entries := p.entries.insert id result }

/-- Whether a step is passed over: its branch was not taken, or all it depends
on was passed over. -/
def passesOver (p : Progress) (step : Step) : Bool :=
  p.untaken.contains step.id || (!step.dependsOn.isEmpty && step.dependsOn.all p.untaken.contains)

def passOver (p : Progress) (id : String) : Progress :=
  { p.settle id (.skipped "branch not taken") with untaken := id :: p.untaken }

/-- Notes that a branch was not taken. A step that is settled already is left as it is. -/
def leave (p : Progress) : Option String → Progress
  | some target => if p.isSettled target then p else { p with untaken := target :: p.untaken }
  | none => p

/-- Stores the value of a completed step and settles it. If the context becomes too
large, the step is not settled. -/
def complete (p : Progress) (id : String) (value : Json) (result : StepResult) :
    Progress × Option Overflow :=
  match p.context.store id value with
  | (context, none) => ({ p with context := context }.settle id result, none)
  | (context, some overflow) => ({ p with context := context }, some overflow)

/-! ## Which steps are settled -/

@[simp] theorem isSettled_settle (p : Progress) (id other : String) (result : StepResult) :
    (p.settle id result).isSettled other = (decide (other = id) || p.isSettled other) :=
  Entries.contains_insert p.entries id other result

@[simp] theorem isSettled_passOver (p : Progress) (id other : String) :
    (p.passOver id).isSettled other = (decide (other = id) || p.isSettled other) :=
  isSettled_settle p id other _

@[simp] theorem entries_leave (p : Progress) (target : Option String) :
    (p.leave target).entries = p.entries := by
  cases target with
  | none => rfl
  | some target =>
    rw [leave]
    split <;> rfl

@[simp] theorem context_leave (p : Progress) (target : Option String) :
    (p.leave target).context = p.context := by
  cases target with
  | none => rfl
  | some target =>
    rw [leave]
    split <;> rfl

end Progress

end Workflow
