import Workflow.Definition.Step
import Workflow.Step.Fault

/-!
# Projections of results

A step can name parts of its result by their paths; its result then consists of those parts.
-/

namespace Workflow.Projection

/-- The part of a result at a path; an empty path or a single dot is all of it. -/
def part (id path : String) (raw : Json) : Except StepFault Json :=
  let path := Unicode.trim path
  if path = "" || path = "." then .ok raw
  else
    match raw.follow (dotted path) with
    | .ok value => .ok value
    | .error segment => .error (.notFound s!"{id}.{path}" segment)

/-- The parts of a result that a step names. -/
def parts (id : String) (raw : Json) : Entries String → Except StepFault (Entries Json)
  | [] => .ok []
  | (name, path) :: rest => do
    let value ← part id path raw
    return (name, value) :: (← parts id raw rest)

/-- The result of a step that names parts of it, or the whole if it names none. -/
def apply (id : String) (outputs : Entries String) (raw : Json) : Except StepFault Json :=
  match outputs with
  | [] => .ok raw
  | outputs => do return .obj (← parts id raw outputs)

end Workflow.Projection
