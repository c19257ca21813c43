import Workflow.Folder
import Workflow.Graph.Plan
import Workflow.Inputs
import Workflow.Run.Context
import Workflow.Validation.Pipeline

/-!
# Refusals

Why a workflow is not loaded, not found or not run.
-/

namespace Workflow

open Validation (ParseFault LoadFault)

inductive Refusal where
  | load (fault : LoadFault)
  | notFound (name : String)
  | inputs (problems : List InputProblem)
  | plan (fault : PlanFault)
  | definition (fault : Decode.Fault)
  | overflow (overflow : Overflow)
  | file (fault : ReadFault)

namespace Refusal

def placeText : Option (Nat × Nat) → String
  | some (line, column) => s!" at line {line}, column {column}"
  | none => ""

def planText : PlanFault → String
  | .duplicate id => s!"invalid workflow definition: {(PlanFault.duplicate id).message}"
  | .unknown id dependency => s!"unknown dependency: {(PlanFault.unknown id dependency).message}"
  | .cycle id => s!"circular dependency: {(PlanFault.cycle id).message}"

def message : Refusal → String
  | load (.parse fault) => s!"YAML parse error{placeText fault.place}: {fault.message}"
  | load (.invalid report) => s!"workflow validation failed: {report.summary}"
  | notFound name => s!"workflow not found: {name}"
  | inputs problems => "invalid inputs: " ++ "; ".intercalate (problems.map InputProblem.message)
  | plan fault => planText fault
  | definition fault => s!"invalid workflow definition: {fault.message}"
  | overflow o => o.message
  | file fault => s!"I/O error: {fault.message}"

end Refusal

end Workflow
