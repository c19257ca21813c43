import Workflow.Condition.Fault
import Workflow.Template.Resolve

/-!
# Why steps fail
-/

namespace Workflow

/-- Why a step has failed. -/
inductive StepFault where
  | execution (text : String)
  | unresolved (path reason : String)
  | notFound (path segment : String)
  | malformed (path : String)
  | condition (text : String)
  | timeout (milliseconds : Nat)
  | language (name : String)
  | type (name : String)
  | sandbox (text : String)
  | http (text : String)
  | generation (text : String)
  | cancelled
  deriving DecidableEq, Repr

namespace StepFault

def message : StepFault → String
  | execution text => s!"step execution failed: {text}"
  | unresolved path reason => s!"unresolved reference {Template.referenceText path}: {reason}"
  | notFound path segment => s!"path not found: '{path}' has no '{segment}'"
  | malformed path => s!"malformed reference {Template.referenceText path}"
  | condition text => s!"condition evaluation failed: {text}"
  | timeout milliseconds => s!"step timed out after {milliseconds} ms"
  | language name => s!"unsupported language: {name}"
  | type name => s!"unsupported step type: {name}"
  | sandbox text => s!"sandbox error: {text}"
  | http text => s!"HTTP request failed: {text}"
  | generation text => s!"text generation failed: {text}"
  | cancelled => "step cancelled"

def isCancelled : StepFault → Bool
  | cancelled => true
  | _ => false

def ofTemplate : Template.Fault → StepFault
  | .malformed path => malformed path
  | .unresolved path reason => unresolved path reason
  | .notFound path segment => notFound path segment

/-- The fault of a step whose condition has no value. -/
def ofCondition (fault : Condition.Fault) : StepFault := condition fault.message

end StepFault

end Workflow
