import Workflow.Definition.Step
import Workflow.Definition.ValueType

/-!
# Workflow definitions

A definition declares inputs, steps that depend on each other, and outputs that are resolved when
all steps are done.
-/

namespace Workflow

structure InputRules where
  pattern : Option String
  minLength : Option UInt64
  maxLength : Option UInt64
  minimum : Option Float
  maximum : Option Float
  allowed : Option (List Json)
  deriving BEq, Inhabited

structure InputSpec where
  type : ValueType
  required : Bool
  default : Option Json
  description : Option String
  rules : Option InputRules
  sample : Option Json
  deriving BEq

structure OutputSpec where
  source : String
  type : Option ValueType
  description : Option String
  deriving BEq, Inhabited

/-- What a workflow is called and what it is for. -/
structure Metadata where
  name : String
  description : String
  version : String
  author : Option String
  tags : List String
  deriving BEq, Inhabited

structure Definition where
  metadata : Metadata
  inputs : Entries InputSpec
  steps : List Step
  outputs : Entries OutputSpec
  deriving BEq, Inhabited

namespace Definition

/-- The name a workflow is registered under. -/
def name (d : Definition) : String := d.metadata.name

def step? (d : Definition) (id : String) : Option Step := d.steps.find? fun s => s.id = id

end Definition

end Workflow
