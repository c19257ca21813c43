import Workflow.Definition.Basic
import Workflow.Json.Size
import Workflow.Template.Resolve

/-!
# The context of a run

What templates and conditions can see: the inputs of a run, the results of its completed steps, and
facts about the run. Results and their total are limited in size.
-/

namespace Workflow

/-- What a run has been given and has found out so far. -/
structure Context where
  executionId : String
  workflowName : String
  inputs : Entries Json
  declared : List String
  /-- Results of completed steps, in the order of their completion. -/
  results : Entries Json
  sys : Json

/-- A context that has outgrown its limit, with its size. -/
structure Overflow where
  total : Nat
  deriving DecidableEq, Repr

/-- Most bytes of a single result, written as JSON. -/
def maxResultSize : Nat := 1048576

/-- Most bytes of a context. -/
def maxContextSize : Nat := 10485760

def Overflow.message (o : Overflow) : String :=
  s!"execution error: total context size ({o.total} bytes) exceeds maximum ({maxContextSize} bytes)"

namespace Context

/-- The context at the beginning of a run, at a time. -/
def initial (d : Definition) (executionId time : String) (inputs : Entries Json) : Context where
  executionId := executionId
  workflowName := d.name
  inputs := inputs
  declared := d.inputs.keys
  results := []
  sys := .obj [("current_time", .str time), ("workflow_name", .str d.name),
    ("execution_id", .str executionId)]

def result? (c : Context) (id : String) : Option Json := c.results.get? id

/-- What stands for a result that is too large. -/
def marker (size : Nat) : Json :=
  .obj [("_truncated", .bool true), ("_original_size", .nat size),
    ("_message", .str s!"result exceeded {maxResultSize} byte limit and was truncated")]

def kept (result : Json) : Json :=
  if maxResultSize < result.textSize then marker result.textSize else result

def resultsSize : Entries Json → Nat
  | [] => 0
  | (_, result) :: rest => result.textSize + resultsSize rest

/-- The size of a context: its inputs and the results of its steps, written as JSON. -/
def totalSize (c : Context) : Nat :=
  resultsSize c.results + (Json.obj c.inputs).textSize

/-- The context with the result of a step. -/
def put (c : Context) (id : String) (result : Json) : Context :=
  { c with results := c.results.insert id (kept result) }

/-- The overflow of a context that is too large. -/
def overflow? (c : Context) : Option Overflow :=
  if maxContextSize < c.totalSize then some ⟨c.totalSize⟩ else none

/-- Stores the result of a step. A context that becomes too large keeps it all the same. -/
def store (c : Context) (id : String) (result : Json) : Context × Option Overflow :=
  let c := c.put id result
  (c, c.overflow?)

/-- All that conditions and code can see. An input hides a step of its name. -/
def bindings (c : Context) : Entries Json :=
  let named := c.inputs.foldl (fun vars (name, value) => vars.insert name value) c.results
  ((named.insert "input" (.obj c.inputs)).insert "inputs" (.obj c.inputs)).insert "sys" c.sys

/-- What references can lead to. -/
def scope (c : Context) : Template.Scope where
  sys := c.sys
  isDeclared name := c.declared.contains name
  input? := c.inputs.get?
  result? := c.result?

theorem result?_put (c : Context) (id other : String) (result : Json) :
    (c.put id result).result? other = if other = id then some (kept result) else c.result? other :=
  Entries.get?_insert c.results id other (kept result)

/-- A context overflows exactly if its size is beyond the limit. -/
theorem overflow?_eq_none_iff (c : Context) :
    c.overflow? = none ↔ c.totalSize ≤ maxContextSize := by
  simp [overflow?]

end Context

end Workflow
