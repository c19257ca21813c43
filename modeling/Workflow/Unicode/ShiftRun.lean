/-!
# Runs of shifted characters

Characters that belong together, such as letters that differ in case, often stand at a fixed
distance from each other. A run holds characters that are all shifted by the same distance.
-/

namespace Workflow.Unicode

/-- The code points `first, first + stride, …, last`, all shifted by `shift`. -/
structure ShiftRun where
  first : Nat
  last : Nat
  stride : Nat
  shift : Int

namespace ShiftRun

def contains (run : ShiftRun) (code : Nat) : Bool :=
  run.first ≤ code && code ≤ run.last && (code - run.first) % run.stride = 0

/-- The image of a code point under the run that holds it, or the code point itself. -/
def apply (runs : Array ShiftRun) (code : Nat) : Nat :=
  match runs.find? (·.contains code) with
  | some run => (code + run.shift).toNat
  | none => code

end ShiftRun

end Workflow.Unicode
