import Workflow.Definition.Basic
import Workflow.Run.Result

/-!
# The registry

Definitions under their names, and the latest results of runs. Loading a name again replaces its
definition; a full history loses its oldest result.
-/

namespace Workflow

/-- Registered definitions and the history of runs. -/
structure Registry where
  definitions : Entries Definition
  /-- The results that are kept, the oldest first. -/
  history : List RunResult
  /-- How many results are kept at most. -/
  limit : Nat

namespace Registry

def empty (limit : Nat) : Registry := ⟨[], [], limit⟩

def get? (r : Registry) (name : String) : Option Definition := r.definitions.get? name

def contains (r : Registry) (name : String) : Bool := r.definitions.contains name

def insert (r : Registry) (d : Definition) : Registry :=
  { r with definitions := r.definitions.insert d.name d }

def erase (r : Registry) (name : String) : Registry :=
  { r with definitions := r.definitions.erase name }

def names (r : Registry) : List String := r.definitions.keys.mergeSort fun a b => a ≤ b

/-- Removes the oldest results until there is room for one more. -/
def makeRoom (limit : Nat) : List RunResult → List RunResult
  | [] => []
  | oldest :: later =>
    if limit ≤ (oldest :: later).length then makeRoom limit later else oldest :: later

def record (r : Registry) (result : RunResult) : Registry :=
  if r.limit = 0 then r else { r with history := makeRoom r.limit r.history ++ [result] }

@[simp] theorem definitions_record (r : Registry) (result : RunResult) :
    (r.record result).definitions = r.definitions := by
  unfold record
  split <;> rfl

@[simp] theorem limit_record (r : Registry) (result : RunResult) :
    (r.record result).limit = r.limit := by
  unfold record
  split <;> rfl

theorem get?_insert (r : Registry) (d : Definition) (name : String) :
    (r.insert d).get? name = if name = d.name then some d else r.get? name :=
  Entries.get?_insert r.definitions d.name name d

/-- Only the oldest results are removed, and no more of them than there have to be. -/
theorem makeRoom_eq_drop (limit : Nat) (results : List RunResult) :
    makeRoom limit results = results.drop (results.length + 1 - limit) := by
  induction results with
  | nil => rw [makeRoom, List.drop_nil]
  | cons oldest later ih =>
    rw [makeRoom, List.length_cons]
    split
    · next hfull =>
      rw [Nat.succ_sub hfull, List.drop_succ_cons, ih]
    · next hroom =>
      rw [Nat.sub_eq_zero_of_le (Nat.lt_of_not_le hroom), List.drop_zero]

/-- If the history has the last of some results, as many as are kept, it has them with one more. -/
theorem history_record {r : Registry} {results : List RunResult}
    (h : r.history = results.drop (results.length - r.limit)) (result : RunResult) :
    (r.record result).history =
      (results ++ [result]).drop ((results ++ [result]).length - r.limit) := by
  unfold record
  split
  · next hnone =>
    rw [h, hnone, Nat.sub_zero, Nat.sub_zero, List.drop_length, List.drop_length]
  · next hsome =>
    have hdropped : results.length - r.limit + (results.length - (results.length - r.limit) + 1 -
        r.limit) = results.length + 1 - r.limit := by omega
    simp only [makeRoom_eq_drop, h, List.drop_drop, List.length_drop, hdropped]
    rw [List.length_append, List.length_singleton, List.drop_append_of_le_length (by omega)]

theorem get?_erase (r : Registry) (name other : String) :
    (r.erase name).get? other = if other = name then none else r.get? other :=
  Entries.get?_erase r.definitions name other

end Registry

end Workflow
