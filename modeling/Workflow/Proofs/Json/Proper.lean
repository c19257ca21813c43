import Mathlib.Data.List.Basic
import Workflow.Proofs.Decimal.Whole

/-!
# Proper values

The values that a document can be: whole numbers are in the range that is kept exactly, all others
are finite, and no object has a key twice.
-/

namespace Workflow

/-- The numbers that a document can have. -/
def Number.Proper : Number → Prop
  | .int n => InRange n
  | .float x => x.isFinite = true

/-- A proper number has a finite float. -/
theorem Number.Proper.isFinite_toFloat {n : Number} (h : n.Proper) : n.toFloat.isFinite = true := by
  cases n with
  | int n => exact Decimal.isFinite_toFloat h
  | float x => exact h

namespace Json

/-- The values that a document can be. -/
inductive Proper : Json → Prop
  | null : Proper .null
  | bool (b : Bool) : Proper (.bool b)
  | num {n : Number} (h : n.Proper) : Proper (.num n)
  | str (s : String) : Proper (.str s)
  | arr {items : List Json} (h : ∀ item ∈ items, Proper item) : Proper (.arr items)
  | obj {fields : Entries Json} (hkeys : fields.keys.Nodup) (h : ∀ field ∈ fields, Proper field.2) :
    Proper (.obj fields)

@[simp] theorem proper_null : Proper .null := .null

@[simp] theorem proper_bool (b : Bool) : Proper (.bool b) := .bool b

@[simp] theorem proper_str (s : String) : Proper (.str s) := .str s

@[simp] theorem proper_num_iff {n : Number} : Proper (.num n) ↔ n.Proper := by
  constructor
  · rintro (_ | _ | h)
    exact h
  · exact .num

@[simp] theorem proper_arr_iff {items : List Json} :
    Proper (.arr items) ↔ ∀ item ∈ items, item.Proper := by
  constructor
  · rintro (_ | _ | _ | _ | h)
    exact h
  · exact .arr

@[simp] theorem proper_obj_iff {fields : Entries Json} :
    Proper (.obj fields) ↔ fields.keys.Nodup ∧ ∀ field ∈ fields, field.2.Proper := by
  constructor
  · rintro (_ | _ | _ | _ | _ | ⟨hkeys, h⟩)
    exact ⟨hkeys, h⟩
  · rintro ⟨hkeys, h⟩
    exact .obj hkeys h

/-- What is found in a proper object is proper. -/
theorem Proper.of_get? {fields : Entries Json} (h : Proper (.obj fields)) {key : String}
    {json : Json} (hget : fields.get? key = some json) : json.Proper :=
  (proper_obj_iff.mp h).2 _ (Entries.mem_of_get? hget)

end Json

end Workflow
