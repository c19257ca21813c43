import Mathlib.Algebra.Group.Nat.Defs
import Workflow.Proofs.Run.Turn

/-!
# Results that are too large

A result that is too large is kept as a marker in its place, and a marker is kept as it is. So what
is kept of a result is the same however often it is kept. Steps with large results are told here
without their texts, by sizes alone.
-/

namespace Workflow

namespace Json

/-- A text of some length in which every character stands for itself. -/
def bulk (n : Nat) : String := String.ofList (List.replicate n 'x')

theorem bytes_replicate (n : Nat) : bytes (List.replicate n 'x') = n := by
  induction n with
  | zero => rfl
  | succ n ih =>
    rw [List.replicate_succ, bytes_cons, ih, Nat.add_comm]
    rfl

/-- Its size is its length, and its quotes. -/
theorem quotedSize_bulk (n : Nat) : quotedSize (bulk n) = n + 2 := by
  have hescape : (List.replicate n 'x').flatMap escape = List.replicate n 'x' := by
    induction n with
    | zero => rfl
    | succ n ih =>
      rw [List.replicate_succ, List.flatMap_cons, ih]
      rfl
  rw [bulk, quotedSize, String.toList_ofList, foldl_escapedSize, hescape, bytes_replicate,
    Nat.add_comm]

theorem bytes_le (cs : List Char) : bytes cs ≤ 4 * cs.length := by
  induction cs with
  | nil => exact Nat.zero_le _
  | cons c cs ih =>
    have hsize := c.utf8Size_le_four
    rw [bytes_cons, List.length_cons]
    omega

/-- The size of a number of 64 bits. -/
theorem textSize_nat_le {n : Nat} (h : n < 2 ^ 64) : (nat n).textSize ≤ 80 := by
  have hlength : (Nat.toDigits 10 n).length ≤ 20 :=
    (Nat.length_toDigits_le_iff (by decide) (by decide)).mpr (Nat.lt_trans h (by decide))
  have hbytes := bytes_le (Nat.toDigits 10 n)
  have hsize : (nat n).textSize = bytes (Nat.toDigits 10 n) := by
    rw [textSize, Number.text, bytes, ← Nat.toString_eq_ofList_toDigits]
    rfl
  omega

end Json

namespace Context

/-- What stands for a result of a size of 64 bits is not too large itself. -/
theorem textSize_marker_le {n : Nat} (h : n < 2 ^ 64) : (marker n).textSize ≤ maxResultSize := by
  have hnumber := Json.textSize_nat_le h
  have htexts : Json.quotedSize "_truncated" + Json.quotedSize "_original_size" +
      (Json.quotedSize "_message" + Json.quotedSize
        s!"result exceeded {maxResultSize} byte limit and was truncated") ≤ 200 := by decide +kernel
  simp only [marker, Json.textSize, Json.textSizeFields] at hnumber ⊢
  rw [maxResultSize] at htexts ⊢
  omega

theorem kept_of_le {value : Json} (h : value.textSize ≤ maxResultSize) : kept value = value :=
  if_neg (Nat.not_lt.mpr h)

theorem kept_of_lt {value : Json} (h : maxResultSize < value.textSize) :
    kept value = marker value.textSize := if_pos h

/-- What is kept of a result is not too large. -/
theorem textSize_kept_le {value : Json} (h : value.textSize < 2 ^ 64) :
    (kept value).textSize ≤ maxResultSize := by
  rcases Nat.lt_or_ge maxResultSize value.textSize with hlarge | hsmall
  · rw [kept_of_lt hlarge]
    exact textSize_marker_le h
  · rw [kept_of_le hsmall]
    exact hsmall

/-- What is kept of a result stays as it is when it is kept again. -/
theorem kept_kept {value : Json} (h : value.textSize < 2 ^ 64) :
    kept (kept value) = kept value := kept_of_le (textSize_kept_le h)

end Context

end Workflow
