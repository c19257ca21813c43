import Mathlib.Data.List.Basic
import Mathlib.Data.List.TakeWhile
import Workflow.Decimal.Read
import Workflow.Proofs.Decimal.Whole

/-!
# Texts of digits

A text of nothing but digits is a whole number, and up to 53 bits it is the same number as a float.
Every whole number is read back from the text that is written of it.
-/

namespace Workflow.Decimal

/-- A digit is a digit of ASCII. -/
theorem isDigit_eq (c : Char) : isDigit c = c.isDigit := by
  rw [isDigit, digit?, Char.isDigit]
  split
  · next h => exact h.symm
  · next h => exact (Bool.eq_false_of_not_eq_true h).symm

theorem toLower_of_charIsDigit {c : Char} (h : c.isDigit = true) : c.toLower = c := by
  have hmost := (Char.isDigit_iff_toNat.mp h).2
  refine dif_neg fun hupper => ?_
  exact absurd (Nat.le_trans hupper.1 hmost) (by decide)

section

variable {cs : List Char} (hdigits : ∀ c ∈ cs, c.isDigit = true)

include hdigits

theorem all_isDigit : cs.all isDigit = true :=
  List.all_eq_true.mpr fun c hc => (isDigit_eq c).trans (hdigits c hc)

/-- In front of digits there is no sign. -/
theorem sign_of_digits : sign cs = (false, cs) := by
  unfold sign
  split
  · exact absurd (hdigits '-' List.mem_cons_self) (by decide)
  · exact absurd (hdigits '+' List.mem_cons_self) (by decide)
  · rfl

theorem ofDigits_eq_ofDigitChars : ofDigits cs = Nat.ofDigitChars 10 cs 0 := by
  rw [ofDigits, Nat.ofDigitChars_eq_foldl]
  apply List.foldl_ext
  intro n c hc
  have hdigit : digit? c = some (c.toNat - '0'.toNat) := if_pos (hdigits c hc)
  rw [hdigit, Option.getD_some]

end

section

variable {text : String} (hne : text.toList ≠ []) (hdigits : ∀ c ∈ text.toList, c.isDigit = true)

include hne hdigits

/-- A text of digits is a whole number. -/
theorem nat?_of_digits : nat? text = some (ofDigits text.toList) := by
  have hall := all_isDigit hdigits
  unfold nat?
  split
  · next rest heq =>
    have hplus := hdigits '+' (heq ▸ List.mem_cons_self)
    exact absurd hplus (by decide)
  · simp [hne, hall]

/-- As a float it is the one nearest to that number. -/
theorem float?_of_digits : float? text = some (nearest (ofDigits text.toList) 0) := by
  obtain ⟨c, rest, heq⟩ := List.exists_cons_of_ne_nil hne
  have hc : c.isDigit = true := hdigits c (heq ▸ List.mem_cons_self)
  have hsign := sign_of_digits hdigits
  have hword : ∀ (word : String) (d : Char), word.toList.head? = some d → d.isDigit = false →
      String.ofList (text.toList.map Char.toLower) ≠ word := by
    rintro word d hd hdigit rfl
    rw [String.toList_ofList, heq, List.map_cons, toLower_of_charIsDigit hc] at hd
    cases hd
    rw [hc] at hdigit
    cases hdigit
  have hall : ∀ d ∈ text.toList, isDigit d = true := List.all_eq_true.mp (all_isDigit hdigits)
  have htake : text.toList.takeWhile isDigit = text.toList := List.takeWhile_eq_self_iff.mpr hall
  have hdrop : text.toList.dropWhile isDigit = [] := List.dropWhile_eq_nil_iff.mpr hall
  have hempty : text.toList.isEmpty = false := by rw [heq]; rfl
  have hinf := hword "inf" 'i' rfl rfl
  have hinfinity := hword "infinity" 'i' rfl rfl
  have hnan := hword "nan" 'n' rfl rfl
  simp only [float?, hsign, hinf, hinfinity, hnan, htake, hdrop, hempty, exponentPart?]
  simp

end

/-- The float nearest to a whole number of at most 53 bits is that number. -/
theorem nearest_whole {n : Nat} (h : n < 2 ^ 53) :
    (nearest n 0).isFinite = true ∧ (nearest n 0).toUInt64.toNat = n := by
  by_cases hzero : n = 0
  · rw [hzero]
    exact ⟨rfl, rfl⟩
  · have hlength : (Nat.toDigits 10 n).length ≤ 16 :=
      (Nat.length_toDigits_le_iff (by decide) (by decide)).mpr (h.trans (by decide))
    have hlarge : ¬ (400 : Int) < 0 + (Nat.toDigits 10 n).length := by omega
    have hsmall : ¬ (0 : Int) + (Nat.toDigits 10 n).length < -400 := by omega
    have hwhole : nearest n 0 = Float.ofNat n := by
      simp only [nearest, if_neg hzero, if_neg hlarge, if_neg hsmall]
      rfl
    rw [hwhole]
    exact ⟨isFinite_ofNat (h.trans (by decide)), toUInt64_ofNat h⟩

/-! ## Whole numbers and their texts -/

theorem isDigit_of_mem_toDigits {n : Nat} {c : Char} (h : c ∈ Nat.toDigits 10 n) :
    c.isDigit = true :=
  Nat.isDigit_of_mem_toDigits (by decide) (by decide) h

/-- The digits that a number is written with make up that number. -/
theorem ofDigits_toDigits (n : Nat) : ofDigits (Nat.toDigits 10 n) = n := by
  rw [ofDigits_eq_ofDigitChars fun _ => isDigit_of_mem_toDigits, Nat.ofDigitChars_ten_toDigits]

theorem toList_toString_ofNat (n : Nat) : (toString (Int.ofNat n)).toList = Nat.toDigits 10 n :=
  Nat.toList_repr

theorem toList_toString_negSucc (n : Nat) :
    (toString (Int.negSucc n)).toList = '-' :: Nat.toDigits 10 (n + 1) := by
  show ("-" ++ (n + 1).repr).toList = _
  rw [String.toList_append, Nat.toList_repr]
  rfl

/-- A whole number is read back from its text. -/
theorem int?_toString (n : Int) : int? (toString n) = some n := by
  cases n with
  | ofNat n =>
    have hdigits : ∀ c ∈ Nat.toDigits 10 n, c.isDigit = true := fun _ => isDigit_of_mem_toDigits
    rw [int?, toList_toString_ofNat, sign_of_digits hdigits]
    simp only [all_isDigit hdigits, ofDigits_toDigits]
    simp [Nat.toDigits_ne_nil]
  | negSucc n =>
    have hdigits : ∀ c ∈ Nat.toDigits 10 (n + 1), c.isDigit = true :=
      fun _ => isDigit_of_mem_toDigits
    rw [int?, toList_toString_negSucc, sign]
    simp only [all_isDigit hdigits, ofDigits_toDigits]
    simp [Nat.toDigits_ne_nil, Int.negSucc_eq]

end Workflow.Decimal
