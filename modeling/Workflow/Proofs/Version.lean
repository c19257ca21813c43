import Mathlib.Algebra.Group.Nat.Defs
import Workflow.Proofs.Decode.Record
import Workflow.Proofs.Pattern.Digit
import Workflow.Validation.Report
import Workflow.Version

/-!
# Texts of versions

A text is read as a version exactly if it is the text of one: three numbers of at most 64 bits in
decimal notation, with dots between them.
-/

namespace Workflow

namespace Version

def text (v : Version) : String := s!"{v.major}.{v.minor}.{v.patch}"

/-- The numbers of a version take 64 bits. -/
structure Fits (v : Version) : Prop where
  major : v.major < 2 ^ 64
  minor : v.minor < 2 ^ 64
  patch : v.patch < 2 ^ 64

theorem toList_text (v : Version) :
    v.text.toList = Nat.toDigits 10 v.major ++
      '.' :: (Nat.toDigits 10 v.minor ++ '.' :: Nat.toDigits 10 v.patch) := by
  simp [text, ToString.toString]

/-! ## One number -/

/-- What follows a number does not begin with a digit. -/
def Stops (rest : List Char) : Prop := ∀ c ∈ rest.head?, c.isDigit = false

def written : Option Nat → List Char
  | none => []
  | some n => Nat.toDigits 10 n

theorem toNat_of_isDigit {c : Char} (hc : c.isDigit = true) :
    48 ≤ c.toNat ∧ c.toNat - 48 < 10 := by
  have hrange : 48 ≤ c.toNat ∧ c.toNat ≤ 57 := Char.isDigit_iff_toNat.mp hc
  omega

theorem toDigits_of_isDigit {c : Char} (hc : c.isDigit = true) :
    Nat.toDigits 10 (c.toNat - 48) = [c] := by
  obtain ⟨hle, hlt⟩ := toNat_of_isDigit hc
  rw [Nat.toDigits_of_lt_base hlt, List.singleton_inj, ← Char.toNat_inj,
    Nat.toNat_digitChar_of_lt_ten hlt]
  omega

/-- Without a leading zero, one more digit is one more digit of the number. -/
theorem written_snoc {value : Option Nat} (hvalue : value ≠ some 0) {c : Char}
    (hc : c.isDigit = true) :
    written (some (value.getD 0 * 10 + (c.toNat - 48))) = written value ++ [c] := by
  cases value with
  | none => simpa [written] using toDigits_of_isDigit hc
  | some m =>
    have hm : 0 < m := Nat.pos_of_ne_zero fun h => hvalue (congrArg some h)
    have happend :=
      Nat.toDigits_append_toDigits (by decide : 1 < 10) hm (toNat_of_isDigit hc).2
    rw [toDigits_of_isDigit hc, Nat.mul_comm] at happend
    exact happend.symm

/-- The number that is read is written as it stands in the text. -/
theorem written_of_digits {part : Part} {value : Option Nat} {cs rest : List Char} {n : Nat}
    (hvalue : ∀ m ∈ value, m < 2 ^ 64) (h : digits part value cs = .ok (n, rest)) :
    n < 2 ^ 64 ∧ written value ++ cs = Nat.toDigits 10 n ++ rest := by
  induction cs generalizing value with
  | nil =>
    cases value with
    | none => cases h
    | some m =>
      cases h
      exact ⟨hvalue n rfl, rfl⟩
  | cons c cs ih =>
    rw [digits.eq_def] at h
    dsimp only at h
    by_cases hc : c.isDigit = true
    · rw [if_pos hc] at h
      by_cases hzero : value = some 0
      · rw [if_pos hzero] at h
        cases h
      · rw [if_neg hzero] at h
        split at h
        · next hlt =>
          obtain ⟨hn, heq⟩ := ih (by rintro m ⟨⟩; exact hlt) h
          rw [written_snoc hzero hc, List.append_assoc] at heq
          exact ⟨hn, heq⟩
        · cases h
    · rw [if_neg hc] at h
      cases value with
      | none => cases h
      | some m =>
        cases h
        exact ⟨hvalue n rfl, rfl⟩

/-- Reading stops behind a number. -/
theorem digits_of_stops (part : Part) (n : Nat) {rest : List Char} (h : Stops rest) :
    digits part (some n) rest = .ok (n, rest) := by
  cases rest with
  | nil => rfl
  | cons c rest => simp [digits, h c rfl]

/-- The digits of a number are read as that number. -/
theorem digits_toDigits (part : Part) {n : Nat} (hn : n < 2 ^ 64) (cs : List Char) :
    digits part none (Nat.toDigits 10 n ++ cs) = digits part (some n) cs := by
  induction n using Nat.base_induction 10 (by decide) generalizing cs with
  | single d hd =>
    have hnat := Nat.toNat_digitChar_sub_48_of_lt_ten hd
    rw [Nat.toDigits_of_lt_base hd]
    simp [digits, Nat.isDigit_digitChar, hd, hnat, show d < 18446744073709551616 from hn]
  | digit m d hd hm ih =>
    have hnat := Nat.toNat_digitChar_sub_48_of_lt_ten hd
    have hsplit := Nat.toDigits_append_toDigits (by decide : 1 < 10) hm hd
    rw [Nat.toDigits_of_lt_base hd] at hsplit
    have hlt : m * 10 + d < 18446744073709551616 := by omega
    rw [← hsplit, List.append_assoc, ih (by omega), List.singleton_append, digits,
      if_pos (by simp [Nat.isDigit_digitChar, hd]), if_neg (by simp; omega)]
    simp [hnat, hlt, Nat.mul_comm 10 m]

theorem dot_eq_ok_iff {part : Part} {cs rest : List Char} :
    dot part cs = .ok rest ↔ cs = '.' :: rest := by
  unfold dot
  split <;> simp_all

/-! ## Versions -/

/-- A text is read as a version exactly if it is the text of one whose numbers take 64 bits. -/
theorem read_eq_ok_iff {s : String} {v : Version} :
    read s = .ok v ↔ v.Fits ∧ s = v.text := by
  rw [← String.toList_inj, toList_text]
  constructor
  · intro h
    unfold read at h
    split at h
    · cases h
    · next cs hne =>
      obtain ⟨⟨major, cs₁⟩, hmajor, h⟩ := Decode.bind_eq_ok h
      obtain ⟨cs₂, hdot₁, h⟩ := Decode.bind_eq_ok h
      obtain ⟨⟨minor, cs₃⟩, hminor, h⟩ := Decode.bind_eq_ok h
      obtain ⟨cs₄, hdot₂, h⟩ := Decode.bind_eq_ok h
      obtain ⟨⟨patch, cs₅⟩, hpatch, h⟩ := Decode.bind_eq_ok h
      obtain ⟨hfits₁, heq₁⟩ := written_of_digits (by simp) hmajor
      obtain ⟨hfits₂, heq₂⟩ := written_of_digits (by simp) hminor
      obtain ⟨hfits₃, heq₃⟩ := written_of_digits (by simp) hpatch
      cases dot_eq_ok_iff.mp hdot₁
      cases dot_eq_ok_iff.mp hdot₂
      cases cs₅ with
      | cons c rest => cases h
      | nil =>
        cases h
        simp only [written, List.nil_append, List.append_nil] at heq₁ heq₂ heq₃
        exact ⟨⟨hfits₁, hfits₂, hfits₃⟩, by rw [heq₁, heq₂, heq₃]⟩
  · rintro ⟨⟨hmajor, hminor, hpatch⟩, heq⟩
    have hdot : ∀ rest, Stops ('.' :: rest) := by
      rintro rest c ⟨⟩
      rfl
    have hend : Stops [] := by simp [Stops]
    have hpatch := digits_toDigits .patch hpatch []
    rw [List.append_nil, digits_of_stops _ _ hend] at hpatch
    unfold read
    rw [heq]
    split
    · next hnil => simp at hnil
    · simp [digits_toDigits _ hmajor, digits_toDigits _ hminor, hpatch,
        digits_of_stops _ _ (hdot _), dot, bind, Except.bind, pure, Except.pure]

/-- The text of a version matches the pattern of versions. -/
theorem accepts_text (v : Version) : Validation.NamePattern.version.accepts v.text = true := by
  have hdigit : ∀ n c, c ∈ Nat.toDigits 10 n → c.isDigit = true := fun n c hc =>
    Nat.isDigit_of_mem_toDigits (by decide) (by decide) hc
  have hdot : ∀ n, '.' ∉ Nat.toDigits 10 n := fun n h => absurd (hdigit n _ h) (by decide)
  have hparts : v.text.toList.splitOn '.' =
      [Nat.toDigits 10 v.major, Nat.toDigits 10 v.minor, Nat.toDigits 10 v.patch] := by
    rw [toList_text, List.splitOn_append_cons_self_of_not_mem (hdot _),
      List.splitOn_append_cons_self_of_not_mem (hdot _), List.splitOn_eq_singleton (hdot _)]
  have hpart : ∀ n, (!(Nat.toDigits 10 n).isEmpty &&
      (Nat.toDigits 10 n).all Pattern.Shorthand.digit.set.has) = true := by
    intro n
    simp only [Bool.and_eq_true, Bool.not_eq_true', List.isEmpty_eq_false_iff, List.all_eq_true]
    exact ⟨Nat.toDigits_ne_nil, fun c hc => Pattern.has_digit (hdigit n c hc)⟩
  simp [Validation.NamePattern.accepts, hparts, hpart]

end Version

end Workflow
