import Workflow.Condition.Token

/-!
# Texts and their tokens

The kinds of the tokens of a text do not depend on the place where it begins. A name and a number go
on for as long as they can, so each is read back if what comes behind it cannot be part of it, and
so is a sign that is not the beginning of a longer one.
-/

namespace Workflow.Condition

open Scan

def Reads (cs : List Char) (kinds : List TokenKind) : Prop :=
  ∀ n p, cs.length ≤ n →
    (scan n p cs).tokens.map Token.kind = kinds ∧ (scan n p cs).ending = .text

def keywords : List String := ["true", "false", "null", "in"]

/-- Any other word is an identifier. -/
theorem word_eq_identifier {name : String} (h : name ∉ keywords) :
    word name = .identifier name := by
  unfold word
  split
  · exact absurd (by decide) h
  · exact absurd (by decide) h
  · exact absurd (by decide) h
  · exact absurd (by decide) h
  · rfl

variable {c : Char} {rest : List Char} {kinds : List TokenKind}

/-! ## Characters -/

/-- A sign does not begin a name or a string, and it is no blank and no digit. -/
theorem plain_of_single {sign : Sign} (h : single? c = some sign) :
    isBlank c = false ∧ c.isDigit = false ∧ isNameStart c = false ∧
    (c = '"' || c = '\'') = false := by
  unfold single? at h
  split at h
  all_goals cases h <;> decide

/-- Blanks come before the digits and the letters. -/
theorem isBlank_of_le (h : 48 ≤ c.toNat) : isBlank c = false := by
  have hspace : c ≠ ' ' := by
    rintro rfl
    exact absurd h (by decide)
  simp only [isBlank, hspace, decide_false, Bool.false_or, Bool.and_eq_false_iff,
    decide_eq_false_iff_not]
  omega

theorem le_of_isDigit (h : c.isDigit = true) : 48 ≤ c.toNat := (Char.isDigit_iff_toNat.mp h).1

/-- The beginning of a name comes behind the digits. -/
theorem le_of_isNameStart (h : isNameStart c = true) : 65 ≤ c.toNat := by
  rcases Bool.or_eq_true_iff.mp h with halpha | hline
  · rcases Bool.or_eq_true_iff.mp halpha with hupper | hlower
    · exact (of_decide_eq_true hupper).1
    · exact Nat.le_trans (by decide : 65 ≤ 97)
        (of_decide_eq_true (Bool.and_eq_true_iff.mp hlower).1)
  · rw [of_decide_eq_true hline]
    decide

theorem isDigit_of_isNameStart (h : isNameStart c = true) : c.isDigit = false := by
  have hleast := le_of_isNameStart h
  rw [Bool.eq_false_iff]
  intro hdigit
  have hmost : c.toNat ≤ 57 := (Char.isDigit_iff_toNat.mp hdigit).2
  omega

theorem ne_point_of_isNameStart (h : isNameStart c = true) : c ≠ '.' := by
  rintro rfl
  exact absurd h (by decide)

/-- Points and brackets do not begin a longer sign. -/
theorem pair?_eq_none (h : c = '.' ∨ c = '[' ∨ c = ']') (d : Char) : pair? c d = none := by
  rcases h with rfl | rfl | rfl <;> rfl

/-- No number begins with a character that is no digit, unless it is the point of a fraction. -/
theorem numberText_eq_nil (hdigit : c.isDigit = false)
    (hpoint : c = '.' → ∀ d ∈ rest.head?, d.isDigit = false) : numberText (c :: rest) = [] := by
  have hwhole : (c :: rest).takeWhile Char.isDigit = [] := by simp [hdigit]
  simp only [numberText, hwhole, List.length_nil, List.drop_zero]
  split
  · next d behind heq =>
    cases heq
    simp [hpoint rfl d rfl]
  · rfl

/-- The digits of a number are all that is read of it up to something that is
no digit and no point. -/
theorem numberText_append {digits : List Char} (hdigits : ∀ d ∈ digits, d.isDigit = true)
    (hrest : ∀ d ∈ rest.head?, d.isDigit = false ∧ d ≠ '.') :
    numberText (digits ++ rest) = digits := by
  have hwhole : (digits ++ rest).takeWhile Char.isDigit = digits := by
    rw [List.takeWhile_append_of_pos hdigits]
    cases rest with
    | nil => simp
    | cons d rest => simp [(hrest d rfl).1]
  simp only [numberText, hwhole, List.drop_left]
  split
  · exact absurd rfl (hrest '.' rfl).2
  · rfl

/-! ## Tokens -/

namespace Reads

theorem nil : Reads [] [] := by
  intro n p _
  cases n <;> exact ⟨rfl, rfl⟩

/-- A name is a word up to something that cannot be part of it. -/
theorem name {cs : List Char} (hstart : isNameStart c = true)
    (hname : ∀ d ∈ cs, isNameChar d = true) (hrest : ∀ d ∈ rest.head?, isNameChar d = false)
    (h : Reads rest kinds) :
    Reads (c :: cs ++ rest) (word (String.ofList (c :: cs)) :: kinds) := by
  have hblank : isBlank c = false :=
    isBlank_of_le (Nat.le_trans (by decide : 48 ≤ 65) (le_of_isNameStart hstart))
  have hnumber : numberText (c :: (cs ++ rest)) = [] :=
    numberText_eq_nil (isDigit_of_isNameStart hstart) fun heq =>
      absurd heq (ne_point_of_isNameStart hstart)
  have hspan : (cs ++ rest).takeWhile isNameChar = cs := by
    rw [List.takeWhile_append_of_pos hname]
    cases rest with
    | nil => simp
    | cons d rest => simp [hrest d rfl]
  rintro (_ | n) p hn
  · simp at hn
  · have htail := h n (p.move (c :: cs).length) (by simp at hn; omega)
    have hdrop : (c :: (cs ++ rest)).drop (c :: cs).length = rest := by simp
    simp only [List.cons_append, scan, hblank, hnumber, hspan, hstart, hdrop, List.isEmpty_nil,
      Bool.not_true, Bool.false_eq_true, if_false, if_true, List.map_cons, htail.1, htail.2,
      and_self]

/-- Digits are a number up to something that cannot be part of it. -/
theorem number {digits : List Char} (hdigits : ∀ d ∈ digits, d.isDigit = true) (hne : digits ≠ [])
    (hrest : ∀ d ∈ rest.head?, d.isDigit = false ∧ d ≠ '.') (h : Reads rest kinds) :
    Reads (digits ++ rest)
      (.number ((Decimal.float? (String.ofList digits)).getD 0) :: kinds) := by
  obtain ⟨d, ds, rfl⟩ := List.exists_cons_of_ne_nil hne
  have hblank : isBlank d = false := isBlank_of_le (le_of_isDigit (hdigits d List.mem_cons_self))
  have hnumber := numberText_append hdigits hrest
  rintro (_ | n) p hn
  · simp at hn
  · have htail := h n (p.move (d :: ds).length) (by simp at hn; omega)
    have hdrop : (d :: (ds ++ rest)).drop (d :: ds).length = rest := by simp
    simp only [List.cons_append] at hnumber
    simp only [List.cons_append, scan, hblank, hnumber, hdrop, List.isEmpty_cons, Bool.not_false,
      Bool.false_eq_true, if_false, if_true, List.map_cons, htail.1, htail.2, and_self]

/-- A sign that does not begin a longer one, or a fraction, is a token by itself. -/
theorem sign {sign : Sign} (hsign : single? c = some sign)
    (hpair : ∀ d ∈ rest.head?, pair? c d = none)
    (hpoint : c = '.' → ∀ d ∈ rest.head?, d.isDigit = false) (h : Reads rest kinds) :
    Reads (c :: rest) (.sign sign :: kinds) := by
  obtain ⟨hblank, hdigit, hstart, hquote⟩ := plain_of_single hsign
  have hnumber : numberText (c :: rest) = [] := numberText_eq_nil hdigit hpoint
  have hnone : rest.head?.bind (pair? c) = none := Option.bind_eq_none_iff.mpr hpair
  rintro (_ | n) p hn
  · simp at hn
  · have htail := h n (p.move 1) (by simp at hn; omega)
    simp only [scan, hblank, hnumber, hstart, hquote, hnone, hsign, List.isEmpty_nil, Bool.not_true,
      Bool.false_eq_true, if_false, List.map_cons, htail.1, htail.2, and_self]

end Reads

end Workflow.Condition
