import Workflow.Pattern.Class

/-!
# Digits

The decimal digits of the standard begin with those of ASCII, so each of these matches `\d`.
-/

namespace Workflow

namespace Unicode.CharSet

/-- Splitting always leaves a word, even an empty one. -/
theorem splitWords_ne_nil (text : List Char) : splitWords text ≠ [] := by
  cases text with
  | nil => simp [splitWords]
  | cons c rest =>
    rw [splitWords]
    split
    · simp
    · split <;> simp

/-- A word up to the first blank is the first one. -/
theorem splitWords_append {word : List Char} (h : ∀ c ∈ word, c ≠ ' ' ∧ c ≠ '\n')
    (rest : List Char) :
    splitWords (word ++ ' ' :: rest) = word :: splitWords rest := by
  induction word with
  | nil =>
    obtain ⟨head, tail, heq⟩ := List.exists_cons_of_ne_nil (splitWords_ne_nil rest)
    simp [splitWords, heq]
  | cons c word ih =>
    have hc := h c List.mem_cons_self
    rw [List.cons_append, splitWords, ih fun c hc => h c (List.mem_cons_of_mem _ hc)]
    simp [hc.1, hc.2]

end Unicode.CharSet

namespace Pattern

open Unicode (CharSet)

set_option maxRecDepth 4000 in
/-- The table of decimal digits begins with those of ASCII. -/
theorem digits_begin : ∃ text, Property.inCategories ["Nd"] = .ofText text ∧
    ∃ rest, text.toList = ['3', '0', '-', '3', '9'] ++ ' ' :: rest := by
  refine ⟨_, rfl, ?_⟩
  exact ⟨_, String.toList_ofList⟩

/-- A digit of ASCII is a digit. -/
theorem has_digit {c : Char} (h : c.isDigit = true) : Shorthand.digit.set.has c = true := by
  obtain ⟨text, hset, rest, htext⟩ := digits_begin
  have hwords : CharSet.words text.toList = ['3', '0', '-', '3', '9'] :: CharSet.words rest := by
    rw [htext, CharSet.words, CharSet.splitWords_append (by simp)]
    rfl
  have hbounds : (CharSet.ofText text).bounds =
    48 :: 58 :: CharSet.boundsOfWords (CharSet.words rest) := by
    rw [CharSet.ofText, hwords]
    rfl
  have hrange : 48 ≤ c.toNat ∧ c.toNat < 58 := by
    simp only [Char.isDigit, Bool.and_eq_true, decide_eq_true_eq] at h
    exact ⟨h.1, Nat.lt_succ_of_le h.2⟩
  rw [Shorthand.set, hset, CharSet.has, CharSet.mem, hbounds, CharSet.insideFrom,
    if_neg (Nat.not_lt.mpr hrange.1),
    CharSet.insideFrom, if_pos hrange.2]
  rfl

end Pattern

end Workflow
