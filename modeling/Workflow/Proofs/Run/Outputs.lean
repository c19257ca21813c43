import Workflow.Proofs.Run.Names
import Workflow.Run.Outputs

/-!
# Outputs of a type

A text that is given out as a value of some type becomes a value of that type, or it stays as it is.
Whole numbers and truth values come back from their texts, whatever blanks stand around these. Only
a whole number that 64 bits with a sign do not hold stays a text, although it is an integer.
-/

namespace Workflow

/-! ## Blanks around a text -/

namespace Unicode

variable {before behind : List Char}

theorem trimChars_padded (hbefore : ∀ c ∈ before, isBlank c = true)
    (hbehind : ∀ c ∈ behind, isBlank c = true) (cs : List Char) :
    trimChars (before ++ cs ++ behind) = trimChars cs := by
  have hfront : trimChars (before ++ cs) = trimChars cs := by
    induction before with
    | nil => rfl
    | cons b before ih =>
      have hrest := List.forall_mem_cons.mp hbefore
      rw [List.cons_append, trimChars_cons hrest.1, ih hrest.2]
  induction behind using List.reverseRecOn with
  | nil => rw [List.append_nil, hfront]
  | append_singleton behind b ih =>
    have hrest := List.forall_mem_append.mp hbehind
    rw [← List.append_assoc, trimChars_append (hrest.2 b List.mem_cons_self), ih hrest.1]

/-- The blanks around a text do not count. -/
theorem trim_padded {before behind : String} (hbefore : isBlankText before = true)
    (hbehind : isBlankText behind = true) (s : String) : trim (before ++ s ++ behind) = trim s := by
  rw [trim, trim, String.toList_append, String.toList_append]
  apply congrArg String.ofList
  apply trimChars_padded
  · exact List.all_eq_true.mp hbefore
  · exact List.all_eq_true.mp hbehind

end Unicode

namespace Outputs

open Unicode (isBlank isBlankText trim)

/-! ## Types -/

/-- What a text is read as is a value of the type that is asked for. -/
theorem accepts_of_read? {type : ValueType} {text : String} {value : Json}
    (h : read? type text = some value) : type.accepts value = true := by
  cases type with
  | string => cases h
  | integer =>
    obtain ⟨n, -, hn⟩ := Option.bind_eq_some_iff.mp h
    split at hn <;> cases hn
    rfl
  | number =>
    obtain ⟨x, -, hx⟩ := Option.bind_eq_some_iff.mp h
    split at hx <;> cases hx
    rfl
  | boolean =>
    rw [read?, boolean?] at h
    split at h
    · cases h
      rfl
    · split at h <;> cases h
      rfl
  | array => exact (Option.filter_eq_some_iff.mp h).2
  | object => exact (Option.filter_eq_some_iff.mp h).2

theorem coerce_str (s : String) (type : ValueType) :
    coerce (.str s) (some type) = (read? type (trim s)).getD (.str s) := rfl

/-- A text stays as it is, or becomes a value of the type that is asked for. -/
theorem accepts_coerce (s : String) (type : ValueType) :
    coerce (.str s) (some type) = .str s ∨ type.accepts (coerce (.str s) (some type)) = true := by
  rw [coerce_str]
  cases hread : read? type (trim s) with
  | none =>
    left
    rw [Option.getD_none]
  | some value =>
    right
    rw [Option.getD_some]
    exact accepts_of_read? hread

/-! ## Texts of values -/

theorem isBlank_of_isDigit {c : Char} (h : c.isDigit = true) : isBlank c = false := by
  apply Template.isBlank_of_isNameChar
  simp [Condition.Scan.isNameChar, Char.isAlphanum, h]

/-- The text of a whole number has no blanks. -/
theorem isBlank_of_mem_toString {n : Int} {c : Char} (h : c ∈ (toString n).toList) :
    isBlank c = false := by
  cases n with
  | ofNat n =>
    rw [Decimal.toList_toString_ofNat] at h
    exact isBlank_of_isDigit (Decimal.isDigit_of_mem_toDigits h)
  | negSucc n =>
    rw [Decimal.toList_toString_negSucc] at h
    rcases List.mem_cons.mp h with rfl | hdigit
    · decide
    · exact isBlank_of_isDigit (Decimal.isDigit_of_mem_toDigits hdigit)

theorem valueText_int (n : Int) : Template.valueText (.int n) = toString n := by
  show String.ofList (toString n).toList = _
  rw [String.ofList_toList]

/-- The text of a whole number is read as that number if 64 bits with a sign hold it. -/
theorem integer?_toString {n : Int} (h : Number.InRange n) :
    integer? (toString n) = if n ≤ 9223372036854775807 then some (.int n) else none := by
  rw [integer?, Decimal.int?_toString, Option.bind_some]
  by_cases hfits : n ≤ 9223372036854775807
  · rw [if_pos ⟨h.1, Int.lt_of_le_of_lt hfits (by decide)⟩, if_pos hfits]
  · rw [if_neg fun hbounds => hfits (Int.le_of_lt_add_one hbounds.2), if_neg hfits]

/-- A text that is the text of a value, apart from blanks around it. -/
inductive Padded (value : Json) : String → Prop
  | intro (before behind : String) (hbefore : isBlankText before = true)
    (hbehind : isBlankText behind = true) :
    Padded value (before ++ Template.valueText value ++ behind)

section

variable {value : Json} {s : String} {type : ValueType}

/-- If the text of a value has no blanks, those around it do not matter. -/
theorem Padded.coerce_eq (h : Padded value s)
    (hplain : ∀ c ∈ (Template.valueText value).toList, isBlank c = false) :
    coerce (.str s) (some type) = (read? type (Template.valueText value)).getD (.str s) := by
  cases h with
  | intro before behind hbefore hbehind =>
    rw [coerce_str, Unicode.trim_padded hbefore hbehind, Template.trim_eq_self hplain]

theorem Padded.coerce_int {n : Int} (h : Padded (.int n) s) (hrange : Number.InRange n) :
    coerce (.str s) (some .integer) = if n ≤ 9223372036854775807 then .int n else .str s := by
  have hplain : ∀ c ∈ (Template.valueText (.int n)).toList, isBlank c = false := by
    intro c hc
    rw [valueText_int] at hc
    exact isBlank_of_mem_toString hc
  rw [h.coerce_eq hplain, valueText_int, read?, integer?_toString hrange]
  split <;> rfl

theorem Padded.coerce_bool {b : Bool} (h : Padded (.bool b) s) :
    coerce (.str s) (some .boolean) = .bool b := by
  have hletters : ((Template.valueText (.bool b)).toList.all fun c => !isBlank c) = true := by
    cases b <;> rfl
  have hplain : ∀ c ∈ (Template.valueText (.bool b)).toList, isBlank c = false := by
    intro c hc
    exact Bool.not_eq_eq_eq_not.mp (List.all_eq_true.mp hletters c hc)
  rw [h.coerce_eq hplain]
  cases b <;> rfl

end

/-- A text becomes a value of the type that is asked for or stays as it is. If it is the text of a
whole number or of a truth value, with any blanks around it, it becomes this value again. The
exception is a whole number from `2 ^ 63` on: its text is not changed. -/
theorem texts_read_back (s : String) :
    (∀ type : ValueType, coerce (.str s) (some type) = .str s ∨
      type.accepts (coerce (.str s) (some type)) = true) ∧
    (∀ n, Number.InRange n → Padded (.int n) s →
      coerce (.str s) (some .integer) = if n ≤ 9223372036854775807 then .int n else .str s) ∧
    ∀ b, Padded (.bool b) s → coerce (.str s) (some .boolean) = .bool b := by
  refine ⟨accepts_coerce s, ?_, ?_⟩
  · intro n hrange h
    exact h.coerce_int hrange
  · intro b h
    exact h.coerce_bool

theorem texts_read_back_with_blanks :
    Number.InRange (-9223372036854775808) ∧
    Padded (.int (-9223372036854775808)) " \t-9223372036854775808\n" ∧
      coerce (.str " \t-9223372036854775808\n") (some .integer) = .int (-9223372036854775808) ∧
      Padded (.bool true) " \ttrue\n" ∧ coerce (.str " \ttrue\n") (some .boolean) = .bool true := by
  have hbefore : isBlankText " \t" = true := by decide
  have hbehind : isBlankText "\n" = true := by decide
  have hrange : Number.InRange (-9223372036854775808) := by decide
  have hnumber : Padded (.int (-9223372036854775808)) " \t-9223372036854775808\n" :=
    .intro " \t" "\n" hbefore hbehind
  have htruth : Padded (.bool true) " \ttrue\n" := .intro " \t" "\n" hbefore hbehind
  refine ⟨hrange, hnumber, ?_, htruth, ?_⟩
  · exact (texts_read_back " \t-9223372036854775808\n").2.1 _ hrange hnumber
  · exact (texts_read_back " \ttrue\n").2.2 true htruth

/-- The least whole number that needs all 64 bits is an integer, but its text
does not become one. -/
theorem text_of_integer_stays :
    Number.InRange 9223372036854775808 ∧
    ValueType.integer.accepts (.int 9223372036854775808) = true ∧
      coerce (.str (Template.valueText (.int 9223372036854775808))) (some .integer) =
        .str "9223372036854775808" ∧
      coerce (.str (Template.valueText (.int 9223372036854775808))) (some .integer) ≠
        .int 9223372036854775808 := by
  have hrange : Number.InRange 9223372036854775808 := by decide
  have hstays : coerce (.str (Template.valueText (.int 9223372036854775808))) (some .integer) =
      .str "9223372036854775808" := by
    rw [valueText_int, coerce_str, Template.trim_eq_self fun _ => isBlank_of_mem_toString, read?,
      integer?_toString hrange]
    rfl
  refine ⟨hrange, rfl, hstays, ?_⟩
  rw [hstays]
  exact Json.noConfusion

end Outputs

end Workflow
