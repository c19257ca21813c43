import Workflow.Json.Text

/-!
# The size of JSON text

Size limits are stated in bytes of compact JSON text. `Json.textSize` counts them without writing
the text, and `Json.textSize_eq` says that it counts right.
-/

namespace Workflow.Json

/-- Bytes of a character as it stands inside a JSON string. -/
def escapedSize (c : Char) : Nat :=
  if c = '"' || c = '\\' || c = '\n' || c = '\r' || c = '\t' then 2
  else if c.toNat = 8 || c.toNat = 12 then 2
  else if c.toNat < 32 then 6
  else c.utf8Size

theorem utf8Size_hexDigit (n : Nat) : (hexDigit n).utf8Size = 1 := by
  by_cases h : n < 16
  · have digits : ∀ m < 16, (hexDigit m).utf8Size = 1 := by decide
    exact digits n h
  · have : hexDigit n = '0' := by
      rw [hexDigit, List.getD_eq_getElem?_getD, List.getElem?_eq_none (by simpa using h)]
      rfl
    rw [this]
    rfl

/-- The size of a character is that of its escaped form. -/
theorem escapedSize_eq (c : Char) : escapedSize c = (String.ofList (escape c)).utf8ByteSize := by
  by_cases hmark : c = '"' ∨ c = '\\' ∨ c = '\n' ∨ c = '\r' ∨ c = '\t'
  · rcases hmark with rfl | rfl | rfl | rfl | rfl <;> rfl
  · rw [not_or, not_or, not_or, not_or] at hmark
    simp only [escapedSize, escape, hmark, decide_false, Bool.or_false, Bool.false_eq_true,
      if_false]
    by_cases hbackspace : c.toNat = 8
    · simp only [hbackspace, decide_true, Bool.true_or, if_true]
      rfl
    · by_cases hfeed : c.toNat = 12
      · simp only [hfeed, decide_true, Bool.or_true, if_true]
        rfl
      · simp only [hbackspace, hfeed, decide_false, Bool.or_false, Bool.false_eq_true, if_false]
        split
        · simp only [String.ofList_cons, String.ofList_nil, String.utf8ByteSize_append,
            String.utf8ByteSize_singleton, utf8Size_hexDigit]
          rfl
        · exact (String.utf8ByteSize_singleton).symm

/-- Bytes of a string with its quotes. -/
def quotedSize (s : String) : Nat := s.toList.foldl (fun n c => n + escapedSize c) 2

mutual

/-- Bytes of the compact text of a value. -/
def textSize : Json → Nat
  | .null => 4
  | .bool true => 4
  | .bool false => 5
  | .num n => n.text.utf8ByteSize
  | .str s => quotedSize s
  | .arr items => textSizeItems items + 2
  | .obj fields => textSizeFields fields + 2

/-- Bytes of items with commas between them. -/
def textSizeItems : List Json → Nat
  | [] => 0
  | [item] => textSize item
  | item :: rest => textSize item + 1 + textSizeItems rest

/-- Bytes of fields with commas between them. -/
def textSizeFields : List (String × Json) → Nat
  | [] => 0
  | [(key, value)] => quotedSize key + 1 + textSize value
  | (key, value) :: rest => quotedSize key + 1 + textSize value + 1 + textSizeFields rest

end

def bytes (cs : List Char) : Nat := (String.ofList cs).utf8ByteSize

theorem bytes_append (a b : List Char) : bytes (a ++ b) = bytes a + bytes b := by
  simp [bytes, String.ofList_append, String.utf8ByteSize_append]

theorem bytes_cons (c : Char) (cs : List Char) : bytes (c :: cs) = c.utf8Size + bytes cs := by
  rw [← List.singleton_append, bytes_append]
  congr 1
  simp [bytes]

theorem foldl_escapedSize (cs : List Char) (n : Nat) :
    cs.foldl (fun n c => n + escapedSize c) n = n + bytes (cs.flatMap escape) := by
  induction cs generalizing n with
  | nil => simp [bytes]
  | cons c rest ih =>
    rw [List.foldl_cons, ih, List.flatMap_cons, bytes_append, escapedSize_eq]
    simp only [bytes]
    omega

theorem quotedSize_eq (s : String) : quotedSize s = bytes (quoted s) := by
  rw [quotedSize, foldl_escapedSize, quoted, List.cons_append, bytes_cons, bytes_append]
  have quote : '"'.utf8Size = 1 ∧ bytes ['"'] = 1 := by decide
  omega

mutual

theorem textSize_eq_bytes (json : Json) : json.textSize = bytes json.chars := by
  cases json with
  | null => simp only [textSize, chars]; decide
  | bool b => cases b <;> simp only [textSize, chars] <;> decide
  | num n => simp [textSize, chars, bytes]
  | str s => rw [textSize, chars, quotedSize_eq]
  | arr items =>
    rw [textSize, chars, List.cons_append, bytes_cons, bytes_append, textSizeItems_eq_bytes items]
    have ends : '['.utf8Size = 1 ∧ bytes [']'] = 1 := by decide
    omega
  | obj fields =>
    rw [textSize, chars, List.cons_append, bytes_cons, bytes_append, textSizeFields_eq_bytes fields]
    have ends : '{'.utf8Size = 1 ∧ bytes ['}'] = 1 := by decide
    omega

theorem textSizeItems_eq_bytes (items : List Json) :
    textSizeItems items = bytes (charsItems items) := by
  match items with
  | [] => rfl
  | [item] => rw [textSizeItems, charsItems, textSize_eq_bytes item]
  | item :: second :: rest =>
    rw [textSizeItems, charsItems, bytes_append, bytes_cons, textSize_eq_bytes item,
      textSizeItems_eq_bytes (second :: rest)]
    have comma : ','.utf8Size = 1 := by decide
    omega
    all_goals simp

theorem textSizeFields_eq_bytes (fields : List (String × Json)) :
    textSizeFields fields = bytes (charsFields fields) := by
  match fields with
  | [] => rfl
  | [(key, value)] =>
    rw [textSizeFields, charsFields, bytes_append, bytes_cons, quotedSize_eq,
      textSize_eq_bytes value]
    have colon : ':'.utf8Size = 1 := by decide
    omega
  | (key, value) :: second :: rest =>
    rw [textSizeFields, charsFields, bytes_append, bytes_cons, bytes_append, bytes_cons,
      quotedSize_eq, textSize_eq_bytes value, textSizeFields_eq_bytes (second :: rest)]
    have marks : ':'.utf8Size = 1 ∧ ','.utf8Size = 1 := by decide
    omega
    all_goals simp

end

/-- The size of a value is that of its text. -/
theorem textSize_eq (json : Json) : json.textSize = json.text.utf8ByteSize := textSize_eq_bytes json

end Workflow.Json
