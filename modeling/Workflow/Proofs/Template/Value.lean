import Workflow.Proofs.Template.Splice

/-!
# Resolving values

A value is resolved text by text, in the order of the document. What stands around the texts stays
as it is, and the first text that fails decides how the value does.
-/

namespace Workflow

open Decode (bind_eq_ok)

namespace Json

mutual

/-- All texts inside a value, in the order of the document. Keys are not among them. -/
def texts : Json → List String
  | .str s => [s]
  | .arr items => textsOfItems items
  | .obj fields => textsOfFields fields
  | .null | .bool _ | .num _ => []

def textsOfItems : List Json → List String
  | [] => []
  | item :: rest => texts item ++ textsOfItems rest

def textsOfFields : List (String × Json) → List String
  | [] => []
  | (_, value) :: rest => texts value ++ textsOfFields rest

end

/-- A value with other values in the places of the texts inside it. Arrays keep their length,
objects their keys and the order of these, and numbers, booleans and nulls are the same. -/
inductive TextsReplaced (place : String → Json → Prop) : Json → Json → Prop
  | null : TextsReplaced place .null .null
  | bool (b : Bool) : TextsReplaced place (.bool b) (.bool b)
  | num (n : Number) : TextsReplaced place (.num n) (.num n)
  | str {s : String} {value : Json} (h : place s value) : TextsReplaced place (.str s) value
  | arr {items values : List Json} (h : List.Forall₂ (TextsReplaced place) items values) :
    TextsReplaced place (.arr items) (.arr values)
  | obj {fields found : Entries Json} (hkeys : found.keys = fields.keys)
    (h : List.Forall₂ (TextsReplaced place) fields.values found.values) :
    TextsReplaced place (.obj fields) (.obj found)

variable {place : String → Json → Prop}

mutual

/-- Texts that are their own places leave a value as it is. -/
theorem textsReplaced_self (value : Json) (h : ∀ text ∈ value.texts, place text (.str text)) :
    TextsReplaced place value value := by
  cases value with
  | null => exact .null
  | bool b => exact .bool b
  | num n => exact .num n
  | str s => exact .str (h s (List.mem_singleton.mpr rfl))
  | arr items => exact .arr (forall₂_textsReplaced_items items h)
  | obj fields => exact .obj rfl (forall₂_textsReplaced_fields fields h)

theorem forall₂_textsReplaced_items (items : List Json)
    (h : ∀ text ∈ textsOfItems items, place text (.str text)) :
    List.Forall₂ (TextsReplaced place) items items := by
  match items with
  | [] => exact .nil
  | item :: rest =>
    rw [textsOfItems, List.forall_mem_append] at h
    exact .cons (textsReplaced_self item h.1) (forall₂_textsReplaced_items rest h.2)

theorem forall₂_textsReplaced_fields (fields : Entries Json)
    (h : ∀ text ∈ textsOfFields fields, place text (.str text)) :
    List.Forall₂ (TextsReplaced place) fields.values fields.values := by
  match fields with
  | [] => exact .nil
  | (key, value) :: rest =>
    rw [textsOfFields, List.forall_mem_append] at h
    exact .cons (textsReplaced_self value h.1) (forall₂_textsReplaced_fields rest h.2)

end

end Json

namespace Template

variable {scope : Scope} {fault : Fault}

mutual

/-- A value is resolved exactly if each text inside it is, and the result has what
they became in their places. -/
theorem resolveValue_eq_ok_iff (value : Json) {result : Json} :
    resolveValue scope value = .ok result ↔
      value.TextsReplaced (fun text found => resolveTemplate scope text = .ok found) result := by
  cases value with
  | null | bool | num =>
    constructor
    · rintro ⟨⟩
      constructor
    · rintro ⟨⟩
      rfl
  | str s =>
    rw [resolveValue]
    constructor
    · exact fun h => .str h
    · rintro ⟨⟩
      assumption
  | arr items =>
    rw [resolveValue]
    constructor
    · intro h
      obtain ⟨values, hvalues, heq⟩ := bind_eq_ok h
      cases heq
      exact .arr ((resolveItems_eq_ok_iff items).mp hvalues)
    · rintro (_ | _ | _ | _ | h)
      rw [(resolveItems_eq_ok_iff items).mpr h]
      rfl
  | obj fields =>
    rw [resolveValue]
    constructor
    · intro h
      obtain ⟨found, hfound, heq⟩ := bind_eq_ok h
      cases heq
      obtain ⟨hkeys, hvalues⟩ := (resolveFields_eq_ok_iff fields).mp hfound
      exact .obj hkeys hvalues
    · rintro (_ | _ | _ | _ | _ | ⟨hkeys, h⟩)
      rw [(resolveFields_eq_ok_iff fields).mpr ⟨hkeys, h⟩]
      rfl

theorem resolveItems_eq_ok_iff (items : List Json) {values : List Json} :
    resolveItems scope items = .ok values ↔
      List.Forall₂ (Json.TextsReplaced fun text found => resolveTemplate scope text = .ok found)
        items values := by
  match items with
  | [] => simp [resolveItems, eq_comm]
  | item :: rest =>
    rw [resolveItems]
    constructor
    · intro h
      obtain ⟨value, hvalue, h⟩ := bind_eq_ok h
      obtain ⟨values, hvalues, heq⟩ := bind_eq_ok h
      cases heq
      exact .cons ((resolveValue_eq_ok_iff item).mp hvalue)
        ((resolveItems_eq_ok_iff rest).mp hvalues)
    · rintro (_ | ⟨hvalue, hvalues⟩)
      rw [(resolveValue_eq_ok_iff item).mpr hvalue, (resolveItems_eq_ok_iff rest).mpr hvalues]
      rfl

theorem resolveFields_eq_ok_iff (fields : Entries Json) {found : Entries Json} :
    resolveFields scope fields = .ok found ↔ found.keys = fields.keys ∧ List.Forall₂
      (Json.TextsReplaced fun text found => resolveTemplate scope text = .ok found)
      fields.values found.values := by
  match fields with
  | [] =>
    constructor
    · rintro ⟨⟩
      exact ⟨rfl, .nil⟩
    · rintro ⟨hkeys, -⟩
      rw [List.map_eq_nil_iff.mp hkeys]
      rfl
  | (key, value) :: rest =>
    rw [resolveFields]
    constructor
    · intro h
      obtain ⟨result, hresult, h⟩ := bind_eq_ok h
      obtain ⟨others, hothers, heq⟩ := bind_eq_ok h
      cases heq
      obtain ⟨hkeys, hvalues⟩ := (resolveFields_eq_ok_iff rest).mp hothers
      exact ⟨congrArg (key :: ·) hkeys, .cons ((resolveValue_eq_ok_iff value).mp hresult) hvalues⟩
    · rintro ⟨hkeys, hvalues⟩
      match found with
      | [] => cases hkeys
      | (key', result) :: others =>
        obtain ⟨rfl, hothers⟩ := List.cons.inj hkeys
        obtain ⟨hresult, hvalues⟩ := List.forall₂_cons.mp hvalues
        rw [(resolveValue_eq_ok_iff value).mpr hresult,
          (resolveFields_eq_ok_iff rest).mpr ⟨hothers, hvalues⟩]
        rfl

end

mutual

/-- A value fails for the first text inside it that does. -/
theorem resolveValue_eq_error_iff (value : Json) {fault : Fault} :
    resolveValue scope value = .error fault ↔
    FailsFirst (resolveTemplate scope) value.texts fault := by
  cases value with
  | null | bool | num => exact iff_of_false nofun not_failsFirst_nil
  | str s =>
    rw [resolveValue, Json.texts, failsFirst_singleton_iff]
  | arr items =>
    rw [resolveValue, Json.texts, ← resolveItems_eq_error_iff items]
    cases resolveItems scope items <;> simp [bind, Except.bind, pure, Except.pure]
  | obj fields =>
    rw [resolveValue, Json.texts, ← resolveFields_eq_error_iff fields]
    cases resolveFields scope fields <;> simp [bind, Except.bind, pure, Except.pure]

theorem resolveItems_eq_error_iff (items : List Json) {fault : Fault} :
    resolveItems scope items = .error fault ↔
      FailsFirst (resolveTemplate scope) (Json.textsOfItems items) fault := by
  match items with
  | [] => exact iff_of_false nofun not_failsFirst_nil
  | item :: rest =>
    rw [resolveItems, Json.textsOfItems, failsFirst_append_iff,
      ← exists_ok_iff fun fault => resolveValue_eq_error_iff item, ← resolveValue_eq_error_iff item,
      ← resolveItems_eq_error_iff rest]
    cases resolveValue scope item with
    | error fault => simp [bind, Except.bind]
    | ok value => cases resolveItems scope rest <;> simp [bind, Except.bind, pure, Except.pure]

theorem resolveFields_eq_error_iff (fields : List (String × Json)) {fault : Fault} :
    resolveFields scope fields = .error fault ↔
      FailsFirst (resolveTemplate scope) (Json.textsOfFields fields) fault := by
  match fields with
  | [] => exact iff_of_false nofun not_failsFirst_nil
  | (key, value) :: rest =>
    rw [resolveFields, Json.textsOfFields, failsFirst_append_iff,
      ← exists_ok_iff fun fault => resolveValue_eq_error_iff value,
      ← resolveValue_eq_error_iff value, ← resolveFields_eq_error_iff rest]
    cases resolveValue scope value with
    | error fault => simp [bind, Except.bind]
    | ok value => cases resolveFields scope rest <;> simp [bind, Except.bind, pure, Except.pure]

end

/-- A template without references is a text. -/
theorem resolveTemplate_of_plain {template : String} (h : tokens template = []) :
    resolveTemplate scope template = .ok (.str template) := by
  rw [resolveTemplate, h]

/-- Resolving a value changes nothing but the texts inside it: the result has, in the place of each,
the value that it has as a template, and a value without references is its own result. A value fails
exactly if a text inside it does, for the first one in the order of the document. -/
theorem values_keep_their_form (scope : Scope) (value : Json) :
    (∀ result, resolveValue scope value = .ok result ↔
      value.TextsReplaced (fun text found => resolveTemplate scope text = .ok found) result) ∧
      ((∃ result, resolveValue scope value = .ok result) ↔
        ∀ text ∈ value.texts, ∃ found, resolveTemplate scope text = .ok found) ∧
      (∀ fault, resolveValue scope value = .error fault ↔
        FailsFirst (resolveTemplate scope) value.texts fault) ∧
      ((∀ text ∈ value.texts, tokens text = []) → resolveValue scope value = .ok value) := by
  refine ⟨fun result => resolveValue_eq_ok_iff value,
    exists_ok_iff fun fault => resolveValue_eq_error_iff value,
    fun fault => resolveValue_eq_error_iff value, fun hplain => ?_⟩
  exact (resolveValue_eq_ok_iff value).mpr
    (Json.textsReplaced_self value fun text htext => resolveTemplate_of_plain (hplain text htext))

/-- A value with a key that looks like a reference, but with none in its texts. -/
def letter : Json := .obj [("$\x7bkey\x7d", .arr [.str "dear $ reader", .null]), ("pages", .int 2)]

theorem letter_keeps_its_form :
    (∀ text ∈ letter.texts, tokens text = []) ∧ resolveValue mirror letter = .ok letter := by
  have hplain : ∀ text ∈ letter.texts, tokens text = [] := by
    intro text htext
    obtain rfl := List.mem_singleton.mp htext
    decide +kernel
  obtain ⟨-, -, -, hsame⟩ := values_keep_their_form mirror letter
  exact ⟨hplain, hsame hplain⟩

end Template

end Workflow
