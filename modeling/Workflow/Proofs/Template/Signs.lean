import Mathlib.Data.List.TakeWhile
import Workflow.Proofs.Template.Splice
import Workflow.Template.Mask

/-!
# Templates sign by sign

A template is a row of characters and references. Masking it and resolving it both put something in
the places of the references and leave the characters as they are. Blanks at the ends of a template
belong to no reference, so a template without them has the same references.
-/

namespace Workflow.Template

open Decode (map_eq_ok)
open Unicode (isBlank trimChars)

/-- A sign of a template: a character, or a reference. -/
inductive Sign where
  | char (c : Char)
  | reference (token : Token)
  deriving DecidableEq, Repr

def Piece.signs : Piece → List Sign
  | .text chars => chars.map .char
  | .reference inner => [.reference ⟨String.ofList inner⟩]

def signs (template : String) : List Sign := (pieces template).flatMap Piece.signs

namespace Sign

/-- The reference that a sign is. -/
def token? : Sign → Option Token
  | .char _ => none
  | .reference token => some token

/-- What stands in the place of a sign if `fill` stands in the places of references. -/
def filled (fill : Token → List Char) : Sign → List Char
  | .char c => [c]
  | .reference token => fill token

/-- What stands in the places of signs. -/
def fillAll (fill : Token → List Char) (signs : List Sign) : List Char :=
  signs.flatMap (filled fill)

variable {fill : Token → List Char} {signs more : List Sign}

@[simp] theorem fillAll_nil : fillAll fill [] = [] := rfl

@[simp] theorem fillAll_cons (sign : Sign) (signs : List Sign) :
    fillAll fill (sign :: signs) = sign.filled fill ++ fillAll fill signs := List.flatMap_cons

@[simp] theorem fillAll_append (signs more : List Sign) :
    fillAll fill (signs ++ more) = fillAll fill signs ++ fillAll fill more := List.flatMap_append

@[simp] theorem fillAll_map_char (cs : List Char) : fillAll fill (cs.map .char) = cs := by
  induction cs with
  | nil => rfl
  | cons c cs ih => rw [List.map_cons, fillAll_cons, ih, filled, List.singleton_append]

theorem filterMap_map_char (cs : List Char) : (cs.map Sign.char).filterMap token? = [] := by
  simp [token?, Function.comp_def]

theorem exists_map_char (h : signs.filterMap token? = []) :
    ∃ cs : List Char, signs = cs.map .char := by
  induction signs with
  | nil => exact ⟨[], rfl⟩
  | cons sign rest ih =>
    cases sign with
    | char c =>
      obtain ⟨cs, hrest⟩ := ih h
      exact ⟨c :: cs, congrArg (Sign.char c :: ·) hrest⟩
    | reference token => cases h

/-- The characters in front of the first reference. -/
def front : List Sign → List Char
  | .char c :: rest => c :: front rest
  | _ => []

/-- The front of a template stays as it is. -/
theorem exists_fillAll_eq_front_append (signs : List Sign) :
    ∃ behind, ∀ fill, fillAll fill signs = front signs ++ fillAll fill behind := by
  induction signs with
  | nil => exact ⟨[], fun _ => rfl⟩
  | cons sign rest ih =>
    cases sign with
    | reference token => exact ⟨.reference token :: rest, fun _ => rfl⟩
    | char c =>
      obtain ⟨behind, hrest⟩ := ih
      exact ⟨behind, fun fill => by rw [fillAll_cons, hrest]; rfl⟩

theorem front_map_char (cs : List Char) : front (cs.map .char) = cs := by
  induction cs with
  | nil => rfl
  | cons c cs ih => rw [List.map_cons, front, ih]

end Sign

/-! ## What stands in the places of references -/

theorem fillAll_flatMap_signs (fill : Token → List Char) (cut : List Piece) :
    Sign.fillAll fill (cut.flatMap Piece.signs) = cut.flatMap fun
      | .text chars => chars
      | .reference inner => fill ⟨String.ofList inner⟩ := by
  induction cut with
  | nil => rfl
  | cons piece cut ih =>
    rw [List.flatMap_cons, List.flatMap_cons, Sign.fillAll_append, ih]
    cases piece with
    | text chars => rw [Piece.signs, Sign.fillAll_map_char]
    | reference inner => simp [Piece.signs, Sign.filled]

theorem toList_substitute (replace : Token → String) (template : String) :
    (substitute replace template).toList =
      Sign.fillAll (fun token => (replace token).toList) (signs template) := by
  rw [substitute, String.toList_ofList]
  exact (fillAll_flatMap_signs (fun token => (replace token).toList) (pieces template)).symm

/-- A template is the row of its signs. -/
theorem fillAll_raw (template : String) :
    Sign.fillAll (fun token => token.raw.toList) (signs template) = template.toList := by
  have hcut : ∀ {text cut}, Cut text cut →
      Sign.fillAll (fun token => token.raw.toList) (cut.flatMap Piece.signs) = text := by
    intro text cut h
    rw [fillAll_flatMap_signs]
    induction h with
    | plain => simp
    | reference hfirst _ ih =>
      rw [List.flatMap_cons, List.flatMap_cons, ih, hfirst.spelled]
      simp
  exact hcut (cut_pieces template)

/-- What stands in the places of references in a scope, where they lead somewhere. -/
def Scope.fill (scope : Scope) (token : Token) : List Char :=
  match resolvePath scope token.path with
  | .ok value => (valueText value).toList
  | .error _ => []

theorem flatten_of_mapM {scope : Scope} {cut : List Piece} {parts : List (List Char)}
    (h : cut.mapM (Piece.part scope) = .ok parts) :
    parts.flatten = Sign.fillAll scope.fill (cut.flatMap Piece.signs) := by
  rw [fillAll_flatMap_signs]
  rw [mapM_eq_ok_iff] at h
  induction h with
  | nil => rfl
  | cons hpiece _ ih =>
    rw [List.flatten_cons, List.flatMap_cons, ih]
    congr 1
    next piece part _ _ _ =>
    cases piece with
    | text chars => exact (Except.ok.inj hpiece).symm
    | reference inner =>
      rw [Piece.part] at hpiece
      obtain ⟨value, hvalue, rfl⟩ := map_eq_ok hpiece
      simp only [Scope.fill, hvalue]

/-- A template that is resolved has the values of its references in their places. -/
theorem toList_of_resolveString {scope : Scope} {template text : String}
    (h : resolveString scope template = .ok text) :
    text.toList = Sign.fillAll scope.fill (signs template) := by
  rw [resolveString_eq_mapM] at h
  obtain ⟨parts, hparts, rfl⟩ := map_eq_ok h
  rw [String.toList_ofList, flatten_of_mapM hparts, signs]

theorem tokens_eq_filterMap_signs (template : String) :
    tokens template = (signs template).filterMap Sign.token? := by
  rw [tokens, signs]
  induction pieces template with
  | nil => rfl
  | cons piece cut ih =>
    rw [List.flatMap_cons, List.filterMap_append, ← ih]
    cases piece with
    | text chars =>
      rw [List.filterMap_cons_none rfl, Piece.signs, Sign.filterMap_map_char, List.nil_append]
    | reference inner => rfl

/-- Without references the signs are the characters. -/
theorem signs_of_tokens {template : String} (h : tokens template = []) :
    signs template = template.toList.map .char := by
  obtain ⟨cs, hsigns⟩ := Sign.exists_map_char (tokens_eq_filterMap_signs template ▸ h)
  have hraw := fillAll_raw template
  rw [hsigns, Sign.fillAll_map_char] at hraw
  rw [hsigns, hraw]

/-! ## Blanks at the ends -/

/-- A character that is no part of the signs that begin and end references. -/
def IsLoose (c : Char) : Prop := c ≠ '$' ∧ c ≠ '\x7b' ∧ c ≠ closing

theorem isLoose_of_isBlank {c : Char} (h : isBlank c = true) : IsLoose c := by
  refine ⟨?_, ?_, ?_⟩ <;> rintro rfl <;> exact absurd h (by decide)

theorem scan_nil (before : List Char) (inside : Option (List Char)) :
    scan before inside [] = [.text (before.reverse ++ begun inside)] := by
  cases inside <;> rfl

/-- What has been read as plain text stays in front. -/
theorem signs_scan (before more : List Char) (inside : Option (List Char)) (text : List Char) :
    (scan (before ++ more) inside text).flatMap Piece.signs =
      more.reverse.map .char ++ (scan before inside text).flatMap Piece.signs := by
  fun_induction scan before inside text with
  | case1 before inside rest =>
    have hrest : rest = begun inside := by cases inside <;> rfl
    rw [scan_nil, hrest]
    simp [Piece.signs]
  | case2 before rest inner ih =>
    rw [scan, if_pos rfl]
    simp [Piece.signs]
  | case3 before c rest inner hne ih => rw [scan, if_neg hne, ih]
  | case4 before rest ih => rw [scan, ih]
  | case5 before c rest hother ih =>
    rw [scan, ← List.cons_append, ih]
    exact hother

/-- Nothing begins or ends a reference in a loose text. -/
theorem scan_loose {loose : List Char} (h : ∀ c ∈ loose, IsLoose c) (before : List Char)
    (inside : Option (List Char)) :
    scan before inside loose = [.text (before.reverse ++ (begun inside ++ loose))] := by
  induction loose generalizing before inside with
  | nil => rw [scan_nil, List.append_nil]
  | cons c loose ih =>
    obtain ⟨⟨hopens, -, hcloses⟩, hloose⟩ := List.forall_mem_cons.mp h
    cases inside with
    | some inner =>
      rw [scan, if_neg hcloses, ih hloose]
      simp [begun]
    | none =>
      rw [scan, ih hloose]
      · simp [begun]
      · exact fun _ hopening _ => hopens hopening

/-- So does what is loose and comes behind. -/
theorem signs_scan_append {loose : List Char} (h : ∀ c ∈ loose, IsLoose c) (before : List Char)
    (inside : Option (List Char)) (text : List Char) :
    (scan before inside (text ++ loose)).flatMap Piece.signs =
      (scan before inside text).flatMap Piece.signs ++ loose.map .char := by
  fun_induction scan before inside text with
  | case1 before inside rest =>
    have hrest : rest = begun inside := by cases inside <;> rfl
    rw [List.nil_append, scan_loose h, hrest]
    simp [Piece.signs]
  | case2 before rest inner ih =>
    rw [List.cons_append, scan, if_pos rfl, List.flatMap_cons, List.flatMap_cons, ih]
    simp
  | case3 before c rest inner hne ih => rw [List.cons_append, scan, if_neg hne, ih]
  | case4 before rest ih => rw [List.cons_append, List.cons_append, scan, ih]
  | case5 before c rest hother ih =>
    rw [List.cons_append, scan, ih]
    rintro behind hopening hbrace
    cases rest with
    | nil =>
      have hloose : IsLoose '\x7b' := h '\x7b' (by simp [show loose = '\x7b' :: behind from hbrace])
      exact hloose.2.1 rfl
    | cons d rest =>
      obtain ⟨rfl, -⟩ := List.cons.inj hbrace
      exact hother rest hopening rfl

/-- The signs of a template with blanks around it. -/
theorem signs_blanks {before core behind : List Char} (hbefore : ∀ c ∈ before, isBlank c = true)
    (hbehind : ∀ c ∈ behind, isBlank c = true) :
    signs (String.ofList (before ++ core ++ behind)) =
      before.map .char ++ signs (String.ofList core) ++ behind.map .char := by
  have hfront : ∀ read : List Char, scan read none (before ++ core) =
      scan (before.reverse ++ read) none core := by
    intro read
    induction before generalizing read with
    | nil => rfl
    | cons b before ih =>
      obtain ⟨hb, hrest⟩ := List.forall_mem_cons.mp hbefore
      rw [List.cons_append, scan, ih hrest]
      · simp
      · exact fun _ hopening _ => (isLoose_of_isBlank hb).1 hopening
  rw [signs, pieces, String.toList_ofList,
    signs_scan_append fun c hc => isLoose_of_isBlank (hbehind c hc), hfront, List.append_nil,
    ← List.nil_append before.reverse, signs_scan, List.reverse_reverse, signs, pieces,
    String.toList_ofList]

/-- A text with the blanks at its ends. -/
theorem exists_blanks (cs : List Char) : ∃ before behind, cs = before ++ trimChars cs ++ behind ∧
    (∀ c ∈ before, isBlank c = true) ∧ ∀ c ∈ behind, isBlank c = true := by
  refine ⟨cs.takeWhile isBlank, ((cs.dropWhile isBlank).reverse.takeWhile isBlank).reverse, ?_,
    fun c hc => List.mem_takeWhile_imp hc,
    fun c hc => List.mem_takeWhile_imp (List.mem_reverse.mp hc)⟩
  have hbehind : trimChars cs ++ ((cs.dropWhile isBlank).reverse.takeWhile isBlank).reverse =
      cs.dropWhile isBlank := by
    rw [trimChars, ← List.reverse_append, List.takeWhile_append_dropWhile, List.reverse_reverse]
  rw [List.append_assoc, hbehind, List.takeWhile_append_dropWhile]

theorem tokens_trim (template : String) : tokens (Unicode.trim template) = tokens template := by
  obtain ⟨before, behind, heq, hbefore, hbehind⟩ := exists_blanks template.toList
  have htemplate : String.ofList (before ++ trimChars template.toList ++ behind) = template := by
    rw [← heq, String.ofList_toList]
  rw [tokens_eq_filterMap_signs, tokens_eq_filterMap_signs, ← htemplate,
    signs_blanks hbefore hbehind, htemplate, List.filterMap_append, List.filterMap_append,
    Sign.filterMap_map_char, Sign.filterMap_map_char, List.nil_append, List.append_nil,
    Unicode.trim]

/-- What is resolved is what is resolved of the template without the blanks at
its ends, with these. -/
theorem exists_blanks_of_resolveString {scope : Scope} {template text : String}
    (h : resolveString scope template = .ok text) : ∃ before behind,
      text.toList = before ++ Sign.fillAll scope.fill (signs (Unicode.trim template)) ++ behind ∧
        template.toList = before ++ (Unicode.trim template).toList ++ behind ∧
        (∀ c ∈ before, isBlank c = true) ∧ ∀ c ∈ behind, isBlank c = true := by
  obtain ⟨before, behind, heq, hbefore, hbehind⟩ := exists_blanks template.toList
  have hsigns : signs template =
      before.map .char ++ signs (Unicode.trim template) ++ behind.map .char := by
    have htemplate := congrArg String.ofList heq
    rw [String.ofList_toList] at htemplate
    rw [Unicode.trim, ← signs_blanks hbefore hbehind, ← htemplate]
  refine ⟨before, behind, ?_, ?_, hbefore, hbehind⟩
  · rw [toList_of_resolveString h, hsigns]
    simp
  · rw [Unicode.trim, String.toList_ofList, ← heq]

/-! ## Masks -/

/-- A word that is no pattern stands for every reference as it is. -/
theorem mask_placeholder (template : String) :
    mask template "placeholder" = substitute (fun _ => "placeholder") template := by
  have hparts : StandIn.read ("placeholder".length + 1) "placeholder".toList =
      "placeholder".toList.map fun c => .text [c] := by decide
  rw [mask, hparts]
  rfl

end Workflow.Template
