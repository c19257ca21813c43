import Workflow.Proofs.Condition.Access

/-!
# References in conditions

A path is the same however many blanks stand around its parts, so a reference in a condition becomes
a name with the properties and the indexes that its path consists of.
-/

namespace Workflow

/-! ## Blanks -/

namespace Unicode

theorem trimChars_cons {b : Char} (hb : isBlank b = true) (cs : List Char) :
    trimChars (b :: cs) = trimChars cs := by
  rw [trimChars, List.dropWhile_cons_of_pos hb, ← trimChars]

theorem trimChars_append {b : Char} (hb : isBlank b = true) (cs : List Char) :
    trimChars (cs ++ [b]) = trimChars cs := by
  induction cs with
  | nil => exact trimChars_cons hb []
  | cons c rest ih =>
    by_cases hc : isBlank c = true
    · rw [List.cons_append, trimChars_cons hc, trimChars_cons hc, ih]
    · simp [trimChars, hc, hb]

theorem mem_dropWhile {c : Char} {cs : List Char} (h : c ∈ cs) :
    isBlank c = true ∨ c ∈ cs.dropWhile isBlank := by
  rw [← List.takeWhile_append_dropWhile (p := isBlank) (l := cs), List.mem_append] at h
  exact h.imp_left fun hmem => List.mem_takeWhile_imp hmem

/-- Only blanks are dropped. -/
theorem mem_trimChars {c : Char} {cs : List Char} (h : c ∈ cs) :
    isBlank c = true ∨ c ∈ trimChars cs := by
  rcases mem_dropWhile h with hblank | hmem
  · exact Or.inl hblank
  · rcases mem_dropWhile (List.mem_reverse.mpr hmem) with hblank | hmem
    · exact Or.inl hblank
    · exact Or.inr (List.mem_reverse.mpr hmem)

end Unicode

namespace Template

open Unicode (isBlank trimChars trimChars_cons trimChars_append mem_trimChars)

/-! ## Parts of paths -/

def segments (cs : List Char) : List (List Char) := (cs.splitOn '.').map trimChars

theorem ne_point_of_isBlank {b : Char} (hb : isBlank b = true) : b ≠ '.' := by
  rintro rfl
  exact absurd hb (by decide)

theorem segments_cons {b : Char} (hb : isBlank b = true) (cs : List Char) :
    segments (b :: cs) = segments cs := by
  obtain ⟨head, tail, heq⟩ := List.exists_cons_of_ne_nil (List.splitOn_ne_nil '.' cs)
  have hne : ¬ (b == '.') = true := by simpa using ne_point_of_isBlank hb
  rw [segments, segments, List.splitOn_cons_eq_if_modifyHead, if_neg hne, heq, List.modifyHead_cons,
    List.map_cons, List.map_cons, trimChars_cons hb]

/-- What comes behind a text belongs to its last part. -/
theorem splitOn_append {b : Char} (hb : b ≠ '.') (cs : List Char) :
    ∃ init last, cs.splitOn '.' = init ++ [last] ∧
    (cs ++ [b]).splitOn '.' = init ++ [last ++ [b]] := by
  induction cs with
  | nil => exact ⟨[], [], rfl, List.splitOn_eq_singleton (by simpa using hb.symm)⟩
  | cons c rest ih =>
    obtain ⟨init, last, hrest, happend⟩ := ih
    rw [List.cons_append, List.splitOn_cons_eq_if_modifyHead,
      List.splitOn_cons_eq_if_modifyHead, hrest, happend]
    split
    · exact ⟨[] :: init, last, rfl, rfl⟩
    · cases init with
      | nil => exact ⟨[], c :: last, rfl, rfl⟩
      | cons head init => exact ⟨(c :: head) :: init, last, rfl, rfl⟩

theorem segments_append {b : Char} (hb : isBlank b = true) (cs : List Char) :
    segments (cs ++ [b]) = segments cs := by
  obtain ⟨init, last, hcs, happend⟩ := splitOn_append (ne_point_of_isBlank hb) cs
  rw [segments, segments, hcs, happend, List.map_append, List.map_append, List.map_singleton,
    List.map_singleton, trimChars_append hb]

theorem segments_dropWhile (cs : List Char) : segments (cs.dropWhile isBlank) = segments cs := by
  induction cs with
  | nil => rfl
  | cons c rest ih =>
    by_cases hc : isBlank c = true
    · rw [List.dropWhile_cons_of_pos hc, ih, segments_cons hc]
    · rw [List.dropWhile_cons_of_neg hc]

theorem segments_reverse_dropWhile (cs : List Char) :
    segments (cs.dropWhile isBlank).reverse = segments cs.reverse := by
  induction cs with
  | nil => rfl
  | cons c rest ih =>
    by_cases hc : isBlank c = true
    · rw [List.dropWhile_cons_of_pos hc, ih, List.reverse_cons, segments_append hc]
    · rw [List.dropWhile_cons_of_neg hc]

/-- Blanks around a path do not count. -/
theorem segments_trimChars (cs : List Char) : segments (trimChars cs) = segments cs := by
  rw [trimChars, segments_reverse_dropWhile, List.reverse_reverse, segments_dropWhile]

theorem mem_splitOn {c : Char} {cs : List Char} (h : c ∈ cs) :
    c = '.' ∨ ∃ part ∈ cs.splitOn '.', c ∈ part := by
  induction cs with
  | nil => cases h
  | cons d rest ih =>
    obtain ⟨head, tail, heq⟩ := List.exists_cons_of_ne_nil (List.splitOn_ne_nil '.' rest)
    rw [heq] at ih
    rw [List.splitOn_cons_eq_if_modifyHead, heq, List.modifyHead_cons]
    rcases List.mem_cons.mp h with rfl | hmem
    · split
      · next hpoint => exact Or.inl (eq_of_beq hpoint)
      · exact Or.inr ⟨c :: head, List.mem_cons_self, List.mem_cons_self⟩
    · refine (ih hmem).imp_right fun ⟨part, hpart, hc⟩ => ?_
      split
      · exact ⟨part, List.mem_cons_of_mem _ hpart, hc⟩
      · rcases List.mem_cons.mp hpart with rfl | htail
        · exact ⟨d :: part, List.mem_cons_self, List.mem_cons_of_mem _ hc⟩
        · exact ⟨part, List.mem_cons_of_mem _ htail, hc⟩

/-- The parts of a text consist of its characters. -/
theorem mem_of_mem_splitOn {c b : Char} {cs part : List Char} (hpart : part ∈ cs.splitOn b)
    (hc : c ∈ part) : c ∈ cs := by
  induction cs generalizing part with
  | nil =>
    rw [List.splitOn_nil, List.mem_singleton] at hpart
    rwa [hpart] at hc
  | cons d rest ih =>
    obtain ⟨head, tail, heq⟩ := List.exists_cons_of_ne_nil (List.splitOn_ne_nil b rest)
    rw [heq] at ih
    rw [List.splitOn_cons_eq_if_modifyHead, heq, List.modifyHead_cons] at hpart
    split at hpart
    · rcases List.mem_cons.mp hpart with rfl | hpart
      · cases hc
      · exact List.mem_cons_of_mem _ (ih hpart hc)
    · rcases List.mem_cons.mp hpart with rfl | hpart
      · rcases List.mem_cons.mp hc with rfl | hc
        · exact List.mem_cons_self
        · exact List.mem_cons_of_mem _ (ih List.mem_cons_self hc)
      · exact List.mem_cons_of_mem _ (ih (List.mem_cons_of_mem _ hpart) hc)

/-- Between the points of a path there are only its parts. -/
theorem mem_segments {c : Char} {cs : List Char} (h : c ∈ cs) :
    c = '.' ∨ isBlank c = true ∨ ∃ segment ∈ segments cs, c ∈ segment := by
  rcases mem_splitOn h with hpoint | ⟨segment, hsegment, hc⟩
  · exact Or.inl hpoint
  · rcases mem_trimChars hc with hblank | hmem
    · exact Or.inr (Or.inl hblank)
    · exact Or.inr (Or.inr ⟨_, List.mem_map_of_mem hsegment, hmem⟩)

/-- A part behind the first. -/
def IsPart (s : String) : Prop := isName s = true ∨ isIndex s = true

theorem path?_eq_some {path head : String} {rest : List String}
    (h : path? path = some (head, rest)) :
    segments path.toList = head.toList :: rest.map String.toList ∧ isName head = true ∧
      ∀ part ∈ rest, IsPart part := by
  unfold path? at h
  split at h
  · next first others hparts =>
    split at h
    · next hvalid =>
      cases h
      obtain ⟨hhead, hrest⟩ := Bool.and_eq_true_iff.mp hvalid
      have hsegments := congrArg (List.map String.toList) hparts
      refine ⟨?_, hhead, fun part hpart => ?_⟩
      · simpa [segments, dotted, Unicode.trim, Function.comp_def] using hsegments
      · exact Bool.or_eq_true_iff.mp (List.all_eq_true.mp hrest part hpart)
    · cases h
  · cases h

/-! ## Bare paths -/

open Condition (Access exists_of_isName digits_of_isIndex isDigit_of_isNameStart)

/-- The step to a part behind the first. -/
def access (part : String) : Access := if isIndex part then .item part else .property part

theorem isIndex_of_isName {name : String} (h : isName name = true) : isIndex name = false := by
  obtain ⟨c, cs, heq, hstart, -⟩ := exists_of_isName h
  rw [isIndex, heq, List.all_cons, isDigit_of_isNameStart hstart, Bool.false_and, Bool.and_false]

/-- A part is written as the step to it. -/
theorem text_access {part : String} (h : IsPart part) :
    (access part).text =
      if part.toList.all Char.isDigit then '[' :: part.toList ++ [']'] else '.' :: part.toList := by
  rcases h with hname | hindex
  · obtain ⟨c, cs, heq, hstart, -⟩ := exists_of_isName hname
    rw [access, isIndex_of_isName hname, if_neg Bool.false_ne_true, if_neg]
    · rfl
    · simp [heq, isDigit_of_isNameStart hstart]
  · rw [access, if_pos hindex, if_pos (List.all_eq_true.mpr (digits_of_isIndex hindex).2)]
    rfl

theorem flatten_parts {rest : List String} (h : ∀ part ∈ rest, IsPart part) (i : Nat) :
    (((rest.map String.toList).zipIdx (i + 1)).map fun (segment, i) =>
      if i = 0 then segment
      else if segment.all Char.isDigit then '[' :: segment ++ [']']
      else '.' :: segment).flatten = (rest.map access).flatMap Access.text := by
  induction rest generalizing i with
  | nil => rfl
  | cons part rest ih =>
    rw [List.map_cons, List.zipIdx_cons, List.map_cons, List.flatten_cons, List.map_cons,
      List.flatMap_cons, ih (fun part hpart => h part (List.mem_cons_of_mem _ hpart)),
      text_access (h part List.mem_cons_self)]
    rfl

/-- A path is written as its name and the steps to the parts behind it. -/
theorem barePath_eq {path head : String} {rest : List String}
    (hpath : segments path.toList = head.toList :: rest.map String.toList)
    (h : ∀ part ∈ rest, IsPart part) :
    barePath path = String.ofList (head.toList ++ (rest.map access).flatMap Access.text) := by
  rw [segments] at hpath
  rw [barePath, hpath, List.zipIdx_cons, List.map_cons, List.flatten_cons, flatten_parts h 0]
  rfl

/-! ## A reference by itself -/

/-- What stands between braces is a reference, up to the first that closes. -/
theorem scan_inside {inner rest before : List Char} (h : closing ∉ inner) (read : List Char) :
    scan before (some read) (inner ++ closing :: rest) =
      .text before.reverse :: .reference (read.reverse ++ inner) :: scan [] none rest := by
  induction inner generalizing read with
  | nil => simp [scan]
  | cons c inner ih =>
    rw [List.mem_cons, not_or] at h
    rw [List.cons_append, scan]
    simp [Ne.symm h.1, ih h.2]

theorem pieces_raw {inner : String} (h : closing ∉ inner.toList) :
    pieces (Token.raw ⟨inner⟩) = [.text [], .reference inner.toList, .text []] := by
  have hraw : (Token.raw ⟨inner⟩).toList = '$' :: '\x7b' :: (inner.toList ++ closing :: []) := by
    simp [Token.raw, closing]
  rw [pieces, hraw, scan]
  exact scan_inside h []

theorem IsPart.closing_notMem {part : String} (h : IsPart part) : closing ∉ part.toList := by
  intro hmem
  rcases h with hname | hindex
  · obtain ⟨c, cs, heq, hstart, hcs⟩ := exists_of_isName hname
    rw [heq] at hmem
    rcases List.mem_cons.mp hmem with rfl | hmem
    · exact absurd hstart (by decide)
    · exact absurd (hcs _ hmem) (by decide)
  · exact absurd ((digits_of_isIndex hindex).2 _ hmem) (by decide)

theorem closing_notMem {path head : String} {rest : List String}
    (h : path? path = some (head, rest)) :
    closing ∉ path.toList := by
  obtain ⟨hsegments, hhead, hrest⟩ := path?_eq_some h
  intro hmem
  rcases mem_segments hmem with hpoint | hblank | ⟨segment, hsegment, hc⟩
  · exact absurd hpoint (by decide)
  · exact absurd hblank (by decide)
  · rw [hsegments, ← List.map_cons, List.mem_map] at hsegment
    obtain ⟨part, hpart, rfl⟩ := hsegment
    rcases List.mem_cons.mp hpart with rfl | hpart
    · exact IsPart.closing_notMem (Or.inl hhead) hc
    · exact (hrest part hpart).closing_notMem hc

/-- A reference by itself becomes the name and the steps of its path. -/
theorem unwrap_raw {path head : String} {rest : List String} (h : path? path = some (head, rest)) :
    unwrap (Token.raw ⟨path⟩) =
      String.ofList (head.toList ++ (rest.map access).flatMap Access.text) := by
  obtain ⟨hsegments, -, hrest⟩ := path?_eq_some h
  have htrim : segments (Token.path ⟨path⟩).toList = head.toList :: rest.map String.toList := by
    rw [Token.path, Unicode.trim, String.toList_ofList, segments_trimChars, hsegments]
  rw [unwrap, substitute, pieces_raw (closing_notMem h)]
  simp [barePath_eq htrim hrest]

end Template

end Workflow
