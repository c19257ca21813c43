import Workflow.Proofs.Run.Names
import Workflow.Step.Projection

/-!
# Projections and references

A step can name a part of its result by the path to it, and others refer to the same part by the
step's name with that path behind it. The path of a projection is taken as it is written, that of a
reference is cut into parts, which are trimmed and checked first. On paths without blanks that can
be read as references the two lead to the same value, or fail at the same part.
-/

namespace Workflow

/-! ## Paths without blanks -/

section

variable {id path : String}

/-- Behind a name and a point, the parts of a path are its own. -/
theorem dotted_of_isName (hid : Template.isName id = true) (path : String) :
    dotted (id ++ "." ++ path) = id :: dotted path := by
  have hpoint : '.' ∉ id.toList := fun hmem =>
    absurd (Template.isNameChar_of_mem hid hmem) (by decide)
  have htext : (id ++ "." ++ path).toList = id.toList ++ '.' :: path.toList := by simp
  rw [dotted, htext, List.splitOn_append_cons_self_of_not_mem hpoint, List.map_cons,
    String.ofList_toList]
  rfl

/-- Trimming leaves the parts of a path without blanks as they are. -/
theorem map_trim_dotted (hplain : ∀ c ∈ path.toList, Unicode.isBlank c = false) :
    (dotted path).map Unicode.trim = dotted path := by
  have hparts : ∀ part ∈ dotted path, Unicode.trim part = part := by
    intro part hpart
    obtain ⟨chars, hchars, rfl⟩ := List.mem_map.mp hpart
    apply Template.trim_eq_self
    intro c hc
    rw [String.toList_ofList] at hc
    exact hplain c (Template.mem_of_mem_splitOn hchars hc)
  exact (List.map_congr_left hparts).trans (List.map_id' _)

namespace Template

/-- How a path is read behind the name of a step. -/
theorem path?_below (hid : isName id = true) (hplain : ∀ c ∈ path.toList, Unicode.isBlank c = false)
    (hpath : (path? (id ++ "." ++ path)).isSome = true) :
    path? (id ++ "." ++ path) = some (id, dotted path) ∧ ∀ part ∈ dotted path, IsPart part := by
  have hparts : (dotted (id ++ "." ++ path)).map Unicode.trim = id :: dotted path := by
    rw [dotted_of_isName hid, List.map_cons, trim_of_isName hid, map_trim_dotted hplain]
  obtain ⟨⟨head, rest⟩, hread⟩ := Option.isSome_iff_exists.mp hpath
  have hfound : head = id ∧ rest = dotted path := by
    unfold path? at hread
    rw [hparts] at hread
    split at hread
    · next heq =>
      obtain ⟨rfl, rfl⟩ := List.cons.inj heq
      split at hread
      · cases hread
        exact ⟨rfl, rfl⟩
      · cases hread
    · cases hread
  obtain ⟨rfl, rfl⟩ := hfound
  exact ⟨hread, (path?_eq_some hread).2.2⟩

/-- Such a path leads below the name: it is not one that stands for the whole of a result. -/
theorem below_of_isPart (h : ∀ part ∈ dotted path, IsPart part) : path ≠ "" ∧ path ≠ "." := by
  have hempty : ¬ IsPart "" := by
    rintro (hname | hindex)
    · exact absurd hname (by decide)
    · exact absurd hindex (by decide)
  constructor
  · rintro rfl
    exact hempty (h "" (by decide))
  · rintro rfl
    exact hempty (h "" (by decide))

/-- A reference to a part of a step's result follows the path from that result. -/
theorem resolvePath_below {scope : Scope} {raw : Json}
    (hfree : id ∉ Validation.Semantics.reservedIds) (hundeclared : scope.isDeclared id = false)
    (hresult : scope.result? id = some raw)
    (hread : path? (id ++ "." ++ path) = some (id, dotted path)) :
    resolvePath scope (id ++ "." ++ path) =
      match raw.follow (dotted path) with
      | .ok value => .ok value
      | .error segment => .error (.notFound (id ++ "." ++ path) segment) := by
  simp only [Validation.Semantics.reservedIds, List.mem_cons, List.not_mem_nil, or_false,
    not_or] at hfree
  obtain ⟨hsys, hinput, hinputs⟩ := hfree
  have hroot : scope.root (id ++ "." ++ path) id (dotted path) = .ok (raw, dotted path) := by
    simp [Scope.root, hsys, hinput, hinputs, hundeclared, hresult]
  rw [resolvePath, hread]
  simp only [hroot]
  rfl

end Template

end

namespace Projection

variable {scope : Template.Scope} {id path : String} {raw : Json}

/-- A projection of one part is that part under its name. -/
theorem apply_singleton (id name path : String) (raw : Json) :
    apply id [(name, path)] raw = (part id path raw).map fun value => .obj [(name, value)] := by
  rw [apply, parts]
  · cases part id path raw <;> rfl
  · exact List.cons_ne_nil _ _

/-- The part of a result at a path is what a reference with that path leads to. -/
theorem part_eq (hid : Template.isName id = true) (hfree : id ∉ Validation.Semantics.reservedIds)
    (hundeclared : scope.isDeclared id = false) (hresult : scope.result? id = some raw)
    (hplain : ∀ c ∈ path.toList, Unicode.isBlank c = false)
    (hpath : (Template.path? (id ++ "." ++ path)).isSome = true) :
    part id path raw =
      (Template.resolvePath scope (id ++ "." ++ path)).mapError StepFault.ofTemplate := by
  obtain ⟨hread, hparts⟩ := Template.path?_below hid hplain hpath
  obtain ⟨hne, hpoint⟩ := Template.below_of_isPart hparts
  have hreference : s!"{id}.{path}" = id ++ "." ++ path := rfl
  rw [Template.resolvePath_below hfree hundeclared hresult hread, part,
    Template.trim_eq_self hplain]
  simp only [hne, hpoint, decide_false, Bool.or_false, Bool.false_eq_true, if_false, hreference]
  cases raw.follow (dotted path) <;> rfl

/-- A projection of one part of a result and a reference to that part succeed together, with the
same value, and fail together, at the same part of the same path. -/
theorem projection_agrees_with_reference (hid : Template.isName id = true)
    (hfree : id ∉ Validation.Semantics.reservedIds) (hundeclared : scope.isDeclared id = false)
    (hresult : scope.result? id = some raw)
    (hplain : ∀ c ∈ path.toList, Unicode.isBlank c = false)
    (hpath : (Template.path? (id ++ "." ++ path)).isSome = true) (name : String) :
    (∀ value, apply id [(name, path)] raw = .ok (.obj [(name, value)]) ↔
      Template.resolvePath scope (id ++ "." ++ path) = .ok value) ∧
    (∀ reference segment, apply id [(name, path)] raw = .error (.notFound reference segment) ↔
      Template.resolvePath scope (id ++ "." ++ path) = .error (.notFound reference segment)) ∧
    ((∃ value, apply id [(name, path)] raw = .ok (.obj [(name, value)])) ∨
      ∃ segment, apply id [(name, path)] raw = .error (.notFound (id ++ "." ++ path) segment)) := by
  have hpart := part_eq hid hfree hundeclared hresult hplain hpath
  have hread := (Template.path?_below hid hplain hpath).1
  rw [apply_singleton, hpart, Template.resolvePath_below hfree hundeclared hresult hread]
  cases raw.follow (dotted path) with
  | ok value => simp [Except.mapError, Except.map]
  | error segment => simp [Except.mapError, Except.map, StepFault.ofTemplate]

/-- The second item of a list in the result of a step. -/
theorem projection_agrees_with_reference_at_item :
    let scope : Template.Scope :=
      { Template.mirror with
        isDeclared := fun _ => false
        result? := fun _ => some (.obj [("items", .arr [.int 1, .int 2])]) }
    Template.isName "fetch" = true ∧ "fetch" ∉ Validation.Semantics.reservedIds ∧
      scope.isDeclared "fetch" = false ∧
      (∀ c ∈ "items.1".toList, Unicode.isBlank c = false) ∧
      (Template.path? ("fetch" ++ "." ++ "items.1")).isSome = true ∧
      Template.resolvePath scope ("fetch" ++ "." ++ "items.1") = .ok (.int 2) := by
  intro scope
  have hname : Template.isName "fetch" = true := by decide
  have hfree : "fetch" ∉ Validation.Semantics.reservedIds := by decide
  have hplain : ∀ c ∈ "items.1".toList, Unicode.isBlank c = false := by
    have hall : ("items.1".toList.all fun c => !Unicode.isBlank c) = true := by decide
    simpa using hall
  have hpath : (Template.path? ("fetch" ++ "." ++ "items.1")).isSome = true := by decide +kernel
  have hproject : apply "fetch" [("second", "items.1")] (.obj [("items", .arr [.int 1, .int 2])]) =
      .ok (.obj [("second", .int 2)]) := by
    rw [apply_singleton, part]
    rfl
  have hagrees :=
    @projection_agrees_with_reference scope "fetch" "items.1" _ hname hfree rfl rfl hplain hpath
      "second"
  exact ⟨hname, hfree, rfl, hplain, hpath, (hagrees.1 _).mp hproject⟩

end Projection

end Workflow
