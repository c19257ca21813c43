import Mathlib.Data.List.Basic
import Workflow.Definition.Write
import Workflow.Proofs.Document.Views
import Workflow.Proofs.Graph.Plan

/-!
# Steps in the documents of definitions

A definition that is written as a document shows its steps there: whatever ids and dependencies a
list of steps has, some document has them.
-/

namespace Workflow

namespace Entries

variable {α : Type}

theorem get?_append (a b : Entries α) (key : String) :
    get? (a ++ b) key = (get? a key).or (get? b key) := by
  induction a with
  | nil => rfl
  | cons pair rest ih =>
    obtain ⟨k, v⟩ := pair
    by_cases h : k = key <;> simp [get?, h, ih]

end Entries

namespace Encode

theorem get?_field (name key : String) (value : Json) :
    Entries.get? (field name value) key = if name = key then some value else none := rfl

theorem get?_optional (name key : String) (value : Option Json) :
    Entries.get? (optional name value) key = if name = key then value else none := by
  cases value with
  | none => simp [optional]
  | some value => rfl

theorem get?_text (name key : String) (value : Option String) :
    Entries.get? (text name value) key = if name = key then value.map Json.str else none :=
  get?_optional name key _

theorem get?_list (name key : String) (items : List Json) :
    Entries.get? (list name items) key =
      if name = key ∧ items ≠ [] then some (.arr items) else none := by
  cases items with
  | nil => simp [list]
  | cons item rest => simp [list, Entries.get?]

theorem get?_entries_of_ne {name key : String} (h : name ≠ key) (fields : Entries Json) :
    Entries.get? (entries name fields) key = none := by
  cases fields with
  | nil => rfl
  | cons pair rest => exact if_neg h

end Encode

namespace Validation

/-- A document lists steps: its views have their ids and dependencies, in order. -/
def Lists (document : Json) (steps : List Step) : Prop :=
  (stepViews document).map Graph.nodeOf = steps.map Graph.nodeOf

theorem exists_view_of_toJson (step : Step) (index : Nat) :
    ∃ view, StepView.ofJson? index step.toJson = some view ∧
      Graph.nodeOf view = Graph.nodeOf step := by
  obtain ⟨fields, hfields⟩ : ∃ fields : Entries Json, step.toJson = .obj fields := ⟨_, rfl⟩
  have hget : ∀ key, fields.get? key = (Json.fields? step.toJson).bind (Entries.get? · key) := by
    intro key
    rw [hfields]
    rfl
  have hid : fields.get? "id" = some (.str step.id) := hget "id"
  have htype : fields.get? "type" = some (.str step.type.name) := hget "type"
  have hdepends : ((fields.get? "depends_on").bind Json.items?).getD [] =
      step.dependsOn.map Json.str := by
    rw [hget, Step.toJson, Json.fields?, Option.bind_some]
    simp only [Entries.get?_append, Encode.get?_field, Encode.get?_text, Encode.get?_list,
      Encode.get?_optional, Encode.get?_entries_of_ne, ne_eq, String.reduceEq, not_false_eq_true,
      if_false, Option.none_or, Option.or_none, true_and]
    cases step.dependsOn <;> simp [Json.items?]
  rw [hfields]
  refine ⟨_, StepView.ofJson?_eq_some index hid htype, ?_⟩
  rw [Graph.nodeOf, Graph.nodeOf, Node.mk.injEq]
  refine ⟨rfl, ?_⟩
  show List.filterMap Json.string? _ = step.dependsOn
  rw [hdepends, List.filterMap_map]
  exact List.filterMap_some

/-- The document of a definition lists its steps. -/
theorem lists_toJson (d : Definition) : Lists d.toJson d.steps := by
  have hviews : ∀ (steps : List Step) (start : Nat),
      ((steps.map Step.toJson).zipIdx start |>.filterMap
        fun pair => StepView.ofJson? pair.2 pair.1).map Graph.nodeOf = steps.map Graph.nodeOf := by
    intro steps
    induction steps with
    | nil => exact fun _ => rfl
    | cons step rest ih =>
      intro start
      obtain ⟨view, hview, hnode⟩ := exists_view_of_toJson step start
      rw [List.map_cons, List.zipIdx_cons, List.filterMap_cons]
      simp only [hview]
      rw [List.map_cons, List.map_cons, hnode, ih]
  exact hviews d.steps 0

end Validation

end Workflow
