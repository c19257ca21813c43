import Mathlib.Data.Set.List
import Workflow.Validation.Schema

/-!
# What the form of a document guarantees

No rule is broken exactly if every part has its type and keeps its limits. Of a document without
broken rules this gives, for each step, what the later checks and the conversion rely on.
-/

namespace Workflow.Validation.Schema

variable {path key : String} {json : Json} {fields : Entries Json} {check : Json → List Breach}

/-! ## Rules that are kept -/

@[simp] theorem require_eq_nil_iff {condition : Bool} {violation : Violation} :
    require condition path violation = [] ↔ condition = true := by
  cases condition <;> simp [require, breach]

theorem object_eq_nil_iff {check : Entries Json → List Breach} :
    object path check json = [] ↔ ∃ fields, json = .obj fields ∧ check fields = [] := by
  cases json <;> simp [object, breach]

theorem string_eq_nil_iff {check : String → List Breach} :
    string path check json = [] ↔ ∃ s, json = .str s ∧ check s = [] := by
  cases json <;> simp [string, breach]

theorem array_eq_nil_iff {check : List Json → List Breach} :
    array path check json = [] ↔ ∃ items, json = .arr items ∧ check items = [] := by
  cases json <;> simp [array, breach]

theorem mandatory_eq_nil_iff :
    mandatory fields path key check = [] ↔
      ∃ value, fields.get? key = some value ∧ check value = [] := by
  unfold mandatory
  cases fields.get? key <;> simp [breach]

theorem optional_eq_nil_iff :
    optional fields key check = [] ↔ ∀ value, fields.get? key = some value → check value = [] := by
  unfold optional
  cases fields.get? key <;> simp

theorem each_eq_nil_iff {items : List Json} {check : Nat → Json → List Breach} :
    each items check = [] ↔ ∀ i item, items[i]? = some item → check i item = [] := by
  simp only [each, List.flatMap_eq_nil_iff, Prod.forall, List.mem_zipIdx_iff_getElem?]
  exact ⟨fun h i item hitem => h item i hitem, fun h item i hitem => h i item hitem⟩

theorem oneOf_eq_nil_iff {s : String} {allowed : List String} :
    oneOf path allowed s = [] ↔ s ∈ allowed := by
  simp [oneOf]

/-- A text that has to name one of several things names one. -/
theorem exists_name_of_string {α : Type} {name : α → String} {all : List α}
    (h : string path (oneOf path (all.map name)) json = []) : ∃ a ∈ all, json = .str (name a) := by
  obtain ⟨s, rfl, hs⟩ := string_eq_nil_iff.mp h
  obtain ⟨a, ha, rfl⟩ := List.mem_map.mp (oneOf_eq_nil_iff.mp hs)
  exact ⟨a, ha, rfl⟩

/-- An array of texts, whatever they are. -/
theorem exists_texts_of_array {name : Nat → String}
    (h : array path (fun items => each items fun j => anyString (name j)) json = []) :
    ∃ texts : List String, json = .arr (texts.map .str) := by
  obtain ⟨items, rfl, hitems⟩ := array_eq_nil_iff.mp h
  have htexts : items ∈ Set.range (List.map Json.str) := by
    rw [Set.range_list_map]
    intro item hitem
    obtain ⟨j, hj⟩ := List.mem_iff_getElem?.mp hitem
    obtain ⟨s, heq, -⟩ := string_eq_nil_iff.mp (each_eq_nil_iff.mp hitems j item hj)
    exact ⟨s, heq.symm⟩
  obtain ⟨texts, rfl⟩ := htexts
  exact ⟨texts, rfl⟩

/-! ## Steps in form -/

structure HandlingForm (fields : Entries Json) : Prop where
  onError : ∀ value, fields.get? "on_error" = some value → ∃ policy :
    OnError, value = .str policy.name
  retryCount : ∀ value, fields.get? "retry_count" = some value →
    ∃ count ≤ 10, value.natural? = some count
  fallbackStep : ∀ value, fields.get? "fallback_step" = some value → ∃ target, value = .str target

structure StepForm (fields : Entries Json) : Prop where
  id : ∃ id, fields.get? "id" = some (.str id)
  type : ∃ type : StepType, fields.get? "type" = some (.str type.name)
  dependsOn : ∀ value, fields.get? "depends_on" = some value → ∃ ids :
    List String, value = .arr (ids.map .str)
  config : ∀ value, fields.get? "config" = some value → ∃ config, value = .obj config
  errorHandling : ∀ value, fields.get? "error_handling" = some value →
    ∃ handling, value = .obj handling ∧ HandlingForm handling

structure StepsForm (document : Json) (items : List Json) : Prop where
  place : ∃ top graph : Entries Json, document = .obj top ∧
    top.get? "workflow" = some (.obj graph) ∧ graph.get? "steps" = some (.arr items)
  each : ∀ item ∈ items, ∃ fields, item = .obj fields ∧ StepForm fields

theorem handlingForm (h : errorHandling path json = []) :
    ∃ fields, json = .obj fields ∧ HandlingForm fields := by
  obtain ⟨fields, rfl, hfields⟩ := object_eq_nil_iff.mp h
  simp only [List.append_eq_nil_iff, optional_eq_nil_iff] at hfields
  obtain ⟨⟨honError, hretry⟩, hfallback⟩ := hfields
  refine ⟨fields, rfl, fun value hvalue => ?_, fun value hvalue => ?_, fun value hvalue => ?_⟩
  · obtain ⟨policy, -, heq⟩ := exists_name_of_string (honError value hvalue)
    exact ⟨policy, heq⟩
  · have hcount := hretry value hvalue
    cases hnatural : value.natural? with
    | none => simp [hnatural, breach] at hcount
    | some count => exact ⟨count, by simpa [hnatural] using hcount, rfl⟩
  · obtain ⟨target, heq, -⟩ := string_eq_nil_iff.mp (hfallback value hvalue)
    exact ⟨target, heq⟩

theorem stepForm (h : step path json = []) : ∃ fields, json = .obj fields ∧ StepForm fields := by
  obtain ⟨fields, rfl, hfields⟩ := object_eq_nil_iff.mp h
  simp only [List.append_eq_nil_iff, optional_eq_nil_iff, mandatory_eq_nil_iff] at hfields
  obtain ⟨⟨⟨⟨⟨⟨⟨hid, htype⟩, -⟩, -⟩, hdepends⟩, hconfig⟩, -⟩, hhandling⟩ := hfields
  refine ⟨fields, rfl, ?_, ?_, fun value hvalue => ?_, fun value hvalue => ?_,
    fun value hvalue => ?_⟩
  · obtain ⟨value, hvalue, hid⟩ := hid
    obtain ⟨id, rfl, -⟩ := string_eq_nil_iff.mp hid
    exact ⟨id, hvalue⟩
  · obtain ⟨value, hvalue, htype⟩ := htype
    obtain ⟨type, -, rfl⟩ := exists_name_of_string htype
    exact ⟨type, hvalue⟩
  · exact exists_texts_of_array (hdepends value hvalue)
  · obtain ⟨config, heq, -⟩ := object_eq_nil_iff.mp (hconfig value hvalue)
    exact ⟨config, heq⟩
  · exact handlingForm (hhandling value hvalue)

/-- A document without broken rules lists its steps in its section for them, each of them in form.
-/
theorem stepsForm {document : Json} (h : Schema.document document = []) :
    ∃ items, StepsForm document items := by
  obtain ⟨top, rfl, htop⟩ := object_eq_nil_iff.mp h
  simp only [List.append_eq_nil_iff, mandatory_eq_nil_iff] at htop
  obtain ⟨⟨-, body, hbody, hgraph⟩, -⟩ := htop
  obtain ⟨graph, rfl, hgraph⟩ := object_eq_nil_iff.mp hgraph
  obtain ⟨list, hlist, hsteps⟩ := mandatory_eq_nil_iff.mp hgraph
  obtain ⟨items, rfl, hitems⟩ := array_eq_nil_iff.mp hsteps
  refine ⟨items, ⟨top, graph, rfl, hbody, hlist⟩, fun item hitem => ?_⟩
  obtain ⟨i, hi⟩ := List.mem_iff_getElem?.mp hitem
  exact stepForm (each_eq_nil_iff.mp (List.append_eq_nil_iff.mp hitems).2 i item hi)

structure SectionsForm (document : Json) (top declared resolved : Entries Json) : Prop where
  document : document = .obj top
  inputs : top.get? "inputs" = some (.obj declared)
  outputs : top.get? "outputs" = some (.obj resolved)
  each : ∀ name spec, (name, spec) ∈ resolved → ∃ fields, spec = .obj fields

theorem sectionsForm {document : Json} (h : Schema.document document = []) :
    ∃ top declared resolved, SectionsForm document top declared resolved := by
  obtain ⟨top, rfl, htop⟩ := object_eq_nil_iff.mp h
  simp only [List.append_eq_nil_iff, mandatory_eq_nil_iff] at htop
  obtain ⟨⟨⟨-, first, hinputs, hdeclared⟩, -⟩, second, houtputs, hresolved⟩ := htop
  obtain ⟨declared, rfl, -⟩ := object_eq_nil_iff.mp hdeclared
  obtain ⟨resolved, rfl, hspecs⟩ := object_eq_nil_iff.mp hresolved
  refine ⟨top, declared, resolved, rfl, hinputs, houtputs, fun name spec hspec => ?_⟩
  have hform := List.append_eq_nil_iff.mp (List.flatMap_eq_nil_iff.mp hspecs (name, spec) hspec)
  obtain ⟨fields, heq, -⟩ := object_eq_nil_iff.mp hform.2
  exact ⟨fields, heq⟩

end Workflow.Validation.Schema
