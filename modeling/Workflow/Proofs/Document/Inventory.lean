import Workflow.Proofs.Document.Acceptance

/-!
# All steps are seen

The checks on how the parts of a document fit together pass over what they cannot read. If no rule
of form is broken there is nothing of that kind: each item of the list of steps has one view, at the
place of the item, and nothing else would be a view of it.
-/

namespace Workflow

theorem StepType.name_injective : Function.Injective StepType.name := by
  intro type other h
  have hread := congrArg StepType.ofName? h
  rw [StepType.ofName?_name, StepType.ofName?_name] at hread
  exact Option.some.inj hread

namespace Validation

namespace StepView

variable {view other : StepView} {index : Nat} {fields : Entries Json}

theorem Depicts.dependsOn_unique (h : view.Depicts index fields)
    (hother : other.Depicts index fields) :
    view.dependsOn = other.dependsOn := by
  rcases h.dependsOn with ⟨hnone, hnil⟩ | hsome
  · rcases hother.dependsOn with ⟨-, hothers⟩ | hothers
    · rw [hnil, hothers]
    · cases hnone.symm.trans hothers
  · rcases hother.dependsOn with ⟨hnone, -⟩ | hothers
    · cases hnone.symm.trans hsome
    · have htexts := Json.arr.inj (Option.some.inj (hsome.symm.trans hothers))
      exact List.map_injective_iff.mpr (fun _ _ => Json.str.inj) htexts

/-- An object at some place is shown by no more than one view. -/
theorem Depicts.unique (h : view.Depicts index fields) (hother : other.Depicts index fields) :
    view = other := by
  have hid : view.id = other.id := Json.str.inj (Option.some.inj (h.id.symm.trans hother.id))
  have htype : view.type = other.type :=
    StepType.name_injective (Json.str.inj (Option.some.inj (h.type.symm.trans hother.type)))
  have hobject : Function.Injective (Option.map Json.obj) :=
    Option.map_injective fun _ _ => Json.obj.inj
  have hconfig : view.config = other.config := hobject (h.config.symm.trans hother.config)
  have hhandling : view.errorHandling = other.errorHandling :=
    hobject (h.errorHandling.symm.trans hother.errorHandling)
  rw [StepView.mk.injEq]
  exact ⟨h.index.trans hother.index.symm, hid, htype, h.dependsOn_unique hother, hconfig, hhandling⟩

end StepView

section

variable {document : Json} {items : List Json}

/-- The views of the steps of a document in form stand in line with these. -/
theorem forall₂_stepViews (h : Schema.StepsForm document items) :
    List.Forall₂ (fun view pair => ∃ fields, StepView.Depicts view pair.2 fields ∧
      .obj fields = pair.1) (stepViews document) items.zipIdx := by
  rw [stepViews_eq h]
  exact forall₂_depicts (List.forall₂_same.mpr fun _ _ => rfl) h.each 0

end

theorem errors_checkSchema_iff {document : Json} :
    (checkSchema document).errors = [] ↔ Schema.document document = [] := by
  simp [checkSchema]

/-- If a document breaks no rule of form, its views are as many as the items of its list of steps.
Each item is an object, and the view at its place is the one that shows all of that object. -/
theorem stepViews_complete {document : Json} (h : (checkSchema document).errors = []) :
    ∃ items, document.at? ["workflow", "steps"] = some (.arr items) ∧
      (stepViews document).length = items.length ∧
      ∀ index item, items[index]? = some item → ∃ fields view, item = .obj fields ∧
        (stepViews document)[index]? = some view ∧
        ∀ other : StepView, other.Depicts index fields ↔ other = view := by
  obtain ⟨items, hitems⟩ := Schema.stepsForm (errors_checkSchema_iff.mp h)
  obtain ⟨hlength, hviews⟩ := List.forall₂_iff_get.mp (forall₂_stepViews hitems)
  rw [List.length_zipIdx] at hlength
  refine ⟨items, hitems.at?, hlength, ?_⟩
  intro index item hitem
  obtain ⟨hindex, hget⟩ := List.getElem?_eq_some_iff.mp hitem
  obtain ⟨fields, hdepicts, hfields⟩ :=
    hviews index (hlength ▸ hindex) (by rwa [List.length_zipIdx])
  simp only [List.get_eq_getElem, List.getElem_zipIdx, Nat.zero_add, hget] at hdepicts hfields
  refine ⟨fields, _, hfields.symm, List.getElem?_eq_getElem (hlength ▸ hindex), ?_⟩
  intro other
  constructor
  · intro hother
    exact hother.unique hdepicts
  · rintro rfl
    exact hdepicts

theorem stepViews_complete_of_review :
    (checkSchema review).errors = [] ∧
    ∃ items, review.at? ["workflow", "steps"] = some (.arr items) ∧
      items.length = 3 ∧ (stepViews review).length = 3 ∧
      ∀ index item, items[index]? = some item → ∃ fields view, item = .obj fields ∧
        (stepViews review)[index]? = some view ∧
        ∀ other : StepView, other.Depicts index fields ↔ other = view := by
  have hform : (checkSchema review).errors = [] := errors_checkSchema_iff.mpr Schema.document_review
  obtain ⟨items, hitems, hlength, hviews⟩ := stepViews_complete hform
  have hcount : ((review.at? ["workflow", "steps"]).bind Json.items?).map List.length = some 3 :=
    rfl
  rw [hitems] at hcount
  have hthree : items.length = 3 := Option.some.inj hcount
  exact ⟨hform, items, hitems, hthree, hlength.trans hthree, hviews⟩

end Validation

end Workflow
