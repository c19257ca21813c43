import Workflow.Proofs.Condition.Reference
import Workflow.Proofs.Decode.Writing
import Workflow.Proofs.Inputs
import Workflow.Proofs.Run.References

/-!
# Conditions and references

A condition can ask for the same value as a template. Both start from the names that the
context of a run binds, and both look up the parts of a path one after the other. They part
where an index is the key of an object: a template finds the value under that key, but a
condition looks for an item and finds none.
-/

namespace Workflow

/-! ## The same names -/

namespace Context

variable {c : Context}

theorem get?_foldl_insert {entries : Entries Json} (hkeys : entries.keys.Nodup)
    (vars : Entries Json) (name : String) :
    Entries.get? (entries.foldl (fun vars (name, value) => vars.insert name value) vars) name =
      (entries.get? name).or (vars.get? name) := by
  induction entries generalizing vars with
  | nil => rfl
  | cons entry rest ih =>
    obtain ⟨key, value⟩ := entry
    obtain ⟨hfresh, hrest⟩ := List.nodup_cons.mp hkeys
    rw [List.foldl_cons, ih hrest, Entries.get?_insert, Entries.get?]
    by_cases heq : key = name
    · have hnone : Entries.get? rest name = none := Entries.get?_eq_none (heq ▸ hfresh)
      rw [if_pos heq, if_pos heq.symm, hnone]
      rfl
    · rw [if_neg heq, if_neg (Ne.symm heq)]

/-- What a condition finds under a name. -/
theorem get?_bindings (hkeys : c.inputs.keys.Nodup) (name : String) :
    c.bindings.get? name =
      if name = "sys" then some c.sys
      else if name = "input" ∨ name = "inputs" then some (.obj c.inputs)
      else (c.inputs.get? name).or (c.result? name) := by
  simp only [bindings, Entries.get?_insert, get?_foldl_insert hkeys, result?]
  split
  · rfl
  · by_cases hinputs : name = "inputs" <;> by_cases hinput : name = "input" <;>
      simp [hinputs, hinput]

theorem inputValue_eq_ok {path name : String} {value : Json}
    (h : c.scope.inputValue path name = .ok value) : c.inputs.get? name = some value := by
  unfold Template.Scope.inputValue at h
  split at h
  · next hvalue =>
    cases h
    exact hvalue
  · cases h

theorem follow_of_get? {name : String} {value : Json} {rest : List String} {fields : Entries Json}
    (h : fields.get? name = some value) :
    (Json.obj fields).follow (name :: rest) = value.follow rest := by
  rw [Json.follow, Json.property?, h]

/-- The root that a path chooses is what its first parts lead to among the names that are bound. -/
theorem follow_of_root (hkeys : c.inputs.keys.Nodup) (hdeclared : c.inputs.keys ⊆ c.declared)
    {path head : String} {rest segments : List String} {root : Json}
    (h : c.scope.root path head rest = .ok (root, segments)) :
    (Json.obj c.bindings).follow (head :: rest) = root.follow segments := by
  have hbinding := get?_bindings hkeys head
  unfold Template.Scope.root at h
  split at h
  · next hsys =>
    cases h
    rw [if_pos hsys] at hbinding
    exact follow_of_get? hbinding
  · next hsys =>
    rw [if_neg hsys] at hbinding
    split at h
    · next hspace =>
      rw [if_pos (by simpa using hspace)] at hbinding
      cases rest with
      | nil => cases h
      | cons name rest =>
        obtain ⟨value, hvalue, heq⟩ := Decode.bind_eq_ok h
        cases heq
        rw [follow_of_get? hbinding, follow_of_get? (inputValue_eq_ok hvalue)]
    · next hspace =>
      rw [if_neg (by simpa using hspace)] at hbinding
      split at h
      · obtain ⟨value, hvalue, heq⟩ := Decode.bind_eq_ok h
        cases heq
        rw [inputValue_eq_ok hvalue] at hbinding
        exact follow_of_get? hbinding
      · next hundeclared =>
        split at h
        · next value hvalue =>
          cases h
          have habsent : c.inputs.get? head = none :=
            Entries.get?_eq_none fun hmem =>
              hundeclared (List.contains_iff_mem.mpr (hdeclared hmem))
          rw [habsent, Option.none_or, show c.result? head = some root from hvalue] at hbinding
          exact follow_of_get? hbinding
        · cases h

/-- What a path leads to is found below the name that it begins with. -/
theorem follow_of_resolvePath (hkeys : c.inputs.keys.Nodup) (hdeclared : c.inputs.keys ⊆ c.declared)
    {path : String} {value : Json} (h : Template.resolvePath c.scope path = .ok value) :
    ∃ head rest, Template.path? path = some (head, rest) ∧
      (Json.obj c.bindings).follow (head :: rest) = .ok value := by
  unfold Template.resolvePath at h
  split at h
  · cases h
  · next head rest hpath =>
    obtain ⟨⟨root, segments⟩, hroot, hfollow⟩ := Decode.bind_eq_ok h
    refine ⟨head, rest, hpath, (follow_of_root hkeys hdeclared hroot).trans ?_⟩
    simp only at hfollow
    split at hfollow
    · next hvalue =>
      cases hfollow
      exact hvalue
    · cases hfollow

end Context

/-! ## The same steps -/

namespace Json

open Template (access IsPart isIndex isName)
open Condition (Access)

/-- Every index among the parts of a path belongs to an array. -/
def IndexesItems (json : Json) : List String → Prop
  | [] => True
  | part :: rest =>
    (isIndex part = true → json.isArray = true) ∧
      ∀ next, json.property? part = some next → next.IndexesItems rest

variable {json next : Json} {part : String}

theorem nat?_of_isName (h : isName part = true) : Decimal.nat? part = none := by
  obtain ⟨c, cs, heq, hstart, -⟩ := Condition.exists_of_isName h
  have hdigit : Decimal.isDigit c = false :=
    (Decimal.isDigit_eq c).trans (Condition.isDigit_of_isNameStart hstart)
  unfold Decimal.nat?
  rw [heq]
  split
  · next rest hplus =>
    cases hplus
    exact absurd hstart (by decide)
  · simp [hdigit]

/-- Where an index belongs to an array, a condition takes the same step as a template. -/
theorem value_access (hpart : IsPart part) (h : json.property? part = some next)
    (hindex : isIndex part = true → json.isArray = true) : (access part).value json = next := by
  rcases hpart with hname | hnumber
  · rw [access, if_neg (by simp [Template.isIndex_of_isName hname])]
    cases json with
    | obj fields =>
      show (Entries.get? fields part).getD .null = next
      rw [show Entries.get? fields part = some next from h]
      rfl
    | arr items =>
      rw [property?, nat?_of_isName hname] at h
      cases h
    | null | bool | num | str => cases h
  · rw [access, if_pos hnumber]
    obtain ⟨hne, hdigits⟩ := Condition.digits_of_isIndex hnumber
    cases json with
    | arr items =>
      rw [property?, Decimal.nat?_of_digits hne hdigits] at h
      show (items[Decimal.ofDigits part.toList]?).getD .null = next
      rw [show items[Decimal.ofDigits part.toList]? = some next from h]
      rfl
    | null | bool | num | str | obj => exact absurd (hindex hnumber) Bool.false_ne_true

/-- Elsewhere it finds nothing. -/
theorem value_access_of_key (hindex : isIndex part = true) (hkey : ¬ json.isArray = true) :
    (access part).value json = .null := by
  rw [access, if_pos hindex]
  cases json with
  | arr items => exact absurd rfl hkey
  | null | bool | num | str | obj => rfl

theorem foldl_value_null (accesses : List Access) : accesses.foldl Access.value .null = .null := by
  induction accesses with
  | nil => rfl
  | cons access rest ih => cases access <;> exact ih

/-- The steps of a condition lead to what a template finds if every index belongs to an array, and
to nothing otherwise. -/
theorem foldl_value_of_follow {parts : List String} (hparts : ∀ part ∈ parts, IsPart part)
    {value : Json} (h : json.follow parts = .ok value) :
    (json.IndexesItems parts → (parts.map access).foldl Access.value json = value) ∧
      (¬ json.IndexesItems parts → (parts.map access).foldl Access.value json = .null) := by
  induction parts generalizing json with
  | nil =>
    cases h
    exact ⟨fun _ => rfl, fun hnot => absurd trivial hnot⟩
  | cons part rest ih =>
    rw [List.forall_mem_cons] at hparts
    rw [follow] at h
    split at h
    · next next hnext =>
      obtain ⟨hsame, hnull⟩ := ih hparts.2 h
      rw [List.map_cons, List.foldl_cons]
      by_cases hindex : isIndex part = true → json.isArray = true
      · rw [value_access hparts.1 hnext hindex]
        refine ⟨fun hitems => hsame (hitems.2 next hnext), fun hnot => hnull fun hrest => ?_⟩
        refine hnot ⟨hindex, fun other hother => ?_⟩
        rw [hnext] at hother
        cases hother
        exact hrest
      · refine ⟨fun hitems => absurd hitems.1 hindex, fun _ => ?_⟩
        rw [Classical.not_imp] at hindex
        rw [value_access_of_key hindex.1 hindex.2, foldl_value_null]
    · cases h

end Json

/-! ## What conditions see -/

/-- A path that conditions read as it is written: none of its parts is a word with a meaning of its
own in them, and each of its indexes is a float without loss. -/
structure Template.Plain (head : String) (rest : List String) : Prop where
  words : ∀ part ∈ head :: rest, part ∉ Condition.keywords
  indexes : ∀ part ∈ rest, Template.isIndex part = true → Decimal.ofDigits part.toList < 2 ^ 53

namespace Context

open Template (access path?_eq_some IsPart)
open Condition (Access)

variable {c : Context}

/-- The value of the condition that is nothing but a reference. -/
def asked (c : Context) (path : String) : Except Condition.Fault Json :=
  Condition.value (Template.unwrap (Template.Token.raw ⟨path⟩)) (.obj c.bindings)

/-- Wherever a reference leads, the condition that is nothing but this reference has
the same value, if every index in the path belongs to an array; if one of them is the
key of an object, it is `null`. -/
def SeesReferences (c : Context) : Prop :=
  ∀ path value, Template.resolvePath c.scope path = .ok value →
    ∃ head rest, Template.path? path = some (head, rest) ∧ (Template.Plain head rest →
      ((Json.obj c.bindings).IndexesItems (head :: rest) → c.asked path = .ok value) ∧
        (¬ (Json.obj c.bindings).IndexesItems (head :: rest) → c.asked path = .ok .null))

theorem plain_access {head part : String} {rest : List String} (h : Template.Plain head rest)
    (hpart : part ∈ rest) (hvalid : IsPart part) : (access part).Plain := by
  rw [access]
  split
  · next hindex => exact .item hindex (h.indexes part hpart hindex)
  · next hindex =>
    exact .property (hvalid.resolve_right hindex) (h.words part (List.mem_cons_of_mem _ hpart))

/-- The condition that is a reference looks up the parts of its path among the
names that are bound. -/
theorem asked_eq {path head : String} {rest : List String}
    (hpath : Template.path? path = some (head, rest)) (hplain : Template.Plain head rest)
    {root : Json} (hroot : c.bindings.get? head = some root) :
    c.asked path = .ok ((rest.map access).foldl Access.value root) := by
  obtain ⟨-, hname, hparts⟩ := path?_eq_some hpath
  rw [asked, Template.unwrap_raw hpath]
  refine Condition.value_of_accesses hname (hplain.words head List.mem_cons_self)
    (fun a ha => ?_) hroot
  obtain ⟨part, hpart, rfl⟩ := List.mem_map.mp ha
  exact plain_access hplain hpart (hparts part hpart)

/-- Conditions see references if every input is declared. -/
theorem seesReferences (hkeys : c.inputs.keys.Nodup) (hdeclared : c.inputs.keys ⊆ c.declared) :
    c.SeesReferences := by
  intro path value hresolve
  obtain ⟨head, rest, hpath, hfollow⟩ := follow_of_resolvePath hkeys hdeclared hresolve
  refine ⟨head, rest, hpath, fun hplain => ?_⟩
  obtain ⟨-, hname, hparts⟩ := path?_eq_some hpath
  obtain ⟨root, hroot⟩ : ∃ root, c.bindings.get? head = some root := by
    rw [Json.follow] at hfollow
    split at hfollow
    · next root hroot => exact ⟨root, hroot⟩
    · cases hfollow
  have hsteps : ((head :: rest).map access).foldl Access.value (.obj c.bindings) =
      (rest.map access).foldl Access.value root := by
    have hfirst : (access head).value (.obj c.bindings) = root := by
      refine Json.value_access (Or.inl hname)
        (show (Json.obj c.bindings).property? head = _ from hroot) ?_
      rw [Template.isIndex_of_isName hname]
      exact nofun
    rw [List.map_cons, List.foldl_cons, hfirst]
  obtain ⟨hsame, hnull⟩ := Json.foldl_value_of_follow
    (List.forall_mem_cons.mpr ⟨Or.inl hname, hparts⟩) hfollow
  rw [asked_eq hpath hplain hroot, ← hsteps]
  exact ⟨fun hitems => congrArg Except.ok (hsame hitems),
    fun hnot => congrArg Except.ok (hnull hnot)⟩

end Context

/-! ## The inputs of a run -/

/-- A proper document declares an input once. -/
theorem Definition.nodup_inputs_of_decoder {document : Json} {d : Definition}
    (hproper : document.Proper) (h : Definition.decoder document = .ok d) :
    d.inputs.keys.Nodup := by
  refine Decode.place_of_record h hproper "inputs" (Decode.entries InputSpec.decoder)
    Definition.inputs
    ⟨by simp, by simp⟩ (fun v => v.keys.Nodup) (fun json v hproper hread => ?_) List.nodup_nil
  obtain ⟨fields, rfl, -⟩ := Decode.forall₂_of_entries hread
  rw [Decode.keys_of_entries hread]
  exact (Json.proper_obj_iff.mp hproper).1

variable {σ : Type}

/-- Conditions see what templates see. In every run of the definition of an accepted
document, whenever a step begins or is called and at whatever other point, the condition that
is nothing but a reference has the value that the reference leads to, unless an index in its
path is the key of an object. -/
theorem conditions_see_references {document : Json} {d : Definition} (hproper : document.Proper)
    (h : (Validation.analyze document).2 = some d) {supplied inputs : Entries Json}
    (hinputs : Inputs.prepare d.inputs supplied = .ok inputs) (env : Environment σ)
    (executionId : String) (clock : Clock) (world : σ) :
    ∃ order, Plan.sequence d.steps = .ok order ∧ ∃ (r : Run σ) (stop : Option Stop),
      execute env d executionId inputs clock world = .ok (some (r.result d stop), r.session) ∧
        (∀ moment ∈ r.session.journal, moment.progress.context.SeesReferences) ∧
        (∀ point, (Run.initial env d executionId inputs clock world).Passes env d order point →
          point.progress.context.SeesReferences) ∧
        (Run.initial env d executionId inputs clock world).Passes env d order r := by
  obtain ⟨order, horder⟩ := (Definition.sound_of_accepted h).exists_sequence
  have hdecoder := (Validation.analyze_eq_some_iff.mp h).2.2
  have hkeys := Inputs.keys_of_prepare hinputs
  have hsees : ∀ {c : Context}, c.Given d inputs → c.SeesReferences := by
    intro c hc
    refine Context.seesReferences ?_ ?_
    · rw [hc.inputs]
      exact (Definition.nodup_inputs_of_decoder hproper hdecoder).sublist hkeys
    · rw [hc.inputs, hc.declared]
      exact hkeys.subset
  have hinitial :
      (Run.initial env d executionId inputs clock world).progress.context.Given d inputs :=
    ⟨rfl, rfl⟩
  refine ⟨order, horder, _, _, Run.execute_of_accepted h horder env executionId inputs clock world,
    ?_, ?_, .between order [] (List.append_nil order).symm⟩
  · intro moment hmoment
    rcases Run.journal_turns hmoment with hnone | ⟨done, step, rest, r, -, hdone, hturn⟩
    · exact absurd hnone List.not_mem_nil
    · rw [hturn.progress]
      exact hsees (Run.given_turns hdone hinitial)
  · intro point hpoint
    exact hsees (hpoint.given hinitial)

/-- A document whose condition is a flag that stands under a number. -/
def switch : Json :=
  sheet "switch"
    [("data", .obj [("type", .str "object"), ("required", .bool true)]),
      ("in", .obj [("type", .str "boolean")])]
    [.obj [("id", .str "choose"), ("type", .str "condition"),
      ("config", .obj [("condition", .str "$\x7bdata.0\x7d"), ("true_step", .str "accept"),
        ("false_step", .str "refuse")])],
    .obj [("id", .str "accept"), ("type", .str "end"), ("depends_on", .arr [.str "choose"])],
    .obj [("id", .str "refuse"), ("type", .str "end"), ("depends_on", .arr [.str "choose"])]]
    [("flag", .obj [("source", .str "$\x7bdata.0\x7d")])]

/-- The inputs of a run with the flag set. -/
def flagged : Entries Json := [("data", .obj [("0", .bool true)]), ("in", .bool true)]

theorem proper_switch : switch.Proper := by simp [switch, sheet, Entries.keys]

theorem accepted_switch :
    ∃ d, (Validation.analyze switch).2 = some d ∧ Inputs.prepare d.inputs flagged = .ok flagged ∧
      d.inputs.keys = flagged.keys := by
  obtain ⟨d, hdecoder, hinputs, hkeys⟩ : ∃ d, Definition.decoder switch = .ok d ∧
      Inputs.prepare d.inputs flagged = .ok flagged ∧ d.inputs.keys = flagged.keys :=
    ⟨_, rfl, rfl, rfl⟩
  have hform : Validation.Schema.document switch = [] := by
    apply Validation.Schema.document_sheet
    all_goals exact List.isEmpty_iff.mp (by decide +kernel)
  have hfits : (Validation.Semantics.document switch).errors = [] :=
    List.isEmpty_iff.mp (by decide +kernel)
  exact ⟨d, Validation.analyze_eq_some_iff.mpr ⟨hform, hfits, hdecoder⟩, hinputs, hkeys⟩

theorem conditions_see_references_in_switch :
    switch.Proper ∧ ∃ d, (Validation.analyze switch).2 = some d ∧
      Inputs.prepare d.inputs flagged = .ok flagged ∧
      ∃ order, Plan.sequence d.steps = .ok order ∧ ∃ (r : Run Nat) (stop : Option Stop),
        execute calm d "exec" flagged (.initial false none) 0 =
          .ok (some (r.result d stop), r.session) ∧
          (∀ moment ∈ r.session.journal, moment.progress.context.SeesReferences) ∧
          (∀ point, (Run.initial calm d "exec" flagged (.initial false none) 0).Passes calm d order
            point → point.progress.context.SeesReferences) ∧
          (Run.initial calm d "exec" flagged (.initial false none) 0).Passes calm d order r := by
  obtain ⟨d, haccepted, hinputs, hkeys⟩ := accepted_switch
  exact ⟨proper_switch, d, haccepted, hinputs,
    conditions_see_references proper_switch haccepted hinputs calm "exec" (.initial false none) 0⟩

/-- In the same run the reference leads to the flag, but the condition does not see it. Nor does it
see an input whose name is a word with a meaning of its own. -/
theorem switch_overlooks_flag :
    ∃ d, (Validation.analyze switch).2 = some d ∧ Inputs.prepare d.inputs flagged = .ok flagged ∧
      ∃ order, Plan.sequence d.steps = .ok order ∧
        let start := Run.initial calm d "exec" flagged (.initial false none) 0
        let c := start.progress.context
        start.Passes calm d order start ∧
          (Template.resolvePath c.scope "data.0" = .ok (.bool true) ∧
            c.asked "data.0" = .ok .null) ∧
          (Template.resolvePath c.scope "in" = .ok (.bool true) ∧
            ∃ fault, c.asked "in" = .error fault) := by
  have hresolved : ∀ {c : Context}, c.inputs = flagged → c.declared = flagged.keys →
      Template.resolvePath c.scope "data.0" = .ok (.bool true) ∧
        Template.resolvePath c.scope "in" = .ok (.bool true) := by
    rintro ⟨_, _, _, _, _, _⟩ ⟨⟩ ⟨⟩
    exact ⟨rfl, rfl⟩
  obtain ⟨d, haccepted, hinputs, hkeys⟩ := accepted_switch
  obtain ⟨order, horder⟩ := (Definition.sound_of_accepted haccepted).exists_sequence
  obtain ⟨hflag, hword⟩ := hresolved
    (c := (Run.initial calm d "exec" flagged (.initial false none) 0).progress.context) rfl hkeys
  exact ⟨d, haccepted, hinputs, order, horder, .between [] order rfl, ⟨hflag, rfl⟩, hword, _, rfl⟩

/-- So the run refuses what its output accepts. -/
example : (Definition.decoder switch).toOption.bind (fun d =>
    (Run.ended? (execute calm d "exec" flagged (.initial false none) 0)).map fun pair =>
      (pair.1.outputs.map fun (name, value) => (name, value.truthy),
        pair.1.steps.map fun entry => (entry.1, entry.2.error?))) =
    some ([("flag", true)],
      [("choose", none), ("accept", some "branch not taken"), ("refuse", none)]) := by
  decide +kernel

end Workflow
