import Workflow.Proofs.Run.Conditions

/-!
# Names and references

Conditions and code look a name up among the names that a context binds; a reference decides by the
inputs that are declared what its name stands for. In a run the two agree on every name but one that
stands for two things: if a declared input was not given and a step of the same name has a result,
then the name is bound to that result, while the reference leads nowhere.
-/

namespace Workflow

/-! ## A name as a path -/

namespace Template

open Condition (exists_of_isName)
open Condition.Scan (isNameStart isNameChar)
open Unicode (isBlank trimChars)

variable {c : Char} {name : String}

/-- The characters of a name are no blanks. -/
theorem isBlank_of_isNameChar (h : isNameChar c = true) : isBlank c = false := by
  have hbounds : 48 ≤ c.toNat ∧ c.toNat ≤ 122 := by
    rcases Bool.or_eq_true_iff.mp h with halnum | hline
    · rcases Bool.or_eq_true_iff.mp halnum with halpha | hdigit
      · rcases Bool.or_eq_true_iff.mp halpha with hupper | hlower
        · have hrange : 65 ≤ c.toNat ∧ c.toNat ≤ 90 := of_decide_eq_true hupper
          omega
        · obtain ⟨hleast, hmost⟩ := Bool.and_eq_true_iff.mp hlower
          exact ⟨Nat.le_trans (by decide : 48 ≤ 97) (of_decide_eq_true hleast),
            of_decide_eq_true hmost⟩
      · have hrange : 48 ≤ c.toNat ∧ c.toNat ≤ 57 := Char.isDigit_iff_toNat.mp hdigit
        omega
    · rw [of_decide_eq_true hline]
      decide
  simp only [isBlank, Bool.or_eq_false_iff, Bool.and_eq_false_iff, decide_eq_false_iff_not]
  omega

theorem isNameChar_of_mem (h : isName name = true) (hc : c ∈ name.toList) :
    isNameChar c = true := by
  obtain ⟨first, rest, heq, hstart, hrest⟩ := exists_of_isName h
  rw [heq] at hc
  rcases List.mem_cons.mp hc with rfl | hc
  · rcases Bool.or_eq_true_iff.mp hstart with halpha | hline
    · exact Bool.or_eq_true_iff.mpr (Or.inl (Bool.or_eq_true_iff.mpr (Or.inl halpha)))
    · exact Bool.or_eq_true_iff.mpr (Or.inr hline)
  · exact hrest c hc

theorem dropWhile_isBlank {cs : List Char} (h : ∀ c ∈ cs, isBlank c = false) :
    cs.dropWhile isBlank = cs := by
  cases cs with
  | nil => rfl
  | cons c rest => exact List.dropWhile_cons_of_neg (by simp [h c List.mem_cons_self])

/-- A text without blanks has none around it. -/
theorem trim_eq_self {s : String} (h : ∀ c ∈ s.toList, isBlank c = false) : Unicode.trim s = s := by
  have hreverse : ∀ c ∈ s.toList.reverse, isBlank c = false :=
    fun c hc => h c (List.mem_reverse.mp hc)
  rw [Unicode.trim, trimChars, dropWhile_isBlank h, dropWhile_isBlank hreverse,
    List.reverse_reverse, String.ofList_toList]

/-- A name has no blanks around it. -/
theorem trim_of_isName (h : isName name = true) : Unicode.trim name = name :=
  trim_eq_self fun _ hc => isBlank_of_isNameChar (isNameChar_of_mem h hc)

/-- A name is a path with nothing behind its first part. -/
theorem path?_of_isName (h : isName name = true) : path? name = some (name, []) := by
  have hpoint : '.' ∉ name.toList := fun hmem => absurd (isNameChar_of_mem h hmem) (by decide)
  have hparts : (dotted name).map Unicode.trim = [name] := by
    rw [dotted, List.splitOn_eq_singleton hpoint, List.map_singleton, List.map_singleton,
      String.ofList_toList, trim_of_isName h]
  rw [path?, hparts]
  simp [h]

/-- Where a reference leads that is a name and nothing else. -/
theorem resolvePath_of_isName (scope : Scope) (h : isName name = true)
    (hfree : name ∉ Validation.Semantics.reservedIds) :
    resolvePath scope name =
      if scope.isDeclared name then scope.inputValue name name
      else
        match scope.result? name with
        | some value => .ok value
        | none => .error (.unresolved name s!"no result for '{name}' in scope") := by
  simp only [Validation.Semantics.reservedIds, List.mem_cons, List.not_mem_nil, or_false,
    not_or] at hfree
  obtain ⟨hsys, hinput, hinputs⟩ := hfree
  rw [resolvePath, path?_of_isName h]
  simp only [Scope.root, hsys, hinput, hinputs, decide_false, Bool.or_false, Bool.false_eq_true,
    if_false]
  split
  · cases scope.inputValue name name <;> rfl
  · cases scope.result? name <;> rfl

end Template

namespace Context

variable {c : Context} {name : String}

/-- A name stands for a declared input that has no value, and for a step that has a result. -/
def Namesake (c : Context) (name : String) : Prop :=
  name ∈ c.declared ∧ c.inputs.get? name = none ∧ (c.result? name).isSome = true

/-- A name is bound to what the reference to it leads to, unless it is a namesake. Then it is bound
to the result of the step, and the reference leads nowhere. -/
structure Agrees (c : Context) (name : String) : Prop where
  same : ¬ c.Namesake name → ∀ value, c.bindings.get? name = some value ↔
    Template.resolvePath c.scope name = .ok value
  bound : c.Namesake name → c.bindings.get? name = c.result? name
  missing : c.Namesake name → Template.resolvePath c.scope name =
    .error (.unresolved name s!"input '{name}' was not provided")

theorem agrees (hkeys : c.inputs.keys.Nodup) (hdeclared : c.inputs.keys ⊆ c.declared)
    (hname : Template.isName name = true) (hfree : name ∉ Validation.Semantics.reservedIds) :
    c.Agrees name := by
  have hresolved := Template.resolvePath_of_isName c.scope hname hfree
  have hbound : c.bindings.get? name = (c.inputs.get? name).or (c.result? name) := by
    simp only [Validation.Semantics.reservedIds, List.mem_cons, List.not_mem_nil, or_false,
      not_or] at hfree
    rw [get?_bindings hkeys, if_neg hfree.1, if_neg (not_or.mpr hfree.2)]
  by_cases hinput : name ∈ c.declared
  · rw [if_pos (show c.scope.isDeclared name = true from List.contains_iff_mem.mpr hinput),
      Template.Scope.inputValue] at hresolved
    cases hvalue : c.inputs.get? name with
    | some value =>
      have hnot : ¬ c.Namesake name := fun h => Option.some_ne_none value (hvalue.symm.trans h.2.1)
      rw [hvalue, Option.some_or] at hbound
      rw [show c.scope.input? name = some value from hvalue] at hresolved
      exact ⟨fun _ => by simp [hbound, hresolved], fun h => absurd h hnot, fun h => absurd h hnot⟩
    | none =>
      rw [hvalue, Option.none_or] at hbound
      rw [show c.scope.input? name = none from hvalue] at hresolved
      refine ⟨fun hnot => ?_, fun _ => hbound, fun _ => hresolved⟩
      have hnone : c.result? name = none :=
        Option.not_isSome_iff_eq_none.mp fun hresult => hnot ⟨hinput, hvalue, hresult⟩
      simp [hbound, hresolved, hnone]
  · have hnot : ¬ c.Namesake name := fun h => hinput h.1
    rw [if_neg (show ¬ c.scope.isDeclared name = true from
      fun h => hinput (List.contains_iff_mem.mp h))]
      at hresolved
    rw [Entries.get?_eq_none fun hmem => hinput (hdeclared hmem), Option.none_or] at hbound
    refine ⟨fun _ => ?_, fun h => absurd h hnot, fun h => absurd h hnot⟩
    rw [hbound, hresolved, show c.scope.result? name = c.result? name from rfl]
    cases c.result? name <;> simp

/-- A context agrees on all names but those that references reserve. -/
def NamesAgree (c : Context) : Prop :=
  ∀ name, Template.isName name = true → name ∉ Validation.Semantics.reservedIds → c.Agrees name

end Context

/-! ## Names in a run -/

variable {σ : Type}

/-- What holds of every context whose inputs are declared, each once, holds throughout a run of an
accepted document with prepared inputs. -/
theorem contexts_of_run {P : Context → Prop}
    (hP : ∀ c : Context, c.inputs.keys.Nodup → c.inputs.keys ⊆ c.declared → P c)
    {document : Json} {d : Definition} (hproper : document.Proper)
    (h : (Validation.analyze document).2 = some d) {supplied inputs : Entries Json}
    (hinputs : Inputs.prepare d.inputs supplied = .ok inputs) (env : Environment σ)
    (executionId : String) (clock : Clock) (world : σ) :
    ∃ order, Plan.sequence d.steps = .ok order ∧ ∃ (r : Run σ) (stop : Option Stop),
      execute env d executionId inputs clock world = .ok (some (r.result d stop), r.session) ∧
        (∀ moment ∈ r.session.journal, P moment.progress.context) ∧
        (∀ point, (Run.initial env d executionId inputs clock world).Passes env d order point →
          P point.progress.context) ∧
        (Run.initial env d executionId inputs clock world).Passes env d order r := by
  obtain ⟨order, horder⟩ := (Definition.sound_of_accepted h).exists_sequence
  have hkeys := Inputs.keys_of_prepare hinputs
  have hnodup :=
    Definition.nodup_inputs_of_decoder hproper (Validation.analyze_eq_some_iff.mp h).2.2
  have hgiven : ∀ {c : Context}, c.Given d inputs → P c := by
    intro c hc
    apply hP
    · rw [hc.inputs]
      exact hnodup.sublist hkeys
    · rw [hc.inputs, hc.declared]
      exact hkeys.subset
  have hinitial :
      (Run.initial env d executionId inputs clock world).progress.context.Given d inputs :=
    ⟨rfl, rfl⟩
  refine ⟨order, horder, _, _, Run.execute_of_accepted h horder env executionId inputs clock world,
    ?_, ?_, .between order [] (List.append_nil order).symm⟩
  · intro moment hmoment
    rcases Run.journal_turns hmoment with hnone | ⟨done, step, rest, r, -, hdone, hturn⟩
    · exact absurd hnone List.not_mem_nil
    · rw [hturn.progress]
      exact hgiven (Run.given_turns hdone hinitial)
  · intro point hpoint
    exact hgiven (hpoint.given hinitial)

/-- In every run of the definition of an accepted document, whenever a step begins or is called
and at whatever other point, a name is bound to a value exactly if the reference that is this
name leads to it. The exception is a name that a step with a result shares with a declared input
that the run was not given: it is bound to the result of the step, but the reference is
unresolved for want of the input. -/
theorem names_agree_with_references {document : Json} {d : Definition} (hproper : document.Proper)
    (h : (Validation.analyze document).2 = some d) {supplied inputs : Entries Json}
    (hinputs : Inputs.prepare d.inputs supplied = .ok inputs) (env : Environment σ)
    (executionId : String) (clock : Clock) (world : σ) :
    ∃ order, Plan.sequence d.steps = .ok order ∧ ∃ (r : Run σ) (stop : Option Stop),
      execute env d executionId inputs clock world = .ok (some (r.result d stop), r.session) ∧
        (∀ moment ∈ r.session.journal, moment.progress.context.NamesAgree) ∧
        (∀ point, (Run.initial env d executionId inputs clock world).Passes env d order point →
          point.progress.context.NamesAgree) ∧
        (Run.initial env d executionId inputs clock world).Passes env d order r :=
  contexts_of_run (fun _ hkeys hdeclared _ hname hfree =>
    Context.agrees hkeys hdeclared hname hfree)
    hproper h hinputs env executionId clock world

/-- A document with an input that need not be given and a step of the same name. -/
def namesake : Json :=
  sheet "namesake"
    [("note", .obj [("type", .str "string")])]
    [.obj [("id", .str "note"), ("type", .str "start")],
    .obj [("id", .str "choose"), ("type", .str "condition"), ("depends_on", .arr [.str "note"]),
      ("config", .obj [("condition", .str "note || false"), ("true_step", .str "accept"),
        ("false_step", .str "refuse")])],
    .obj [("id", .str "accept"), ("type", .str "end"), ("depends_on", .arr [.str "choose"])],
    .obj [("id", .str "refuse"), ("type", .str "end"), ("depends_on", .arr [.str "choose"])]]
    [("note", .obj [("source", .str "$\x7bnote\x7d")])]

def note : Step := ⟨"note", .start, none, none, [], .start, [], none⟩

theorem proper_namesake : namesake.Proper := by simp [namesake, sheet, Entries.keys]

/-- When the first step has been executed without the input, its name stands for both. -/
theorem accepted_namesake :
    ∃ d order, (Validation.analyze namesake).2 = some d ∧ Inputs.prepare d.inputs [] = .ok [] ∧
      Plan.sequence d.steps = .ok (note :: order) ∧
        ((Run.initial calm d "exec" [] (.initial false none) 0).turns calm d
          [note]).1.progress.context.Namesake "note" := by
  obtain ⟨d, order, hdecoder, hinputs, horder, hdeclared⟩ : ∃ d order,
      Definition.decoder namesake = .ok d ∧ Inputs.prepare d.inputs [] = .ok [] ∧
      Plan.sequence d.steps = .ok (note :: order) ∧ d.inputs.keys = ["note"] :=
    ⟨_, _, rfl, rfl, rfl, rfl⟩
  have hresult : (Definition.decoder namesake).toOption.all (fun d =>
      (((Run.initial calm d "exec" [] (.initial false none) 0).turns calm d
        [note]).1.progress.context.result? "note").isSome) = true := by decide +kernel
  rw [hdecoder] at hresult
  have hform : Validation.Schema.document namesake = [] := by
    apply Validation.Schema.document_sheet
    all_goals exact List.isEmpty_iff.mp (by decide +kernel)
  have hfits : (Validation.Semantics.document namesake).errors = [] :=
    List.isEmpty_iff.mp (by decide +kernel)
  have hgiven : ((Run.initial calm d "exec" [] (.initial false none) 0).turns calm d
      [note]).1.progress.context.Given d [] := Run.given_turns rfl ⟨rfl, rfl⟩
  refine ⟨d, order, Validation.analyze_eq_some_iff.mpr ⟨hform, hfits, hdecoder⟩, hinputs,
    horder, ?_, ?_, hresult⟩
  · rw [hgiven.declared, hdeclared]
    exact List.mem_singleton.mpr rfl
  · rw [hgiven.inputs, Entries.get?_nil]

theorem names_agree_with_references_in_namesake :
    namesake.Proper ∧ ∃ d, (Validation.analyze namesake).2 = some d ∧
      Inputs.prepare d.inputs [] = .ok [] ∧
      ∃ order, Plan.sequence d.steps = .ok order ∧ ∃ (r : Run Nat) (stop : Option Stop),
        execute calm d "exec" [] (.initial false none) 0 = .ok (some (r.result d stop), r.session) ∧
          (∀ moment ∈ r.session.journal, moment.progress.context.NamesAgree) ∧
          (∀ point, (Run.initial calm d "exec" [] (.initial false none) 0).Passes calm d order
            point → point.progress.context.NamesAgree) ∧
          (Run.initial calm d "exec" [] (.initial false none) 0).Passes calm d order r := by
  obtain ⟨d, -, haccepted, hinputs, -, -⟩ := accepted_namesake
  exact ⟨proper_namesake, d, haccepted, hinputs,
    names_agree_with_references proper_namesake haccepted hinputs calm "exec"
      (.initial false none) 0⟩

/-- In the same run the name is bound when its step has a result, but the
reference is unresolved. -/
theorem note_bound_but_unresolved :
    ∃ d order, (Validation.analyze namesake).2 = some d ∧ Inputs.prepare d.inputs [] = .ok [] ∧
      Plan.sequence d.steps = .ok order ∧ ∃ point,
        (Run.initial calm d "exec" [] (.initial false none) 0).Passes calm d order point ∧
          let c := point.progress.context
          (∃ value, c.bindings.get? "note" = some value) ∧
            Template.resolvePath c.scope "note" =
              .error (.unresolved "note" "input 'note' was not provided") := by
  obtain ⟨d, rest, haccepted, hinputs, horder, hnamesake⟩ := accepted_namesake
  have hpoint : (Run.initial calm d "exec" [] (.initial false none) 0).Passes calm d
      (note :: rest) _ :=
    .between [note] rest rfl
  have hgiven : Context.Given d [] _ := hpoint.given ⟨rfl, rfl⟩
  have hagrees : Context.Agrees _ "note" :=
    Context.agrees (by rw [hgiven.inputs]; exact List.nodup_nil)
      (by rw [hgiven.inputs]; exact nofun)
      (by decide) (by decide)
  refine ⟨d, note :: rest, haccepted, hinputs, horder, _, hpoint, ?_, hagrees.missing hnamesake⟩
  rw [hagrees.bound hnamesake]
  exact Option.isSome_iff_exists.mp hnamesake.2.2

/-- So the condition sees the result of the step, but the output does not. -/
example : (Definition.decoder namesake).toOption.bind (fun d =>
    (Run.ended? (execute calm d "exec" [] (.initial false none) 0)).map fun pair =>
      (pair.1.outputs.map fun (name, value) => (name, value.isNull),
        pair.1.steps.map fun entry => (entry.1, entry.2.error?))) =
    some ([("note", true)],
      [("note", none), ("choose", none), ("accept", none),
        ("refuse", some "branch not taken")]) := by
  decide +kernel

end Workflow
