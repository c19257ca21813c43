import Workflow.Proofs.Template.Value

/-!
# What templates can fail for

A template fails only for one of its references, and a value only for one of the texts inside it. A
reference is known if its first part names the facts about the run, a declared input, by itself or
below one of the namespaces of inputs, or a step. A known reference leads somewhere unless the input
or the result that it names is not there, or has no such part.
-/

namespace Workflow

open Decode (bind_eq_error)

namespace Template

variable {scope : Scope} {fault : Fault}

/-- One of several references leads nowhere. -/
def FailsOn (scope : Scope) (tokens : List Token) (fault : Fault) : Prop :=
  ∃ token ∈ tokens, resolvePath scope token.path = .error fault

theorem FailsOn.mono {tokens more : List Token} (h : FailsOn scope tokens fault)
    (hsubset : tokens ⊆ more) : FailsOn scope more fault := by
  obtain ⟨token, htoken, hfault⟩ := h
  exact ⟨token, hsubset htoken, hfault⟩

/-- A text fails for one of its references. -/
theorem resolveString_eq_error {template : String}
    (h : resolveString scope template = .error fault) :
    FailsOn scope (tokens template) fault :=
  (resolveString_eq_error_iff.mp h).exists_mem

theorem resolveTemplate_eq_error {template : String}
    (h : resolveTemplate scope template = .error fault) :
    FailsOn scope (tokens template) fault :=
  (resolveTemplate_eq_error_iff.mp h).exists_mem

/-- One of several texts fails for one of its references. -/
def FailsIn (scope : Scope) (texts : List String) (fault : Fault) : Prop :=
  ∃ text ∈ texts, FailsOn scope (tokens text) fault

theorem FailsIn.mono {texts more : List String} (h : FailsIn scope texts fault)
    (hsubset : texts ⊆ more) : FailsIn scope more fault := by
  obtain ⟨text, htext, hfails⟩ := h
  exact ⟨text, hsubset htext, hfails⟩

/-- A value fails for a reference in one of the texts inside it. -/
theorem resolveValue_eq_error (value : Json) (h : resolveValue scope value = .error fault) :
    FailsIn scope value.texts fault := by
  obtain ⟨text, htext, hfault⟩ := ((resolveValue_eq_error_iff value).mp h).exists_mem
  exact ⟨text, htext, resolveTemplate_eq_error hfault⟩

/-! ## Known references -/

/-- Where the parts of a path point to among declared inputs and steps. The first
part names the facts about the run, a namespace of inputs, an input or a step; an
input hides a step of its name. -/
inductive Points (inputs steps : List String) : String → List String → Prop
  | facts (rest : List String) : Points inputs steps "sys" rest
  | namespaced (head name : String) (rest : List String) (hhead : head = "input" ∨ head = "inputs")
      (hname : name ∈ inputs) : Points inputs steps head (name :: rest)
  | input (name : String) (rest : List String) (hfacts : name ≠ "sys")
      (hspaces : name ≠ "input" ∧ name ≠ "inputs") (hname : name ∈ inputs) :
      Points inputs steps name rest
  | step (id : String) (rest : List String) (hfacts : id ≠ "sys")
      (hspaces : id ≠ "input" ∧ id ≠ "inputs") (hundeclared : id ∉ inputs) (hid : id ∈ steps) :
      Points inputs steps id rest

/-- A path that points to something. -/
def Known (inputs steps : List String) (path : String) : Prop :=
  ∃ head rest, path? path = some (head, rest) ∧ Points inputs steps head rest

/-- A path names an input, below a namespace of inputs or by itself. -/
def NamesInput (path name : String) : Prop :=
  ∃ head rest, path? path = some (head, rest) ∧
    if head = "input" ∨ head = "inputs" then rest.head? = some name else head = name

/-- A path names a step. -/
def NamesStep (path id : String) : Prop :=
  ∃ rest, path? path = some (id, rest) ∧ id ≠ "sys" ∧ id ≠ "input" ∧ id ≠ "inputs"

/-- Faults that references may have in a scope: a declared input that they name was not provided, a
step that they name has no result, or what they lead to has no such part. -/
inductive Excused (inputs steps : List String) (scope : Scope) : Fault → Prop
  | input (path name : String) (hnames : NamesInput path name) (hdeclared : name ∈ inputs)
      (habsent : scope.input? name = none) :
      Excused inputs steps scope (.unresolved path s!"input '{name}' was not provided")
  | step (path id : String) (hnames : NamesStep path id) (hknown : id ∈ steps)
      (habsent : scope.result? id = none) :
      Excused inputs steps scope (.unresolved path s!"no result for '{id}' in scope")
  | part (path segment : String) : Excused inputs steps scope (.notFound path segment)

section

variable {inputs steps : List String} {path head : String} {rest : List String}

theorem inputValue_eq_error {name : String} (h : scope.inputValue path name = .error fault) :
    scope.input? name = none ∧ fault = .unresolved path s!"input '{name}' was not provided" := by
  unfold Scope.inputValue at h
  split at h
  · cases h
  · next habsent =>
    cases h
    exact ⟨habsent, rfl⟩

/-- Only inputs and results that are not there keep a path from its root. -/
theorem excused_root (hdeclared : ∀ name, scope.isDeclared name = true ↔ name ∈ inputs)
    (hpath : path? path = some (head, rest)) (hpoints : Points inputs steps head rest)
    (h : scope.root path head rest = .error fault) : Excused inputs steps scope fault := by
  unfold Scope.root at h
  cases hpoints with
  | facts rest => cases h
  | namespaced head name rest hhead hname =>
    have hspace : (head = "input" || head = "inputs") = true := by simpa using hhead
    have hfacts : head ≠ "sys" := by rcases hhead with rfl | rfl <;> decide
    rw [if_neg hfacts, if_pos hspace] at h
    rcases bind_eq_error h with hvalue | ⟨value, -, hpure⟩
    · obtain ⟨habsent, rfl⟩ := inputValue_eq_error hvalue
      refine .input path name ⟨head, name :: rest, hpath, ?_⟩ hname habsent
      rw [if_pos hhead, List.head?_cons]
    · cases hpure
  | input name rest hfacts hspaces hname =>
    have hspace : ¬ (head = "input" || head = "inputs") = true := by simpa using hspaces
    rw [if_neg hfacts, if_neg hspace, if_pos ((hdeclared head).mpr hname)] at h
    rcases bind_eq_error h with hvalue | ⟨value, -, hpure⟩
    · obtain ⟨habsent, rfl⟩ := inputValue_eq_error hvalue
      refine .input path head ⟨head, rest, hpath, ?_⟩ hname habsent
      rw [if_neg (not_or.mpr hspaces)]
    · cases hpure
  | step id rest hfacts hspaces hundeclared hid =>
    have hspace : ¬ (head = "input" || head = "inputs") = true := by simpa using hspaces
    rw [if_neg hfacts, if_neg hspace, if_neg ((hdeclared head).not.mpr hundeclared)] at h
    split at h
    · cases h
    · next habsent =>
      cases h
      exact .step path head ⟨rest, hpath, hfacts, hspaces⟩ hid habsent

/-- A known reference is never malformed, and it is unresolved only for an input or
a result that is not there. -/
theorem Known.excused (h : Known inputs steps path)
    (hdeclared : ∀ name, scope.isDeclared name = true ↔ name ∈ inputs)
    (hfault : resolvePath scope path = .error fault) : Excused inputs steps scope fault := by
  obtain ⟨head, rest, hpath, hpoints⟩ := h
  rw [resolvePath, hpath] at hfault
  rcases bind_eq_error hfault with hroot | ⟨⟨root, segments⟩, -, hfollow⟩
  · exact excused_root hdeclared hpath hpoints hroot
  · simp only at hfollow
    split at hfollow
    · cases hfollow
    · cases hfollow
      exact .part path _

/-- So is a text, or a value, all of whose references are known. -/
theorem FailsIn.excused {texts : List String} (h : FailsIn scope texts fault)
    (hdeclared : ∀ name, scope.isDeclared name = true ↔ name ∈ inputs)
    (hknown : ∀ text ∈ texts, ∀ token ∈ tokens text, Known inputs steps token.path) :
    Excused inputs steps scope fault := by
  obtain ⟨text, htext, token, htoken, hfault⟩ := h
  exact (hknown text htext token htoken).excused hdeclared hfault

end

end Template

end Workflow
