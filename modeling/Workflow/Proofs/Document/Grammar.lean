import Mathlib.Tactic.MkIffOfInductiveProp
import Workflow.Proofs.Decode.Accepting
import Workflow.Proofs.Document.Acceptance
import Workflow.Proofs.Version

/-!
# The grammar of documents

What a document has to look like is written down as predicates on JSON values, one for each kind of
object. The check of form finds nothing exactly in the documents of this grammar.
-/

namespace Workflow.Validation

namespace Grammar

/-! ## Values -/

def Text (p : String → Prop) (json : Json) : Prop := ∃ s, json = .str s ∧ p s

/-- An object whose fields are of some kind. -/
def Object (p : Entries Json → Prop) (json : Json) : Prop := ∃ fields, json = .obj fields ∧ p fields

/-- An array whose items are of some kind. -/
def Items (p : List Json → Prop) (json : Json) : Prop := ∃ items, json = .arr items ∧ p items

/-- A natural number of some kind; a number with a point is none. -/
def Natural (p : Nat → Prop) (json : Json) : Prop := ∃ n : Nat, json = .nat n ∧ p n

def Numeric (json : Json) : Prop := ∃ n, json = .num n

def Boolean (json : Json) : Prop := ∃ b, json = .bool b

/-- A text of at most so many characters. -/
def Short (most : Nat) : Json → Prop := Text fun s => s.length ≤ most

def Has (fields : Entries Json) (key : String) (p : Json → Prop) : Prop :=
  ∃ value, fields.get? key = some value ∧ p value

def May (fields : Entries Json) (key : String) (p : Json → Prop) : Prop :=
  ∀ value, fields.get? key = some value → p value

theorem Has.mem_keys {fields : Entries Json} {key : String} {p : Json → Prop}
    (h : Has fields key p) : key ∈ fields.keys := by
  obtain ⟨value, hvalue, -⟩ := h
  exact (Entries.contains_iff_mem_keys fields key).mp (Option.isSome_of_eq_some hvalue)

/-! ## Texts -/

def Letter (c : Char) : Prop := ('a' ≤ c ∧ c ≤ 'z') ∨ ('A' ≤ c ∧ c ≤ 'Z')

def Digit (c : Char) : Prop := '0' ≤ c ∧ c ≤ '9'

/-- A letter, and behind it letters, digits and some marks. -/
def Name (marks : List Char) (s : String) : Prop :=
  ∃ first rest, s.toList = first :: rest ∧ Letter first ∧
    ∀ c ∈ rest, Letter c ∨ Digit c ∨ c ∈ marks

def Identifier : String → Prop := Name ['_']

def WorkflowName : String → Prop := Name ['_', '-']

/-- Three numbers of at most 64 bits with dots between them, none with a leading zero. -/
def VersionText (s : String) : Prop := ∃ v : Version, v.Fits ∧ s = v.text

def valueTypes : List String := ["string", "number", "integer", "boolean", "array", "object"]

def stepTypes : List String :=
  ["start", "end", "code", "llm", "http", "condition", "loop", "parallel"]

def errorPolicies : List String := ["fail", "skip", "retry", "fallback"]

/-! ## Objects -/

@[mk_iff]
structure Metadata (fields : Entries Json) : Prop where
  name : Has fields "name" (Text fun s => WorkflowName s ∧ 3 ≤ s.length ∧ s.length ≤ 100)
  description : Has fields "description" (Short 500)
  version : Has fields "version" (Text VersionText)
  author : May fields "author" (Short 100)
  tags : May fields "tags" (Items fun items => items.length ≤ 10 ∧ ∀ item ∈ items, Short 50 item)

@[mk_iff]
structure InputRules (fields : Entries Json) : Prop where
  pattern : May fields "pattern" (Text fun _ => True)
  lengths : ∀ key ∈ ["min_length", "max_length", "minLength", "maxLength"],
    May fields key (Natural fun _ => True)
  bounds : ∀ key ∈ ["minimum", "maximum"], May fields key Numeric
  choices : May fields "enum" (Items fun _ => True)

@[mk_iff]
structure Input (fields : Entries Json) : Prop where
  type : Has fields "type" (Text (· ∈ valueTypes))
  required : May fields "required" Boolean
  description : May fields "description" (Short 200)
  validation : May fields "validation" (Object InputRules)

@[mk_iff]
structure ErrorHandling (fields : Entries Json) : Prop where
  onError : May fields "on_error" (Text (· ∈ errorPolicies))
  retryCount : May fields "retry_count" (Natural (· ≤ 10))
  fallbackStep : May fields "fallback_step" (Text Identifier)

/-- A step; the form of `config` depends on its type and is checked later. -/
@[mk_iff]
structure Step (fields : Entries Json) : Prop where
  id : Has fields "id" (Text Identifier)
  type : Has fields "type" (Text (· ∈ stepTypes))
  name : May fields "name" (Short 100)
  description : May fields "description" (Short 200)
  dependsOn : May fields "depends_on" (Items fun items => ∀ item ∈ items, Text (fun _ => True) item)
  config : May fields "config" (Object fun _ => True)
  outputs : May fields "outputs"
    (Object fun outputs => ∀ pair ∈ outputs, Text (fun _ => True) pair.2)
  errorHandling : May fields "error_handling" (Object ErrorHandling)

/-- The list of steps: at least one, and objects all of them. -/
def Steps (items : List Json) : Prop := items ≠ [] ∧ ∀ item ∈ items, Object Step item

@[mk_iff]
structure Output (fields : Entries Json) : Prop where
  source : Has fields "source" (Text fun _ => True)
  type : May fields "type" (Text (· ∈ valueTypes))
  description : May fields "description" (Short 500)

/-- Objects of one kind under identifiers. -/
def Named (p : Entries Json → Prop) (fields : Entries Json) : Prop :=
  ∀ pair ∈ fields, Identifier pair.1 ∧ Object p pair.2

/-- The sections of a document: all four of them, and no other. -/
structure Sections (fields : Entries Json) : Prop where
  keys : ∀ key, key ∈ fields.keys ↔ key ∈ ["metadata", "inputs", "workflow", "outputs"]
  metadata : Has fields "metadata" (Object Metadata)
  inputs : Has fields "inputs" (Object (Named Input))
  workflow : Has fields "workflow" (Object fun graph => Has graph "steps" (Items Steps))
  outputs : Has fields "outputs" (Object (Named Output))

def Document : Json → Prop := Object Sections

open Schema

variable {path key : String} {json : Json} {fields : Entries Json}

/-! ## Checks of values -/

section

variable {check : Json → List Breach} {p : Json → Prop} (h : ∀ value, check value = [] ↔ p value)

include h

theorem mandatory_iff : mandatory fields path key check = [] ↔ Has fields key p := by
  simp only [mandatory_eq_nil_iff, Has, h]

theorem optional_iff : optional fields key check = [] ↔ May fields key p := by
  simp only [optional_eq_nil_iff, May, h]

end

theorem object_iff {check : Entries Json → List Breach} {p : Entries Json → Prop}
    (h : ∀ fields, check fields = [] ↔ p fields) :
    object path check json = [] ↔ Object p json := by
  simp only [object_eq_nil_iff, Object, h]

theorem string_iff {check : String → List Breach} {p : String → Prop}
    (h : ∀ s, check s = [] ↔ p s) : string path check json = [] ↔ Text p json := by
  simp only [string_eq_nil_iff, Text, h]

theorem array_iff {check : List Json → List Breach} {p : List Json → Prop}
    (h : ∀ items, check items = [] ↔ p items) : array path check json = [] ↔ Items p json := by
  simp only [array_eq_nil_iff, Items, h]

theorem each_iff {items : List Json} {check : Nat → Json → List Breach} {p : Json → Prop}
    (h : ∀ i item, check i item = [] ↔ p item) :
    each items check = [] ↔ ∀ item ∈ items, p item := by
  simp only [each_eq_nil_iff, h, List.mem_iff_getElem?]
  exact ⟨fun hall item ⟨i, hi⟩ => hall i item hi, fun hall i item hi => hall item ⟨i, hi⟩⟩

theorem anyString_iff : anyString path json = [] ↔ Text (fun _ => True) json :=
  string_iff fun _ => iff_of_true rfl trivial

theorem anyObject_iff : anyObject path json = [] ↔ Object (fun _ => True) json :=
  object_iff fun _ => iff_of_true rfl trivial

theorem atMost_iff {most : Nat} {s : String} : atMost path most s = [] ↔ s.length ≤ most := by
  simp [atMost]

theorem atLeast_iff {least : Nat} {s : String} : atLeast path least s = [] ↔ least ≤ s.length := by
  simp [atLeast]

theorem short_iff {most : Nat} : string path (atMost path most) json = [] ↔ Short most json :=
  string_iff fun _ => atMost_iff

theorem shortText_iff {most : Nat} :
    shortText fields path key most = [] ↔ May fields key (Short most) :=
  optional_iff fun _ => short_iff

theorem isBool_iff : json.isBool = true ↔ Boolean json := by
  cases json <;> simp [Json.isBool, Boolean]

theorem isNumber_iff : json.isNumber = true ↔ Numeric json := by
  cases json <;> simp [Json.isNumber, Numeric]

theorem isArray_iff : json.isArray = true ↔ Items (fun _ => True) json := by
  cases json <;> simp [Json.isArray, Items]

theorem natural?_eq_some_iff {n : Nat} : json.natural? = some n ↔ json = .nat n := by
  refine ⟨Decode.eq_nat_of_natural?, ?_⟩
  rintro rfl
  simp [Json.natural?, Number.natural?]

theorem isSome_natural?_iff : json.natural?.isSome = true ↔ Natural (fun _ => True) json := by
  simp only [Option.isSome_iff_exists, natural?_eq_some_iff, Natural, and_true]

/-! ## Checks of texts -/

theorem isAlpha_iff {c : Char} : c.isAlpha = true ↔ Letter c := by
  have hupper : c.isUpper = true ↔ 'A' ≤ c ∧ c ≤ 'Z' := decide_eq_true_iff
  have hlower : c.isLower = true ↔ 'a' ≤ c ∧ c ≤ 'z' :=
    Bool.and_eq_true_iff.trans (and_congr decide_eq_true_iff decide_eq_true_iff)
  exact Bool.or_eq_true_iff.trans ((or_congr hupper hlower).trans or_comm)

theorem isAlphanum_iff {c : Char} : c.isAlphanum = true ↔ Letter c ∨ Digit c := by
  have hdigit : c.isDigit = true ↔ Digit c :=
    Bool.and_eq_true_iff.trans (and_congr decide_eq_true_iff decide_eq_true_iff)
  exact Bool.or_eq_true_iff.trans (or_congr isAlpha_iff hdigit)

theorem identifier_iff {s : String} : matching path .identifier s = [] ↔ Identifier s := by
  rw [matching, require_eq_nil_iff, Identifier, Name, NamePattern.accepts.eq_def]
  cases s.toList <;> simp [isAlpha_iff, isAlphanum_iff, or_assoc]

theorem workflowName_iff {s : String} : matching path .workflow s = [] ↔ WorkflowName s := by
  rw [matching, require_eq_nil_iff, WorkflowName, Name, NamePattern.accepts.eq_def]
  cases s.toList <;> simp [isAlpha_iff, isAlphanum_iff, or_assoc]

theorem version_iff {s : String} : version path s = [] ↔ VersionText s := by
  unfold version
  constructor
  · intro h
    split at h
    · split at h
      · next v hread => exact ⟨v, Version.read_eq_ok_iff.mp hread⟩
      · cases h
    · cases h
  · rintro ⟨v, hfits, rfl⟩
    rw [if_pos (Version.accepts_text v), Version.read_eq_ok_iff.mpr ⟨hfits, rfl⟩]

theorem valueTypes_eq : ValueType.all.map ValueType.name = valueTypes := rfl

theorem stepTypes_eq : StepType.all.map StepType.name = stepTypes := rfl

theorem errorPolicies_eq : OnError.all.map OnError.name = errorPolicies := rfl

theorem oneOf_iff {α : Type} {name : α → String} {all : List α} {names : List String}
    (h : all.map name = names) :
    string path (oneOf path (all.map name)) json = [] ↔ Text (· ∈ names) json :=
  h ▸ string_iff fun _ => oneOf_eq_nil_iff

/-! ## Checks of objects -/

theorem tags_eq_nil_iff :
    tags path json = [] ↔
      Items (fun items => items.length ≤ 10 ∧ ∀ item ∈ items, Short 50 item) json :=
  array_iff fun items => by
    rw [List.append_eq_nil_iff, require_eq_nil_iff, decide_eq_true_iff]
    exact and_congr Iff.rfl (each_iff fun _ _ => short_iff)

theorem metadata_eq_nil_iff : metadata json = [] ↔ Object Metadata json :=
  object_iff fun fields => by
    have hname (s : String) :
        matching "/metadata/name" .workflow s ++ atLeast "/metadata/name" 3 s ++
          atMost "/metadata/name" 100 s = [] ↔
        WorkflowName s ∧ 3 ≤ s.length ∧ s.length ≤ 100 := by
      simp only [List.append_eq_nil_iff, workflowName_iff, atLeast_iff, atMost_iff, and_assoc]
    simp only [List.append_eq_nil_iff, metadata_iff, and_assoc,
      mandatory_iff fun _ => string_iff hname, mandatory_iff fun _ => short_iff,
      mandatory_iff fun _ => string_iff fun _ => version_iff, shortText_iff,
      optional_iff fun _ => tags_eq_nil_iff]

theorem inputRules_eq_nil_iff : inputRules path json = [] ↔ Object InputRules json :=
  object_iff fun fields => by
    simp only [List.append_eq_nil_iff, List.flatMap_eq_nil_iff, inputRules_iff, and_assoc,
      optional_iff fun _ => anyString_iff,
      optional_iff fun _ => require_eq_nil_iff.trans isSome_natural?_iff,
      optional_iff fun _ => require_eq_nil_iff.trans isNumber_iff,
      optional_iff fun _ => require_eq_nil_iff.trans isArray_iff]

theorem valueType_eq_nil_iff : valueType path json = [] ↔ Text (· ∈ valueTypes) json :=
  oneOf_iff valueTypes_eq

theorem input_eq_nil_iff {name : String} :
    input name json = [] ↔ Identifier name ∧ Object Input json := by
  have hfields (fields : Entries Json) :
      mandatory fields s!"/inputs/{name}" "type" (valueType s!"/inputs/{name}/type") ++
        optional fields "required" (fun value =>
          require value.isBool s!"/inputs/{name}/required" (.shape .boolean value)) ++
        shortText fields s!"/inputs/{name}" "description" 200 ++
        optional fields "validation" (inputRules s!"/inputs/{name}/validation") = [] ↔
      Input fields := by
    simp only [List.append_eq_nil_iff, input_iff, and_assoc,
      mandatory_iff fun _ => valueType_eq_nil_iff,
      optional_iff fun _ => require_eq_nil_iff.trans isBool_iff, shortText_iff,
      optional_iff fun _ => inputRules_eq_nil_iff]
  exact List.append_eq_nil_iff.trans (and_congr identifier_iff (object_iff hfields))

theorem inputs_eq_nil_iff : inputs json = [] ↔ Object (Named Input) json :=
  object_iff fun fields => by simp only [List.flatMap_eq_nil_iff, input_eq_nil_iff, Named]

theorem errorHandling_eq_nil_iff : errorHandling path json = [] ↔ Object ErrorHandling json :=
  object_iff fun fields => by
    rw [List.append_eq_nil_iff, List.append_eq_nil_iff, errorHandling_iff, and_assoc]
    refine and_congr (optional_iff fun _ => oneOf_iff errorPolicies_eq)
      (and_congr (optional_iff fun count => ?_)
        (optional_iff fun _ => string_iff fun _ => identifier_iff))
    cases hcount : count.natural? with
    | none =>
      refine iff_of_false (by simp [breach]) ?_
      rintro ⟨n, hn, -⟩
      rw [natural?_eq_some_iff.mpr hn] at hcount
      cases hcount
    | some n => simp [natural?_eq_some_iff.mp hcount, Natural]

theorem step_eq_nil_iff : step path json = [] ↔ Object Step json :=
  object_iff fun fields => by
    simp only [List.append_eq_nil_iff, step_iff, and_assoc]
    refine and_congr (mandatory_iff fun _ => string_iff fun _ => identifier_iff)
      (and_congr (mandatory_iff fun _ => oneOf_iff stepTypes_eq)
      (and_congr shortText_iff (and_congr shortText_iff
      (and_congr (optional_iff fun _ => array_iff fun _ => each_iff fun _ _ => anyString_iff)
      (and_congr (optional_iff fun _ => anyObject_iff)
      (and_congr (optional_iff fun _ => object_iff fun outputs => ?_)
      (optional_iff fun _ => errorHandling_eq_nil_iff)))))))
    simp only [List.flatMap_eq_nil_iff, anyString_iff]

theorem steps_eq_nil_iff : steps json = [] ↔ Items Steps json :=
  array_iff fun items => by
    rw [List.append_eq_nil_iff, require_eq_nil_iff]
    exact and_congr (by simp) (each_iff fun _ _ => step_eq_nil_iff)

theorem graph_eq_nil_iff :
    graph json = [] ↔ Object (fun graph => Has graph "steps" (Items Steps)) json :=
  object_iff fun _ => mandatory_iff fun _ => steps_eq_nil_iff

theorem output_eq_nil_iff {name : String} :
    output name json = [] ↔ Identifier name ∧ Object Output json := by
  have hfields (fields : Entries Json) :
      mandatory fields s!"/outputs/{name}" "source" (anyString s!"/outputs/{name}/source") ++
        optional fields "type" (valueType s!"/outputs/{name}/type") ++
        shortText fields s!"/outputs/{name}" "description" 500 = [] ↔ Output fields := by
    simp only [List.append_eq_nil_iff, output_iff, and_assoc,
      mandatory_iff fun _ => anyString_iff, optional_iff fun _ => valueType_eq_nil_iff,
      shortText_iff]
  exact List.append_eq_nil_iff.trans (and_congr identifier_iff (object_iff hfields))

theorem outputs_eq_nil_iff : outputs json = [] ↔ Object (Named Output) json :=
  object_iff fun fields => by simp only [List.flatMap_eq_nil_iff, output_eq_nil_iff, Named]

theorem sections_eq_nil_iff :
    (fields.keys.flatMap fun key =>
      require (sections.contains key) s!"/{key}" (.unknownSection key)) = [] ↔
      ∀ key ∈ fields.keys, key ∈ sections := by
  simp only [List.flatMap_eq_nil_iff, require_eq_nil_iff, List.contains_iff_mem]

/-- No rule of form is broken exactly in the documents of the grammar. -/
theorem document_eq_nil_iff : Schema.document json = [] ↔ Document json :=
  object_iff fun fields => by
    simp only [List.append_eq_nil_iff, sections_eq_nil_iff, and_assoc,
      mandatory_iff fun _ => metadata_eq_nil_iff, mandatory_iff fun _ => inputs_eq_nil_iff,
      mandatory_iff fun _ => graph_eq_nil_iff, mandatory_iff fun _ => outputs_eq_nil_iff]
    constructor
    · rintro ⟨hkeys, hmetadata, hinputs, hworkflow, houtputs⟩
      refine ⟨fun key => ⟨hkeys key, fun hkey => ?_⟩, hmetadata, hinputs, hworkflow, houtputs⟩
      simp only [List.mem_cons, List.not_mem_nil, or_false] at hkey
      obtain rfl | rfl | rfl | rfl := hkey
      · exact hmetadata.mem_keys
      · exact hinputs.mem_keys
      · exact hworkflow.mem_keys
      · exact houtputs.mem_keys
    · intro h
      exact ⟨fun key => (h.keys key).mp, h.metadata, h.inputs, h.workflow, h.outputs⟩

end Grammar

/-- The check of form accepts exactly the documents of the grammar. -/
theorem valid_checkSchema_iff_document (document : Json) :
    (checkSchema document).valid = true ↔ Grammar.Document document :=
  valid_checkSchema_iff.trans Grammar.document_eq_nil_iff

end Workflow.Validation
