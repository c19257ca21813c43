import Mathlib.Data.List.Basic
import Workflow.Inputs

/-!
# Prepared inputs

An input is satisfied if the value that counts for it is of its type and keeps its rules, or if
there is none and none is required. The inputs of a run are prepared exactly if every declared input
is satisfied, and then they are the values that count. Otherwise there are problems with each input
that is not satisfied and with no other.
-/

namespace Workflow

/-! ## Values that fit -/

/-- A value is of a type. A number without a fraction is a whole number, however it is written. -/
inductive Json.IsOf : Json → ValueType → Prop
  | string (s : String) : IsOf (.str s) .string
  | number (n : Number) : IsOf (.num n) .number
  | integer (n : Int) : IsOf (.num (.int n)) .integer
  | whole (x : Float) (hfinite : x.isFinite = true) (hwhole : (x.floor == x) = true) :
      IsOf (.num (.float x)) .integer
  | boolean (b : Bool) : IsOf (.bool b) .boolean
  | array (items : List Json) : IsOf (.arr items) .array
  | object (fields : List (String × Json)) : IsOf (.obj fields) .object

/-- A text has a length in characters, an array in items, and nothing else has one. -/
inductive Json.HasLength : Json → Nat → Prop
  | text (s : String) : HasLength (.str s) s.toList.length
  | items (items : List Json) : HasLength (.arr items) items.length

/-- A text matches a pattern. No text matches a pattern that cannot be read. -/
def Pattern.Matches (pattern text : String) : Prop :=
  ∃ p, Pattern.ofString pattern = .ok p ∧ p.matches? text = true

/-- A value of a type keeps the rules of an input. -/
structure InputRules.Kept (rules : InputRules) (type : ValueType) (value : Json) : Prop where
  pattern : ∀ pattern text, rules.pattern = some pattern → value = .str text →
    Pattern.Matches pattern text
  minLength : ∀ least length, rules.minLength = some least → value.HasLength length →
    least.toNat ≤ length
  maxLength : ∀ most length, rules.maxLength = some most → value.HasLength length →
    length ≤ most.toNat
  minimum : ∀ least n, rules.minimum = some least → (type = .number ∨ type = .integer) →
    value = .num n → ¬ n.toFloat < least
  maximum : ∀ most n, rules.maximum = some most → (type = .number ∨ type = .integer) →
    value = .num n → ¬ most < n.toFloat
  allowed : ∀ allowed, rules.allowed = some allowed → ∃ option ∈ allowed, (option == value) = true

namespace InputSpec

/-- The value that counts for an input: what is supplied, unless it is null, or else the default. -/
inductive Counts (spec : InputSpec) : Option Json → Option Json → Prop
  | supplied (value : Json) (hvalue : value ≠ .null) : Counts spec (some value) (some value)
  | null : Counts spec (some .null) spec.default
  | absent : Counts spec none spec.default

/-- An input admits a value of its type that keeps its rules, or none if none is required. -/
inductive Admits (spec : InputSpec) : Option Json → Prop
  | value (value : Json) (htype : value.IsOf spec.type)
      (hrules : ∀ rules, spec.rules = some rules → rules.Kept spec.type value) :
      Admits spec (some value)
  | none (hrequired : spec.required = false) : Admits spec none

/-- An input admits the value that counts for it. -/
def Satisfied (spec : InputSpec) (supplied : Option Json) : Prop :=
  ∃ value, spec.Counts supplied value ∧ spec.Admits value

end InputSpec

namespace InputProblem

def input : InputProblem → String
  | missing name | type name _ _ | pattern name _ | invalidPattern name _ | tooShort name _ _
  | tooLong name _ _ | tooSmall name _ _ | tooLarge name _ _ | notAllowed name _ => name

/-- The words for a problem name its input. -/
theorem input_infix_message (p : InputProblem) :
    (s!"input '{p.input}'").toList <:+: p.message.toList := by
  -- The words are spelled out here, since the quote behind the name is in the middle of them.
  cases p with
  | missing name =>
    refine ⟨"missing required ".toList, [], ?_⟩
    change _ = s!"missing required input '{name}'".toList
    simp [input, ToString.toString]
  | type name expected found =>
    refine ⟨[], s!" must be of type {expected.name}, got {found.text}".toList, ?_⟩
    change _ = s!"input '{name}' must be of type {expected.name}, got {found.text}".toList
    simp [input, ToString.toString]
  | pattern name p =>
    refine ⟨[], s!" does not match pattern '{p}'".toList, ?_⟩
    change _ = s!"input '{name}' does not match pattern '{p}'".toList
    simp [input, ToString.toString]
  | invalidPattern name text =>
    refine ⟨[], s!" has an invalid pattern: {text}".toList, ?_⟩
    change _ = s!"input '{name}' has an invalid pattern: {text}".toList
    simp [input, ToString.toString]
  | tooShort name least length =>
    refine ⟨[], s!" is shorter than {least} (got {length})".toList, ?_⟩
    change _ = s!"input '{name}' is shorter than {least} (got {length})".toList
    simp [input, ToString.toString]
  | tooLong name most length =>
    refine ⟨[], s!" is longer than {most} (got {length})".toList, ?_⟩
    change _ = s!"input '{name}' is longer than {most} (got {length})".toList
    simp [input, ToString.toString]
  | tooSmall name least found =>
    refine ⟨[], s!" must be >= {Float.messageText least} (got {Float.messageText found})".toList,
      ?_⟩
    change _ =
      s!"input '{name}' must be >= {Float.messageText least} (got {Float.messageText found})".toList
    simp [input, ToString.toString]
  | tooLarge name most found =>
    refine ⟨[], s!" must be <= {Float.messageText most} (got {Float.messageText found})".toList, ?_⟩
    change _ =
      s!"input '{name}' must be <= {Float.messageText most} (got {Float.messageText found})".toList
    simp [input, ToString.toString]
  | notAllowed name allowed =>
    refine ⟨[], (" must be one of: " ++ ", ".intercalate (allowed.map Json.text)).toList, ?_⟩
    change _ = (s!"input '{name}' must be one of: " ++
      ", ".intercalate (allowed.map Json.text)).toList
    simp [input, ToString.toString]

end InputProblem

namespace Inputs

/-! ## One input -/

variable {name : String} {type : ValueType} {rules : InputRules} {spec : InputSpec} {value : Json}

theorem accepts_iff_isOf : type.accepts value = true ↔ value.IsOf type := by
  constructor
  · intro h
    cases type with
    | integer =>
      cases value with
      | num n =>
        cases n with
        | int n => exact .integer n
        | float x =>
          obtain ⟨hfinite, hwhole⟩ := Bool.and_eq_true_iff.mp h
          exact .whole x hfinite hwhole
      | null | bool | str | arr | obj => cases h
    | string | number | boolean | array | object => cases value <;> first | constructor | cases h
  · intro h
    cases h with
    | whole x hfinite hwhole => exact Bool.and_eq_true_iff.mpr ⟨hfinite, hwhole⟩
    | string | number | integer | boolean | array | object => rfl

theorem length?_eq_some_iff {length : Nat} :
    length? value = some length ↔ value.HasLength length := by
  constructor
  · intro h
    cases value with
    | str s =>
      cases h
      rw [← String.length_toList]
      exact .text s
    | arr items =>
      cases h
      exact .items items
    | null | bool | num | obj => cases h
  · intro h
    cases h with
    | text s => rw [length?, String.length_toList]
    | items items => rfl

theorem effective?_eq_iff {supplied found : Option Json} :
    effective? spec supplied = found ↔ spec.Counts supplied found := by
  constructor
  · rintro rfl
    cases supplied with
    | none => exact .absent
    | some value => cases value with
      | null => exact .null
      | bool | num | str | arr | obj => exact .supplied _ nofun
  · intro h
    cases h with
    | supplied value hvalue =>
      cases value with
      | null => exact absurd rfl hvalue
      | bool | num | str | arr | obj => rfl
    | null | absent => rfl

theorem given_eq_nil_iff {condition : Bool} {problem : InputProblem} :
    given condition problem = [] ↔ condition = false := by
  cases condition <;> simp [given]

theorem checkPattern_eq_nil_iff {pattern text : String} :
    checkPattern name pattern text = [] ↔ Pattern.Matches pattern text := by
  unfold checkPattern Pattern.Matches
  split
  · next p hread =>
    rw [given_eq_nil_iff, hread, Bool.not_eq_false']
    simp
  · next e hread =>
    rw [hread]
    simp

theorem checkLength_eq_nil_iff {length : Nat} : checkLength name rules length = [] ↔
    (∀ least, rules.minLength = some least → least.toNat ≤ length) ∧
      ∀ most, rules.maxLength = some most → length ≤ most.toNat := by
  rw [checkLength, List.append_eq_nil_iff]
  cases rules.minLength <;> cases rules.maxLength <;> simp [given_eq_nil_iff]

theorem checkBounds_eq_nil_iff {x : Float} : checkBounds name rules x = [] ↔
    (∀ least, rules.minimum = some least → ¬ x < least) ∧
      ∀ most, rules.maximum = some most → ¬ most < x := by
  rw [checkBounds, List.append_eq_nil_iff]
  cases rules.minimum <;> cases rules.maximum <;> simp [given_eq_nil_iff]

/-- No rule is found broken exactly if all are kept. -/
theorem checkRules_eq_nil_iff : checkRules name type rules value = [] ↔ rules.Kept type value := by
  unfold checkRules
  simp only [List.append_eq_nil_iff]
  constructor
  · rintro ⟨⟨⟨hpattern, hlength⟩, hbounds⟩, hallowed⟩
    constructor
    · rintro pattern text hrule rfl
      rw [hrule] at hpattern
      exact checkPattern_eq_nil_iff.mp hpattern
    · intro least length hrule hvalue
      rw [length?_eq_some_iff.mpr hvalue] at hlength
      exact (checkLength_eq_nil_iff.mp hlength).1 least hrule
    · intro most length hrule hvalue
      rw [length?_eq_some_iff.mpr hvalue] at hlength
      exact (checkLength_eq_nil_iff.mp hlength).2 most hrule
    · rintro least n hrule (rfl | rfl) rfl
      · exact (checkBounds_eq_nil_iff.mp hbounds).1 least hrule
      · exact (checkBounds_eq_nil_iff.mp hbounds).1 least hrule
    · rintro most n hrule (rfl | rfl) rfl
      · exact (checkBounds_eq_nil_iff.mp hbounds).2 most hrule
      · exact (checkBounds_eq_nil_iff.mp hbounds).2 most hrule
    · intro allowed hrule
      rw [hrule] at hallowed
      exact List.any_eq_true.mp (by simpa [given_eq_nil_iff] using hallowed)
  · intro h
    refine ⟨⟨⟨?_, ?_⟩, ?_⟩, ?_⟩
    · split
      · next pattern text hrule => exact checkPattern_eq_nil_iff.mpr (h.pattern _ _ hrule rfl)
      · rfl
    · split
      · next length hlength =>
        have hvalue := length?_eq_some_iff.mp hlength
        exact checkLength_eq_nil_iff.mpr ⟨fun least hrule => h.minLength least length hrule hvalue,
          fun most hrule => h.maxLength most length hrule hvalue⟩
      · rfl
    · split
      · next n =>
        exact checkBounds_eq_nil_iff.mpr
          ⟨fun least hrule => h.minimum least n hrule (Or.inl rfl) rfl,
            fun most hrule => h.maximum most n hrule (Or.inl rfl) rfl⟩
      · next n =>
        exact checkBounds_eq_nil_iff.mpr
          ⟨fun least hrule => h.minimum least n hrule (Or.inr rfl) rfl,
            fun most hrule => h.maximum most n hrule (Or.inr rfl) rfl⟩
      · rfl
    · split
      · next allowed hrule =>
        rw [given_eq_nil_iff, Bool.not_eq_false', List.any_eq_true]
        exact h.allowed allowed hrule
      · rfl

theorem checkInput_eq_nil_iff {found : Option Json} :
    checkInput name spec found = [] ↔ spec.Admits found := by
  constructor
  · intro h
    cases found with
    | none => exact .none (given_eq_nil_iff.mp h)
    | some value =>
      simp only [checkInput] at h
      by_cases htype : spec.type.accepts value = true
      · rw [if_pos htype] at h
        refine .value value (accepts_iff_isOf.mp htype) fun rules hrules => ?_
        rw [hrules] at h
        exact checkRules_eq_nil_iff.mp h
      · rw [if_neg htype] at h
        cases h
  · intro h
    cases h with
    | none hrequired => exact given_eq_nil_iff.mpr hrequired
    | value value htype hrules =>
      simp only [checkInput]
      rw [if_pos (accepts_iff_isOf.mpr htype)]
      split
      · next rules hrule => exact checkRules_eq_nil_iff.mpr (hrules rules hrule)
      · rfl

/-- Nothing is wrong with an input exactly if it is satisfied. -/
theorem checkInput_effective?_eq_nil_iff {supplied : Option Json} :
    checkInput name spec (effective? spec supplied) = [] ↔ spec.Satisfied supplied := by
  rw [checkInput_eq_nil_iff]
  constructor
  · intro h
    exact ⟨_, effective?_eq_iff.mp rfl, h⟩
  · rintro ⟨found, hcounts, hadmits⟩
    rw [effective?_eq_iff.mpr hcounts]
    exact hadmits

/-! ## Problems name their inputs -/

theorem input_of_mem_given {condition : Bool} {problem p : InputProblem}
    (h : p ∈ given condition problem) : p.input = problem.input := by
  unfold given at h
  split at h
  · rw [List.mem_singleton.mp h]
  · cases h

theorem input_of_mem_checkPattern {pattern text : String} {p : InputProblem}
    (h : p ∈ checkPattern name pattern text) : p.input = name := by
  unfold checkPattern at h
  split at h
  · exact input_of_mem_given h
  · rw [List.mem_singleton.mp h]
    rfl

theorem input_of_mem_checkLength {length : Nat} {p : InputProblem}
    (h : p ∈ checkLength name rules length) : p.input = name := by
  rcases List.mem_append.mp h with h | h
  all_goals
    split at h
    · exact input_of_mem_given h
    · cases h

theorem input_of_mem_checkBounds {x : Float} {p : InputProblem}
    (h : p ∈ checkBounds name rules x) : p.input = name := by
  rcases List.mem_append.mp h with h | h
  all_goals
    split at h
    · exact input_of_mem_given h
    · cases h

theorem input_of_mem_checkRules {p : InputProblem} (h : p ∈ checkRules name type rules value) :
    p.input = name := by
  unfold checkRules at h
  simp only [List.mem_append] at h
  rcases h with ((hpattern | hlength) | hbounds) | hallowed
  · split at hpattern
    · exact input_of_mem_checkPattern hpattern
    · cases hpattern
  · split at hlength
    · exact input_of_mem_checkLength hlength
    · cases hlength
  · split at hbounds
    · exact input_of_mem_checkBounds hbounds
    · exact input_of_mem_checkBounds hbounds
    · cases hbounds
  · split at hallowed
    · exact input_of_mem_given hallowed
    · cases hallowed

/-- Whatever is wrong with an input, the problem is about this input. -/
theorem input_of_mem_checkInput {found : Option Json} {p : InputProblem}
    (h : p ∈ checkInput name spec found) : p.input = name := by
  unfold checkInput at h
  split at h
  · exact input_of_mem_given h
  · split at h
    · split at h
      · exact input_of_mem_checkRules h
      · cases h
    · rw [List.mem_singleton.mp h]
      rfl

/-! ## All inputs -/

variable {specs : Entries InputSpec} {supplied : Entries Json}

theorem keys_effective (specs : Entries InputSpec) (supplied : Entries Json) :
    (effective specs supplied).keys.Sublist specs.keys := by
  induction specs with
  | nil => exact List.Sublist.slnil
  | cons entry rest ih =>
    obtain ⟨name, spec⟩ := entry
    rw [effective, List.filterMap_cons]
    split
    · exact ih.cons name
    · next found hfound =>
      obtain ⟨value, -, rfl⟩ := Option.map_eq_some_iff.mp hfound
      exact ih.cons_cons name

theorem prepare_eq_ok_iff {prepared : Entries Json} :
    prepare specs supplied = .ok prepared ↔
      problems specs supplied = [] ∧ effective specs supplied = prepared := by
  unfold prepare
  split
  · next hnone => simp only [hnone, Except.ok.injEq, true_and]
  · next hsome => exact ⟨nofun, fun ⟨hnone, _⟩ => absurd hnone hsome⟩

theorem prepare_eq_error_iff {found : List InputProblem} :
    prepare specs supplied = .error found ↔ problems specs supplied = found ∧ found ≠ [] := by
  unfold prepare
  split
  · next hnone => exact ⟨nofun, fun ⟨heq, hne⟩ => absurd (heq.symm.trans hnone) hne⟩
  · next hsome =>
    rw [Except.error.injEq]
    exact ⟨fun heq => ⟨heq, heq ▸ hsome⟩, And.left⟩

/-- The inputs of a run are among those that are declared. -/
theorem keys_of_prepare {inputs : Entries Json} (h : prepare specs supplied = .ok inputs) :
    inputs.keys.Sublist specs.keys := by
  obtain ⟨-, rfl⟩ := prepare_eq_ok_iff.mp h
  exact keys_effective specs supplied

/-- Nothing is wrong exactly if every declared input is satisfied. -/
theorem problems_eq_nil_iff : problems specs supplied = [] ↔
    ∀ name spec, (name, spec) ∈ specs → spec.Satisfied (supplied.get? name) := by
  rw [problems, List.flatMap_eq_nil_iff]
  constructor
  · intro h name spec hspec
    exact checkInput_effective?_eq_nil_iff.mp (h (name, spec) hspec)
  · rintro h ⟨name, spec⟩ hspec
    exact checkInput_effective?_eq_nil_iff.mpr (h name spec hspec)

/-- What the inputs of a run are, prepared from what is supplied. -/
structure Prepares (specs : Entries InputSpec) (supplied prepared : Entries Json) : Prop where
  /-- They stand in the order of the declarations. -/
  order : prepared.keys.Sublist specs.keys
  /-- They are the values that count for declared inputs, and nothing else. -/
  values : ∀ name value, (name, value) ∈ prepared ↔
    ∃ spec, (name, spec) ∈ specs ∧ spec.Counts (supplied.get? name) (some value)
  /-- If each input is declared once, the one value that counts for it is found by its name. -/
  lookup : specs.keys.Nodup → ∀ name spec, (name, spec) ∈ specs →
    spec.Counts (supplied.get? name) (prepared.get? name)

theorem mem_effective_iff {value : Json} : (name, value) ∈ effective specs supplied ↔
    ∃ spec, (name, spec) ∈ specs ∧ spec.Counts (supplied.get? name) (some value) := by
  rw [effective, List.mem_filterMap]
  constructor
  · rintro ⟨⟨other, spec⟩, hspec, hvalue⟩
    obtain ⟨found, hfound, hpair⟩ := Option.map_eq_some_iff.mp hvalue
    obtain ⟨rfl, rfl⟩ := Prod.mk.inj hpair
    exact ⟨spec, hspec, effective?_eq_iff.mp hfound⟩
  · rintro ⟨spec, hspec, hcounts⟩
    exact ⟨(name, spec), hspec,
      Option.map_eq_some_iff.mpr ⟨value, effective?_eq_iff.mpr hcounts, rfl⟩⟩

theorem prepares_effective (specs : Entries InputSpec) (supplied : Entries Json) :
    Prepares specs supplied (effective specs supplied) := by
  have horder := keys_effective specs supplied
  refine ⟨horder, fun name value => mem_effective_iff, fun hnodup name spec hspec => ?_⟩
  apply effective?_eq_iff.mp
  have hkeys : (effective specs supplied).keys.Nodup := hnodup.sublist horder
  cases hvalue : effective? spec (supplied.get? name) with
  | some value =>
    have hmem : (name, value) ∈ effective specs supplied :=
      mem_effective_iff.mpr ⟨spec, hspec, effective?_eq_iff.mp hvalue⟩
    exact (Entries.get?_eq_some_of_mem hkeys hmem).symm
  | none =>
    symm
    rw [← Option.not_isSome_iff_eq_none]
    intro hsome
    obtain ⟨value, hfound⟩ := Option.isSome_iff_exists.mp hsome
    obtain ⟨other, hother, hcounts⟩ := mem_effective_iff.mp (Entries.mem_of_get? hfound)
    -- The value would count for another declaration of the same name.
    have hsame := (Entries.get?_eq_some_of_mem hnodup hspec).symm.trans
      (Entries.get?_eq_some_of_mem hnodup hother)
    obtain rfl := Option.some.inj hsame
    rw [effective?_eq_iff.mpr hcounts] at hvalue
    cases hvalue

/-- Problems are found with inputs that are to blame, one after the other. -/
structure Blames (specs : Entries InputSpec) (supplied : Entries Json)
    (blamed : Entries (List InputProblem)) (found : List InputProblem) : Prop where
  /-- All problems are problems with one of these inputs. -/
  problems : found = blamed.values.flatten
  /-- The inputs stand in the order of the declarations. -/
  order : blamed.keys.Sublist specs.keys
  /-- There is a problem with each of them, and it is about this input. -/
  own : ∀ name problems, (name, problems) ∈ blamed →
    problems ≠ [] ∧ ∀ p ∈ problems, p.input = name
  /-- They are the declared inputs that are not satisfied. -/
  exact : ∀ name, name ∈ blamed.keys ↔
    ∃ spec, (name, spec) ∈ specs ∧ ¬ spec.Satisfied (supplied.get? name)

theorem exists_blames (specs : Entries InputSpec) (supplied : Entries Json) :
    ∃ blamed, Blames specs supplied blamed (problems specs supplied) := by
  induction specs with
  | nil =>
    exact ⟨[], rfl, List.Sublist.slnil,
      fun _ _ hmem => absurd hmem List.not_mem_nil, by simp [Entries.keys]⟩
  | cons entry rest ih =>
    obtain ⟨name, spec⟩ := entry
    obtain ⟨blamed, hproblems, horder, hown, hexact⟩ := ih
    have hsplit : problems ((name, spec) :: rest) supplied =
        checkInput name spec (effective? spec (supplied.get? name)) ++ problems rest supplied := rfl
    have hsatisfied : checkInput name spec (effective? spec (supplied.get? name)) = [] ↔
        spec.Satisfied (supplied.get? name) := checkInput_effective?_eq_nil_iff
    rw [hsplit]
    cases hcheck : checkInput name spec (effective? spec (supplied.get? name)) with
    | nil =>
      rw [hcheck] at hsatisfied
      refine ⟨blamed, hproblems, horder.cons name, hown, fun other => ?_⟩
      rw [hexact]
      constructor
      · rintro ⟨declared, hmem, hnot⟩
        exact ⟨declared, List.mem_cons_of_mem _ hmem, hnot⟩
      · rintro ⟨declared, hmem, hnot⟩
        rcases List.mem_cons.mp hmem with heq | hmem
        · cases heq
          exact absurd (hsatisfied.mp rfl) hnot
        · exact ⟨declared, hmem, hnot⟩
    | cons p ps =>
      rw [hcheck] at hsatisfied
      have hnot : ¬ spec.Satisfied (supplied.get? name) := fun h =>
        absurd (hsatisfied.mpr h) (List.cons_ne_nil p ps)
      refine ⟨(name, p :: ps) :: blamed, ?_, horder.cons_cons name, ?_, fun other => ?_⟩
      · rw [hproblems]
        rfl
      · intro other problems hmem
        rcases List.mem_cons.mp hmem with heq | hmem
        · cases heq
          exact ⟨List.cons_ne_nil p ps, fun q hq => input_of_mem_checkInput (hcheck ▸ hq)⟩
        · exact hown other problems hmem
      · have hkeys : Entries.keys ((name, p :: ps) :: blamed) = name :: blamed.keys := rfl
        rw [hkeys, List.mem_cons, hexact]
        constructor
        · rintro (rfl | ⟨declared, hmem, hother⟩)
          · exact ⟨spec, List.mem_cons_self, hnot⟩
          · exact ⟨declared, List.mem_cons_of_mem _ hmem, hother⟩
        · rintro ⟨declared, hmem, hother⟩
          rcases List.mem_cons.mp hmem with heq | hmem
          · cases heq
            exact Or.inl rfl
          · exact Or.inr ⟨declared, hmem, hother⟩

/-- What is supplied for inputs that are not declared does not matter. -/
theorem prepare_congr {other : Entries Json}
    (h : ∀ name ∈ specs.keys, other.get? name = supplied.get? name) :
    prepare specs other = prepare specs supplied := by
  have hget : ∀ pair ∈ specs, other.get? pair.1 = supplied.get? pair.1 :=
    fun pair hpair => h pair.1 (List.mem_map_of_mem hpair)
  have hproblems : problems specs other = problems specs supplied := by
    refine List.flatMap_congr fun pair hpair => ?_
    simp only [hget pair hpair]
  have heffective : effective specs other = effective specs supplied := by
    refine List.filterMap_congr fun pair hpair => ?_
    simp only [hget pair hpair]
  rw [prepare, prepare, hproblems, heffective]

/-- Inputs are prepared exactly if every declared input is satisfied. Then they are the values that
count for the declared inputs, in the order of the declarations. Otherwise there are problems with
each input that is not satisfied, in that order, and with no other. What is supplied for inputs that
are not declared does not matter. -/
theorem prepared_exactly (specs : Entries InputSpec) (supplied : Entries Json) :
    ((∃ prepared, prepare specs supplied = .ok prepared) ↔
        ∀ name spec, (name, spec) ∈ specs → spec.Satisfied (supplied.get? name)) ∧
      (∀ prepared, prepare specs supplied = .ok prepared → Prepares specs supplied prepared) ∧
      (∀ found, prepare specs supplied = .error found →
        found ≠ [] ∧ ∃ blamed, Blames specs supplied blamed found) ∧
      ∀ other, (∀ name ∈ specs.keys, other.get? name = supplied.get? name) →
        prepare specs other = prepare specs supplied := by
  refine ⟨?_, ?_, ?_, fun other => prepare_congr⟩
  · rw [← problems_eq_nil_iff]
    constructor
    · rintro ⟨prepared, hprepared⟩
      exact (prepare_eq_ok_iff.mp hprepared).1
    · intro hnone
      exact ⟨_, prepare_eq_ok_iff.mpr ⟨hnone, rfl⟩⟩
  · intro prepared hprepared
    obtain ⟨-, rfl⟩ := prepare_eq_ok_iff.mp hprepared
    exact prepares_effective specs supplied
  · intro found hfound
    obtain ⟨rfl, hne⟩ := prepare_eq_error_iff.mp hfound
    exact ⟨hne, exists_blames specs supplied⟩

end Inputs

end Workflow
