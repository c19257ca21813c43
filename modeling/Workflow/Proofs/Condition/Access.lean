import Workflow.Condition.Evaluate
import Workflow.Proofs.Condition.Scan
import Workflow.Proofs.Decimal.Digits
import Workflow.Template.Path

/-!
# Properties and items in conditions

A condition that is a name with properties and indexes behind it is read as just that, and its value
is looked up step by step. What is missing on the way is `null`.
-/

namespace Workflow.Condition

/-- A step from a value to one inside it. -/
inductive Access where
  | property (name : String)
  | item (index : String)
  deriving DecidableEq, Repr

namespace Access

/-- The step as it is written. -/
def text : Access → List Char
  | property name => '.' :: name.toList
  | item index => '[' :: index.toList ++ [']']

def number (index : String) : Float := (Decimal.float? index).getD 0

/-- The tokens of the step. -/
def kinds : Access → List TokenKind
  | property name => [.sign .dot, .identifier name]
  | item index => [.sign .openBracket, .number (number index), .sign .closeBracket]

def expression (subject : Expression) : Access → Expression
  | property name => .property subject name
  | item index => .index subject (.constant (.float (number index)))

def value (json : Json) : Access → Json
  | property name => (json.field? name).getD .null
  | item index => ((json.items?.getD [])[Decimal.ofDigits index.toList]?).getD .null

/-- The step is written in such a way that it is read as itself: a property is no word with a
meaning of its own, and an index is a float without loss. -/
inductive Plain : Access → Prop
  | property {name : String} (hname : Template.isName name = true) (hword : name ∉ keywords) :
    Plain (.property name)
  | item {index : String} (hindex : Template.isIndex index = true)
    (hexact : Decimal.ofDigits index.toList < 2 ^ 53) : Plain (.item index)

end Access

/-! ## Tokens -/

/-- What comes behind a name or a step: nothing, or another step. -/
def Breaks (rest : List Char) : Prop := ∀ c ∈ rest.head?, c = '.' ∨ c = '['

theorem breaks_texts (accesses : List Access) : Breaks (accesses.flatMap Access.text) := by
  cases accesses with
  | nil => exact nofun
  | cons access rest =>
    cases access with
    | property name =>
      rintro c ⟨⟩
      exact Or.inl rfl
    | item index =>
      rintro c ⟨⟩
      exact Or.inr rfl

/-- The characters of a name. -/
theorem exists_of_isName {name : String} (h : Template.isName name = true) :
    ∃ c cs, name.toList = c :: cs ∧ Scan.isNameStart c = true ∧
    ∀ d ∈ cs, Scan.isNameChar d = true := by
  unfold Template.isName at h
  split at h
  · next c cs heq =>
    obtain ⟨hstart, hcs⟩ := Bool.and_eq_true_iff.mp h
    exact ⟨c, cs, heq, hstart, List.all_eq_true.mp hcs⟩
  · cases h

/-- The characters of an index. -/
theorem digits_of_isIndex {index : String} (h : Template.isIndex index = true) :
    index.toList ≠ [] ∧ ∀ d ∈ index.toList, d.isDigit = true := by
  obtain ⟨hne, hdigits⟩ := Bool.and_eq_true_iff.mp h
  refine ⟨fun hnil => ?_, List.all_eq_true.mp hdigits⟩
  rw [String.toList_eq_nil_iff] at hnil
  exact absurd hnil (of_decide_eq_true hne)

section

variable {rest : List Char} {kinds : List TokenKind}

theorem reads_name {name : String} (hname : Template.isName name = true) (hword : name ∉ keywords)
    (hrest : Breaks rest) (h : Reads rest kinds) :
    Reads (name.toList ++ rest) (.identifier name :: kinds) := by
  obtain ⟨c, cs, heq, hstart, hcs⟩ := exists_of_isName hname
  have hbreak : ∀ d ∈ rest.head?, Scan.isNameChar d = false := by
    intro d hd
    rcases hrest d hd with rfl | rfl <;> decide
  have hread := Reads.name hstart hcs hbreak h
  rw [← heq, String.ofList_toList, word_eq_identifier hword] at hread
  exact hread

theorem reads_property {name : String} (hname : Template.isName name = true)
    (hword : name ∉ keywords) (hrest : Breaks rest) (h : Reads rest kinds) :
    Reads ((Access.property name).text ++ rest) ((Access.property name).kinds ++ kinds) := by
  refine .sign rfl (fun d _ => pair?_eq_none (Or.inl rfl) d) (fun _ d hd => ?_)
    (reads_name hname hword hrest h)
  obtain ⟨c, cs, heq, hstart, -⟩ := exists_of_isName hname
  rw [heq] at hd
  cases hd
  exact isDigit_of_isNameStart hstart

theorem reads_item {index : String} (hindex : Template.isIndex index = true)
    (h : Reads rest kinds) :
    Reads ((Access.item index).text ++ rest) ((Access.item index).kinds ++ kinds) := by
  obtain ⟨hne, hdigits⟩ := digits_of_isIndex hindex
  have hclose : Reads (']' :: rest) (.sign .closeBracket :: kinds) :=
    .sign rfl (fun d _ => pair?_eq_none (Or.inr (Or.inr rfl)) d)
      (fun heq => absurd heq (by decide)) h
  have hbreak : ∀ d ∈ (']' :: rest).head?, d.isDigit = false ∧ d ≠ '.' := by
    rintro d ⟨⟩
    exact ⟨by decide, by decide⟩
  have hnumber := Reads.number hdigits hne hbreak hclose
  rw [String.ofList_toList] at hnumber
  have hopen := Reads.sign (c := '[') rfl (fun d _ => pair?_eq_none (Or.inr (Or.inl rfl)) d)
    (fun heq => absurd heq (by decide)) hnumber
  simpa [Access.text, Access.kinds, Access.number] using hopen

theorem reads_accesses {accesses : List Access} (h : ∀ access ∈ accesses, access.Plain) :
    Reads (accesses.flatMap Access.text) (accesses.flatMap Access.kinds) := by
  induction accesses with
  | nil => exact .nil
  | cons access rest ih =>
    have hrest := ih fun access haccess => h access (List.mem_cons_of_mem _ haccess)
    rw [List.flatMap_cons, List.flatMap_cons]
    cases h access List.mem_cons_self with
    | property hname hword => exact reads_property hname hword (breaks_texts rest) hrest
    | item hindex hexact => exact reads_item hindex hrest

end

/-! ## Structure -/

namespace Parse

namespace State

/-- The kinds of the tokens that are left. -/
def kinds (s : State) : List TokenKind := s.tokens.map Token.kind

theorem kinds_skip (s : State) : s.skip.kinds = s.kinds.tail := by
  obtain ⟨tokens, position, ending⟩ := s
  cases tokens <;> rfl

@[simp] theorem ending_skip (s : State) : s.skip.ending = s.ending := by
  obtain ⟨tokens, position, ending⟩ := s
  cases tokens <;> rfl

theorem peek?_eq (s : State) : s.peek? = s.kinds.head? := by
  rw [peek?, kinds, List.head?_map]

variable {s : State} {kind : TokenKind} {rest : List TokenKind}

theorem peek?_of_kinds (h : s.kinds = kind :: rest) : s.peek? = some kind := by
  rw [peek?_eq, h, List.head?_cons]

theorem kinds_skip_of_kinds (h : s.kinds = kind :: rest) : s.skip.kinds = rest := by
  rw [kinds_skip, h, List.tail_cons]

theorem at?_of_kinds {sign other : Sign} (h : s.kinds = .sign sign :: rest) :
    s.at? other = decide (sign = other) := by
  rw [at?, peek?_of_kinds h]

/-- Nothing comes next that could go on with an expression: the tokens have
ended, or a bracket is closed. -/
def Stops (s : State) : Prop := s.kinds = [] ∨ ∃ rest, s.kinds = .sign .closeBracket :: rest

theorem Stops.operator? (h : s.Stops) : s.operator? = none := by
  rcases h with h | ⟨rest, h⟩ <;> rw [State.operator?, peek?_eq, h] <;> rfl

theorem Stops.at?_eq_false {sign : Sign} (h : s.Stops) (hsign : sign ≠ .closeBracket) :
    s.at? sign = false := by
  rcases h with h | ⟨rest, h⟩
  · rw [at?, peek?_eq, h]
    rfl
  · rw [at?_of_kinds h, decide_eq_false hsign.symm]

end State

variable {s s' : State} {e subject : Expression} {n : Nat}

/-- An expression of a tighter level is one of a looser level if nothing goes on with it. -/
theorem binary_of_tighter {level : Nat} (h : binary (n + 1) (level + 1) s = .ok (e, s'))
    (hlevel : level ≠ 5) (hstops : s'.Stops) : binary (n + 2) level s = .ok (e, s') := by
  rw [binary, if_neg hlevel, h]
  show binaryRest (n + 1) level e s' = _
  simp only [binaryRest, hstops.operator?]

/-- A value is an expression of any level if nothing goes on with it. -/
theorem binary_of_value (h : value (n + 1) s = .ok (e, s')) (hstops : s'.Stops) :
    binary (n + 9) 0 s = .ok (e, s') := by
  have htransform : transform (n + 2) s = .ok (e, s') := by
    rw [transform, h]
    show transformRest (n + 1) e s' = _
    simp only [transformRest, hstops.at?_eq_false (by decide : Sign.pipe ≠ .closeBracket),
      Bool.false_eq_true, if_false]
  have hchoice : choice (n + 3) s = .ok (e, s') := by
    rw [choice, htransform]
    show choiceRest (n + 2) e s' = _
    simp only [choiceRest, hstops.at?_eq_false (by decide : Sign.question ≠ .closeBracket),
      Bool.false_eq_true, if_false]
  have htightest : binary (n + 4) 5 s = .ok (e, s') := by
    rw [binary, if_pos rfl, hchoice]
  exact binary_of_tighter (binary_of_tighter (binary_of_tighter (binary_of_tighter
    (binary_of_tighter htightest (by decide) hstops) (by decide) hstops) (by decide) hstops)
    (by decide) hstops) (by decide) hstops

/-- A number before a closing bracket is an expression. -/
theorem binary_number {x : Float} {rest : List TokenKind}
    (h : s.kinds = .number x :: .sign .closeBracket :: rest) :
    binary (n + 10) 0 s = .ok (.constant (.float x), s.skip) := by
  have hstops : s.skip.Stops := Or.inr ⟨rest, State.kinds_skip_of_kinds h⟩
  apply binary_of_value _ hstops
  rw [value, primary, State.peek?_of_kinds h]
  show valueRest (n + 1) _ s.skip = _
  simp only [valueRest, hstops.at?_eq_false (by decide : Sign.dot ≠ .closeBracket),
    hstops.at?_eq_false (by decide : Sign.openBracket ≠ .closeBracket), Bool.false_eq_true,
    if_false]

theorem valueRest_property {name : String} {rest : List TokenKind}
    (h : s.kinds = (Access.property name).kinds ++ rest) :
    valueRest (n + 1) subject s = valueRest n (.property subject name) s.skip.skip := by
  have hname : s.skip.kinds = .identifier name :: rest := State.kinds_skip_of_kinds h
  have hidentifier : s.skip.identifier = .ok (name, s.skip.skip) := by
    rw [State.identifier, State.peek?_of_kinds hname]
  simp only [valueRest, State.at?_of_kinds h, decide_true, if_true, hidentifier]
  rfl

theorem valueRest_item {index : String} {rest : List TokenKind}
    (h : s.kinds = (Access.item index).kinds ++ rest) :
    valueRest (n + 11) subject s =
      valueRest (n + 10) ((Access.item index).expression subject) s.skip.skip.skip := by
  have hnumber : s.skip.kinds = .number (Access.number index) :: .sign .closeBracket :: rest :=
    State.kinds_skip_of_kinds h
  have hclose : s.skip.skip.kinds = .sign .closeBracket :: rest := State.kinds_skip_of_kinds hnumber
  have hdot : s.skip.at? .dot = false := by
    rw [State.at?, State.peek?_of_kinds hnumber]
  have hexpect : s.skip.skip.expect .closeBracket = .ok s.skip.skip.skip := by
    rw [State.expect, State.at?_of_kinds hclose, if_pos (decide_eq_true rfl)]
  have hopen : s.at? .dot = false ∧ s.at? .openBracket = true := by
    rw [State.at?_of_kinds h, State.at?_of_kinds h]
    decide
  rw [valueRest, if_neg (by simp [hopen.1]), if_pos hopen.2, if_neg (by simp [hdot]),
    binary_number hnumber]
  show (s.skip.skip.expect .closeBracket >>= _) = _
  rw [hexpect]
  rfl

/-- All the steps behind a value are read, up to the end of the tokens. -/
theorem valueRest_accesses (accesses : List Access) (subject : Expression)
    (hkinds : s.kinds = accesses.flatMap Access.kinds) (hfuel : accesses.length + 11 ≤ n) :
    ∃ s', valueRest n subject s = .ok (accesses.foldl Access.expression subject, s') ∧
      s'.kinds = [] ∧ s'.ending = s.ending := by
  induction accesses generalizing subject s n with
  | nil =>
    obtain ⟨m, rfl⟩ : ∃ m, n = m + 1 := ⟨n - 1, by omega⟩
    have hstops : s.Stops := Or.inl hkinds
    refine ⟨s, ?_, hkinds, rfl⟩
    simp only [valueRest, hstops.at?_eq_false (by decide : Sign.dot ≠ .closeBracket),
      hstops.at?_eq_false (by decide : Sign.openBracket ≠ .closeBracket), Bool.false_eq_true,
      if_false, List.foldl_nil]
  | cons access rest ih =>
    rw [List.flatMap_cons] at hkinds
    rw [List.length_cons] at hfuel
    obtain ⟨m, rfl⟩ : ∃ m, n = m + 11 := ⟨n - 11, by omega⟩
    cases access with
    | property name =>
      obtain ⟨s', hrest, hend, hending⟩ := ih (.property subject name) (s := s.skip.skip)
        (n := m + 10) (State.kinds_skip_of_kinds (State.kinds_skip_of_kinds hkinds)) (by omega)
      exact ⟨s', (valueRest_property hkinds).trans hrest, hend, by simpa using hending⟩
    | item index =>
      obtain ⟨s', hrest, hend, hending⟩ := ih ((Access.item index).expression subject)
        (s := s.skip.skip.skip) (n := m + 10)
        (State.kinds_skip_of_kinds (State.kinds_skip_of_kinds (State.kinds_skip_of_kinds hkinds)))
        (by omega)
      exact ⟨s', (valueRest_item hkinds).trans hrest, hend, by simpa using hending⟩

end Parse

theorem length_le_kinds (accesses : List Access) :
    accesses.length ≤ (accesses.flatMap Access.kinds).length := by
  induction accesses with
  | nil => exact Nat.le_refl 0
  | cons access rest ih =>
    have hpos : 0 < access.kinds.length := by cases access <;> exact Nat.zero_lt_succ _
    rw [List.flatMap_cons, List.length_append, List.length_cons]
    omega

/-- A name with steps behind it is read as just that. -/
theorem Expression.read_accesses {text head : String} {accesses : List Access}
    (h : Reads text.toList (.identifier head :: accesses.flatMap Access.kinds)) :
    Expression.read text = .ok (accesses.foldl Access.expression (.identifier head)) := by
  obtain ⟨hkinds, hending⟩ := h (text.length + 1) ⟨0, 1, 1⟩ (by rw [String.length_toList]; omega)
  change (Tokens.read text).tokens.map Token.kind = _ at hkinds
  change (Tokens.read text).ending = _ at hending
  have hcount := congrArg List.length hkinds
  rw [List.length_map, List.length_cons] at hcount
  have hlength := length_le_kinds accesses
  obtain ⟨n, hn⟩ : ∃ n, 16 * ((Tokens.read text).tokens.length + 2) = n + 10 :=
    ⟨16 * ((Tokens.read text).tokens.length + 2) - 10, by omega⟩
  let s : Parse.State := ⟨(Tokens.read text).tokens, 0, (Tokens.read text).ending⟩
  have hs : s.kinds = .identifier head :: accesses.flatMap Access.kinds := hkinds
  obtain ⟨s', hrest, hend, hending'⟩ := Parse.valueRest_accesses (s := s.skip)
    accesses (.identifier head) (Parse.State.kinds_skip_of_kinds hs)
    (show accesses.length + 11 ≤ n + 1 by omega)
  have hvalue : Parse.value (n + 2) s =
      .ok (accesses.foldl Access.expression (.identifier head), s') := by
    rw [Parse.value, Parse.primary, Parse.State.peek?_of_kinds hs]
    exact hrest
  have hbinary := Parse.binary_of_value hvalue (Or.inl hend)
  have htokens : s'.tokens = [] := List.map_eq_nil_iff.mp hend
  have hdone : s'.ending = .text := by rw [hending', Parse.State.ending_skip]; exact hending
  rw [Expression.read]
  show (Parse.binary (16 * ((Tokens.read text).tokens.length + 2)) 0 s >>= _) = _
  rw [hn, hbinary]
  obtain ⟨tokens, position, ending⟩ := s'
  cases htokens
  cases hdone
  rfl

/-! ## Values -/

theorem number_of_plain {index : String} (h : (Access.item index).Plain) :
    (Access.number index).isFinite = true ∧
      (Access.number index).toUInt64.toNat = Decimal.ofDigits index.toList := by
  cases h with
  | item hindex hexact =>
    obtain ⟨hne, hdigits⟩ := digits_of_isIndex hindex
    rw [Access.number, Decimal.float?_of_digits hne hdigits]
    exact Decimal.nearest_whole hexact

variable {scope : Entries Json} {subject : Expression} {json : Json}

theorem evaluate_access {access : Access} (haccess : access.Plain)
    (h : evaluate scope subject = .ok json) :
    evaluate scope (access.expression subject) = .ok (access.value json) := by
  cases access with
  | property name =>
    rw [Access.expression, evaluate, h]
    rfl
  | item index =>
    obtain ⟨hfinite, hindex⟩ := number_of_plain haccess
    rw [Access.expression, evaluate, h, evaluate, Json.float, if_pos hfinite]
    show Except.ok _ = _
    rw [Access.value, ← hindex]
    rfl

theorem evaluate_accesses {accesses : List Access} (haccesses : ∀ access ∈ accesses, access.Plain)
    (h : evaluate scope subject = .ok json) :
    evaluate scope (accesses.foldl Access.expression subject) =
      .ok (accesses.foldl Access.value json) := by
  induction accesses generalizing subject json with
  | nil => exact h
  | cons access rest ih =>
    exact ih (fun access haccess => haccesses access (List.mem_cons_of_mem _ haccess))
      (evaluate_access (haccesses access List.mem_cons_self) h)

/-- The value of a name with steps behind it is looked up step by step. -/
theorem value_of_accesses {head : String} {accesses : List Access}
    (hname : Template.isName head = true) (hword : head ∉ keywords)
    (haccesses : ∀ access ∈ accesses, access.Plain) (h : scope.get? head = some json) :
    value (String.ofList (head.toList ++ accesses.flatMap Access.text)) (.obj scope) =
      .ok (accesses.foldl Access.value json) := by
  have hreads : Reads (String.ofList (head.toList ++ accesses.flatMap Access.text)).toList
      (.identifier head :: accesses.flatMap Access.kinds) := by
    rw [String.toList_ofList]
    exact reads_name hname hword (breaks_texts accesses) (reads_accesses haccesses)
  have hhead : evaluate scope (.identifier head) = .ok json := by rw [evaluate, h]
  rw [value, Expression.read_accesses hreads]
  exact evaluate_accesses haccesses hhead

end Workflow.Condition
