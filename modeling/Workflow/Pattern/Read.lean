import Workflow.Pattern.Cursor
import Workflow.Unicode.Class

/-!
# Reading patterns

`PatternSyntax.read` turns the text of a pattern into its parts or says where and why it is not one.
-/

namespace Workflow.Pattern

namespace Read

/-! ## Escapes -/

/-- Characters that an escape strips of a special meaning. -/
def isMeta (c : Char) : Bool := "\\.+*?()|[]\x7b\x7d^$#&-~".toList.contains c

/-- Characters that may be escaped without need. -/
def isEscapable (c : Char) : Bool :=
  isMeta c || (c.toNat < 128 && !c.isAlphanum && c ≠ '<' && c ≠ '>')

def hexDigit? (c : Char) : Option Nat :=
  if c.isDigit then some (c.toNat - 48)
  else if 'a' ≤ c && c ≤ 'f' then some (c.toNat - 87)
  else if 'A' ≤ c && c ≤ 'F' then some (c.toNat - 55)
  else none

def hexChar? (digits : List Nat) : Option Char :=
  let n := digits.foldl (fun n d => n * 16 + d) 0
  if h : n.isValidChar then some ⟨n.toUInt32, by
    have hlt : n < 1114112 := by
      rcases h with h | h <;> omega
    simp only [UInt32.isValidChar, Nat.toUInt32, UInt32.toNat_ofNat']
    rwa [Nat.mod_eq_of_lt (by omega)]⟩
  else none

def fixedDigits : Nat → List Nat → Cursor → Except Error (List Nat × Cursor)
  | 0, acc, c => .ok (acc.reverse, c)
  | n + 1, acc, c =>
    match c.peek? with
    | none => failAt .escapeUnexpectedEnd c.here
    | some x =>
      match hexDigit? x with
      | none => failAt .escapeHexInvalidDigit c.span
      | some d => fixedDigits n (d :: acc) c.next

/-- Hexadecimal digits up to the closing brace. -/
def bracedDigits (brace : Position) : Nat → List Nat → Cursor → Except Error (List Nat × Cursor)
  | 0, _, c => failAt .escapeUnexpectedEnd (c.since brace)
  | n + 1, acc, c =>
    match c.peek? with
    | none => failAt .escapeUnexpectedEnd (c.since brace)
    | some '\x7d' => .ok (acc.reverse, c)
    | some x =>
      match hexDigit? x with
      | none => failAt .escapeHexInvalidDigit c.span
      | some d => bracedDigits brace n (d :: acc) c.next

/-- A character by its number, behind the letter at the cursor. -/
def hexLiteral (start : Position) (count : Nat) (c : Cursor) : Except Error (Literal × Cursor) := do
  let c := c.next
  match c.peek? with
  | none => failAt .escapeUnexpectedEnd c.here
  | some '\x7b' =>
    let brace := c.position
    let content := c.skip.position
    let (digits, c) ← bracedDigits brace (c.rest.length + 1) [] c.next
    let stop := c.position
    let c := c.next
    if digits.isEmpty then failAt .escapeHexEmpty (c.since brace)
    else
      match hexChar? digits with
      | none => failAt .escapeHexInvalid ⟨content, stop⟩
      | some x => return (⟨c.since start, x, false⟩, c)
  | some _ =>
    let first := c.position
    let (digits, c) ← fixedDigits count [] c
    match hexChar? digits with
    | none => failAt .escapeHexInvalid (c.since first)
    | some x => return (⟨c.since start, x, count = 2⟩, c)

/-- Splits a text at the first place where a sign stands. -/
def splitAtSign? (sign : List Char) : List Char → List Char → Option (List Char × List Char)
  | _, [] => none
  | acc, c :: rest =>
    if sign.isPrefixOf (c :: rest) then some (acc.reverse, (c :: rest).drop sign.length)
    else splitAtSign? sign (c :: acc) rest

/-- The name of a class as it stands between braces. -/
def unicodeName (text : List Char) : UnicodeName :=
  match splitAtSign? ['!', '='] [] text with
  | some (name, value) => .valued true (String.ofList name) (String.ofList value)
  | none =>
    match (splitAtSign? [':'] [] text).orElse (fun _ => splitAtSign? ['='] [] text) with
    | some (name, value) => .valued false (String.ofList name) (String.ofList value)
    | none => .named (String.ofList text)

def unicodeClass (c : Cursor) : Except Error (UnicodeName × Cursor) := do
  let c := c.next
  match c.peek? with
  | none => failAt .escapeUnexpectedEnd c.here
  | some '\x7b' =>
    let (name, c) := c.next.takeWhile (· ≠ '\x7d') Cursor.next
    if c.atEnd then failAt .escapeUnexpectedEnd c.here
    else return (unicodeName name, c.skip)
  | some '\\' => failAt .unicodeClassInvalid c.span
  | some x => return (.named x.toString, c.next)

/-- What one character or escape stands for. -/
inductive Primitive where
  | literal (literal : Literal)
  | dot (span : Span)
  | assertion (span : Span) (kind : AssertionSyntax)
  | unicode (span : Span) (negated : Bool) (name : UnicodeName)
  | shorthand (span : Span) (negated : Bool) (kind : Shorthand)

/-- The classes with a letter of their own; a capital letter negates. -/
def shorthand? : Char → Option (Bool × Shorthand)
  | 'd' => some (false, .digit)
  | 'D' => some (true, .digit)
  | 's' => some (false, .blank)
  | 'S' => some (true, .blank)
  | 'w' => some (false, .word)
  | 'W' => some (true, .word)
  | _ => none

/-- The characters with a letter of their own. -/
def controlChar? : Char → Option Char
  | 'a' => some (Char.ofNat 7)
  | 'f' => some (Char.ofNat 12)
  | 't' => some '\t'
  | 'n' => some '\n'
  | 'r' => some '\r'
  | 'v' => some (Char.ofNat 11)
  | _ => none

def assertion? : Char → Option AssertionSyntax
  | 'A' => some .textStart
  | 'z' => some .textEnd
  | 'B' => some .wordInside
  | '<' => some .wordStart
  | '>' => some .wordEnd
  | _ => none

def wordEdge? : String → Option AssertionSyntax
  | "start" => some .wordStart
  | "end" => some .wordEnd
  | "start-half" => some .wordStartHalf
  | "end-half" => some .wordEndHalf
  | _ => none

/-- The kind of a word edge, behind its letter. A brace that begins no name is
left for a repetition. -/
def wordEdge (start : Position) (c : Cursor) : Except Error (AssertionSyntax × Cursor) := do
  if c.peek? ≠ some '\x7b' then return (.wordEdge, c)
  else
    let isNameChar := fun (x : Char) => x.isAlpha || x = '-'
    let content := c.next
    match content.peek? with
    | none => failAt .wordBoundaryUnexpectedEnd (content.since start)
    | some x =>
      if !isNameChar x then return (.wordEdge, c)
      else
        let (name, d) := content.takeWhile isNameChar Cursor.next
        if d.peek? ≠ some '\x7d' then failAt .wordBoundaryUnclosed (d.since c.position)
        else
          match wordEdge? (String.ofList name) with
          | none => failAt .wordBoundaryUnrecognized (d.since content.position)
          | some kind => return (kind, d.skip)

/-- An escape, from its backslash. -/
def escape (c : Cursor) : Except Error (Primitive × Cursor) := do
  let start := c.position
  let c := c.skip
  match c.peek? with
  | none => failAt .escapeUnexpectedEnd (c.since start)
  | some x =>
    let behind := c.skip
    if x.isDigit then failAt .backreference (behind.since start)
    else if x = 'x' || x = 'u' || x = 'U' then
      let (literal, c) ← hexLiteral start (if x = 'x' then 2 else if x = 'u' then 4 else 8) c
      return (.literal literal, c)
    else if x = 'p' || x = 'P' then
      let (name, c) ← unicodeClass c
      return (.unicode (c.since start) (x = 'P') name, c)
    else
      let span := behind.since start
      match shorthand? x, controlChar? x, assertion? x with
      | some (negated, kind), _, _ => return (.shorthand span negated kind, behind)
      | _, some control, _ => return (.literal ⟨span, control, false⟩, behind)
      | _, _, some kind => return (.assertion span kind, behind)
      | none, none, none =>
        if x = 'b' then
          let (kind, c) ← wordEdge start behind
          return (.assertion (c.since start) kind, c)
        else if isEscapable x then return (.literal ⟨span, x, false⟩, behind)
        else failAt .escapeUnrecognized span

/-! ## Bracketed classes -/

/-- A bracketed class that has been opened: its span up to its content, whether it is negated, and
where its first item stands. -/
structure Opening where
  span : Span
  negated : Bool
  place : Position

/-- Dashes at the head of a class stand for themselves. -/
def leadingDashes (start : Position) :
    Nat → List ClassSyntax → Cursor → Except Error (List ClassSyntax × Cursor)
  | 0, acc, c => .ok (acc, c)
  | n + 1, acc, c =>
    match c.peek? with
    | none => failAt .classUnclosed ⟨start, start⟩
    | some '-' =>
      let behind := c.next
      if behind.atEnd then failAt .classUnclosed ⟨start, start⟩
      else leadingDashes start n (.literal ⟨c.span, '-', false⟩ :: acc) behind
    | some _ => .ok (acc, c)

/-- The head of a class, from its bracket: its sign, dashes, and a closing bracket that stands for
itself because nothing comes before it. The items found are given last first. -/
def classOpening (c : Cursor) : Except Error (Opening × List ClassSyntax × Cursor) := do
  let start := c.position
  let c := c.next
  if c.atEnd then failAt .classUnclosed (c.since start)
  else
    let negated := c.peek? = some '^'
    let c := if negated then c.next else c
    if c.atEnd then failAt .classUnclosed (c.since start)
    else
      let place := c.position
      let (items, c) ← leadingDashes start c.rest.length [] c
      if items.isEmpty && c.peek? = some ']' then
        let behind := c.next
        if behind.atEnd then failAt .classUnclosed (behind.since start)
        else return (⟨behind.since start, negated, place⟩, [.literal ⟨c.span, ']', false⟩], behind)
      else return (⟨c.since start, negated, place⟩, items, c)

/-- A named ASCII class such as `[:alpha:]`, if one stands at the cursor. -/
def asciiClass? (c : Cursor) : Option (ClassSyntax × Cursor) := do
  let start := c.position
  let c ← c.skipText? "[:"
  let negated := c.peek? = some '^'
  let c := if negated then c.skip else c
  let (name, c) := c.takeWhile (· ≠ ':') Cursor.skip
  let name := String.ofList name
  let behind ← c.skipText? ":]"
  let _ ← Pattern.asciiClass? name
  return (.ascii (behind.since start) negated name, behind)

def classPrimitive (c : Cursor) : Except Error (Primitive × Cursor) :=
  match c.peek? with
  | some '\\' => escape c
  | some x => .ok (.literal ⟨c.span, x, false⟩, c.skip)
  | none => failAt .classUnclosed c.here

def Primitive.item : Primitive → Except Error ClassSyntax
  | literal l => .ok (.literal l)
  | shorthand span negated kind => .ok (.shorthand span negated kind)
  | unicode span negated name => .ok (.unicode span negated name)
  | dot span | assertion span _ => failAt .classEscapeInvalid span

def Primitive.span : Primitive → Span
  | literal l => l.span
  | dot span | assertion span _ | unicode span _ _ | shorthand span _ _ => span

def Primitive.literal? : Primitive → Except Error Literal
  | literal l => .ok l
  | other => failAt .classRangeLiteral other.span

/-- An item of a class, or a range between two. -/
def classRange (unclosed : Span) (c : Cursor) : Except Error (ClassSyntax × Cursor) := do
  let (first, c) ← classPrimitive c
  let c := c.skipBlanks
  if c.atEnd then failAt .classUnclosed unclosed
  else
    let behind := c.next
    if c.peek? ≠ some '-' || behind.peek? = some ']' || behind.peek? = some '-' then
      return (← first.item, c)
    else if behind.atEnd then failAt .classUnclosed unclosed
    else
      let (last, c) ← classPrimitive behind
      let low ← first.literal?
      let high ← last.literal?
      if high.c < low.c then failAt .classRangeInvalid ⟨low.span.start, high.span.stop⟩
      else return (.range low high, c)

/-- The items of a class that begins at a place, given last first, as one. -/
def ofItems (place : Position) : List ClassSyntax → ClassSyntax
  | [] => .empty place
  | [item] => item
  | last :: items =>
    .union ⟨((last :: items).getLastD last).span.start, last.span.stop⟩ (last :: items).reverse

/-- What stands left of an operator. -/
structure LeftOperand where
  operator : ClassOperator
  operand : ClassSyntax

def combine (left : Option LeftOperand) (right : ClassSyntax) : ClassSyntax :=
  match left with
  | none => right
  | some left =>
    .operation ⟨left.operand.span.start, right.span.stop⟩ left.operator left.operand right

def classOperator? (c : Cursor) : Option ClassOperator :=
  if c.at? "&&" then some .intersection
  else if c.at? "--" then some .difference
  else if c.at? "~~" then some .symmetricDifference
  else none

/-- The content of a class behind its opening, up to and past its closing bracket. The items found
since `place` are given last first. -/
def classContent (opening : Opening) :
    Nat → Option LeftOperand → Position → List ClassSyntax → Cursor →
    Except Error (ClassSyntax × Cursor)
  | 0, _, _, _, _ => failAt .classUnclosed opening.span
  | n + 1, left, place, items, c => do
    let c := c.skipBlanks
    match c.peek? with
    | none => failAt .classUnclosed opening.span
    | some ']' =>
      let content := combine left (ofItems place items)
      return (.bracketed ⟨opening.span.start, c.skip.position⟩ opening.negated content, c.skip)
    | some '[' =>
      match asciiClass? c with
      | some (item, c) => classContent opening n left place (item :: items) c
      | none =>
        let (inner, found, c) ← classOpening c
        let (item, c) ← classContent inner n none inner.place found c
        classContent opening n left place (item :: items) c
    | some _ =>
      match classOperator? c with
      | some operator =>
        let behind := c.skipMany 2
        classContent opening n (some ⟨operator, combine left (ofItems place items)⟩) behind.position
          [] behind
      | none =>
        let (item, c) ← classRange opening.span c
        classContent opening n left place (item :: items) c

/-! ## Repetitions -/

def isRepeatable : PatternSyntax → Bool
  | .empty | .flags _ => false
  | _ => true

def startOf : PatternSyntax → Option Position
  | .literal l => some l.span.start
  | .dot span | .assertion span _ | .unicode span _ _ | .shorthand span _ _ | .bracketed span _ _
  | .repetition span _ _ _ _ | .group span _ _ _ | .alternation span _ | .concat span _ =>
    some span.start
  | .empty | .flags _ => none

def decimal (c : Cursor) : Except Error (Option Nat × Span × Cursor) :=
  let c := (c.takeWhile Unicode.isBlank Cursor.skip).2
  let start := c.position
  let (digits, c) := c.takeWhile Char.isDigit Cursor.next
  let span := c.since start
  let c := (c.takeWhile Unicode.isBlank Cursor.next).2
  let n := digits.foldl (fun n d => n * 10 + (d.toNat - 48)) 0
  if digits.isEmpty then .ok (none, span, c)
  else if n < 4294967296 then .ok (some n, span, c)
  else failAt .decimalInvalid span

/-- The bounds between braces, from the opening brace, and the cursor at the closing one. -/
def bounds (c : Cursor) : Except Error (Nat × Option Nat × Cursor) := do
  let start := c.position
  let c := c.next
  if c.atEnd then failAt .repetitionCountUnclosed (c.since start)
  else
    let trimmed := (c.takeWhile Unicode.isBlank Cursor.skip).2
    let digits := (trimmed.takeWhile Char.isDigit Cursor.next).2
    let first := decimal c
    let behind := match first with
      | .ok (_, _, c) => c
      | .error _ => (digits.takeWhile Unicode.isBlank Cursor.next).2
    let least : Except Error Nat := do
      match ← first with
      | (some n, _, _) => return n
      | (none, span, _) => failAt .repetitionCountDecimalEmpty span
    if behind.atEnd then failAt .repetitionCountUnclosed (behind.since start)
    else
      let (least, most, c) ←
        if behind.peek? = some ',' then
          let c := behind.next
          if c.atEnd then failAt .repetitionCountUnclosed (c.since start)
          else if c.peek? = some '\x7d' then
            let least ← least
            pure (least, none, c)
          else
            let least ← least
            match ← decimal c with
            | (some most, _, c) => pure (least, some most, c)
            | (none, span, _) => failAt .repetitionCountDecimalEmpty span
        else
          let least ← least
          pure (least, some least, behind)
      if c.peek? = some '\x7d' then return (least, most, c)
      else failAt .repetitionCountUnclosed (c.since start)

/-- Repeats the last part found; `c` stands behind the operator, which begins at `operator`. -/
def repeatLast (least : Nat) (most : Option Nat) (parts : List PatternSyntax) (operator : Cursor)
    (c : Cursor) :
    Except Error (List PatternSyntax × Cursor) :=
  match parts with
  | part :: rest =>
    if isRepeatable part then
      let greedy := c.peek? ≠ some '?'
      let c := if greedy then c else c.skip
      let start := (startOf part).getD operator.position
      .ok (.repetition (c.since start) least most greedy part :: rest, c)
    else failAt .repetitionMissing operator.here
  | [] => failAt .repetitionMissing operator.here

/-- A counted repetition of the last part found. -/
def repeatCounted (parts : List PatternSyntax) (operator : Cursor) :
    Except Error (List PatternSyntax × Cursor) := do
  match parts with
  | [] => failAt .repetitionMissing operator.here
  | part :: _ =>
    if !isRepeatable part then failAt .repetitionMissing operator.here
    else
      let (least, most, c) ← bounds operator
      let (parts, c) ← repeatLast least most parts operator c.next
      match most with
      | some most =>
        if most < least then failAt .repetitionCountInvalid (c.since operator.position)
        else return (parts, c)
      | none => return (parts, c)

/-! ## Groups -/

def isNameStart (c : Char) : Bool := c = '_' || Unicode.isAlphabetic c

def isNameChar (c : Char) : Bool :=
  c = '_' || c = '.' || c = '[' || c = ']' || Unicode.isAlphabetic c || Unicode.isNumeric c

def groupName (c : Cursor) : Except Error Cursor := do
  let start := c.position
  let valid := match c.rest with
    | x :: rest =>
      if isNameStart x then (rest.takeWhile isNameChar).length + 1 else 0
    | [] => 0
  let stop := c.skipMany valid
  match stop.peek? with
  | none => failAt .groupNameUnexpectedEnd stop.here
  | some '>' =>
    let name := String.ofList (c.rest.take valid)
    let span := stop.since start
    if valid = 0 then failAt .groupNameEmpty ⟨start, start⟩
    else
      match c.names.lookup name with
      | some earlier => fail .groupNameDuplicate span (some earlier)
      | none => return { stop.skip with names := (name, span) :: c.names }
  | some _ => failAt .groupNameInvalid stop.span

/-- The switches of a group, with their spans, up to the sign that ends them. -/
def flagItems : Nat → List (FlagItem × Span) → Cursor →
    Except Error (List (FlagItem × Span) × Cursor)
  | 0, _, c => failAt .flagUnexpectedEnd c.here
  | n + 1, found, c =>
    match c.peek? with
    | none => failAt .flagUnexpectedEnd c.here
    | some x =>
      if x = ':' || x = ')' then
        match found with
        | (.negation, span) :: _ => failAt .flagDanglingNegation span
        | _ => .ok (found.reverse, c)
      else
        let item : Option FlagItem := if x = '-' then some .negation else (Flag.ofChar? x).map .flag
        match item with
        | none => failAt .flagUnrecognized c.span
        | some item =>
          match found.find? fun other => other.1 = item with
          | some (_, earlier) =>
            fail (if item = .negation then .flagRepeatedNegation else .flagDuplicate) c.span
              (some earlier)
          | none =>
            let behind := c.skip
            if behind.atEnd then failAt .flagUnexpectedEnd behind.here
            else flagItems n ((item, c.span) :: found) behind

/-- What an opening parenthesis begins: switches for what follows, or a group with its own. -/
inductive GroupHead where
  | flags (items : List FlagItem)
  | group (items : List FlagItem) (captures : Bool)

def groupHead (c : Cursor) : Except Error (GroupHead × Cursor) := do
  let parenthesis := c.span
  let c := c.next
  match ["?=", "?!", "?<=", "?<!"].find? c.at? with
  | some look => failAt .lookAround ((c.skipMany look.length).since parenthesis.start)
  | none =>
    match (c.skipText? "?P<").orElse fun _ => c.skipText? "?<" with
    | some named => return (.group [] true, ← groupName named)
    | none =>
      match c.skipText? "?" with
      | none => return (.group [] true, c)
      | some d =>
        if d.atEnd then failAt .groupUnclosed parenthesis
        else
          let (items, d) ← flagItems (d.rest.length + 1) [] d
          let items := items.map (·.1)
          if d.peek? = some ')' then
            if items.isEmpty then failAt .repetitionMissing c.here
            else return (.flags items, d.skip)
          else return (.group items false, d.skip)

/-! ## Whole patterns -/

/-- Parts, given last first, as one. -/
def concat (start stop : Position) : List PatternSyntax → PatternSyntax
  | [] => .empty
  | [part] => part
  | parts => .concat ⟨start, stop⟩ parts.reverse

/-- The branches of an alternation, the last one apart. -/
structure Branches where
  start : Position
  earlier : List PatternSyntax

/-- The branches as one, now that the last one ends. -/
def Branches.close (branches : Branches) (stop : Position) (last : PatternSyntax) : PatternSyntax :=
  match branches.earlier with
  | [] => last
  | earlier => .alternation ⟨branches.start, stop⟩ (last :: earlier).reverse

def Primitive.part : Primitive → PatternSyntax
  | literal l => .literal l
  | dot span => .dot span
  | assertion span kind => .assertion span kind
  | unicode span negated name => .unicode span negated name
  | shorthand span negated kind => .shorthand span negated kind

/-- The next part that is neither a group nor a class nor a repetition. -/
def primitive (c : Cursor) (x : Char) : Except Error (Primitive × Cursor) :=
  match x with
  | '\\' => escape c
  | '.' => .ok (.dot c.span, c.skip)
  | '^' => .ok (.assertion c.span .lineStart, c.skip)
  | '$' => .ok (.assertion c.span .lineEnd, c.skip)
  | x => .ok (.literal ⟨c.span, x, false⟩, c.skip)

/-- Reads up to the end of the group opened at `opened`, or of the pattern. The cursor of the result
stands at the closing parenthesis. -/
def body (opened : Option Span) :
    Nat → Branches → Position → List PatternSyntax → Cursor → Except Error (PatternSyntax × Cursor)
  | 0, _, _, _, c => failAt .groupUnclosed c.here
  | n + 1, branches, start, parts, c => do
    let c := c.skipBlanks
    let finish := branches.close c.position (concat start c.position parts)
    match c.peek? with
    | none =>
      match opened with
      | some span => failAt .groupUnclosed span
      | none => return (finish, c)
    | some ')' =>
      match opened with
      | some _ => return (finish, c)
      | none => failAt .groupUnopened c.span
    | some '|' =>
      let branches : Branches :=
        ⟨if branches.earlier.isEmpty then start else branches.start,
          concat start c.position parts :: branches.earlier⟩
      body opened n branches c.skip.position [] c.skip
    | some '(' =>
      let span := c.span
      let (head, inner) ← groupHead c
      match head with
      | .flags items =>
        let verbose := (flagState? .verbose false items).getD inner.verbose
        body opened n branches start (.flags items :: parts) { inner with verbose }
      | .group items captures =>
        let verbose := (flagState? .verbose false items).getD inner.verbose
        let (content, closing) ←
          body (some span) n ⟨inner.position, []⟩ inner.position [] { inner with verbose }
        let outer := { closing.skip with verbose := inner.verbose }
        body opened n branches start
          (.group (outer.since span.start) items captures content :: parts) outer
    | some '[' =>
      let (opening, items, inner) ← classOpening c
      let (content, outer) ←
        classContent opening (inner.rest.length + 1) none opening.place items inner
      match content with
      | .bracketed span negated content =>
        body opened n branches start (.bracketed span negated content :: parts) outer
      | _ => body opened n branches start parts outer
    | some '?' =>
      let (parts, c) ← repeatLast 0 (some 1) parts c c.skip
      body opened n branches start parts c
    | some '*' =>
      let (parts, c) ← repeatLast 0 none parts c c.skip
      body opened n branches start parts c
    | some '+' =>
      let (parts, c) ← repeatLast 1 none parts c c.skip
      body opened n branches start parts c
    | some '\x7b' =>
      let (parts, c) ← repeatCounted parts c
      body opened n branches start parts c
    | some x =>
      let (part, c) ← primitive c x
      body opened n branches start (part.part :: parts) c

end Read

/-! ## Nesting -/

def deeper (span : Span) (depth : Nat) : Except Error Nat :=
  if nestLimit ≤ depth then failAt .nestLimitExceeded span else .ok (depth + 1)

mutual

def ClassSyntax.checkDepth (depth : Nat) : ClassSyntax → Except Error Unit
  | .bracketed span _ content => do
    let depth ← deeper span depth
    content.checkDepth depth
  | .union span items => do
    let depth ← deeper span depth
    ClassSyntax.checkDepths depth items
  | .operation span _ left right => do
    let depth ← deeper span depth
    left.checkDepth depth
    right.checkDepth depth
  | _ => .ok ()

def ClassSyntax.checkDepths (depth : Nat) : List ClassSyntax → Except Error Unit
  | [] => .ok ()
  | item :: rest => do
    item.checkDepth depth
    ClassSyntax.checkDepths depth rest

end

mutual

def PatternSyntax.checkDepth (depth : Nat) : PatternSyntax → Except Error Unit
  | .bracketed span _ content => do
    let depth ← deeper span depth
    content.checkDepth depth
  | .repetition span _ _ _ part | .group span _ _ part => do
    let depth ← deeper span depth
    part.checkDepth depth
  | .alternation span parts | .concat span parts => do
    let depth ← deeper span depth
    PatternSyntax.checkDepths depth parts
  | _ => .ok ()

def PatternSyntax.checkDepths (depth : Nat) : List PatternSyntax → Except Error Unit
  | [] => .ok ()
  | part :: rest => do
    part.checkDepth depth
    PatternSyntax.checkDepths depth rest

end

def PatternSyntax.read (text : String) : Except Error PatternSyntax := do
  let c := Cursor.ofString text
  let (parts, _) ← Read.body none (c.rest.length + 1) ⟨c.position, []⟩ c.position [] c
  parts.checkDepth 0
  return parts

end Workflow.Pattern
