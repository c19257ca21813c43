import Workflow.Yaml.Problem

/-!
# Characters and positions

A cursor is the unread rest of a text with the position it starts at. Past the end it shows the
character zero, which no text may hold.
-/

namespace Workflow.Yaml

/-- The character shown past the end. -/
def endChar : Char := Char.ofNat 0

/-- Line breaks: carriage return, line feed, next line, and the two Unicode separators. -/
def isBreak (c : Char) : Bool :=
  let n := c.toNat
  n = 10 || n = 13 || n = 0x85 || n = 0x2028 || n = 0x2029

def isBlank (c : Char) : Bool := c = ' ' || c = '\t'

def isBreakOrEnd (c : Char) : Bool := isBreak c || c = endChar

def isBlankOrEnd (c : Char) : Bool := isBlank c || isBreakOrEnd c

/-- Letters, digits, underscore and dash: the characters of names. -/
def isNameChar (c : Char) : Bool := c.isAlphanum || c = '_' || c = '-'

/-- Brackets, braces and commas, which end plain text inside flow collections. -/
def isFlowIndicator (c : Char) : Bool := c = ',' || c = '[' || c = ']' || c = '\x7b' || c = '\x7d'

/-- The unread rest of a text and where it starts. -/
structure Cursor where
  rest : List Char
  mark : Mark
  deriving Inhabited

namespace Cursor

def ofList (text : List Char) : Cursor := ⟨text, ⟨0, 0, 0⟩⟩

/-- The character `offset` places ahead. -/
def peekAt (c : Cursor) (offset : Nat) : Char := c.rest.getD offset endChar

def peek (c : Cursor) : Char := c.rest.headD endChar

def advance (c : Cursor) (count : Nat) : Cursor :=
  ⟨c.rest.drop count, ⟨c.mark.index + count, c.mark.line, c.mark.column + count⟩⟩

def skip (c : Cursor) : Cursor := c.advance 1

/-- Moves past a line break, of which carriage return and line feed make one. -/
def skipBreak (c : Cursor) : Cursor :=
  match c.rest with
  | '\r' :: '\n' :: rest => ⟨rest, ⟨c.mark.index + 2, c.mark.line + 1, 0⟩⟩
  | b :: rest => if isBreak b then ⟨rest, ⟨c.mark.index + 1, c.mark.line + 1, 0⟩⟩ else c
  | [] => c

/-- The line break at the cursor as it goes into a scalar, and the cursor behind it. -/
def takeBreak (c : Cursor) : List Char × Cursor :=
  match c.rest with
  | b :: _ =>
    if b.toNat = 0x2028 || b.toNat = 0x2029 then ([b], c.skipBreak)
    else if isBreak b then (['\n'], c.skipBreak)
    else ([], c)
  | [] => ([], c)

/-- The longest run of characters with a property that no line break has, and
the cursor behind it. -/
def takeWhile (c : Cursor) (p : Char → Bool) : List Char × Cursor :=
  let run := c.rest.takeWhile p
  (run, c.advance run.length)

def skipWhile (c : Cursor) (p : Char → Bool) : Cursor := (c.takeWhile p).2

def skipComment (c : Cursor) : Cursor :=
  let c := c.skipWhile isBlank
  if c.peek = '#' then c.skipWhile (fun ch => !isBreakOrEnd ch) else c

/-- Whether a document marker (`---` or `...`) stands at the cursor. -/
def atMarker (c : Cursor) (sign : Char) : Bool :=
  c.mark.column = 0 && c.peek = sign && c.peekAt 1 = sign && c.peekAt 2 = sign &&
    isBlankOrEnd (c.peekAt 3)

def atAnyMarker (c : Cursor) : Bool := c.atMarker '-' || c.atMarker '.'

end Cursor

end Workflow.Yaml
