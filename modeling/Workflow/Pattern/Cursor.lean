import Workflow.Pattern.Syntax
import Workflow.Unicode.Blank

/-!
# The unread rest of a pattern

A cursor knows its place, whether blanks and comments are left out, and which group names are taken.
-/

namespace Workflow.Pattern

/-- The unread rest of a pattern. -/
structure Cursor where
  rest : List Char
  position : Position
  verbose : Bool
  names : List (String × Span)
  deriving Inhabited

namespace Cursor

def ofString (text : String) : Cursor := ⟨text.toList, ⟨0, 1, 1⟩, false, []⟩

/-- The place behind one character. -/
def behind (p : Position) (c : Char) : Position :=
  if c = '\n' then ⟨p.offset + c.utf8Size, p.line + 1, 1⟩
  else ⟨p.offset + c.utf8Size, p.line, p.column + 1⟩

def skip (c : Cursor) : Cursor :=
  match c.rest with
  | [] => c
  | x :: rest => { c with rest, position := behind c.position x }

def skipMany (c : Cursor) (count : Nat) : Cursor := Nat.repeat skip count c

def atEnd (c : Cursor) : Bool := c.rest.isEmpty

def peek? (c : Cursor) : Option Char := c.rest.head?

/-- Whether a text stands at the cursor. -/
def at? (c : Cursor) (text : String) : Bool := text.toList.isPrefixOf c.rest

def skipText? (c : Cursor) (text : String) : Option Cursor :=
  if c.at? text then some (c.skipMany text.length) else none

/-- Moves past blanks, and past comments up to the end of their line. -/
def skipBlanksFrom : Nat → Bool → Cursor → Cursor
  | 0, _, c => c
  | n + 1, inComment, c =>
    match c.rest with
    | [] => c
    | x :: _ =>
      if inComment then skipBlanksFrom n (x ≠ '\n') c.skip
      else if Unicode.isBlank x then skipBlanksFrom n false c.skip
      else if x = '#' then skipBlanksFrom n true c.skip
      else c

/-- Moves past what a verbose pattern leaves out. -/
def skipBlanks (c : Cursor) : Cursor :=
  if c.verbose then skipBlanksFrom c.rest.length false c else c

/-- Moves past one character and what a verbose pattern leaves out behind it. -/
def next (c : Cursor) : Cursor := c.skip.skipBlanks

def here (c : Cursor) : Span := ⟨c.position, c.position⟩

def span (c : Cursor) : Span := ⟨c.position, c.skip.position⟩

def since (c : Cursor) (start : Position) : Span := ⟨start, c.position⟩

def skipWhileFrom (p : Char → Bool) (move : Cursor → Cursor) : Nat → Cursor → Cursor
  | 0, c => c
  | n + 1, c =>
    match c.rest with
    | x :: _ => if p x then skipWhileFrom p move n (move c) else c
    | [] => c

/-- The characters with a property that come next, and the cursor behind them. -/
def takeWhileFrom (p : Char → Bool) (move : Cursor → Cursor) :
    Nat → List Char → Cursor → List Char × Cursor
  | 0, acc, c => (acc.reverse, c)
  | n + 1, acc, c =>
    match c.rest with
    | x :: _ => if p x then takeWhileFrom p move n (x :: acc) (move c) else (acc.reverse, c)
    | [] => (acc.reverse, c)

/-- The characters with a property that come next; `move` goes past one of them. -/
def takeWhile (c : Cursor) (p : Char → Bool) (move : Cursor → Cursor) : List Char × Cursor :=
  takeWhileFrom p move c.rest.length [] c

end Cursor

def fail {α : Type} (fault : Fault) (span : Span) (earlier : Option Span) : Except Error α :=
  .error ⟨fault, span, earlier⟩

/-- Refuses a pattern for what stands at one place. -/
def failAt {α : Type} (fault : Fault) (span : Span) : Except Error α := fail fault span none

end Workflow.Pattern
