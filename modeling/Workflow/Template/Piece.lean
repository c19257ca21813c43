import Workflow.Unicode.Blank

/-!
# Templates

A template is text with references in it, each written `$` and then a path in braces. A reference
begins at the first such sign and ends at the next closing brace; a sign without one is plain text.
`Template.pieces` cuts a template into references and the text between them.
-/

namespace Workflow.Template

/-- A part of a template: plain text, or a reference by what stands between its braces. -/
inductive Piece where
  | text (chars : List Char)
  | reference (inner : List Char)
  deriving DecidableEq, Repr

def opening : List Char := ['$', '\x7b']

def closing : Char := '\x7d'

namespace Piece

def written : Piece → List Char
  | text chars => chars
  | reference inner => opening ++ inner ++ [closing]

end Piece

/-- Cuts a text. `before` is the plain text read so far in reverse, and `inside` what has been read
of a reference, in reverse, if one has begun. -/
def scan (before : List Char) (inside : Option (List Char)) : List Char → List Piece
  | [] =>
    let rest := match inside with
      | none => []
      | some inner => opening ++ inner.reverse
    [.text (before.reverse ++ rest)]
  | c :: rest =>
    match inside with
    | some inner =>
      if c = closing then .text before.reverse :: .reference inner.reverse :: scan [] none rest
      else scan before (some (c :: inner)) rest
    | none =>
      match c, rest with
      | '$', '\x7b' :: rest => scan before (some []) rest
      | c, rest => scan (c :: before) none rest

def pieces (template : String) : List Piece := scan [] none template.toList

/-- A reference in a template. -/
structure Token where
  /-- The text between the braces. -/
  inner : String
  deriving DecidableEq, Repr

namespace Token

def raw (t : Token) : String := "$\x7b" ++ t.inner ++ "\x7d"

def path (t : Token) : String := Unicode.trim t.inner

end Token

def Piece.token? : Piece → Option Token
  | .text _ => none
  | .reference inner => some ⟨String.ofList inner⟩

def tokens (template : String) : List Token := (pieces template).filterMap Piece.token?

/-- Writes a template with every reference replaced. -/
def substitute (replace : Token → String) (template : String) : String :=
  String.ofList <| (pieces template).flatMap fun
    | .text chars => chars
    | .reference inner => (replace ⟨String.ofList inner⟩).toList

end Workflow.Template
