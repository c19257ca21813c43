import Workflow.Decimal.Read
import Workflow.Template.Piece

/-!
# Templates without references

References can be masked by a stand-in, so that the text around them can be checked, or replaced by
their bare paths, as conditions write them.
-/

namespace Workflow.Template

/-- A part of a stand-in: plain text, or a group of the reference that it stands in for. Group 0 is
the whole reference and group 1 the text between its braces. -/
inductive StandIn where
  | text (chars : List Char)
  | group (name : String)
  deriving DecidableEq, Repr

namespace StandIn

/-- Characters of a group name outside braces. -/
def isNameChar (c : Char) : Bool := c.isAlphanum || c = '_'

/-- The parts of a stand-in. A dollar sign begins the name of a group, in braces
or not; two of them are one. -/
def read (fuel : Nat) (text : List Char) : List StandIn :=
  match fuel, text with
  | 0, _ => []
  | _, [] => []
  | n + 1, '$' :: '$' :: rest => .text ['$'] :: read n rest
  | n + 1, '$' :: '\x7b' :: rest =>
    match rest.dropWhile (· ≠ '\x7d') with
    | _ :: behind => .group (String.ofList (rest.takeWhile (· ≠ '\x7d'))) :: read n behind
    | [] => .text ['$'] :: read n ('\x7b' :: rest)
  | n + 1, '$' :: rest =>
    let name := rest.takeWhile isNameChar
    if name.isEmpty then .text ['$'] :: read n rest
    else .group (String.ofList name) :: read n (rest.drop name.length)
  | n + 1, c :: rest => .text [c] :: read n rest

/-- A part as it is written for a reference; a group that references do not have is empty. -/
def write (token : Token) : StandIn → String
  | text chars => String.ofList chars
  | group name =>
    match Decimal.nat? name with
    | some 0 => token.raw
    | some 1 => token.inner
    | _ => ""

end StandIn

/-- The template with a stand-in for every reference. -/
def mask (template standIn : String) : String :=
  let parts := StandIn.read (standIn.length + 1) standIn.toList
  substitute (fun token => String.join (parts.map (StandIn.write token))) template

/-- A path as a condition writes it: numbers behind the first part are indexes in brackets. -/
def barePath (path : String) : String :=
  let segments := (path.toList.splitOn '.').map Unicode.trimChars
  String.ofList <| (segments.zipIdx.map fun (segment, i) =>
    if i = 0 then segment
    else if segment.all Char.isDigit then '[' :: segment ++ [']']
    else '.' :: segment).flatten

/-- The template with the bare path of every reference in its place. -/
def unwrap (template : String) : String := substitute (fun token => barePath token.path) template

end Workflow.Template
