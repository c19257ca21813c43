import Workflow.Decimal.Read
import Workflow.Json.Basic
import Workflow.Unicode.Blank

/-!
# Reference paths

A path is a name and the properties looked up below it, separated by dots. Blanks around its parts
do not count. Each part is a name or, behind the first, the index of an array item.
-/

namespace Workflow

def dotted (text : String) : List String := (text.toList.splitOn '.').map String.ofList

/-- The property of a value under a name; array items have their indexes as names. -/
def Json.property? (json : Json) (segment : String) : Option Json :=
  match json with
  | .obj fields => Entries.get? fields segment
  | .arr items => (Decimal.nat? segment).bind (items[·]?)
  | _ => none

/-- The value found below `json` by one property after the other, or the first
one that is missing. -/
def Json.follow (json : Json) : List String → Except String Json
  | [] => .ok json
  | segment :: rest =>
    match json.property? segment with
    | some next => next.follow rest
    | none => .error segment

namespace Template

/-- Whether a text is a name: a letter or underscore, then letters, digits and underscores. -/
def isName (text : String) : Bool :=
  match text.toList with
  | c :: rest => (c.isAlpha || c = '_') && rest.all fun c => c.isAlphanum || c = '_'
  | [] => false

def isIndex (text : String) : Bool := text ≠ "" && text.toList.all Char.isDigit

/-- The parts of a path, of which the first is a name. -/
def path? (path : String) : Option (String × List String) :=
  match (dotted path).map Unicode.trim with
  | head :: rest =>
    if isName head && rest.all (fun s => isName s || isIndex s) then some (head, rest) else none
  | [] => none

end Template

end Workflow
