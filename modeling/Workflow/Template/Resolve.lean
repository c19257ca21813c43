import Workflow.Json.Text
import Workflow.Template.Path
import Workflow.Template.Piece

/-!
# Resolving references

The first part of a path chooses where it leads: to the facts about the run (`sys`), to the inputs
(`input` or `inputs`, or a declared name), or to the result of a step. A template that is one
reference and nothing else keeps the kind of value it leads to; any other is text.
-/

namespace Workflow.Template

/-- What references can lead to. -/
structure Scope where
  /-- Facts about the run. -/
  sys : Json
  /-- Whether an input of this name is declared. -/
  isDeclared : String → Bool
  /-- The value supplied for an input. -/
  input? : String → Option Json
  /-- The result of a step that has completed. -/
  result? : String → Option Json

/-- Why a reference leads nowhere. -/
inductive Fault where
  | malformed (path : String)
  | unresolved (path reason : String)
  | notFound (path segment : String)
  deriving DecidableEq, Repr

def referenceText (path : String) : String := "'$\x7b" ++ path ++ "\x7d'"

def Fault.message : Fault → String
  | malformed path => s!"malformed reference {referenceText path}"
  | unresolved path reason => s!"unresolved reference {referenceText path}: {reason}"
  | notFound path segment => s!"path not found: {referenceText path} has no '{segment}'"

namespace Scope

/-- The supplied value of an input. -/
def inputValue (scope : Scope) (path name : String) : Except Fault Json :=
  match scope.input? name with
  | some value => .ok value
  | none => .error (.unresolved path s!"input '{name}' was not provided")

/-- Where the first part of a path leads, and the parts that are left. -/
def root (scope : Scope) (path head : String) (rest : List String) :
    Except Fault (Json × List String) :=
  if head = "sys" then .ok (scope.sys, rest)
  else if head = "input" || head = "inputs" then
    match rest with
    | [] => .error (.unresolved path "no input name after the input namespace")
    | name :: rest => do return (← scope.inputValue path name, rest)
  else if scope.isDeclared head then do return (← scope.inputValue path head, rest)
  else
    match scope.result? head with
    | some value => .ok (value, rest)
    | none => .error (.unresolved path s!"no result for '{head}' in scope")

end Scope

/-- The value that a path leads to. -/
def resolvePath (scope : Scope) (path : String) : Except Fault Json :=
  match path? path with
  | none => .error (.malformed path)
  | some (head, rest) => do
    let (root, segments) ← scope.root path head rest
    match root.follow segments with
    | .ok value => .ok value
    | .error segment => .error (.notFound path segment)

/-- A value inside a text: strings as they are, anything else as JSON. -/
def valueText : Json → String
  | .str s => s
  | json => json.text

/-- Where a text first occurs in another: what stands before it there, and what stands behind it.
`seen` is what has been passed over, in reverse. -/
def locate (sought seen text : List Char) : Option (List Char × List Char) :=
  if sought.isPrefixOf text then some (seen.reverse, text.drop sought.length)
  else
    match text with
    | [] => none
    | c :: rest => locate sought (c :: seen) rest

/-- A template while values are put in the places of its references. -/
structure Splicing where
  /-- What has been written. -/
  written : List Char
  /-- What is left of the template. -/
  rest : List Char

namespace Splicing

/-- The turn of a reference: it is looked for in what is left of the template, and its value is
written in its place. -/
def turn? (scope : Scope) (s : Splicing) (token : Token) : Option (Except Fault Splicing) :=
  (locate token.raw.toList [] s.rest).map fun (before, behind) =>
    (resolvePath scope token.path).map fun value =>
      { written := s.written ++ before ++ (valueText value).toList, rest := behind }

/-- The turns of references, one after the other. A reference that is not found ends them. -/
def turns (scope : Scope) (s : Splicing) : List Token → Except Fault Splicing
  | [] => .ok s
  | token :: rest =>
    match s.turn? scope token with
    | none => .ok s
    | some next => do (← next).turns scope rest

/-- What has been written, and what is left behind it. -/
def text (s : Splicing) : String := String.ofList (s.written ++ s.rest)

end Splicing

/-- The template with values in the places of references. -/
def splice (scope : Scope) (template : String) (found : List Token) : Except Fault String :=
  (Splicing.turns scope ⟨[], template.toList⟩ found).map Splicing.text

/-- The template as text, with the values of its references in place. -/
def resolveString (scope : Scope) (template : String) : Except Fault String :=
  match tokens template with
  | [] => .ok template
  | found => splice scope template found

def resolveTemplate (scope : Scope) (template : String) : Except Fault Json :=
  match tokens template with
  | [] => .ok (.str template)
  | [only] =>
    if only.raw = template then resolvePath scope only.path
    else (splice scope template [only]).map .str
  | found => (splice scope template found).map .str

mutual

/-- A value with every string inside it resolved as a template; keys stay as they are. -/
def resolveValue (scope : Scope) : Json → Except Fault Json
  | .str s => resolveTemplate scope s
  | .arr items => do return .arr (← resolveItems scope items)
  | .obj fields => do return .obj (← resolveFields scope fields)
  | json => .ok json

def resolveItems (scope : Scope) : List Json → Except Fault (List Json)
  | [] => .ok []
  | item :: rest => do
    let item ← resolveValue scope item
    return item :: (← resolveItems scope rest)

def resolveFields (scope : Scope) : List (String × Json) → Except Fault (List (String × Json))
  | [] => .ok []
  | (key, value) :: rest => do
    let value ← resolveValue scope value
    return (key, value) :: (← resolveFields scope rest)

end

end Workflow.Template
