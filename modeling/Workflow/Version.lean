import Workflow.Unicode.Class

/-!
# Semantic versions

A version is three numbers between dots, without leading zeros and below `2 ^ 64`.
-/

namespace Workflow

/-- The numbers of a version. -/
inductive Version.Part where
  | major
  | minor
  | patch
  deriving DecidableEq, Repr

inductive Version.Fault where
  | empty
  | unexpectedEnd (part : Part)
  | unexpected (part : Part) (c : Char)
  | unexpectedAfter (part : Part) (c : Char)
  | leadingZero (part : Part)
  | overflow (part : Part)
  deriving DecidableEq, Repr

structure Version where
  major : Nat
  minor : Nat
  patch : Nat
  deriving DecidableEq, Repr

namespace Version

def Part.text : Part → String
  | major => "major version number"
  | minor => "minor version number"
  | patch => "patch version number"

def Fault.message : Fault → String
  | empty => "empty string, expected a semver version"
  | unexpectedEnd part => s!"unexpected end of input while parsing {part.text}"
  | unexpected part c => s!"unexpected character {Unicode.quotedChar c} while parsing {part.text}"
  | unexpectedAfter part c => s!"unexpected character {Unicode.quotedChar c} after {part.text}"
  | leadingZero part => s!"invalid leading zero in {part.text}"
  | overflow part => s!"value of {part.text} exceeds u64::MAX"

def digits (part : Part) (value : Option Nat) : List Char → Except Fault (Nat × List Char)
  | [] =>
    match value with
    | some n => .ok (n, [])
    | none => .error (.unexpectedEnd part)
  | c :: rest =>
    if c.isDigit then
      if value = some 0 then .error (.leadingZero part)
      else
        let next := value.getD 0 * 10 + (c.toNat - 48)
        if next < 18446744073709551616 then digits part (some next) rest
        else .error (.overflow part)
    else
      match value with
      | some n => .ok (n, c :: rest)
      | none => .error (.unexpected part c)

def dot (part : Part) : List Char → Except Fault (List Char)
  | [] => .error (.unexpectedEnd part)
  | '.' :: rest => .ok rest
  | c :: _ => .error (.unexpectedAfter part c)

def read (text : String) : Except Fault Version :=
  match text.toList with
  | [] => .error .empty
  | cs => do
    let (major, cs) ← digits .major none cs
    let cs ← dot .major cs
    let (minor, cs) ← digits .minor none cs
    let cs ← dot .minor cs
    let (patch, cs) ← digits .patch none cs
    match cs with
    | [] => return ⟨major, minor, patch⟩
    | c :: _ => .error (.unexpectedAfter .patch c)

end Version

end Workflow
