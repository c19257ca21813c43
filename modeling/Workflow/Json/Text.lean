import Workflow.Decimal.Text
import Workflow.Json.Basic

/-!
# JSON text

Values are written compactly: no blanks, fields in order, only quotes, backslashes and control
characters escaped.
-/

namespace Workflow

def Number.text : Number → String
  | .int n => toString n
  | .float x => FloatStyle.json.write x

namespace Json

def hexDigit (n : Nat) : Char := "0123456789abcdef".toList.getD n '0'

/-- A character as it stands inside a JSON string. -/
def escape (c : Char) : List Char :=
  if c = '"' then ['\\', '"']
  else if c = '\\' then ['\\', '\\']
  else if c = '\n' then ['\\', 'n']
  else if c = '\r' then ['\\', 'r']
  else if c = '\t' then ['\\', 't']
  else if c.toNat = 8 then ['\\', 'b']
  else if c.toNat = 12 then ['\\', 'f']
  else if c.toNat < 32 then ['\\', 'u', '0', '0', hexDigit (c.toNat / 16), hexDigit (c.toNat % 16)]
  else [c]

def quoted (s : String) : List Char :=
  '"' :: s.toList.flatMap escape ++ ['"']

mutual

/-- The compact text of a value, as characters. -/
def chars : Json → List Char
  | .null => "null".toList
  | .bool true => "true".toList
  | .bool false => "false".toList
  | .num n => n.text.toList
  | .str s => quoted s
  | .arr items => '[' :: charsItems items ++ [']']
  | .obj fields => '{' :: charsFields fields ++ ['}']

def charsItems : List Json → List Char
  | [] => []
  | [item] => chars item
  | item :: rest => chars item ++ ',' :: charsItems rest

def charsFields : List (String × Json) → List Char
  | [] => []
  | [(key, value)] => quoted key ++ ':' :: chars value
  | (key, value) :: rest => quoted key ++ ':' :: (chars value ++ ',' :: charsFields rest)

end

/-- The compact text of a value. -/
def text (json : Json) : String := String.ofList json.chars

end Json

end Workflow
