import Workflow.Decimal.Read
import Workflow.Json.Basic

/-!
# Reading JSON text

`Json.read?` accepts exactly one value between blanks. A key written twice keeps its first place and
its last value. Values nested deeper than 127 levels, numbers beyond the range of floats, raw
control characters and lone surrogates are refused.
-/

namespace Workflow.Json.Reader

/-- A reading step: a result and what follows it, or a refusal. -/
abbrev Step (α : Type) := Option (α × List Char)

def isBlank (c : Char) : Bool := c = ' ' || c = '\n' || c = '\t' || c = '\r'

def skipBlanks (cs : List Char) : List Char := cs.dropWhile isBlank

/-- Greatest natural number kept while digits are read. -/
def digitBound : Nat := 18446744073709551615

/-- Takes digits while the number they form stays within 64 bits. Gives the number, how many digits
were taken, and the rest. -/
def takeFitting : List Char → Nat → Nat → Nat × Nat × List Char
  | [], value, count => (value, count, [])
  | c :: rest, value, count =>
    match Decimal.digit? c with
    | some d =>
      if 10 * value + d ≤ digitBound then takeFitting rest (10 * value + d) (count + 1)
      else (value, count, c :: rest)
    | none => (value, count, c :: rest)

def floatResult (negative : Bool) (rest : List Char) (value : Option Float) : Step Json :=
  value.map fun x => (.num (.float (if negative then -x else x)), rest)

/-- Reads behind the `e` of an exponent. -/
def exponent (negative : Bool) (value : Nat) (start : Int) (cs : List Char) : Step Json :=
  let (negativeExponent, digits) := Decimal.sign cs
  let run := digits.takeWhile Decimal.isDigit
  let rest := digits.dropWhile Decimal.isDigit
  if run.isEmpty then none
  else
    let e := Decimal.ofDigits run
    if 2147483647 < e then
      if value ≠ 0 && !negativeExponent then none else floatResult negative rest (some 0)
    else floatResult negative rest
      (Decimal.scaled value (if negativeExponent then start - e else start + e))

/-- Reads an exponent if one follows, and makes the float. -/
def afterDigits (negative : Bool) (value : Nat) (scale : Int) : List Char → Step Json
  | 'e' :: rest => exponent negative value scale rest
  | 'E' :: rest => exponent negative value scale rest
  | rest => floatResult negative rest (Decimal.scaled value scale)

/-- Reads behind a decimal point. Digits that no longer fit are dropped. -/
def fraction (negative : Bool) (value : Nat) (scale : Int) (cs : List Char) : Step Json :=
  let (value, count, rest) := takeFitting cs value 0
  let tail := rest.dropWhile Decimal.isDigit
  if count = 0 && tail.length = rest.length then none
  else afterDigits negative value (scale - count) tail

def number (negative : Bool) (cs : List Char) : Step Json :=
  let (value, count, rest) := takeFitting cs 0 0
  let more := rest.takeWhile Decimal.isDigit
  let tail := rest.dropWhile Decimal.isDigit
  if count = 0 then none
  else if cs.head? = some '0' && (count ≠ 1 || !more.isEmpty) then none
  else match tail with
    | '.' :: after => fraction negative value more.length after
    | 'e' :: after => exponent negative value more.length after
    | 'E' :: after => exponent negative value more.length after
    | _ =>
      if !more.isEmpty then floatResult negative tail (Decimal.scaled value more.length)
      else if !negative then some (.int value, tail)
      else if 0 < value && value ≤ 9223372036854775808 then some (.int (-(value : Int)), tail)
      else floatResult true tail (some (Float.ofNat value))

def hexValue? (c : Char) : Option Nat :=
  if '0' ≤ c && c ≤ '9' then some (c.toNat - '0'.toNat)
  else if 'a' ≤ c && c ≤ 'f' then some (c.toNat - 'a'.toNat + 10)
  else if 'A' ≤ c && c ≤ 'F' then some (c.toNat - 'A'.toNat + 10)
  else none

/-- Value of four hexadecimal digits. -/
def hex4? (a b c d : Char) : Option Nat := do
  let digits ← [a, b, c, d].mapM hexValue?
  return digits.foldl (fun n x => 16 * n + x) 0

def simpleEscape? : Char → Option Char
  | '"' => some '"'
  | '\\' => some '\\'
  | '/' => some '/'
  | 'b' => some (Char.ofNat 8)
  | 'f' => some (Char.ofNat 12)
  | 'n' => some '\n'
  | 'r' => some '\r'
  | 't' => some '\t'
  | _ => none

/-- Reads the rest of a string; `acc` holds its characters backwards. -/
def string (acc : List Char) : List Char → Step String
  | [] => none
  | '"' :: rest => some (String.ofList acc.reverse, rest)
  | '\\' :: 'u' :: a :: b :: c :: d :: '\\' :: 'u' :: e :: f :: g :: h :: rest =>
    match hex4? a b c d, hex4? e f g h with
    | some high, some low =>
      if 0xd800 ≤ high && high < 0xdc00 then
        if 0xdc00 ≤ low && low < 0xe000 then
          string (Char.ofNat (0x10000 + (high - 0xd800) * 0x400 + (low - 0xdc00)) :: acc) rest
        else none
      else if 0xdc00 ≤ high && high < 0xe000 then none
      else string (Char.ofNat high :: acc) ('\\' :: 'u' :: e :: f :: g :: h :: rest)
    | some unit, none =>
      if 0xd800 ≤ unit && unit < 0xe000 then none
      else string (Char.ofNat unit :: acc) ('\\' :: 'u' :: e :: f :: g :: h :: rest)
    | none, _ => none
  | '\\' :: 'u' :: a :: b :: c :: d :: rest =>
    match hex4? a b c d with
    | some unit =>
      if 0xd800 ≤ unit && unit < 0xe000 then none else string (Char.ofNat unit :: acc) rest
    | none => none
  | '\\' :: c :: rest =>
    match simpleEscape? c with
    | some plain => string (plain :: acc) rest
    | none => none
  | c :: rest => if c.toNat < 32 then none else string (c :: acc) rest
termination_by cs => cs.length

def word (expected : String) (json : Json) (cs : List Char) : Step Json :=
  let letters := expected.toList
  if letters.isPrefixOf cs then some (json, cs.drop letters.length) else none

mutual

/-- Reads a value; `depth` levels of nesting are still allowed. Every call consumes a character, so
the length of the text suffices as `fuel`. -/
def value (fuel depth : Nat) (cs : List Char) : Step Json :=
  match fuel with
  | 0 => none
  | fuel + 1 =>
    match skipBlanks cs with
    | 'n' :: rest => word "ull" .null rest
    | 't' :: rest => word "rue" (.bool true) rest
    | 'f' :: rest => word "alse" (.bool false) rest
    | '"' :: rest => (string [] rest).map fun (s, tail) => (.str s, tail)
    | '-' :: rest => number true rest
    | '[' :: rest =>
      match depth with
      | 0 => none
      | depth + 1 =>
        match skipBlanks rest with
        | ']' :: tail => some (.arr [], tail)
        | _ => (items fuel depth rest).map fun (xs, tail) => (.arr xs, tail)
    | '{' :: rest =>
      match depth with
      | 0 => none
      | depth + 1 =>
        match skipBlanks rest with
        | '}' :: tail => some (.obj [], tail)
        | _ => (fields fuel depth [] rest).map fun (xs, tail) => (.obj xs, tail)
    | rest => number false rest

def items (fuel depth : Nat) (cs : List Char) : Step (List Json) :=
  match fuel with
  | 0 => none
  | fuel + 1 =>
    match value fuel depth cs with
    | none => none
    | some (item, rest) =>
      match skipBlanks rest with
      | ',' :: tail => (items fuel depth tail).map fun (xs, tail) => (item :: xs, tail)
      | ']' :: tail => some ([item], tail)
      | _ => none

def fields (fuel depth : Nat) (found : Entries Json) (cs : List Char) : Step (Entries Json) :=
  match fuel with
  | 0 => none
  | fuel + 1 =>
    match skipBlanks cs with
    | '"' :: rest =>
      match string [] rest with
      | none => none
      | some (key, rest) =>
        match skipBlanks rest with
        | ':' :: rest =>
          match value fuel depth rest with
          | none => none
          | some (json, rest) =>
            match skipBlanks rest with
            | ',' :: tail => fields fuel depth (found.insert key json) tail
            | '}' :: tail => some (found.insert key json, tail)
            | _ => none
        | _ => none
    | _ => none

end

end Reader

def read? (text : String) : Option Json :=
  let cs := text.toList
  match Reader.value (cs.length + 1) 127 cs with
  | some (json, rest) => if (Reader.skipBlanks rest).isEmpty then some json else none
  | none => none

end Workflow.Json
