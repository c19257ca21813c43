import Workflow.Condition.Fault
import Workflow.Decimal.Read
import Workflow.Decimal.Text

/-!
# Tokens of conditions

A condition is a sequence of tokens with blanks between them. Tokens are read one by one, so a fault
in the characters shows only when the tokens before it make sense.
-/

namespace Workflow.Condition

/-- Signs and words with a meaning of their own. -/
inductive Sign where
  | operator (operator : Operator)
  | pipe
  | question
  | colon
  | comma
  | dot
  | openParen
  | closeParen
  | openBracket
  | closeBracket
  | openBrace
  | closeBrace
  deriving DecidableEq, Repr

inductive TokenKind where
  | sign (sign : Sign)
  | identifier (name : String)
  | string (text : String)
  | number (value : Float)
  | constant (value : Json)

/-- A token with its text and the places where it begins and ends. -/
structure Token where
  kind : TokenKind
  text : String
  start : Nat
  stop : Nat

/-- The end of the tokens: the end of the text, or a fault. -/
inductive Ending where
  | text
  | lexical (line column : Nat) (fault : LexicalFault)

structure Tokens where
  tokens : List Token
  ending : Ending

namespace Scan

/-- A place in a text. Columns count blanks twice, and so does a line start at its second column. -/
structure Place where
  offset : Nat
  line : Nat
  column : Nat

namespace Place

/-- The place behind text without blanks. -/
def move (p : Place) (count : Nat) : Place := ⟨p.offset + count, p.line, p.column + count⟩

def moveBlank (p : Place) (c : Char) : Place :=
  if c = '\n' then ⟨p.offset + 1, p.line + 1, 2⟩ else ⟨p.offset + 1, p.line, p.column + 2⟩

end Place

def isBlank (c : Char) : Bool := c = ' ' || (9 ≤ c.toNat && c.toNat ≤ 13)

def isNameStart (c : Char) : Bool := c.isAlpha || c = '_'

def isNameChar (c : Char) : Bool := c.isAlphanum || c = '_'

def pair? : Char → Char → Option Sign
  | '&', '&' => some (.operator .and)
  | '|', '|' => some (.operator .or)
  | '=', '=' => some (.operator .equal)
  | '!', '=' => some (.operator .notEqual)
  | '>', '=' => some (.operator .greaterEqual)
  | '<', '=' => some (.operator .lessEqual)
  | '/', '/' => some (.operator .floorDivide)
  | _, _ => none

def single? : Char → Option Sign
  | '>' => some (.operator .greater)
  | '<' => some (.operator .less)
  | '+' => some (.operator .add)
  | '-' => some (.operator .subtract)
  | '*' => some (.operator .multiply)
  | '/' => some (.operator .divide)
  | '%' => some (.operator .modulus)
  | '^' => some (.operator .power)
  | '|' => some .pipe
  | '?' => some .question
  | ':' => some .colon
  | ',' => some .comma
  | '.' => some .dot
  | '(' => some .openParen
  | ')' => some .closeParen
  | '[' => some .openBracket
  | ']' => some .closeBracket
  | '\x7b' => some .openBrace
  | '\x7d' => some .closeBrace
  | _ => none

/-- What a name is: a word with a meaning of its own, or an identifier. -/
def word (name : String) : TokenKind :=
  match name with
  | "true" => .constant (.bool true)
  | "false" => .constant (.bool false)
  | "null" => .constant .null
  | "in" => .sign (.operator .member)
  | _ => .identifier name

/-- How a string ends, after `count` characters: closed, or with a fault. -/
inductive StringEnd where
  | closed (text : List Char) (count : Nat) (rest : List Char)
  | fault (count : Nat) (fault : LexicalFault)

/-- The content of a string up to its closing quote. Only that quote may be escaped. -/
def string (quote : Char) (acc : List Char) (count : Nat) : List Char → StringEnd
  | [] => .fault count .unterminated
  | '\\' :: c :: rest =>
    if c = quote then string quote (c :: acc) (count + 2) rest
    else .fault (count + 1) (.escape (quote = '"'))
  | ['\\'] => .fault (count + 1) (.escape (quote = '"'))
  | c :: rest =>
    if c = quote then .closed acc.reverse (count + 1) rest
    else string quote (c :: acc) (count + 1) rest

def numberText (cs : List Char) : List Char :=
  let whole := cs.takeWhile Char.isDigit
  match cs.drop whole.length with
  | '.' :: d :: rest =>
    if d.isDigit then whole ++ '.' :: d :: rest.takeWhile Char.isDigit else whole
  | _ => whole

def scan : Nat → Place → List Char → Tokens
  | _, _, [] => ⟨[], .text⟩
  | 0, _, _ => ⟨[], .text⟩
  | n + 1, p, c :: rest =>
    let emit := fun (kind : TokenKind) (text : String) (count : Nat) (rest : List Char) =>
      let tail := scan n (p.move count) rest
      (⟨⟨kind, text, p.offset, p.offset + count⟩ :: tail.tokens, tail.ending⟩ : Tokens)
    let fail := fun (count : Nat) (fault : LexicalFault) =>
      (⟨[], .lexical p.line (p.column + count) fault⟩ : Tokens)
    let digits := numberText (c :: rest)
    if isBlank c then scan n (p.moveBlank c) rest
    else if !digits.isEmpty then
      let value := (Decimal.float? (String.ofList digits)).getD 0
      emit (.number value) (Float.messageText value) digits.length ((c :: rest).drop digits.length)
    else if isNameStart c then
      let name := c :: rest.takeWhile isNameChar
      emit (word (String.ofList name)) (String.ofList name) name.length
        ((c :: rest).drop name.length)
    else if c = '"' || c = '\'' then
      match string c [] 1 rest with
      | .closed text count behind =>
        emit (.string (String.ofList text)) (String.ofList ((c :: rest).take count)) count behind
      | .fault count fault => fail count fault
    else
      match rest.head?.bind (pair? c) with
      | some sign => emit (.sign sign) (String.ofList ((c :: rest).take 2)) 2 (rest.drop 1)
      | none =>
        match single? c with
        | some sign => emit (.sign sign) c.toString 1 rest
        | none =>
          if c = '=' || c = '!' then fail 1 (.half c '=')
          else if c = '&' then fail 1 (.half c '&')
          else fail 0 (.unexpected c)

end Scan

def Tokens.read (text : String) : Tokens := Scan.scan (text.length + 1) ⟨0, 1, 1⟩ text.toList

end Workflow.Condition
