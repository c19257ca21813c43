import Workflow.Condition.Token

/-!
# Expressions

The structure of a condition. Operators of one level group from the left; from the loosest level to
the tightest they are logic, comparison, sums, products, and remainders and powers. A choice binds
tighter than all of them, then come transforms, and then properties and indexes.
-/

namespace Workflow.Condition

inductive Expression where
  | constant (value : Json)
  | identifier (name : String)
  | array (items : List Expression)
  | object (fields : List (String × Expression))
  | property (subject : Expression) (name : String)
  | index (subject index : Expression)
  | filter (subject : Expression) (field : String) (operator : Operator) (operand : Expression)
  | transform (subject : Expression) (name : String) (arguments : List Expression)
  | choice (condition yes no : Expression)
  | binary (operator : Operator) (left right : Expression)
  deriving Inhabited

/-- The level of an operator, from the loosest to the tightest. -/
def Operator.level : Operator → Nat
  | and | or => 0
  | equal | notEqual | greaterEqual | lessEqual | greater | less | member => 1
  | add | subtract => 2
  | multiply | floorDivide | divide => 3
  | modulus | power => 4

namespace Parse

/-- The tokens that are left, the place where the last one ended, and how they end. -/
structure State where
  tokens : List Token
  position : Nat
  ending : Ending

namespace State

def peek? (s : State) : Option TokenKind := s.tokens.head?.map Token.kind

def skip (s : State) : State :=
  match s.tokens with
  | [] => s
  | token :: rest => { s with tokens := rest, position := token.stop }

def operator? (s : State) : Option Operator :=
  match s.peek? with
  | some (.sign (.operator operator)) => some operator
  | _ => none

def at? (s : State) (sign : Sign) : Bool :=
  match s.peek? with
  | some (.sign other) => other = sign
  | _ => false

/-- The fault of the token that comes next, which has no place here. -/
def fault (s : State) : Fault :=
  match s.tokens with
  | token :: _ => .unexpectedToken token.text token.start token.stop
  | [] =>
    match s.ending with
    | .text => .unexpectedEnd s.position
    | .lexical line column fault => .lexical line column fault

def expect (s : State) (sign : Sign) : Except Fault State :=
  if s.at? sign then .ok s.skip else .error s.fault

def identifier (s : State) : Except Fault (String × State) :=
  match s.peek? with
  | some (.identifier name) => .ok (name, s.skip)
  | _ => .error s.fault

def key (s : State) : Except Fault (String × State) :=
  match s.peek? with
  | some (.identifier name) => .ok (name, s.skip)
  | some (.string text) => .ok (text, s.skip)
  | _ => .error s.fault

end State

mutual

/-- An expression of operators of a level or tighter. -/
def binary (fuel level : Nat) (s : State) : Except Fault (Expression × State) :=
  match fuel with
  | 0 => .error s.fault
  | n + 1 => do
    if level = 5 then choice n s
    else
      let (left, s) ← binary n (level + 1) s
      binaryRest n level left s

/-- What follows the left operand of operators of a level. -/
def binaryRest (fuel level : Nat) (left : Expression) (s : State) :
    Except Fault (Expression × State) :=
  match fuel with
  | 0 => .error s.fault
  | n + 1 =>
    match s.operator? with
    | some operator =>
      if operator.level = level then do
        let (right, s) ← binary n (level + 1) s.skip
        binaryRest n level (.binary operator left right) s
      else .ok (left, s)
    | none => .ok (left, s)

/-- A transform that may decide between others. -/
def choice (fuel : Nat) (s : State) : Except Fault (Expression × State) :=
  match fuel with
  | 0 => .error s.fault
  | n + 1 => do
    let (condition, s) ← transform n s
    choiceRest n condition s

def choiceRest (fuel : Nat) (condition : Expression) (s : State) :
    Except Fault (Expression × State) :=
  match fuel with
  | 0 => .error s.fault
  | n + 1 =>
    if s.at? .question then do
      let (yes, s) ← transform n s.skip
      let s ← s.expect .colon
      let (no, s) ← transform n s
      choiceRest n (.choice condition yes no) s
    else .ok (condition, s)

/-- A value that may pass through transforms. -/
def transform (fuel : Nat) (s : State) : Except Fault (Expression × State) :=
  match fuel with
  | 0 => .error s.fault
  | n + 1 => do
    let (subject, s) ← value n s
    transformRest n subject s

def transformRest (fuel : Nat) (subject : Expression) (s : State) :
    Except Fault (Expression × State) :=
  match fuel with
  | 0 => .error s.fault
  | n + 1 =>
    if s.at? .pipe then do
      let (name, s) ← s.skip.identifier
      if s.at? .openParen then
        let (arguments, s) ← list n .closeParen s.skip
        transformRest n (.transform subject name arguments) s
      else transformRest n (.transform subject name []) s
    else .ok (subject, s)

/-- A primary value with the properties and indexes behind it. -/
def value (fuel : Nat) (s : State) : Except Fault (Expression × State) :=
  match fuel with
  | 0 => .error s.fault
  | n + 1 => do
    let (subject, s) ← primary n s
    valueRest n subject s

def valueRest (fuel : Nat) (subject : Expression) (s : State) : Except Fault (Expression × State) :=
  match fuel with
  | 0 => .error s.fault
  | n + 1 =>
    if s.at? .dot then do
      let (name, s) ← s.skip.identifier
      valueRest n (.property subject name) s
    else if s.at? .openBracket then do
      let s := s.skip
      if s.at? .dot then
        let (field, s) ← s.skip.identifier
        match s.operator? with
        | some operator =>
          if operator.level = 1 then
            let (operand, s) ← primary n s.skip
            let s ← s.expect .closeBracket
            valueRest n (.filter subject field operator operand) s
          else .error s.fault
        | none => .error s.fault
      else
        let (index, s) ← binary n 0 s
        let s ← s.expect .closeBracket
        valueRest n (.index subject index) s
    else .ok (subject, s)

/-- A constant, an identifier, an array, an object, or an expression in parentheses. -/
def primary (fuel : Nat) (s : State) : Except Fault (Expression × State) :=
  match fuel with
  | 0 => .error s.fault
  | n + 1 =>
    match s.peek? with
    | some (.number x) => .ok (.constant (.float x), s.skip)
    | some (.string text) => .ok (.constant (.str text), s.skip)
    | some (.constant value) => .ok (.constant value, s.skip)
    | some (.identifier name) => .ok (.identifier name, s.skip)
    | some (.sign .openParen) => do
      let (inner, s) ← binary n 0 s.skip
      let s ← s.expect .closeParen
      return (inner, s)
    | some (.sign .openBracket) => do
      let (items, s) ← list n .closeBracket s.skip
      return (.array items, s)
    | some (.sign .openBrace) => do
      let (fields, s) ← fields n s.skip
      return (.object fields, s)
    | _ => .error s.fault

/-- Expressions between commas up to a closing sign; a comma may stand before it. -/
def list (fuel : Nat) (close : Sign) (s : State) : Except Fault (List Expression × State) :=
  match fuel with
  | 0 => .error s.fault
  | n + 1 =>
    if s.at? close then .ok ([], s.skip)
    else do
      let (item, s) ← binary n 0 s
      if s.at? .comma then
        let (rest, s) ← list n close s.skip
        return (item :: rest, s)
      else
        let s ← s.expect close
        return ([item], s)

/-- Fields between commas up to the closing brace; a comma may stand before it. -/
def fields (fuel : Nat) (s : State) : Except Fault (List (String × Expression) × State) :=
  match fuel with
  | 0 => .error s.fault
  | n + 1 =>
    if s.at? .closeBrace then .ok ([], s.skip)
    else do
      let (key, s) ← s.key
      let s ← s.expect .colon
      let (value, s) ← binary n 0 s
      if s.at? .comma then
        let (rest, s) ← fields n s.skip
        return ((key, value) :: rest, s)
      else
        let s ← s.expect .closeBrace
        return ([(key, value)], s)

end

end Parse

def Expression.read (text : String) : Except Fault Expression := do
  let tokens := Tokens.read text
  let (expression, s) ←
    Parse.binary (16 * (tokens.tokens.length + 2)) 0 ⟨tokens.tokens, 0, tokens.ending⟩
  match s.tokens, s.ending with
  | [], .text => return expression
  | _, _ => .error s.fault

end Workflow.Condition
