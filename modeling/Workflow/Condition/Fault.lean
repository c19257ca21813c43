import Workflow.Json.Text

/-!
# What can be wrong with a condition
-/

namespace Workflow.Condition

inductive Operator where
  | and
  | or
  | equal
  | notEqual
  | greaterEqual
  | lessEqual
  | greater
  | less
  | member
  | add
  | subtract
  | multiply
  | floorDivide
  | divide
  | modulus
  | power
  deriving DecidableEq, Repr

def Operator.name : Operator → String
  | and => "And"
  | or => "Or"
  | equal => "Equal"
  | notEqual => "Not equal"
  | greaterEqual => "Greater than or equal to"
  | lessEqual => "Less than or equal to"
  | greater => "Greater than"
  | less => "Less than"
  | member => "In"
  | add => "Add"
  | subtract => "Subtract"
  | multiply => "Multiply"
  | floorDivide => "Floor division"
  | divide => "Divide"
  | modulus => "Modulus"
  | power => "Exponent"

/-- Why characters do not make up a token. -/
inductive LexicalFault where
  | unexpected (c : Char)
  | half (c other : Char)
  | unterminated
  | escape (double : Bool)
  deriving DecidableEq, Repr

def LexicalFault.message : LexicalFault → String
  | unexpected c => s!"Unexpected character '{c}'"
  | half c other => s!"Unexpected character '{c}'. Did you mean '{c}{other}'?"
  | unterminated => "Unterminated string literal"
  | escape true => "Invalid escape sequence in double-quoted string"
  | escape false => "Invalid escape sequence in single-quoted string"

/-- Why a condition has no value. -/
inductive Fault where
  | lexical (line column : Nat) (fault : LexicalFault)
  | unexpectedEnd (position : Nat)
  | unexpectedToken (text : String) (start stop : Nat)
  | notAnObject
  | undefined (name : String)
  | indexType
  | filter
  | duplicateKey (key : String)
  | unknownTransform (name : String)
  | operands (left right : Json) (operator : Operator)

def Fault.cause : Fault → String
  | lexical line column fault =>
    s!"Parsing error: Lexical error at line {line}, column {column}: {fault.message}"
  | unexpectedEnd position => s!"Parsing error: Unrecognized EOF found at {position}"
  | unexpectedToken text start stop =>
    "Parsing error: Unrecognized token \x60" ++ text ++ s!"\x60 found at {start}:{stop}"
  | notAnObject => "scope must be a JSON object"
  | undefined name => s!"Identifier '{name}' is undefined"
  | indexType => "Invalid index type"
  | filter => "Invalid filter"
  | duplicateKey key => s!"Duplicate object key: {key}"
  | unknownTransform name => s!"Unknown transform: {name}"
  | operands left right operator =>
    s!"Invalid binary operation, left: {left.text}, right: {right.text}, operation: {operator.name}"

def Fault.message : Fault → String
  | notAnObject => s!"invalid context: {notAnObject.cause}"
  | fault => s!"expression evaluation failed: {fault.cause}"

end Workflow.Condition
