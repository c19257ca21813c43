import Workflow.Condition.Expression
import Workflow.Condition.Remainder
import Workflow.Template.Mask
import Workflow.Unicode.Case

/-!
# The value of a condition

Numbers are compared and combined as floating-point numbers. What is missing is `null`, except for
an identifier, which has to be defined. Where a fault in an operand only matters if its value is
looked at, it counts as false.
-/

namespace Workflow

/-- Whether a value counts as true: all but `null`, `false`, zero and the empty text do. -/
def Json.truthy : Json → Bool
  | .null => false
  | .bool b => b
  | .num n => n.toFloat != 0 && !n.toFloat.isNaN
  | .str s => s ≠ ""
  | .arr _ | .obj _ => true

namespace Condition

/-- Numbers that differ by less are equal. -/
def tolerance : Float := 0.000001

def isWithin (part : List Char) : List Char → Bool
  | [] => part.isEmpty
  | c :: rest => part.isPrefixOf (c :: rest) || isWithin part rest

/-- An operator between two numbers; logic is decided before. -/
def numeric (operator : Operator) (a b : Float) : Json :=
  match operator with
  | .add => .float (a + b)
  | .subtract => .float (a - b)
  | .multiply => .float (a * b)
  | .divide => .float (a / b)
  | .floorDivide => .float (a / b).floor
  | .modulus => .float (remainder a b)
  | .power => .float (a.pow b)
  | .less => .bool (a < b)
  | .lessEqual => .bool (a ≤ b)
  | .greater => .bool (b < a)
  | .greaterEqual => .bool (b ≤ a)
  | .equal => .bool ((a - b).abs < tolerance)
  | .notEqual => .bool !((a - b).abs < tolerance)
  | .member | .and | .or => .bool false

def textual? (operator : Operator) (a b : String) : Option Json :=
  match operator with
  | .add => some (.str (a ++ b))
  | .less => some (.bool (a < b))
  | .lessEqual => some (.bool (!(b < a)))
  | .greater => some (.bool (b < a))
  | .greaterEqual => some (.bool (!(a < b)))
  | .equal => some (.bool (a == b))
  | .notEqual => some (.bool (a != b))
  | .member => some (.bool (isWithin a.toList b.toList))
  | _ => none

def combine (operator : Operator) (left right : Json) : Except Fault Json :=
  match left, right with
  | .num a, .num b => .ok (numeric operator a.toFloat b.toFloat)
  | .str a, .str b =>
    match textual? operator a b with
    | some value => .ok value
    | none => .error (.operands left right operator)
  | left, right =>
    match operator, left, right with
    | .equal, left, right => .ok (.bool (left == right))
    | .notEqual, left, right => .ok (.bool (!(left == right)))
    | .member, left, .arr items => .ok (.bool (items.any (left == ·)))
    | .member, .str key, .obj fields => .ok (.bool (Entries.contains fields key))
    | operator, left, right => .error (.operands left right operator)

def textAt (arguments : List Json) (i : Nat) : String := (arguments[i]?.bind Json.string?).getD ""

/-- The transforms; the first argument is the value that is transformed. -/
def applyTransform (name : String) (arguments : List Json) : Except Fault Json :=
  let first := textAt arguments 0
  let second := textAt arguments 1
  match name with
  | "lower" => .ok (.str (Unicode.lower first))
  | "upper" => .ok (.str (Unicode.upper first))
  | "trim" => .ok (.str (Unicode.trim first))
  | "contains" =>
    match arguments with
    | .arr items :: rest => .ok (.bool (rest.head?.any fun needle => items.any (· == needle)))
    | _ => .ok (.bool (isWithin second.toList first.toList))
  | "startsWith" => .ok (.bool (second.toList.isPrefixOf first.toList))
  | "endsWith" => .ok (.bool (second.toList.isSuffixOf first.toList))
  | "not" => .ok (.bool !(arguments.headD .null).truthy)
  | "length" =>
    let count := match arguments.head? with
      | some (.str s) => s.length
      | some (.arr items) => items.length
      | some (.obj fields) => fields.length
      | _ => 0
    .ok (.float count.toFloat)
  | _ => .error (.unknownTransform name)

/-- The item of a value under an index. A number is cut off at the point, and
one below zero is zero. -/
def lookUp (subject index : Json) : Except Fault Json :=
  match index with
  | .str key => .ok ((subject.field? key).getD .null)
  | .num n =>
    let items := subject.items?.getD []
    .ok ((items[n.toFloat.toUInt64.toNat]?).getD .null)
  | _ => .error .indexType

/-- Whether an item passes a filter; one for which the operator has no meaning does not. -/
def passes (field : String) (operator : Operator) (operand item : Json) : Bool :=
  match combine operator ((item.field? field).getD .null) operand with
  | .ok value => value.truthy
  | .error _ => false

def holds : Except Fault Json → Bool
  | .ok value => value.truthy
  | .error _ => false

mutual

/-- The value of an expression where `scope` gives the identifiers. -/
def evaluate (scope : Entries Json) : Expression → Except Fault Json
  | .constant value => .ok value
  | .identifier name =>
    match scope.get? name with
    | some value => .ok value
    | none => .error (.undefined name)
  | .array items => do return .arr (← evaluateAll scope items)
  | .object fields => do return .obj (← evaluateFields scope [] fields)
  | .property subject name => do
    let subject ← evaluate scope subject
    return (subject.field? name).getD .null
  | .index subject index => do
    let subject ← evaluate scope subject
    let index ← evaluate scope index
    lookUp subject index
  | .filter subject field operator operand => do
    match ← evaluate scope subject with
    | .arr items =>
      let operand ← evaluate scope operand
      return .arr (items.filter (passes field operator operand))
    | _ => .error .filter
  | .transform subject name arguments => do
    let subject ← evaluate scope subject
    let arguments ← evaluateAll scope arguments
    applyTransform name (subject :: arguments)
  | .choice condition yes no =>
    if holds (evaluate scope condition) then evaluate scope yes else evaluate scope no
  | .binary operator left right =>
    let leftValue := evaluate scope left
    match operator with
    | .or => if holds leftValue then leftValue else evaluate scope right
    | .and => do
      let value ← leftValue
      if value.truthy then evaluate scope right else return value
    | operator => do
      let a ← leftValue
      let b ← evaluate scope right
      combine operator a b

def evaluateAll (scope : Entries Json) : List Expression → Except Fault (List Json)
  | [] => .ok []
  | item :: rest => do
    let value ← evaluate scope item
    return value :: (← evaluateAll scope rest)

/-- The fields of an object, which may not repeat a key. -/
def evaluateFields (scope : Entries Json) (found : Entries Json) :
    List (String × Expression) → Except Fault (Entries Json)
  | [] => .ok found
  | (key, item) :: rest => do
    if found.contains key then .error (.duplicateKey key)
    else
      let value ← evaluate scope item
      evaluateFields scope (found.insert key value) rest

end

def value (expression : String) (scope : Json) : Except Fault Json :=
  match scope with
  | .obj fields => do evaluate fields (← Expression.read expression)
  | _ => .error .notAnObject

/-- Whether a condition holds in a scope. References in it are replaced by their bare paths. -/
def verdict (condition : String) (scope : Json) : Except Fault Bool := do
  return (← value (Template.unwrap condition) scope).truthy

end Condition

end Workflow
