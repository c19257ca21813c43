import Workflow.Pattern.Basic

/-!
# Normal forms of patterns

Before its automaton is built a pattern is simplified: neighbouring characters become one
literal, sequences and alternations are flattened, alternatives of single characters become one
set, and what all alternatives begin with is moved in front of them. What a form matches is
that of the pattern it stands for.
-/

namespace Workflow.Pattern

open Unicode (CharSet)

/-- A simplified pattern. Groups that capture are known by their place, and repetitions remember
which choice they try first; neither concerns what they match. -/
inductive Form where
  | empty
  | literal (text : List Char)
  | chars (set : CharSet)
  | assertion (condition : Assertion)
  | repeated (body : Form) (least : Nat) (most : Option Nat) (greedy : Bool)
  | capture (place : Nat) (body : Form)
  | concat (parts : List Form)
  | choice (branches : List Form)
  deriving BEq, Inhabited

namespace Form

/-! ## Lengths -/

/-- How many bytes the texts have that a form matches: at least and at most. Nothing is known of the
lengths where `least` is missing, and there is no bound where `most` is missing. -/
structure Lengths where
  least : Option Nat
  most : Option Nat
  deriving Repr

/-- The lengths of one character out of a set. -/
def setLengths (set : CharSet) : Lengths :=
  let size := fun (code : Nat) => (Char.ofNat code).utf8Size
  match set.bounds.head?, set.bounds.getLast? with
  | some first, some stop => ⟨some (size first), some (size (stop - 1))⟩
  | _, _ => ⟨none, none⟩

/-- The sum of two bounds, if there are both. -/
def plus (a b : Option Nat) : Option Nat := do return (← a) + (← b)

def times (a b : Option Nat) : Option Nat := do return (← a) * (← b)

mutual

/-- The lengths of what a form matches. -/
def lengths : Form → Lengths
  | empty | assertion _ => ⟨some 0, some 0⟩
  | literal text =>
    let size := text.foldl (fun n c => n + c.utf8Size) 0
    ⟨some size, some size⟩
  | chars set => setLengths set
  | repeated body least most _ =>
    let inner := lengths body
    ⟨times inner.least (some least), times inner.most most⟩
  | capture _ body => lengths body
  | concat parts => sequenceLengths parts
  | choice branches => choiceLengths branches

def sequenceLengths : List Form → Lengths
  | [] => ⟨some 0, some 0⟩
  | part :: rest =>
    let first := lengths part
    let others := sequenceLengths rest
    ⟨plus first.least others.least, plus first.most others.most⟩

def choiceLengths : List Form → Lengths
  | [] => ⟨none, none⟩
  | [branch] => lengths branch
  | branch :: rest =>
    let first := lengths branch
    let others := choiceLengths rest
    ⟨do return min (← first.least) (← others.least), do return max (← first.most) (← others.most)⟩

end

/-- Whether a form matches no text but the empty one. -/
def isWidthless (form : Form) : Bool := form.lengths.most = some 0

/-- Whether a form matches no empty text, as far as its lengths show. -/
def isNonempty (form : Form) : Bool :=
  match form.lengths.least with
  | some n => 0 < n
  | none => false

/-! ## Making forms -/

/-- What matches nothing. -/
def nothing : Form := chars .empty

def ofSet (set : CharSet) : Form :=
  match set.member? with
  | some code => literal [Char.ofNat code]
  | none => chars set

/-- Parts before a sequence of parts, with neighbouring literals joined and empty parts left out. -/
def prepend : Form → List Form → List Form
  | empty, rest => rest
  | literal a, literal b :: rest => literal (a ++ b) :: rest
  | form, rest => form :: rest

/-- The parts of a sequence, one level deep. -/
def parts : Form → List Form
  | concat parts => parts
  | form => [form]

def ofParts (forms : List Form) : Form :=
  match (forms.flatMap parts).foldr prepend [] with
  | [] => empty
  | [form] => form
  | forms => concat forms

/-- The branches of an alternation, one level deep. -/
def branches : Form → List Form
  | choice branches => branches
  | form => [form]

def set? : Form → Option CharSet
  | chars set => some set
  | literal [c] => some (.single c)
  | _ => none

/-- The number of leading parts that all sequences share. -/
def sharedParts (first : List Form) (others : List (List Form)) : Nat :=
  others.foldl (fun n other => min n (((first.zip other).takeWhile fun (a, b) => a == b).length))
    first.length

def sequence? : Form → Option (List Form)
  | concat parts => some parts
  | _ => none

/-- One of several forms that have been flattened. Each round that moves shared parts in front
leaves less to look at, which `fuel` bounds. -/
def ofBranchesFrom : Nat → List Form → Form
  | _, [] => nothing
  | _, [form] => form
  | fuel, forms =>
    match forms.mapM set? with
    | some sets => ofSet (.unions sets)
    | none =>
      match fuel, forms.mapM sequence? with
      | fuel + 1, some (first :: others) =>
        match sharedParts first others with
        | 0 => choice forms
        | n => ofParts (first.take n ++
            [ofBranchesFrom fuel
              (((first :: others).map fun parts => ofParts (parts.drop n)).flatMap branches)])
      | _, _ => choice forms

def ofBranches (forms : List Form) : Form :=
  let forms := forms.flatMap branches
  ofBranchesFrom ((forms.map fun form => form.parts.length).foldl (· + ·) 1) forms

/-- A form several times in a row. What matches the empty text alone is never repeated. -/
def ofRepetition (body : Form) (least : Nat) (most : Option Nat) (greedy : Bool) : Form :=
  let once := body.isWidthless
  let least := if once then min least 1 else least
  let most := if once then some (min (most.getD 1) 1) else most
  if most = some 0 && least = 0 then empty
  else if most = some 1 && least = 1 then body
  else repeated body least most greedy

/-! ## What forms match -/

mutual

def pattern : Form → Pattern
  | empty => .empty
  | literal text => text.foldr (fun c rest => (Pattern.chars (.single c)).andThen rest) .empty
  | chars set => .chars set
  | assertion condition => .assertion condition
  | repeated body least most _ => .repeated (pattern body) least most
  | capture _ body => pattern body
  | concat parts => sequencePattern parts
  | choice branches => choicePattern branches

def sequencePattern : List Form → Pattern
  | [] => .empty
  | [part] => pattern part
  | part :: rest => (pattern part).andThen (sequencePattern rest)

def choicePattern : List Form → Pattern
  | [] => .chars .empty
  | [branch] => pattern branch
  | branch :: rest => .alt (pattern branch) (choicePattern rest)

end

end Form

end Workflow.Pattern
