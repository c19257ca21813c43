/-!
# Sets of code points

A set is the ascending list of the places where membership changes: its first bound is the least
member, the second the least code point behind it that is no member, and so on. Whatever combines
two sets point by point is one merge of two such lists. Main statement: a code point lies in the
merge exactly if the combination of the two memberships says so.
-/

namespace Workflow.Unicode

/-- A set of code points, by the places where membership changes. -/
structure CharSet where
  bounds : List Nat
  deriving Repr, Inhabited

namespace CharSet

/-- Whether a code point behind `inside` is inside when the bounds up to it are counted. -/
def insideFrom (inside : Bool) : List Nat → Nat → Bool
  | [], _ => inside
  | bound :: rest, code => if code < bound then inside else insideFrom (!inside) rest code

/-- Whether a code point belongs to a set. -/
def mem (set : CharSet) (code : Nat) : Bool := insideFrom false set.bounds code

def has (set : CharSet) (c : Char) : Bool := set.mem c.toNat

/-- The bounds of a pointwise combination of two sets; `a` and `b` say on which side of the two sets
the merge stands, and `out` whether it stands inside the combination. -/
def mergeFrom (f : Bool → Bool → Bool) (a b out : Bool) : List Nat → List Nat → List Nat
  | [], [] => []
  | x :: xs, [] =>
    if f (!a) b = out then mergeFrom f (!a) b out xs [] else x :: mergeFrom f (!a) b (!out) xs []
  | [], y :: ys =>
    if f a (!b) = out then mergeFrom f a (!b) out [] ys else y :: mergeFrom f a (!b) (!out) [] ys
  | x :: xs, y :: ys =>
    if x < y then
      if f (!a) b = out then mergeFrom f (!a) b out xs (y :: ys)
      else x :: mergeFrom f (!a) b (!out) xs (y :: ys)
    else if y < x then
      if f a (!b) = out then mergeFrom f a (!b) out (x :: xs) ys
      else y :: mergeFrom f a (!b) (!out) (x :: xs) ys
    else if f (!a) (!b) = out then mergeFrom f (!a) (!b) out xs ys
    else x :: mergeFrom f (!a) (!b) (!out) xs ys
termination_by xs ys => xs.length + ys.length

/-- The pointwise combination of two sets. The combination of two outsides is outside. -/
def merge (f : Bool → Bool → Bool) (a b : CharSet) : CharSet :=
  ⟨mergeFrom f false false false a.bounds b.bounds⟩

def empty : CharSet := ⟨[]⟩

/-- Every character: surrogates are none. -/
def all : CharSet := ⟨[0, 0xd800, 0xe000, 0x110000]⟩

def union (a b : CharSet) : CharSet := merge (· || ·) a b

def inter (a b : CharSet) : CharSet := merge (· && ·) a b

def diff (a b : CharSet) : CharSet := merge (fun a b => a && !b) a b

def exclusive (a b : CharSet) : CharSet := merge xor a b

/-- The characters that do not belong to a set. -/
def complement (a : CharSet) : CharSet := diff all a

def range (first last : Nat) : CharSet := inter all ⟨[first, last + 1]⟩

def single (c : Char) : CharSet := ⟨[c.toNat, c.toNat + 1]⟩

/-- The union of neighbours in a list of sets. -/
def unionPairs : List CharSet → List CharSet
  | a :: b :: rest => a.union b :: unionPairs rest
  | rest => rest

/-- The union of several sets, by halves. `fuel` bounds the rounds. -/
def unionRounds : Nat → List CharSet → CharSet
  | _, [] => empty
  | _, [a] => a
  | 0, sets => sets.foldl union empty
  | fuel + 1, sets => unionRounds fuel (unionPairs sets)

def unions (sets : List CharSet) : CharSet := unionRounds sets.length sets

/-- The runs of consecutive members, each by its first and its last. -/
def rangesOf : List Nat → List (Nat × Nat)
  | first :: stop :: rest => (first, stop - 1) :: rangesOf rest
  | _ => []

def ranges (set : CharSet) : List (Nat × Nat) := rangesOf set.bounds

def isEmpty (set : CharSet) : Bool := set.bounds.isEmpty

/-- Whether all members are ASCII characters. -/
def isAscii (set : CharSet) : Bool := set.bounds.all (· ≤ 128)

/-- The only member of a set that has no other. -/
def member? (set : CharSet) : Option Nat :=
  match set.bounds with
  | [first, stop] => if first + 1 = stop then some first else none
  | _ => none

instance : DecidableEq CharSet := fun a b =>
  withPtrEqDecEq a b fun _ =>
    decidable_of_iff (a.bounds = b.bounds) ⟨fun h => by cases a; cases b; simp_all, congrArg bounds⟩

/-- The least members tell most sets apart. -/
instance : Hashable CharSet := ⟨fun set => hash (set.bounds.take 4)⟩

/-! ## Written sets -/

def digitValue (c : Char) : Nat :=
  if c.isDigit then c.toNat - 48 else c.toNat - 55

def readNumber (digits : List Char) : Nat := digits.foldl (fun n c => n * 16 + digitValue c) 0

/-- Splits a text at blanks and line ends. -/
def splitWords : List Char → List (List Char)
  | [] => [[]]
  | c :: rest =>
    match splitWords rest with
    | [] => [[c]]
    | word :: others => if c = ' ' || c = '\n' then [] :: word :: others else (c :: word) :: others

def words (text : List Char) : List (List Char) := (splitWords text).filter (!·.isEmpty)

/-- The bounds of the set given by words such as `41-5A` and `AA`, in ascending order. -/
def boundsOfWords : List (List Char) → List Nat
  | [] => []
  | word :: rest =>
    let first := word.takeWhile (· ≠ '-')
    let last := word.drop (first.length + 1)
    let low := readNumber first
    let high := if last.isEmpty then low else readNumber last
    low :: (high + 1) :: boundsOfWords rest

/-- The set that a text lists: runs of members in base 16, in ascending order and apart from each
other, as in `41-5A 61-7A AA`. -/
def ofText (text : String) : CharSet := ⟨boundsOfWords (words text.toList)⟩

end CharSet

end Workflow.Unicode
