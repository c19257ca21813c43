import Workflow.Unicode.Class
import Workflow.Unicode.Decomposition
import Workflow.Unicode.Direction
import Workflow.Unicode.Joining
import Workflow.Url.Domain.Fate
import Workflow.Url.Punycode

/-!
# Labels of domain names

A domain name is a row of labels with full stops between them. A label is mapped to its plain
form, and one that begins with `xn--` stands for what it is the written form of. What a label
may hold besides depends on its neighbours: marks stand behind letters, invisible joiners
where they change how letters are joined, and in a name with letters written from right to
left every label keeps to one direction.
-/

namespace Workflow.Url.Label

open Unicode (Direction)

/-- ASCII characters that separate the parts of a URL or are not visible. -/
def isForbiddenAscii (c : Char) : Bool :=
  c.toNat ≤ 32 || c.toNat = 127 || "%#/:<>?@[\\]^|".toList.contains c

/-- The plain form of a text, unless it holds a forbidden character. -/
def plainForm? (text : List Char) : Option (List Char) := do
  let images ← text.mapM fun c =>
    match Fate.of c with
    | .kept => some [c]
    | .ignored => some []
    | .replaced image => some image
    | .forbidden => none
  let plain := Unicode.compose images.flatten
  if plain.any isForbiddenAscii then none else some plain

def maxWritten : Nat := 2000

def maxLength : Nat := 1000

/-- The label that a written form stands for: it holds more than ASCII
characters and is its own plain form. -/
def ofWritten? (written : List Char) : Option (List Char) := do
  if written.length > maxWritten then none
  else
    let label ← Punycode.decode? written
    if label.all (·.toNat < 128) || label.any (Fate.of · ≠ .kept) then none
    else if Unicode.compose label ≠ label || label.any isForbiddenAscii then none
    else some label

/-- The label that stands for a label in plain form. -/
def ofPlain? (plain : List Char) : Option (List Char) :=
  match plain with
  | 'x' :: 'n' :: '-' :: '-' :: written => ofWritten? written
  | plain => some plain

/-! ## Joiners -/

/-- Characters that join the letters before and behind them in an Indic script. -/
def isVirama (c : Char) : Bool := Unicode.markClass c.toNat = 9

/-- Whether the next character that letters are not joined across satisfies a condition. -/
def joinsAt (condition : Char → Bool) (cs : List Char) : Bool :=
  ((cs.dropWhile fun c => !condition c && Unicode.isTransparent c).head?.map condition).getD false

/-- Whether joiners stand where they have an effect: behind a character that joins letters
or, for the one that separates letters, between letters that would be joined. `before` holds
what came before, backwards. -/
def joinersFit (before : List Char) : List Char → Bool
  | [] => true
  | c :: rest =>
    let fits :=
      if c.toNat = 0x200c || c.toNat = 0x200d then
        (before.head?.map isVirama).getD false
          || (c.toNat = 0x200c && joinsAt Unicode.joinsNext before &&
            joinsAt Unicode.joinsPrevious rest)
      else true
    fits && joinersFit (c :: before) rest

/-- Whether what a label holds may stand together. -/
def isSound (label : List Char) : Bool :=
  !(label.head?.map Unicode.isMark).getD false && joinersFit [] label
    && (label.all (·.toNat < 128) || label.length ≤ maxLength)

/-! ## Direction -/

/-- Whether a character makes a name one that is written from right to left. -/
def isRightToLeft (c : Char) : Bool :=
  match Direction.of c with
  | .rightToLeft | .arabicNumber => true
  | _ => false

/-- Whether a label keeps to one direction: the direction of the letter that it begins with. Marks
at its end do not count. -/
def keepsDirection (label : List Char) : Bool :=
  match label.map Direction.of with
  | [] => true
  | first :: rest =>
    let last := ((first :: rest).reverse.dropWhile (· = .attached)).headD first
    match first with
    | .leftToRight =>
      rest.all (fun d => d = .leftToRight || d = .europeanNumber || d = .neutral || d = .attached)
        && (last = .leftToRight || last = .europeanNumber)
    | .rightToLeft =>
      rest.all (fun d => d ≠ .leftToRight && d ≠ .blankOrBreak)
        && (last = .rightToLeft || last = .europeanNumber || last = .arabicNumber)
        && !(rest.contains .europeanNumber && rest.contains .arabicNumber)
    | _ => false

end Workflow.Url.Label
