import Workflow.Pattern.Property.Basic

/-!
# Named classes

The ASCII classes such as `[:alpha:]`, and the classes with a letter: digits, blanks and the
characters of words, of all scripts or of ASCII alone.
-/

namespace Workflow.Pattern

open Unicode (CharSet)

/-- The classes with a letter of their own. -/
inductive Shorthand where
  | digit
  | blank
  | word
  deriving DecidableEq, Repr

/-- The characters of a class in all scripts. -/
def Shorthand.set : Shorthand → CharSet
  | digit => Property.inCategories ["Nd"]
  | blank => Property.flagged "White_Space"
  | word => .unions [Property.alphabetic.get, Property.inCategories ["Mn", "Mc", "Me", "Nd", "Pc"],
      Property.flagged "Join_Control"]

/-- The named ASCII classes. -/
def asciiClass? : String → Option CharSet
  | "alnum" => some (.ofText "30-39 41-5A 61-7A")
  | "alpha" => some (.ofText "41-5A 61-7A")
  | "ascii" => some (.ofText "0-7F")
  | "blank" => some (.ofText "9 20")
  | "cntrl" => some (.ofText "0-1F 7F")
  | "digit" => some (.ofText "30-39")
  | "graph" => some (.ofText "21-7E")
  | "lower" => some (.ofText "61-7A")
  | "print" => some (.ofText "20-7E")
  | "punct" => some (.ofText "21-2F 3A-40 5B-60 7B-7E")
  | "space" => some (.ofText "9-D 20")
  | "upper" => some (.ofText "41-5A")
  | "word" => some (.ofText "30-39 41-5A 5F 61-7A")
  | "xdigit" => some (.ofText "30-39 41-46 61-66")
  | _ => none

/-- The ASCII characters of a class. -/
def Shorthand.asciiSet : Shorthand → CharSet
  | digit => .ofText "30-39"
  | blank => .ofText "9-D 20"
  | word => .ofText "30-39 41-5A 5F 61-7A"

end Workflow.Pattern
