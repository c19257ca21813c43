import Workflow.Pattern.Property.Age
import Workflow.Pattern.Property.Break
import Workflow.Pattern.Property.Category
import Workflow.Pattern.Property.Flag
import Workflow.Pattern.Property.Name
import Workflow.Pattern.Property.Script
import Workflow.Pattern.Property.ScriptExtension
import Workflow.Unicode.CharSet

/-!
# Properties

The sets of characters that properties name, in version 16 of the standard. What the standard
derives from other properties is derived here as well.
-/

namespace Workflow.Pattern

open Unicode (CharSet)

namespace Property

/-- The set of an entry of a table, by one of its names as it stands there. -/
def member (table : List (List String × String)) (name : String) : CharSet :=
  match table.find? fun entry => entry.1.contains name with
  | some entry => .ofText entry.2
  | none => .empty

/-- The union of categories, by their short names. -/
def inCategories (names : List String) : CharSet := .unions (names.map (member categories))

/-- The characters with a flag that is not derived. -/
def flagged (name : String) : CharSet := member flags name

/-! ## Derived flags -/

def letters : Thunk CharSet := .mk fun _ => inCategories ["Lu", "Ll", "Lt", "Lm", "Lo"]

def lowercase : Thunk CharSet :=
  .mk fun _ => (inCategories ["Ll"]).union (flagged "Other_Lowercase")

def uppercase : Thunk CharSet :=
  .mk fun _ => (inCategories ["Lu"]).union (flagged "Other_Uppercase")

def alphabetic : Thunk CharSet := .mk fun _ =>
  .unions [letters.get, inCategories ["Nl"], flagged "Other_Alphabetic", lowercase.get,
    uppercase.get]

/-- Characters that belong to the one before them. -/
def graphemeExtend : Thunk CharSet := .mk fun _ =>
  (inCategories ["Mn", "Me"]).union (flagged "Other_Grapheme_Extend")

def lowercased : Thunk CharSet := .mk fun _ =>
  (uppercase.get.union (inCategories ["Lt"])).diff (.ofText uncasedUpper)

def uppercased : Thunk CharSet := .mk fun _ =>
  (lowercase.get.union (inCategories ["Lt"])).diff (.ofText uncasedLower)

/-- Characters whose title case differs from them: letters of two parts have one of their
own, and Georgian has none. -/
def titlecased : Thunk CharSet := .mk fun _ =>
  (uppercased.get.union (.ofText "1C4 1C7 1CA 1F1")).diff
    ((inCategories ["Lt"]).union (.ofText "10D0-10FA 10FD-10FF"))

/-- What is part of the syntax of patterns and never of an identifier. -/
def patternSigns : Thunk CharSet := .mk fun _ =>
  (flagged "Pattern_Syntax").union (flagged "Pattern_White_Space")

def identifierStart : Thunk CharSet := .mk fun _ =>
  (CharSet.unions [letters.get, inCategories ["Nl"], flagged "Other_ID_Start"]).diff
    patternSigns.get

def identifierContinue : Thunk CharSet := .mk fun _ =>
  (CharSet.unions [identifierStart.get, inCategories ["Mn", "Mc", "Nd", "Pc"],
    flagged "Other_ID_Continue"]).diff
    patternSigns.get

/-- Characters that show nothing of their own. -/
def defaultIgnorable : Thunk CharSet := .mk fun _ =>
  (CharSet.unions [flagged "Other_Default_Ignorable_Code_Point", inCategories ["Cf"],
    flagged "Variation_Selector"]).diff
      (.unions [flagged "White_Space", .ofText "FFF9-FFFB 13430-1343F",
        flagged "Prepended_Concatenation_Mark"])

/-- What no category holds. -/
def unassigned : Thunk CharSet := .mk fun _ =>
  (CharSet.unions (categories.map fun entry => CharSet.ofText entry.2)).complement

/-- The set of a flag, by its long name. -/
def flag? (name : String) : Option CharSet :=
  match name with
  | "Alphabetic" => some alphabetic.get
  | "Case_Ignorable" =>
    some ((inCategories ["Mn", "Me", "Cf", "Lm", "Sk"]).union (.ofText innerPunctuation))
  | "Cased" => some (.unions [lowercase.get, uppercase.get, inCategories ["Lt"]])
  | "Changes_When_Casefolded" =>
    some ((lowercased.get.diff (.ofText "13A0-13F5")).union (.ofText foldedLower))
  | "Changes_When_Casemapped" => some (.unions [lowercased.get, uppercased.get, titlecased.get])
  | "Changes_When_Lowercased" => some lowercased.get
  | "Changes_When_Titlecased" => some titlecased.get
  | "Changes_When_Uppercased" => some uppercased.get
  | "Default_Ignorable_Code_Point" => some defaultIgnorable.get
  | "Grapheme_Base" =>
    some (CharSet.complement (.unions
      [inCategories ["Cc", "Cf", "Co", "Zl", "Zp"], unassigned.get, graphemeExtend.get]))
  | "Grapheme_Extend" => some graphemeExtend.get
  | "ID_Continue" => some identifierContinue.get
  | "ID_Start" => some identifierStart.get
  | "Lowercase" => some lowercase.get
  | "Math" => some ((inCategories ["Sm"]).union (flagged "Other_Math"))
  | "Uppercase" => some uppercase.get
  | "XID_Continue" => some (identifierContinue.get.diff (.ofText unstableContinue))
  | "XID_Start" => some (identifierStart.get.diff (.ofText unstableStart))
  | _ => (flags.find? fun entry => entry.1.contains name).map fun entry => .ofText entry.2

/-! ## Categories and scripts -/

/-- The set of a general category, a group of them, or one of the three names
that stand beside them. -/
def category? (name : String) : Option CharSet :=
  match name with
  | "any" => some .all
  | "ascii" => some (.range 0 127)
  | "assigned" => some unassigned.get.complement
  | "cn" | "unassigned" => some unassigned.get
  | _ =>
    match find? categoryGroups name with
    | some group =>
      let named := inCategories (group.2.filter (· ≠ "Cn"))
      some (if group.2.contains "Cn" then named.union unassigned.get else named)
    | none => (find? categories name).map fun entry => .ofText entry.2

def isSurrogateName (name : String) : Bool := name = "cs" || name = "surrogate"

/-- The set of a script. -/
def script? (name : String) : Option CharSet :=
  (find? scripts name).map fun entry => .ofText entry.2

def isEmptyScriptName (name : String) : Bool :=
  ["hrkt", "katakanaorhiragana", "zzzz", "unknown"].contains name

/-- The characters that a script uses: its own, but for those that are listed with other scripts,
and those that are listed with it. -/
def scriptExtension? (name : String) : Option CharSet := do
  let entry ← find? scripts name
  let own := CharSet.ofText entry.2
  let shared :=
    sharedCharacters.map fun other => (other.1.any entry.1.contains, CharSet.ofText other.2)
  return (own.diff (.unions (shared.map Prod.snd))).union
    (.unions ((shared.filter Prod.fst).map Prod.snd))

/-! ## Ages and breaks -/

/-- The characters of a version of the standard, those of the versions before it included. -/
def age? (name : String) : Option CharSet :=
  if (find? ages name).isNone then none
  else
    let older := ages.takeWhile fun entry => !entry.1.any fun word => normalize word = name
    some (.unions ((ages.take (older.length + 1)).map fun entry => .ofText entry.2))

/-- The syllables of Hangul without a final consonant: every twenty-eighth one. -/
def openSyllables : CharSet :=
  .unions ((List.range 399).map fun n => .range (0xac00 + 28 * n) (0xac00 + 28 * n))

def listed? (table : List (List String × String)) (name : String) : Option CharSet :=
  (find? table name).map fun entry => .ofText entry.2

def graphemeBreak? (name : String) : Option CharSet :=
  match name with
  | "ex" | "extend" => some (graphemeExtend.get.union (flagged "Emoji_Modifier"))
  | "lv" => some openSyllables
  | "lvt" => some ((CharSet.range 0xac00 0xd7a3).diff openSyllables)
  | _ => listed? graphemeBreaks name

/-- Characters that word breaks pass over with the one before them. -/
def wordExtend : Thunk CharSet := .mk fun _ =>
  (CharSet.unions [graphemeExtend.get, inCategories ["Mc"], flagged "Emoji_Modifier"]).diff
    (.single '\u200d')

def wordBreak? (name : String) : Option CharSet :=
  match name with
  | "extend" => some wordExtend.get
  | "fo" | "format" =>
    some ((inCategories ["Cf"]).diff
      (.unions [wordExtend.get, .ofText "70F 200B 200D", .ofText prefixedNumbers]))
  | "nu" | "numeric" => some (.unions [inCategories ["Nd"], .ofText "66B", .ofText prefixedNumbers])
  | "ex" | "extendnumlet" => some ((inCategories ["Pc"]).union (.ofText "202F"))
  | "le" | "aletter" =>
    some ((alphabetic.get.union (.ofText wordSigns)).diff
      (.unions [flagged "Ideographic", member wordBreaks "Katakana", member scripts "Hiragana",
        .ofText unspacedScripts, wordExtend.get, member wordBreaks "Hebrew_Letter"]))
  | _ => listed? wordBreaks name

/-- Characters that sentence breaks pass over with the one before them. -/
def sentenceExtend : Thunk CharSet := .mk fun _ =>
  .unions [graphemeExtend.get, inCategories ["Mc"], .ofText "200D"]

def sentenceLower : Thunk CharSet := .mk fun _ =>
  lowercase.get.diff (graphemeExtend.get.union (.ofText "10D0-10FA 10FD-10FF"))

def sentenceUpper : Thunk CharSet := .mk fun _ =>
  (uppercase.get.union (inCategories ["Lt"])).diff (.ofText "1C90-1CBA 1CBD-1CBF")

def sentenceBreak? (name : String) : Option CharSet :=
  match name with
  | "ex" | "extend" => some sentenceExtend.get
  | "fo" | "format" =>
    some ((inCategories ["Cf"]).diff
      (.unions [sentenceExtend.get, .ofText "200C-200D", .ofText prefixedNumbers]))
  | "lo" | "lower" => some sentenceLower.get
  | "up" | "upper" => some sentenceUpper.get
  | "le" | "oletter" =>
    some ((alphabetic.get.union (.ofText "5F3")).diff
      (.unions [sentenceLower.get, sentenceUpper.get, sentenceExtend.get]))
  | "nu" | "numeric" =>
    some (.unions [inCategories ["Nd"], .ofText "66B-66C", .ofText prefixedNumbers])
  | "st" | "sterm" => some ((flagged "Sentence_Terminal").diff (member sentenceBreaks "ATerm"))
  | _ => listed? sentenceBreaks name

/-! ## Named sets -/

inductive Fault where
  | unknownProperty
  | unknownValue
  deriving DecidableEq, Repr

/-- The set with a name that is known, where a name may be known and yet have no set. -/
def orFault (fault : Fault) : Option CharSet → Except Fault CharSet
  | some set => .ok set
  | none => .error fault

/-- The set that a single name stands for: a flag, a category or a script. The names `cf`, `sc` and
`lc` are categories although properties have them too. -/
def named (name : String) : Except Fault CharSet :=
  let name := normalize name
  match if ["cf", "sc", "lc"].contains name then none else property? name with
  | some property => orFault .unknownProperty (flag? property)
  | none =>
    if isSurrogateName name || isEmptyScriptName name then .error .unknownValue
    else orFault .unknownProperty ((category? name).orElse fun _ => script? name)

/-- The set of the characters for which a property has a value. -/
def valued (name value : String) : Except Fault CharSet :=
  let value := normalize value
  match property? (normalize name) with
  | none => .error .unknownProperty
  | some "General_Category" => orFault .unknownValue (category? value)
  | some "Script" => orFault .unknownValue (script? value)
  | some "Script_Extensions" => orFault .unknownValue (scriptExtension? value)
  | some "Age" => orFault .unknownValue (age? value)
  | some "Grapheme_Cluster_Break" => orFault .unknownValue (graphemeBreak? value)
  | some "Word_Break" => orFault .unknownValue (wordBreak? value)
  | some "Sentence_Break" => orFault .unknownValue (sentenceBreak? value)
  | some _ => .error .unknownValue

end Property

end Workflow.Pattern
