import Workflow.Yaml.Cursor

/-!
# Tokens

The smallest parts of a YAML text, and how each is read where a cursor stands. Scalars are read here
in all their forms: plain, quoted, and in blocks.
-/

namespace Workflow.Yaml

inductive ScalarStyle where
  | plain
  | singleQuoted
  | doubleQuoted
  | literal
  | folded
  deriving DecidableEq, Repr

/-- A tag or a part of it, in octets: escapes can write octets that stand for no characters. -/
structure Tag where
  octets : List UInt8
  deriving DecidableEq, Inhabited, Repr

namespace Tag

def ofString (text : String) : Tag := ⟨text.toUTF8.toList⟩

/-- A part of a tag from its octets; it ends before the first zero. -/
def ofOctets (octets : List UInt8) : Tag := ⟨octets.takeWhile (· ≠ 0)⟩

def append (first second : Tag) : Tag := ⟨first.octets ++ second.octets⟩

def text? (tag : Tag) : Option String := String.fromUTF8? ⟨tag.octets.toArray⟩

/-- Whether a tag begins with an exclamation mark, as the document's own tags do. -/
def isLocal (tag : Tag) : Bool := tag.octets.head? = some 33

end Tag

inductive TokenKind where
  | streamStart
  | streamEnd
  | versionDirective (major minor : Nat)
  | tagDirective (handle : String) (stem : Tag)
  | documentStart
  | documentEnd
  | blockSequenceStart
  | blockMappingStart
  | blockEnd
  | flowSequenceStart
  | flowSequenceEnd
  | flowMappingStart
  | flowMappingEnd
  | blockEntry
  | flowEntry
  | key
  | value
  | alias (name : String)
  | anchor (name : String)
  | tag (handle : String) (suffix : Tag)
  | scalar (text : String) (style : ScalarStyle)
  deriving DecidableEq, Inhabited, Repr

/-- A token with the positions of its first character and behind its last. -/
structure Token where
  kind : TokenKind
  start : Mark
  stop : Mark
  deriving Inhabited, Repr

namespace Scan

/-- A fault at the cursor, noticed during an activity that began at `start`. -/
def fail {α : Type} (c : Cursor) (activity : Activity) (start : Mark) (fault : Fault) :
    Except Problem α :=
  .error (.malformed fault c.mark (some (activity, start)))

/-! ## Directives -/

def versionNumber (start : Mark) (c : Cursor) : Except Problem (Nat × Cursor) :=
  let digits := (c.takeWhile Char.isDigit).1
  if 9 < digits.length then fail (c.advance 9) .versionDirective start .longVersion
  else if digits.isEmpty then fail c .versionDirective start .missingVersion
  else .ok (digits.foldl (fun n d => 10 * n + (d.toNat - '0'.toNat)) 0, c.advance digits.length)

/-- Reads `major.minor`. -/
def version (start : Mark) (c : Cursor) : Except Problem (TokenKind × Cursor) := do
  let (major, c) ← versionNumber start (c.skipWhile isBlank)
  if c.peek ≠ '.' then fail c .versionDirective start .missingVersionPoint
  else
    let (minor, c) ← versionNumber start c.skip
    return (.versionDirective major minor, c)

/-- Characters of a tag. Inside a verbatim tag or a directive (`wide`) commas and brackets count. -/
def isUriChar (wide : Bool) (c : Char) : Bool :=
  isNameChar c || ";/?:@&=+$.!~*'()%".toList.contains c || (wide && ",[]".toList.contains c)

def hexValue? (c : Char) : Option Nat :=
  if '0' ≤ c && c ≤ '9' then some (c.toNat - '0'.toNat)
  else if 'a' ≤ c && c ≤ 'f' then some (c.toNat - 'a'.toNat + 10)
  else if 'A' ≤ c && c ≤ 'F' then some (c.toNat - 'A'.toNat + 10)
  else none

def octet? (c : Cursor) : Option Nat :=
  if c.peek = '%' then
    match hexValue? (c.peekAt 1), hexValue? (c.peekAt 2) with
    | some high, some low => some (16 * high + low)
    | _, _ => none
  else none

/-- Reads `count` octets that continue a character. -/
def trailingOctets (activity : Activity) (start : Mark) :
    Nat → Cursor → Except Problem (List UInt8 × Cursor)
  | 0, c => .ok ([], c)
  | count + 1, c =>
    match octet? c with
    | none => fail c activity start .missingUriOctet
    | some octet =>
      if octet / 64 = 2 then do
        let (more, c) ← trailingOctets activity start count (c.advance 3)
        return (UInt8.ofNat octet :: more, c)
      else fail c activity start .badTrailingOctet

/-- Reads the octets of one character, each written with a percent sign. Whether they stand for a
character is not asked. -/
def uriEscape (activity : Activity) (start : Mark) (c : Cursor) :
    Except Problem (List UInt8 × Cursor) := do
  match octet? c with
  | none => fail c activity start .missingUriOctet
  | some octet =>
    let trailing :=
      if octet < 0x80 then some 0
      else if octet / 32 = 6 then some 1
      else if octet / 16 = 14 then some 2
      else if octet / 8 = 30 then some 3
      else none
    match trailing with
    | none => fail c activity start .badLeadingOctet
    | some count =>
      let (more, c) ← trailingOctets activity start count (c.advance 3)
      return (UInt8.ofNat octet :: more, c)

/-- Reads tag characters; `fuel` exceeds the number of characters left. -/
def uriChars (wide : Bool) (activity : Activity) (start : Mark) :
    Nat → Cursor → Except Problem (List UInt8 × Cursor)
  | 0, c => .ok ([], c)
  | fuel + 1, c =>
    if !isUriChar wide c.peek then .ok ([], c)
    else if c.peek = '%' then do
      let (octets, c) ← uriEscape activity start c
      let (more, c) ← uriChars wide activity start fuel c
      return (octets ++ more, c)
    else do
      let (more, c') ← uriChars wide activity start fuel c.skip
      return (UInt8.ofNat c.peek.toNat :: more, c')

/-- Reads the text of a tag behind `head`, whose leading exclamation mark is dropped. A tag must not
be empty, but a lone head will do. -/
def tagUri (wide directive : Bool) (head : List Char) (start : Mark) (c : Cursor) :
    Except Problem (Tag × Cursor) := do
  let activity := if directive then Activity.tagDirectivePrefix else .tagSuffix
  let (text, c) ← uriChars wide activity start (c.rest.length + 1) c
  if head.isEmpty && text.isEmpty then fail c activity start .missingTagText
  else return (.ofOctets ((String.ofList (head.drop 1)).toUTF8.toList ++ text), c)

/-- Reads a tag handle: an exclamation mark, name characters, and mostly a second mark. -/
def tagHandle (directive : Bool) (start : Mark) (c : Cursor) :
    Except Problem (List Char × Cursor) :=
  if c.peek ≠ '!' then
    fail c (if directive then .tagDirectiveStart else .tag) start .missingTagMark
  else
    let (name, after) := c.skip.takeWhile isNameChar
    if after.peek = '!' then .ok ('!' :: name ++ ['!'], after.skip)
    else if directive && !name.isEmpty then fail after .tagDirectiveHandle start .missingTagMark
    else .ok ('!' :: name, after)

/-- Reads a handle and what it stands for. -/
def tagShorthand (start : Mark) (c : Cursor) : Except Problem (TokenKind × Cursor) := do
  let (handle, c) ← tagHandle true start (c.skipWhile isBlank)
  if !isBlank c.peek then fail c .tagDirective start .missingBlank
  else
    let (stem, c) ← tagUri true true [] start (c.skipWhile isBlank)
    if !isBlankOrEnd c.peek then fail c .tagDirective start .missingBlankOrBreak
    else return (.tagDirective (String.ofList handle) stem, c)

def directive (c : Cursor) : Except Problem (Token × Cursor) := do
  let start := c.mark
  let (name, after) := c.skip.takeWhile isNameChar
  if name.isEmpty then fail after .directive start .missingDirectiveName
  else if !isBlankOrEnd after.peek then fail after .directive start .badDirectiveName
  else
    let (kind, after) ←
      if name = "YAML".toList then version start after
      else if name = "TAG".toList then tagShorthand start after
      else fail after .directive start .unknownDirective
    let token : Token := ⟨kind, start, after.mark⟩
    let rest := after.skipComment
    if !isBreakOrEnd rest.peek then fail rest .directive start .missingCommentOrBreak
    else return (token, rest.skipBreak)

/-! ## Anchors and tags -/

def anchor (isAlias : Bool) (c : Cursor) : Except Problem (Token × Cursor) :=
  let start := c.mark
  let (name, after) := c.skip.takeWhile isNameChar
  if name.isEmpty || !(isBlankOrEnd after.peek || "?:,]\x7d%@\x60".toList.contains after.peek) then
    fail after (if isAlias then .alias else .anchor) start .badAnchor
  else
    let text := String.ofList name
    .ok (⟨if isAlias then .alias text else .anchor text, start, after.mark⟩, after)

def tagParts (c : Cursor) : Except Problem (TokenKind × Cursor) := do
  let start := c.mark
  if c.peekAt 1 = '<' then
    let (text, c) ← tagUri true false [] start (c.advance 2)
    if c.peek ≠ '>' then fail c .tag start .missingTagEnd
    else return (.tag "" text, c.skip)
  else
    let (handle, c) ← tagHandle false start c
    if 2 ≤ handle.length && handle.getLast? = some '!' then
      let (text, c) ← tagUri false false [] start c
      return (.tag (String.ofList handle) text, c)
    else
      let (text, c) ← tagUri false false handle start c
      return (if text.octets.isEmpty then .tag "" (.ofString "!") else .tag "!" text, c)

def tag (inFlow : Bool) (c : Cursor) : Except Problem (Token × Cursor) := do
  let start := c.mark
  let (kind, c) ← tagParts c
  if (inFlow && c.peek = ',') || isBlankOrEnd c.peek then return (⟨kind, start, c.mark⟩, c)
  else fail c .tag start .missingBlankOrBreak

/-! ## Block scalars -/

/-- What happens to the line breaks at the end of a block scalar. -/
inductive Chomping where
  | strip
  | clip
  | keep
  deriving DecidableEq

def chomping? : Char → Option Chomping
  | '+' => some .keep
  | '-' => some .strip
  | _ => none

/-- The header of a block scalar: chomping and an indentation of one to nine, in either order. -/
def blockHeader (start : Mark) (c : Cursor) : Except Problem ((Chomping × Nat) × Cursor) :=
  let indentation := fun (c : Cursor) =>
    if c.peek.isDigit then
      if c.peek = '0' then fail c .blockScalar start .zeroIndent
      else Except.ok (c.peek.toNat - '0'.toNat, c.skip)
    else .ok (0, c)
  match chomping? c.peek with
  | some chomping => do
    let (increment, c) ← indentation c.skip
    return ((chomping, increment), c)
  | none => do
    let (increment, after) ← indentation c
    if increment = 0 then return ((.clip, 0), after)
    else match chomping? after.peek with
      | some chomping => return ((chomping, increment), after.skip)
      | none => return ((.clip, increment), after)

/-- What stands before the next non-empty line of a block scalar. -/
structure BlockBreaks where
  indent : Nat
  breaks : List Char
  stop : Mark

/-- Passes indentation and empty lines. With no indentation known yet (`indent` is zero) the deepest
line start seen decides, but it is deeper than the parent's. -/
def blockBreaks (start : Mark) (parent : Int) (indent : Nat) :
    Nat → Nat → List Char → Mark → Cursor → Except Problem (BlockBreaks × Cursor)
  | 0, _, breaks, stop, c => .ok (⟨indent, breaks, stop⟩, c)
  | fuel + 1, deepest, breaks, stop, c =>
    let spaces := (c.takeWhile (· = ' ')).1.length
    let taken := if indent = 0 then spaces else min spaces (indent - c.mark.column)
    let c := c.advance taken
    let deepest := max deepest c.mark.column
    if (indent = 0 || c.mark.column < indent) && c.peek = '\t' then
      fail c .blockScalar start .tabIndent
    else if isBreak c.peek then
      let (br, next) := c.takeBreak
      blockBreaks start parent indent fuel deepest (breaks ++ br) next.mark next
    else
      let found := if indent = 0 then max (max deepest (parent + 1).toNat) 1 else indent
      .ok (⟨found, breaks, stop⟩, c)

/-- The text gathered so far while a block scalar is read. -/
structure BlockText where
  text : List Char
  leadingBreak : List Char
  trailingBreaks : List Char
  leadingBlank : Bool

/-- Joins the next line of a block scalar to the text before it. In a folded scalar a single break
between lines that do not begin with a blank becomes a space. -/
def BlockText.join (b : BlockText) (folded trailingBlank : Bool) : List Char :=
  if folded && b.leadingBreak = ['\n'] && !b.leadingBlank && !trailingBlank then
    (if b.trailingBreaks.isEmpty then b.text ++ [' '] else b.text ++ b.trailingBreaks)
  else b.text ++ b.leadingBreak ++ b.trailingBreaks

def blockLines (start : Mark) (parent : Int) (folded : Bool) (indent : Nat) :
    Nat → BlockText → Mark → Cursor → Except Problem ((BlockText × Mark) × Cursor)
  | 0, b, stop, c => .ok ((b, stop), c)
  | fuel + 1, b, stop, c =>
    if c.mark.column = indent && c.peek ≠ endChar then do
      let blank := isBlank c.peek
      let joined := b.join folded blank
      let (line, c) := c.takeWhile (fun ch => !isBreakOrEnd ch)
      let (br, c) := c.takeBreak
      let (found, c) ← blockBreaks start parent indent (c.rest.length + 1) 0 [] c.mark c
      blockLines start parent folded indent fuel ⟨joined ++ line, br, found.breaks, blank⟩
        found.stop c
    else .ok ((b, stop), c)

/-- Reads a block scalar; `parent` is the indentation around it. -/
def blockScalar (folded : Bool) (parent : Int) (c : Cursor) : Except Problem (Token × Cursor) := do
  let start := c.mark
  let ((chomping, increment), c) ← blockHeader start c.skip
  let c := c.skipComment
  if !isBreakOrEnd c.peek then fail c .blockScalar start .missingCommentOrBreak
  else
    let c := c.skipBreak
    let given :=
      if increment = 0 then 0 else if 0 ≤ parent then parent.toNat + increment else increment
    let fuel := c.rest.length + 1
    let (found, c) ← blockBreaks start parent given fuel 0 [] c.mark c
    let ((b, stop), c) ←
      blockLines start parent folded found.indent fuel ⟨[], [], found.breaks, false⟩ found.stop c
    let body := match chomping with
      | .strip => b.text
      | .clip => b.text ++ b.leadingBreak
      | .keep => b.text ++ b.leadingBreak ++ b.trailingBreaks
    return (⟨.scalar (String.ofList body) (if folded then .folded else .literal), start, stop⟩, c)

/-! ## Flow scalars -/

/-- Blanks and line breaks between two words of a scalar. -/
structure Gap where
  blanks : List Char
  leadingBreak : List Char
  trailingBreaks : List Char
  broken : Bool

def Gap.empty : Gap := ⟨[], [], [], false⟩

/-- A gap folded: one break becomes a space, further breaks stay, and blanks
around breaks vanish. -/
def Gap.folded (g : Gap) : List Char :=
  if g.broken then
    if g.leadingBreak = ['\n'] then (if g.trailingBreaks.isEmpty then [' '] else g.trailingBreaks)
    else g.leadingBreak ++ g.trailingBreaks
  else g.blanks

/-- Reads a gap. Past a line break, a tab before column `margin` is refused. -/
def gap (margin : Nat) (start : Mark) : Nat → Gap → Cursor → Except Problem (Gap × Cursor)
  | 0, g, c => .ok (g, c)
  | fuel + 1, g, c =>
    if isBlank c.peek then
      if g.broken then
        if c.mark.column < margin && c.peek = '\t' then fail c .plainScalar start .tabInIndent
        else gap margin start fuel g c.skip
      else
        gap margin start fuel ⟨g.blanks ++ [c.peek], g.leadingBreak, g.trailingBreaks, false⟩ c.skip
    else if isBreak c.peek then
      let (br, next) := c.takeBreak
      if g.broken then
        gap margin start fuel ⟨[], g.leadingBreak, g.trailingBreaks ++ br, true⟩ next
      else gap margin start fuel ⟨[], br, [], true⟩ next
    else .ok (g, c)

/-- The character an escape of one letter stands for, or the number of
hexadecimal digits after it. -/
def escapeOf? : Char → Option (Char ⊕ Nat)
  | '0' => some (.inl endChar)
  | 'a' => some (.inl (Char.ofNat 7))
  | 'b' => some (.inl (Char.ofNat 8))
  | 't' => some (.inl '\t')
  | '\t' => some (.inl '\t')
  | 'n' => some (.inl '\n')
  | 'v' => some (.inl (Char.ofNat 11))
  | 'f' => some (.inl (Char.ofNat 12))
  | 'r' => some (.inl '\r')
  | 'e' => some (.inl (Char.ofNat 27))
  | ' ' => some (.inl ' ')
  | '"' => some (.inl '"')
  | '/' => some (.inl '/')
  | '\\' => some (.inl '\\')
  | 'N' => some (.inl (Char.ofNat 0x85))
  | '_' => some (.inl (Char.ofNat 0xa0))
  | 'L' => some (.inl (Char.ofNat 0x2028))
  | 'P' => some (.inl (Char.ofNat 0x2029))
  | 'x' => some (.inr 2)
  | 'u' => some (.inr 4)
  | 'U' => some (.inr 8)
  | _ => none

def quotedEscape (start : Mark) (c : Cursor) : Except Problem (Char × Cursor) :=
  match escapeOf? (c.peekAt 1) with
  | none => fail c .quotedEscape start .unknownEscape
  | some (.inl ch) => .ok (ch, c.advance 2)
  | some (.inr count) =>
    let after := c.advance 2
    match (List.range count).mapM fun i => hexValue? (after.peekAt i) with
    | none => fail after .quotedEscape start .missingHexDigit
    | some digits =>
      let code := digits.foldl (fun n d => 16 * n + d) 0
      if (0xd800 ≤ code && code ≤ 0xdfff) || 0x10ffff < code then
        fail after .quotedEscape start .badEscapeCode
      else .ok (Char.ofNat code, after.advance count)

/-- Reads a word of a quoted scalar: up to a blank, a break, the closing quote or an escaped break.
The flag tells of an escaped break. -/
def quotedWord (single : Bool) (start : Mark) :
    Nat → Cursor → Except Problem ((List Char × Bool) × Cursor)
  | 0, c => .ok (([], false), c)
  | fuel + 1, c =>
    let ch := c.peek
    if isBlankOrEnd ch then .ok (([], false), c)
    else if single && ch = '\'' && c.peekAt 1 = '\'' then do
      let ((more, broken), c) ← quotedWord single start fuel (c.advance 2)
      return (('\'' :: more, broken), c)
    else if ch = (if single then '\'' else '"') then .ok (([], false), c)
    else if !single && ch = '\\' && isBreak (c.peekAt 1) then .ok (([], true), c.skip.skipBreak)
    else if !single && ch = '\\' then do
      let (plain, c) ← quotedEscape start c
      let ((more, broken), c) ← quotedWord single start fuel c
      return ((plain :: more, broken), c)
    else do
      let ((more, broken), c) ← quotedWord single start fuel c.skip
      return ((ch :: more, broken), c)

def quotedText (single : Bool) (start : Mark) :
    Nat → List Char → Cursor → Except Problem (List Char × Cursor)
  | 0, text, c => .ok (text, c)
  | fuel + 1, text, c =>
    if c.atAnyMarker then fail c .quotedScalar start .documentMarker
    else if c.peek = endChar then fail c .quotedScalar start .endOfText
    else do
      let ((word, broken), c) ← quotedWord single start (c.rest.length + 1) c
      if c.peek = (if single then '\'' else '"') then return (text ++ word, c)
      else
        let opening : Gap := ⟨[], [], [], broken⟩
        let (g, c) ← gap 0 start (c.rest.length + 1) opening c
        quotedText single start fuel (text ++ word ++ g.folded) c

def quotedScalar (single : Bool) (c : Cursor) : Except Problem (Token × Cursor) := do
  let start := c.mark
  let (text, c) ← quotedText single start (c.rest.length + 1) [] c.skip
  let c := c.skip
  return (⟨.scalar (String.ofList text) (if single then .singleQuoted else .doubleQuoted),
    start, c.mark⟩, c)

def plainWord (inFlow : Bool) (start : Mark) : Nat → Cursor → Except Problem (List Char × Cursor)
  | 0, c => .ok ([], c)
  | fuel + 1, c =>
    let ch := c.peek
    let next := c.peekAt 1
    if isBlankOrEnd ch then .ok ([], c)
    else if inFlow && ch = ':' && (isFlowIndicator next || next = '?') then
      fail c .plainScalar start .unexpectedColon
    else if (ch = ':' && isBlankOrEnd next) || (inFlow && isFlowIndicator ch) then .ok ([], c)
    else do
      let (more, c) ← plainWord inFlow start fuel c.skip
      return (ch :: more, c)

/-- What a plain scalar consists of when its last word has been read. -/
structure PlainText where
  text : List Char
  stop : Mark
  broken : Bool

/-- Reads the words and gaps of a plain scalar. It ends at a comment, a document marker, an
indicator, or a line that is indented less than `margin`. -/
def plainText (inFlow : Bool) (margin : Nat) (start : Mark) :
    Nat → Gap → PlainText → Cursor → Except Problem (PlainText × Cursor)
  | 0, _, p, c => .ok (p, c)
  | fuel + 1, g, p, c =>
    if c.atAnyMarker || c.peek = '#' then .ok (p, c)
    else do
      let (word, c) ← plainWord inFlow start (c.rest.length + 1) c
      let p := if word.isEmpty then p else ⟨p.text ++ g.folded ++ word, c.mark, false⟩
      let g := if word.isEmpty then g else Gap.empty
      if !(isBlank c.peek || isBreak c.peek) then return (p, c)
      else
        let (g, c) ← gap margin start (c.rest.length + 1) g c
        let p := ⟨p.text, p.stop, g.broken⟩
        if !inFlow && c.mark.column < margin then return (p, c)
        else plainText inFlow margin start fuel g p c

/-- Reads a plain scalar; `parent` is the indentation around it. The flag tells whether the scalar
ends behind a line break. -/
def plainScalar (inFlow : Bool) (parent : Int) (c : Cursor) :
    Except Problem ((Token × Bool) × Cursor) := do
  let start := c.mark
  let (p, c) ←
    plainText inFlow (parent + 1).toNat start (c.rest.length + 1) Gap.empty ⟨[], start, false⟩ c
  return ((⟨.scalar (String.ofList p.text) .plain, start, p.stop⟩, p.broken), c)

end Scan

end Workflow.Yaml
