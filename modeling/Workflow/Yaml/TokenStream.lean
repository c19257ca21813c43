import Workflow.Yaml.Token

/-!
# The stream of tokens

Tokens are delivered one by one. A key without a question mark shows itself only by the colon behind
it, so a token that may begin such a key is held back until the colon is found or ruled out.
Indentation opens and closes block collections.
-/

namespace Workflow.Yaml

/-- A place where a key may have begun. `required` keys must be keys: they stand at the indentation
of a block mapping. -/
structure KeyCandidate where
  required : Bool
  token : Nat
  mark : Mark
  deriving Inhabited, Repr

/-- The state of reading: the rest of the text, tokens waiting for delivery, the number of tokens
delivered, indentation with the indentations around it, and one possible key for each open flow
collection and the block around them. -/
structure TokenStream where
  cursor : Cursor
  waiting : List Token
  delivered : Nat
  started : Bool
  ended : Bool
  indent : Int
  outerIndents : List Int
  keyAllowed : Bool
  keys : List (Option KeyCandidate)
  deriving Inhabited

namespace TokenStream

def ofList (text : List Char) : TokenStream :=
  ⟨Cursor.ofList text, [], 0, false, false, -1, [], true, [none]⟩

def inFlow (s : TokenStream) : Bool := 1 < s.keys.length

def push (s : TokenStream) (token : Token) : TokenStream :=
  { s with waiting := s.waiting ++ [token] }

/-- Appends a token without extent at the cursor. -/
def pushHere (s : TokenStream) (kind : TokenKind) : TokenStream :=
  s.push ⟨kind, s.cursor.mark, s.cursor.mark⟩

/-- Appends a token that covers `count` characters at the cursor. -/
def pushChars (s : TokenStream) (kind : TokenKind) (count : Nat) : TokenStream :=
  let after := s.cursor.advance count
  { s.push ⟨kind, s.cursor.mark, after.mark⟩ with cursor := after }

/-- Inserts a token before the one with the given number. -/
def insertAt (s : TokenStream) (number : Nat) (token : Token) : TokenStream :=
  let place := number - s.delivered
  { s with waiting := s.waiting.take place ++ token :: s.waiting.drop place }

/-- A candidate is stale behind its line or more than 1024 characters on. -/
def KeyCandidate.isStale (k : KeyCandidate) (mark : Mark) : Bool :=
  k.mark.line < mark.line || k.mark.index + 1024 < mark.index

/-- The problem of a required key without its colon. -/
def missingColon (s : TokenStream) (k : KeyCandidate) : Problem :=
  .malformed .missingColon s.cursor.mark (some (.simpleKey, k.mark))

def dropStale (s : TokenStream) : Except Problem TokenStream :=
  let stale := s.keys.reverse.filterMap fun key =>
    key.filter (KeyCandidate.isStale · s.cursor.mark)
  match stale.find? (·.required) with
  | some k => .error (s.missingColon k)
  | none =>
    .ok { s with keys := s.keys.map (·.filter fun k => !KeyCandidate.isStale k s.cursor.mark) }

def dropKey (s : TokenStream) : Except Problem TokenStream :=
  match s.keys with
  | some k :: outer =>
    if k.required then .error (s.missingColon k) else .ok { s with keys := none :: outer }
  | _ => .ok s

def noteKey (s : TokenStream) : Except Problem TokenStream :=
  if s.keyAllowed then do
    let required := !s.inFlow && s.indent = s.cursor.mark.column
    let s ← s.dropKey
    let key : KeyCandidate := ⟨required, s.delivered + s.waiting.length, s.cursor.mark⟩
    return { s with keys := some key :: s.keys.drop 1 }
  else .ok s

def closeBlocks (s : TokenStream) (column : Int) : TokenStream :=
  if s.inFlow then s
  else go s column s.outerIndents
where
  go (s : TokenStream) (column : Int) : List Int → TokenStream
    | [] => s
    | outer :: rest =>
      if column < s.indent then
        go { s.pushHere .blockEnd with indent := outer, outerIndents := rest } column rest
      else s

/-- Opens a block collection at `column` if it lies deeper than the current one. Its token comes
last, or before the token with the given number. -/
def openBlock (s : TokenStream) (column : Nat) (number : Option Nat) (kind : TokenKind)
    (mark : Mark) :
    TokenStream :=
  if s.inFlow || (column : Int) ≤ s.indent then s
  else
    let deeper := { s with indent := column, outerIndents := s.indent :: s.outerIndents }
    match number with
    | some n => deeper.insertAt n ⟨kind, mark, mark⟩
    | none => deeper.push ⟨kind, mark, mark⟩

/-- A fault at the cursor that needs no context. -/
def fail {α : Type} (s : TokenStream) (fault : Fault) : Except Problem α :=
  .error (.malformed fault s.cursor.mark none)

/-- Passes blanks, comments and line breaks, and at the beginning of a line a mark of byte order. A
tab counts as a blank only where no block key may begin. -/
def skipToToken : Nat → TokenStream → TokenStream
  | 0, s => s
  | fuel + 1, s =>
    let c :=
      if s.cursor.mark.column = 0 && s.cursor.peek.toNat = 0xfeff then s.cursor.skip else s.cursor
    let tabs := s.inFlow || !s.keyAllowed
    let c := c.skipWhile fun ch => ch = ' ' || (tabs && ch = '\t')
    let c := if c.peek = '#' then c.skipWhile (fun ch => !isBreakOrEnd ch) else c
    if isBreak c.peek then
      skipToToken fuel { s with cursor := c.skipBreak, keyAllowed := s.keyAllowed || !s.inFlow }
    else { s with cursor := c }

def fetchEnd (s : TokenStream) : Except Problem TokenStream := do
  let mark := s.cursor.mark
  let mark := if mark.column = 0 then mark else ⟨mark.index, mark.line + 1, 0⟩
  let s := { s with cursor := ⟨s.cursor.rest, mark⟩ }
  let s ← (s.closeBlocks (-1)).dropKey
  return { s.pushHere .streamEnd with keyAllowed := false, ended := true }

def fetchDirective (s : TokenStream) : Except Problem TokenStream := do
  let s ← (s.closeBlocks (-1)).dropKey
  let (token, c) ← Scan.directive s.cursor
  return { s.push token with cursor := c, keyAllowed := false }

def fetchMarker (s : TokenStream) (kind : TokenKind) : Except Problem TokenStream := do
  let s ← (s.closeBlocks (-1)).dropKey
  return { s.pushChars kind 3 with keyAllowed := false }

def fetchFlowStart (s : TokenStream) (kind : TokenKind) : Except Problem TokenStream := do
  let s ← s.noteKey
  return { s.pushChars kind 1 with keys := none :: s.keys, keyAllowed := true }

def fetchFlowEnd (s : TokenStream) (kind : TokenKind) : Except Problem TokenStream := do
  let s ← s.dropKey
  let keys := if s.inFlow then s.keys.drop 1 else s.keys
  return { s.pushChars kind 1 with keys := keys, keyAllowed := false }

def fetchFlowEntry (s : TokenStream) : Except Problem TokenStream := do
  let s ← s.dropKey
  return { s.pushChars .flowEntry 1 with keyAllowed := true }

def fetchBlockEntry (s : TokenStream) : Except Problem TokenStream := do
  if !s.inFlow && !s.keyAllowed then s.fail .blockEntryNotAllowed
  else
    let s ← (s.openBlock s.cursor.mark.column none .blockSequenceStart s.cursor.mark).dropKey
    return { s.pushChars .blockEntry 1 with keyAllowed := true }

def fetchKey (s : TokenStream) : Except Problem TokenStream := do
  if !s.inFlow && !s.keyAllowed then s.fail .keyNotAllowed
  else
    let s ← (s.openBlock s.cursor.mark.column none .blockMappingStart s.cursor.mark).dropKey
    return { s.pushChars .key 1 with keyAllowed := !s.inFlow }

/-- A colon: behind a possible key it makes the key one. -/
def fetchValue (s : TokenStream) : Except Problem TokenStream := do
  match s.keys with
  | some k :: outer =>
    let s := s.insertAt k.token ⟨.key, k.mark, k.mark⟩
    let s := s.openBlock k.mark.column (some k.token) .blockMappingStart k.mark
    return { s.pushChars .value 1 with keys := none :: outer, keyAllowed := false }
  | _ =>
    if !s.inFlow && !s.keyAllowed then s.fail .valueNotAllowed
    else
      let s := s.openBlock s.cursor.mark.column none .blockMappingStart s.cursor.mark
      return { s.pushChars .value 1 with keyAllowed := !s.inFlow }

def fetchKeyStart (s : TokenStream) (scan : Cursor → Except Problem (Token × Cursor)) :
    Except Problem TokenStream := do
  let s ← s.noteKey
  let (token, c) ← scan s.cursor
  return { s.push token with cursor := c, keyAllowed := false }

def fetchBlockScalar (s : TokenStream) (folded : Bool) : Except Problem TokenStream := do
  let s ← s.dropKey
  let (token, c) ← Scan.blockScalar folded s.indent s.cursor
  return { s.push token with cursor := c, keyAllowed := true }

def fetchPlain (s : TokenStream) : Except Problem TokenStream := do
  let s ← s.noteKey
  let ((token, broken), c) ← Scan.plainScalar s.inFlow s.indent s.cursor
  return { s.push token with cursor := c, keyAllowed := broken }

/-- Characters no plain scalar begins with, except a dash, question mark or colon before text. -/
def indicators : List Char := "-?:,[]\x7b\x7d#&*!|>'\"%@\x60".toList

def startsPlain (s : TokenStream) : Bool :=
  let ch := s.cursor.peek
  let next := s.cursor.peekAt 1
  !(isBlankOrEnd ch || indicators.contains ch) || (ch = '-' && !isBlank next)
    || (!s.inFlow && (ch = '?' || ch = ':') && !isBlankOrEnd next)

/-- Reads the next token or tokens into the queue. -/
def fetch (s : TokenStream) : Except Problem TokenStream := do
  if !s.started then return { s.pushHere .streamStart with started := true }
  else
    let s := skipToToken (s.cursor.rest.length + 1) s
    let s ← s.dropStale
    let s := s.closeBlocks s.cursor.mark.column
    let c := s.cursor
    let ch := c.peek
    let open_ := s.inFlow || isBlankOrEnd (c.peekAt 1)
    if ch = endChar then s.fetchEnd
    else if c.mark.column = 0 && ch = '%' then s.fetchDirective
    else if c.atMarker '-' then s.fetchMarker .documentStart
    else if c.atMarker '.' then s.fetchMarker .documentEnd
    else if ch = '[' then s.fetchFlowStart .flowSequenceStart
    else if ch = '\x7b' then s.fetchFlowStart .flowMappingStart
    else if ch = ']' then s.fetchFlowEnd .flowSequenceEnd
    else if ch = '\x7d' then s.fetchFlowEnd .flowMappingEnd
    else if ch = ',' then s.fetchFlowEntry
    else if ch = '-' && isBlankOrEnd (c.peekAt 1) then s.fetchBlockEntry
    else if ch = '?' && open_ then s.fetchKey
    else if ch = ':' && open_ then s.fetchValue
    else if ch = '*' then s.fetchKeyStart (Scan.anchor true)
    else if ch = '&' then s.fetchKeyStart (Scan.anchor false)
    else if ch = '!' then s.fetchKeyStart (Scan.tag s.inFlow)
    else if ch = '|' && !s.inFlow then s.fetchBlockScalar false
    else if ch = '>' && !s.inFlow then s.fetchBlockScalar true
    else if ch = '\'' then s.fetchKeyStart (Scan.quotedScalar true)
    else if ch = '"' then s.fetchKeyStart (Scan.quotedScalar false)
    else if s.startsPlain then s.fetchPlain
    else .error (.malformed .noTokenStart c.mark (some (.nextToken, c.mark)))

/-- Reads on while the queue is empty or its head may yet turn out to begin a key. Every round but
the last moves the cursor, so the length of the text bounds the rounds. -/
def fill : Nat → TokenStream → Except Problem TokenStream
  | 0, s => .ok s
  | fuel + 1, s =>
    if s.waiting.isEmpty then
      match s.fetch with
      | .ok s => fill fuel s
      | .error e => .error e
    else
      match s.dropStale with
      | .error e => .error e
      | .ok s =>
        if s.keys.any fun key => (key.map fun k => decide (k.token = s.delivered)).getD false then
          match s.fetch with
          | .ok s => fill fuel s
          | .error e => .error e
        else .ok s

def peek (s : TokenStream) : Except Problem (Token × TokenStream) := do
  let s ← fill (2 * s.cursor.rest.length + 10) s
  match s.waiting with
  | token :: _ => return (token, s)
  | [] => return (⟨.streamEnd, s.cursor.mark, s.cursor.mark⟩, s)

def drop (s : TokenStream) : TokenStream :=
  { s with waiting := s.waiting.drop 1, delivered := s.delivered + 1 }

end TokenStream

end Workflow.Yaml
