import Workflow.Yaml.TokenStream

/-!
# Events

The nodes of a document in the order in which they open and close. `Events.next` turns tokens into
events; what may come next is remembered as a stack of expectations.
-/

namespace Workflow.Yaml

/-- A step through a document: a scalar, an alias, or a collection that opens or closes. `Target` is
what an alias tells of the node that it repeats. -/
inductive EventKind (Target : Type) where
  | streamStart
  | streamEnd
  | documentStart
  | documentEnd
  | alias (target : Target)
  | scalar (anchor : Option String) (tag : Option Tag) (text : String) (style : ScalarStyle)
  | sequenceStart (anchor : Option String) (tag : Option Tag)
  | sequenceEnd
  | mappingStart (anchor : Option String) (tag : Option Tag)
  | mappingEnd
  deriving Inhabited, Repr

structure Event (Target : Type) where
  kind : EventKind Target
  mark : Mark
  deriving Inhabited, Repr

/-- What the tokens ahead are read as. -/
inductive Expect where
  | stream
  | implicitDocument
  | explicitDocument
  | documentContent
  | documentEnd
  | blockNode
  | blockSequenceFirst
  | blockSequenceEntry
  | indentlessEntry
  | blockMappingFirst
  | blockMappingKey
  | blockMappingValue
  | flowSequenceFirst
  | flowSequenceEntry
  | pairKey
  | pairValue
  | pairEnd
  | flowMappingFirst
  | flowMappingKey
  | flowMappingValue
  | flowMappingNoValue
  | finished
  deriving DecidableEq, Inhabited, Repr

/-- The state of turning tokens into events: what is expected now and afterwards, where the open
collections began, and the tag handles of the document. -/
structure Events where
  tokens : TokenStream
  now : Expect
  later : List Expect
  starts : List Mark
  handles : List (String × Tag)
  deriving Inhabited

namespace Events

def ofList (text : List Char) : Events := ⟨TokenStream.ofList text, .stream, [], [], []⟩

def peek (e : Events) : Except Problem (Token × Events) := do
  let (token, tokens) ← e.tokens.peek
  return (token, { e with tokens := tokens })

def drop (e : Events) : Events := { e with tokens := e.tokens.drop }

def resume (e : Events) : Events :=
  { e with now := e.later.headD .finished, later := e.later.drop 1 }

def closeCollection (e : Events) : Events := { e.resume with starts := e.starts.drop 1 }

/-- Notes where a collection begins and drops its first token. -/
def openCollection (e : Events) (token : Token) : Events :=
  { e.drop with starts := token.start :: e.starts }

/-- Expects `now` next and `afterwards` behind it. -/
def expecting (e : Events) (now : Expect) : Events := { e with now := now }

def thenExpecting (e : Events) (afterwards : Expect) : Events :=
  { e with later := afterwards :: e.later }

/-- The value that is not written. -/
def emptyScalar (e : Events) (mark : Mark) : Except Problem (Event String × Events) :=
  .ok (⟨.scalar none none "" .plain, mark⟩, e)

def fail {α : Type} (token : Token) (fault : Fault) (context : Option (Activity × Mark)) :
    Except Problem α :=
  .error (.malformed fault token.start context)

/-- A fault inside the innermost collection. -/
def failInside {α : Type} (e : Events) (token : Token) (activity : Activity) (fault : Fault) :
    Except Problem α :=
  fail token fault (some (activity, e.starts.headD token.start))

/-! ## Nodes -/

/-- Anchor and tag in front of a node, with the positions of the node and of the tag. -/
structure Properties where
  anchor : Option String
  tag : Option (String × Tag)
  start : Mark
  tagMark : Mark

def properties (e : Events) : Except Problem (Properties × Events) := do
  let (first, e) ← e.peek
  match first.kind with
  | .anchor name =>
    let (second, e) ← e.drop.peek
    match second.kind with
    | .tag handle suffix =>
      return (⟨some name, some (handle, suffix), first.start, second.start⟩, e.drop)
    | _ => return (⟨some name, none, first.start, first.start⟩, e)
  | .tag handle suffix =>
    let (second, e) ← e.drop.peek
    match second.kind with
    | .anchor name => return (⟨some name, some (handle, suffix), first.start, first.start⟩, e.drop)
    | _ => return (⟨none, some (handle, suffix), first.start, first.start⟩, e)
  | _ => return (⟨none, none, first.start, first.start⟩, e)

/-- The tag with its handle replaced by what the handle stands for. -/
def resolveTag (e : Events) (p : Properties) : Except Problem (Option Tag) :=
  match p.tag with
  | none => .ok none
  | some ("", suffix) => .ok (some suffix)
  | some (handle, suffix) =>
    match e.handles.lookup handle with
    | some stem => .ok (some (stem.append suffix))
    | none => .error (.malformed .unknownTagHandle p.tagMark (some (.node, p.start)))

/-- Reads a node. In a block it may be a block collection; `indentless` allows a sequence whose
dashes stand at the indentation of the mapping around it. -/
def node (e : Events) (block indentless : Bool) : Except Problem (Event String × Events) := do
  let (first, e) ← e.peek
  match first.kind with
  | .alias name => return (⟨.alias name, first.start⟩, e.drop.resume)
  | _ =>
    let (p, e) ← e.properties
    let tag ← e.resolveTag p
    let (token, e) ← e.peek
    match token.kind with
    | .scalar text style =>
      let tag := if tag = some (.ofString "!") then none else tag
      return (⟨.scalar p.anchor tag text style, p.start⟩, e.drop.resume)
    | .flowSequenceStart =>
      return (⟨.sequenceStart p.anchor tag, p.start⟩, e.expecting .flowSequenceFirst)
    | .flowMappingStart =>
      return (⟨.mappingStart p.anchor tag, p.start⟩, e.expecting .flowMappingFirst)
    | kind =>
      if indentless && kind = .blockEntry then
        return (⟨.sequenceStart p.anchor tag, p.start⟩, e.expecting .indentlessEntry)
      else if block && kind = .blockSequenceStart then
        return (⟨.sequenceStart p.anchor tag, p.start⟩, e.expecting .blockSequenceFirst)
      else if block && kind = .blockMappingStart then
        return (⟨.mappingStart p.anchor tag, p.start⟩, e.expecting .blockMappingFirst)
      else if p.anchor.isSome || tag.isSome then
        return (⟨.scalar p.anchor tag "" .plain, p.start⟩, e.resume)
      else fail token .missingNode (some (if block then .blockNode else .flowNode, p.start))

/-! ## Documents -/

def directives : Nat → Bool → List (String × Tag) → Events → Except Problem Events
  | 0, _, _, e => .ok e
  | fuel + 1, versioned, handles, e =>
    match e.peek with
    | .error problem => .error problem
    | .ok (token, e) =>
      match token.kind with
      | .versionDirective major minor =>
        if versioned then fail token .duplicateVersion none
        else if major ≠ 1 || (minor ≠ 1 && minor ≠ 2) then fail token .unsupportedVersion none
        else directives fuel true handles e.drop
      | .tagDirective handle stem =>
        if (handles.lookup handle).isSome then fail token .duplicateTag none
        else directives fuel versioned (handles ++ [(handle, stem)]) e.drop
      | _ =>
        .ok { e with handles := handles ++
          [("!", .ofString "!"), ("!!", .ofString "tag:yaml.org,2002:")] }

def dropEndMarkers : Nat → Events → Except Problem Events
  | 0, e => .ok e
  | fuel + 1, e =>
    match e.peek with
    | .error problem => .error problem
    | .ok (token, e) => if token.kind = .documentEnd then dropEndMarkers fuel e.drop else .ok e

/-- A bound on the tokens still to come. -/
def tokenBound (e : Events) : Nat := e.tokens.waiting.length + 3 * e.tokens.cursor.rest.length + 10

/-- Reads the start of a document or the end of the text. -/
def documentStart (e : Events) (implicit : Bool) : Except Problem (Event String × Events) := do
  let e ← if implicit then pure e else dropEndMarkers e.tokenBound e
  let (token, e) ← e.peek
  let explicit := match token.kind with
    | .versionDirective _ _ | .tagDirective _ _ | .documentStart | .streamEnd => true
    | _ => false
  if implicit && !explicit then
    let e ← directives 1 false [] e
    return (⟨.documentStart, token.start⟩, (e.expecting .blockNode).thenExpecting .documentEnd)
  else if token.kind = .streamEnd then
    return (⟨.streamEnd, token.start⟩, e.drop.expecting .finished)
  else
    let start := token.start
    let e ← directives e.tokenBound false [] e
    let (token, e) ← e.peek
    if token.kind = .documentStart then
      return (⟨.documentStart, start⟩,
        (e.drop.expecting .documentContent).thenExpecting .documentEnd)
    else fail token .missingDocumentStart none

/-- Reads the content of a document, which may be missing. -/
def documentContent (e : Events) : Except Problem (Event String × Events) := do
  let (token, e) ← e.peek
  match token.kind with
  | .versionDirective _ _ | .tagDirective _ _ | .documentStart | .documentEnd | .streamEnd =>
    e.resume.emptyScalar token.start
  | _ => e.node true false

/-- Reads the end of a document, with or without its marker. -/
def documentEnd (e : Events) : Except Problem (Event String × Events) := do
  let (token, e) ← e.peek
  let e := if token.kind = .documentEnd then e.drop else e
  return (⟨.documentEnd, token.start⟩, { e.expecting .explicitDocument with handles := [] })

/-! ## Block collections -/

def blockSequenceEntry (e : Events) : Except Problem (Event String × Events) := do
  let (token, e) ← e.peek
  match token.kind with
  | .blockEntry =>
    let (next, e) ← e.drop.peek
    if next.kind = .blockEntry || next.kind = .blockEnd then
      (e.expecting .blockSequenceEntry).emptyScalar token.stop
    else (e.thenExpecting .blockSequenceEntry).node true false
  | .blockEnd => return (⟨.sequenceEnd, token.start⟩, e.drop.closeCollection)
  | _ => e.failInside token .blockCollection .missingDash

/-- Reads an entry of a sequence that is not indented, or its end. -/
def indentlessEntry (e : Events) : Except Problem (Event String × Events) := do
  let (token, e) ← e.peek
  if token.kind = .blockEntry then
    let (next, e) ← e.drop.peek
    match next.kind with
    | .blockEntry | .key | .value | .blockEnd =>
      (e.expecting .indentlessEntry).emptyScalar token.stop
    | _ => (e.thenExpecting .indentlessEntry).node true false
  else return (⟨.sequenceEnd, token.start⟩, e.resume)

/-- Reads the node behind a question mark or colon of a block mapping, then expects `afterwards`. -/
def blockMappingNode (e : Events) (mark : Mark) (afterwards : Expect) :
    Except Problem (Event String × Events) := do
  let (token, e) ← e.peek
  match token.kind with
  | .key | .value | .blockEnd => (e.expecting afterwards).emptyScalar mark
  | _ => (e.thenExpecting afterwards).node true true

def blockMappingKey (e : Events) : Except Problem (Event String × Events) := do
  let (token, e) ← e.peek
  match token.kind with
  | .key => e.drop.blockMappingNode token.stop .blockMappingValue
  | .blockEnd => return (⟨.mappingEnd, token.start⟩, e.drop.closeCollection)
  | _ => e.failInside token .blockMapping .missingKey

def blockMappingValue (e : Events) : Except Problem (Event String × Events) := do
  let (token, e) ← e.peek
  if token.kind = .value then e.drop.blockMappingNode token.stop .blockMappingKey
  else (e.expecting .blockMappingKey).emptyScalar token.start

/-! ## Flow collections -/

/-- Reads the comma in front of every entry but the first. -/
def separator (e : Events) (first : Bool) (close : TokenKind) (activity : Activity)
    (fault : Fault) :
    Except Problem (Token × Events) := do
  let (token, e) ← e.peek
  if first || token.kind = close then return (token, e)
  else if token.kind = .flowEntry then e.drop.peek
  else e.failInside token activity fault

def flowSequenceEntry (e : Events) (first : Bool) : Except Problem (Event String × Events) := do
  let (token, e) ← e.separator first .flowSequenceEnd .flowSequence .missingSequenceEnd
  match token.kind with
  | .flowSequenceEnd => return (⟨.sequenceEnd, token.start⟩, e.drop.closeCollection)
  | .key => return (⟨.mappingStart none none, token.start⟩, e.drop.expecting .pairKey)
  | _ => (e.thenExpecting .flowSequenceEntry).node false false

def pairKey (e : Events) : Except Problem (Event String × Events) := do
  let (token, e) ← e.peek
  match token.kind with
  | .value | .flowEntry | .flowSequenceEnd => (e.drop.expecting .pairValue).emptyScalar token.stop
  | _ => (e.thenExpecting .pairValue).node false false

def pairValue (e : Events) : Except Problem (Event String × Events) := do
  let (token, e) ← e.peek
  if token.kind = .value then
    let (next, e) ← e.drop.peek
    if next.kind = .flowEntry || next.kind = .flowSequenceEnd then
      (e.expecting .pairEnd).emptyScalar next.start
    else (e.thenExpecting .pairEnd).node false false
  else (e.expecting .pairEnd).emptyScalar token.start

def flowMappingKey (e : Events) (first : Bool) : Except Problem (Event String × Events) := do
  let (token, e) ← e.separator first .flowMappingEnd .flowMapping .missingMappingEnd
  match token.kind with
  | .flowMappingEnd => return (⟨.mappingEnd, token.start⟩, e.drop.closeCollection)
  | .key =>
    let (next, e) ← e.drop.peek
    match next.kind with
    | .value | .flowEntry | .flowMappingEnd =>
      (e.expecting .flowMappingValue).emptyScalar next.start
    | _ => (e.thenExpecting .flowMappingValue).node false false
  | _ => (e.thenExpecting .flowMappingNoValue).node false false

/-- Reads a value of a flow mapping; a key without a colon has none. -/
def flowMappingValue (e : Events) (absent : Bool) : Except Problem (Event String × Events) := do
  let (token, e) ← e.peek
  if !absent && token.kind = .value then
    let (next, e) ← e.drop.peek
    if next.kind = .flowEntry || next.kind = .flowMappingEnd then
      (e.expecting .flowMappingKey).emptyScalar next.start
    else (e.thenExpecting .flowMappingKey).node false false
  else (e.expecting .flowMappingKey).emptyScalar token.start

/-- Notes the start of a collection, then reads on. -/
def opening (e : Events) (read : Events → Except Problem (Event String × Events)) :
    Except Problem (Event String × Events) := do
  let (token, e) ← e.peek
  read (e.openCollection token)

def next (e : Events) : Except Problem (Event String × Events) :=
  match e.now with
  | .stream => do
    let (token, e) ← e.peek
    return (⟨.streamStart, token.start⟩, e.drop.expecting .implicitDocument)
  | .implicitDocument => e.documentStart true
  | .explicitDocument => e.documentStart false
  | .documentContent => e.documentContent
  | .documentEnd => e.documentEnd
  | .blockNode => e.node true false
  | .blockSequenceFirst => e.opening blockSequenceEntry
  | .blockSequenceEntry => e.blockSequenceEntry
  | .indentlessEntry => e.indentlessEntry
  | .blockMappingFirst => e.opening blockMappingKey
  | .blockMappingKey => e.blockMappingKey
  | .blockMappingValue => e.blockMappingValue
  | .flowSequenceFirst => e.opening (flowSequenceEntry · true)
  | .flowSequenceEntry => e.flowSequenceEntry false
  | .pairKey => e.pairKey
  | .pairValue => e.pairValue
  | .pairEnd => do
    let (token, e) ← e.peek
    return (⟨.mappingEnd, token.start⟩, e.expecting .flowSequenceEntry)
  | .flowMappingFirst => e.opening (flowMappingKey · true)
  | .flowMappingKey => e.flowMappingKey false
  | .flowMappingValue => e.flowMappingValue false
  | .flowMappingNoValue => e.flowMappingValue true
  | .finished => .ok (⟨.streamEnd, e.tokens.cursor.mark⟩, e)

end Events

end Workflow.Yaml
