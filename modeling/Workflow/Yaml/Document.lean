import Workflow.Unicode.Class
import Workflow.Yaml.Event
import Workflow.Yaml.Scalar

/-!
# Documents

A YAML text holds one document, read as a JSON value: keys are taken by their text, aliases repeat
what their anchor names, and a problem inside a value is reported with the way to it. A problem in
what was already read comes before a fault further on in the text.
-/

namespace Workflow.Yaml

/-- Deepest nesting of collections. -/
def maxDepth : Nat := 128

/-- Whether a character may stand in a text at all. -/
def isTextChar (c : Char) : Bool :=
  let n := c.toNat
  n = 9 || n = 10 || n = 13 || (32 ≤ n && n ≤ 126) || n = 0x85 || (0xa0 ≤ n && n ≤ 0xd7ff)
    || (0xe000 ≤ n && n ≤ 0xfffd) || 0x10000 ≤ n

/-- Bytes in front of the first character that may not stand in a text. -/
def controlOffset? (text : List Char) : Option Nat :=
  let before := text.takeWhile isTextChar
  if before.length = text.length then none else some (String.ofList before).utf8ByteSize

/-- The events of one document up to its end, or up to a problem. An alias has a number, and a
number leads to the place of an event. -/
structure Document where
  events : List (Event Nat)
  places : List (Nat × Nat)
  problem : Option Problem

/-- The anchors of a document: the number of each name, and the place behind each number. A name
gets the number of names known before it, itself included if it is used again; so a number can be
given twice, and then leads to the later place. -/
structure Anchors where
  numbers : Entries Nat
  places : List (Nat × Nat)

/-- Notes an anchor in front of the event at a place. -/
def Anchors.note (anchors : Anchors) (name : String) (place : Nat) : Anchors :=
  let number := anchors.numbers.length
  ⟨anchors.numbers.insert name number, (number, place) :: anchors.places⟩

namespace Document

/-- The anchor of an event. -/
def anchor? : EventKind String → Option String
  | .scalar anchor _ _ _ => anchor
  | .sequenceStart anchor _ => anchor
  | .mappingStart anchor _ => anchor
  | _ => none

/-- An event whose alias has the number of the name; there is none for the
name of no anchor before it. -/
def numbered? (numbers : Entries Nat) : EventKind String → Option (EventKind Nat)
  | .alias name => (numbers.get? name).map .alias
  | .scalar anchor tag text style => some (.scalar anchor tag text style)
  | .sequenceStart anchor tag => some (.sequenceStart anchor tag)
  | .mappingStart anchor tag => some (.mappingStart anchor tag)
  | .streamStart => some .streamStart
  | .streamEnd => some .streamEnd
  | .documentStart => some .documentStart
  | .documentEnd => some .documentEnd
  | .sequenceEnd => some .sequenceEnd
  | .mappingEnd => some .mappingEnd

/-- Gathers the events of a document; `fuel` bounds the events. -/
def gather : Nat → List (Event Nat) → Anchors → Events → Document × Events
  | 0, found, anchors, e => (⟨found.reverse, anchors.places, none⟩, e)
  | fuel + 1, found, anchors, e =>
    match e.next with
    | .error problem => (⟨found.reverse, anchors.places, some problem⟩, e)
    | .ok (event, e) =>
      match event.kind with
      | .streamStart | .documentStart => gather fuel found anchors e
      | .documentEnd | .streamEnd => (⟨found.reverse, anchors.places, none⟩, e)
      | kind =>
        match numbered? anchors.numbers kind with
        | none => (⟨found.reverse, anchors.places, some (.unknownAnchor event.mark)⟩, e)
        | some numbered =>
          let anchors := match anchor? kind with
            | some name => anchors.note name found.length
            | none => anchors
          gather fuel (⟨numbered, event.mark⟩ :: found) anchors e

/-- A bound on the events of a text. -/
def eventBound (text : List Char) : Nat := 12 * text.length + 40

/-! ## Values -/

/-- The way from the root to a value. -/
inductive Path where
  | root
  | item (parent : Path) (index : Nat)
  | field (parent : Path) (key : String)
  | unknown (parent : Path)

/-- A way in words: keys joined by points, places in brackets. -/
def Path.text : Path → String
  | root => "."
  | item parent index => s!"{parent.text}[{index}]"
  | field root key => key
  | field parent key => s!"{parent.text}.{key}"
  | unknown root => "?"
  | unknown parent => s!"{parent.text}.?"

/-- The state of reading values: events ahead and aliases followed so far. -/
structure Reading where
  ahead : List (Event Nat)
  jumps : Nat

/-- A problem with a value. -/
def reject {α : Type} (reason : String) (mark : Mark) (path : Path) : Except Problem α :=
  .error (.value reason mark path.text)

/-- Reads a scalar with a tag of the standard kinds, or by the core schema. -/
def scalar (tag : Option Tag) (text : String) (style : ScalarStyle) (mark : Mark) (path : Path) :
    Except Problem Json :=
  let mismatch := fun (expected : String) =>
    reject s!"invalid value: string {Unicode.quoted text}, expected {expected}" mark path
  let outOfRange : Except Problem Json := reject "JSON number out of range" mark path
  let untagged : Except Problem Json :=
    if style = .plain then
      match Scalar.plain? text with
      | some json => .ok json
      | none => outOfRange
    else .ok (.str text)
  match tag.map Tag.text? with
  | some (some "tag:yaml.org,2002:bool") =>
    match Scalar.bool? text with
    | some b => .ok (.bool b)
    | none => mismatch "a boolean"
  | some (some "tag:yaml.org,2002:int") =>
    match (Scalar.int? text).filter fun n => Scalar.minInt ≤ n && n ≤ Scalar.maxInt with
    | some n => if Number.InRange n then .ok (.int n) else outOfRange
    | none => mismatch "an integer"
  | some (some "tag:yaml.org,2002:float") =>
    match Scalar.float? text with
    | some x => .ok (Json.float x)
    | none => mismatch "a float"
  | some (some "tag:yaml.org,2002:null") =>
    if Scalar.isNull text then .ok .null else mismatch "null"
  | some _ => if (tag.map Tag.isLocal).getD false then untagged else .ok (.str text)
  | none => untagged

/-- Whether a tag is one of the document's own, which no value can carry. One
that is no text is passed over. -/
def isLocalTag : Option Tag → Bool
  | some tag => tag.isLocal && tag.text?.isSome
  | none => false

/-- The events from an anchor on; an alias may be followed a hundred times for every event. -/
def follow (d : Document) (number jumps : Nat) : Except Problem (List (Event Nat)) :=
  if d.events.length * 100 < jumps then .error .tooManyAliases
  else .ok (d.events.drop ((d.places.lookup number).getD 0))

def broken {α : Type} (d : Document) : Except Problem α :=
  .error (d.problem.getD .moreThanOneDocument)

def key (d : Document) (first : Bool) (r : Reading) (path : Path) :
    Except Problem (String × Reading) :=
  let expected := if first then "a string key" else "a string"
  let wrong := fun (mark : Mark) (found : String) =>
    (reject s!"invalid type: {found}, expected {expected}" mark path : Except Problem
      (String × Reading))
  match r.ahead with
  | [] => d.broken
  | event :: ahead =>
    match event.kind with
    | .scalar _ _ text _ => .ok (text, ⟨ahead, r.jumps⟩)
    | .alias number => do
      match ← d.follow number (r.jumps + 1) with
      | target :: _ =>
        match target.kind with
        | .scalar _ _ text _ => return (text, ⟨ahead, r.jumps + 1⟩)
        | .mappingStart _ _ => wrong target.mark "map"
        | _ => wrong target.mark "sequence"
      | [] => d.broken
    | .mappingStart _ _ => wrong event.mark "map"
    | _ => wrong event.mark "sequence"

/-- The way to the value behind a key: a key that is an alias has no name. -/
def fieldPath (r : Reading) (path : Path) (key : String) : Path :=
  match r.ahead with
  | event :: _ =>
    match event.kind with
    | .scalar _ _ _ _ => .field path key
    | _ => .unknown path
  | [] => .unknown path

mutual

/-- Reads a value. `fuel` bounds the nodes visited, repetitions through aliases included. -/
def value (d : Document) (fuel depth : Nat) (r : Reading) (path : Path) :
    Except Problem (Json × Reading) :=
  match fuel with
  | 0 => .error .tooManyAliases
  | fuel + 1 =>
    match r.ahead with
    | [] => d.broken
    | event :: ahead =>
      let next : Reading := ⟨ahead, r.jumps⟩
      let enum : Except Problem (Json × Reading) :=
        reject "invalid type: enum, expected any valid JSON value" event.mark path
      match event.kind with
      | .scalar _ tag text style =>
        if isLocalTag tag then enum
        else match scalar tag text style event.mark path with
          | .ok json => .ok (json, next)
          | .error e => .error e
      | .sequenceStart _ tag =>
        if isLocalTag tag then enum
        else match depth with
          | 0 => .error (.tooDeep event.mark)
          | depth + 1 =>
            match items d fuel depth 0 next path with
            | .ok (xs, r) => .ok (.arr xs, r)
            | .error e => .error e
      | .mappingStart _ tag =>
        if isLocalTag tag then enum
        else match depth with
          | 0 => .error (.tooDeep event.mark)
          | depth + 1 =>
            match fields d fuel depth [] true next path with
            | .ok (xs, r) => .ok (.obj xs, r)
            | .error e => .error e
      | .alias number =>
        match d.follow number (r.jumps + 1) with
        | .error e => .error e
        | .ok target =>
          match value d fuel depth ⟨target, r.jumps + 1⟩ path with
          | .ok (json, r) => .ok (json, ⟨ahead, r.jumps⟩)
          | .error e => .error e
      | _ => .ok (.null, next)

def items (d : Document) (fuel depth index : Nat) (r : Reading) (path : Path) :
    Except Problem (List Json × Reading) :=
  match fuel with
  | 0 => .error .tooManyAliases
  | fuel + 1 =>
    match r.ahead with
    | [] => d.broken
    | event :: ahead =>
      match event.kind with
      | .sequenceEnd => .ok ([], ⟨ahead, r.jumps⟩)
      | _ =>
        match value d fuel depth r (.item path index) with
        | .error e => .error e
        | .ok (item, r) =>
          match items d fuel depth (index + 1) r path with
          | .error e => .error e
          | .ok (rest, r) => .ok (item :: rest, r)

/-- Reads the fields of a mapping. A key written twice keeps its first place and its last value. -/
def fields (d : Document) (fuel depth : Nat) (found : Entries Json) (first : Bool) (r : Reading)
    (path : Path) :
    Except Problem (Entries Json × Reading) :=
  match fuel with
  | 0 => .error .tooManyAliases
  | fuel + 1 =>
    match r.ahead with
    | [] => d.broken
    | event :: ahead =>
      match event.kind with
      | .mappingEnd => .ok (found, ⟨ahead, r.jumps⟩)
      | _ =>
        match d.key first r path with
        | .error e => .error e
        | .ok (name, after) =>
          match value d fuel depth after (fieldPath r path name) with
          | .error e => .error e
          | .ok (json, r) => fields d fuel depth (found.insert name json) false r path

end

/-- Reads the value of a document. An empty text has the value null. -/
def toJson (d : Document) : Except Problem Json :=
  let count := d.events.length
  match d.events, d.problem with
  | [], none => .ok .null
  | events, _ =>
    match value d ((count + 2) * (100 * count + 10)) maxDepth ⟨events, 0⟩ .root with
    | .error e => .error e
    | .ok (json, _) =>
      match d.problem with
      | some problem => .error problem
      | none => .ok json

end Document

/-- Reads a text that holds exactly one document. -/
def read (text : String) : Except Problem Json :=
  let cs := text.toList
  match controlOffset? cs with
  | some offset => .error (.controlCharacter offset)
  | none =>
    let bound := Document.eventBound cs
    let (first, e) := Document.gather bound [] ⟨[], []⟩ (Events.ofList cs)
    match first.toJson with
    | .error problem => .error problem
    | .ok json =>
      match e.now with
      | .finished => .ok json
      | _ =>
        match e.next with
        | .ok (⟨.streamEnd, _⟩, _) => .ok json
        | _ => .error .moreThanOneDocument

end Workflow.Yaml
