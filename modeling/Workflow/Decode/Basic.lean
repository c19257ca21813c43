import Workflow.Decode.Fault

/-!
# Reading typed values

Decoders for texts, numbers, lists, maps, variants and records. A record is read from an
object, field by field in the order of the object, or from an array that lists its
fields in their declared order.
-/

namespace Workflow

/-- Reads a value of a certain form. -/
abbrev Decoder (α : Type) := Json → Except Decode.Fault α

namespace Decode

variable {α β σ : Type}

def text : Decoder String
  | .str s => .ok s
  | json => .error (.kind json "a string")

def boolean : Decoder Bool
  | .bool b => .ok b
  | json => .error (.kind json "a boolean")

/-- A whole number below `limit`; `name` is what messages call such numbers. -/
def natural (limit : Nat) (name : String) : Decoder Nat
  | .num (.int n) =>
    if 0 ≤ n && n < limit then .ok n.toNat else .error (.range (.num (.int n)) name)
  | json => .error (.kind json name)

def u32 : Decoder UInt32 := fun json => (natural 4294967296 "u32" json).map Nat.toUInt32

def u64 : Decoder UInt64 := fun json => (natural 18446744073709551616 "u64" json).map Nat.toUInt64

def size : Decoder UInt64 :=
  fun json => (natural 18446744073709551616 "usize" json).map Nat.toUInt64

def float : Decoder Float
  | .num n => .ok n.toFloat
  | json => .error (.kind json "f64")

def any : Decoder Json := .ok

def optional (decoder : Decoder α) : Decoder (Option α)
  | .null => .ok none
  | json => (decoder json).map some

def list (decoder : Decoder α) : Decoder (List α)
  | .arr items => items.mapM decoder
  | json => .error (.kind json "a sequence")

/-- A map from names. -/
def entries (decoder : Decoder α) : Decoder (Entries α)
  | .obj fields => fields.mapM fun (key, value) => return (key, ← decoder value)
  | json => .error (.kind json "a map")

/-- One of several named variants: its name, or a map from its name to nothing. -/
def variant (name : α → String) (all : List α) : Decoder α := fun json => do
  let find := fun (text : String) =>
    match all.find? fun v => name v = text with
    | some v => Except.ok v
    | none => .error (.unknownVariant text (all.map name))
  match json with
  | .str s => find s
  | .obj [(key, content)] =>
    let v ← find key
    match content with
    | .null => return v
    | content => .error (.kind content "unit")
  | .obj _ => .error .variantMap
  | json => .error (.kind json "string or map")

/-! ## Records -/

/-- A field of a record. The first of its names is the one that messages use. -/
structure Field (σ : Type) where
  names : List String
  required : Bool
  set : Json → σ → Except Fault σ

namespace Field

def name (f : Field σ) : String := f.names.headD ""

def mandatory (name : String) (decoder : Decoder β) (put : β → σ → σ) : Field σ :=
  ⟨[name], true, fun json s => do return put (← decoder json) s⟩

/-- A field that may be left out, known by several names. -/
def named (names : List String) (decoder : Decoder β) (put : β → σ → σ) : Field σ :=
  ⟨names, false, fun json s => do return put (← decoder json) s⟩

def defaulted (name : String) (decoder : Decoder β) (put : β → σ → σ) : Field σ :=
  named [name] decoder put

end Field

/-- Reads the known fields of an object; `seen` holds the names of those read. -/
def readFields (fields : List (Field σ)) (seen : List String) (s : σ) :
    List (String × Json) → Except Fault (List String × σ)
  | [] => .ok (seen, s)
  | (key, value) :: rest =>
    match fields.find? fun f => f.names.contains key with
    | none => readFields fields seen s rest
    | some f =>
      if seen.contains f.name then .error (.duplicateField f.name)
      else do
        let s ← f.set value s
        readFields fields (f.name :: seen) s rest

/-- Reads fields in their declared order, of which `place` have been read. -/
def readItems (expected : String) (place : Nat) (s : σ) :
    List (Field σ) → List Json → Except Fault (σ × Nat)
  | [], items => .ok (s, items.length)
  | f :: fields, [] =>
    if f.required then .error (.length place expected)
    else readItems expected (place + 1) s fields []
  | f :: fields, item :: items => do
    let s ← f.set item s
    readItems expected (place + 1) s fields items

/-- A record with a name for messages; fields that are left out keep the value
they have in `initial`. -/
def record (name : String) (fields : List (Field σ)) (initial : σ) : Decoder σ
  | .obj entries => do
    let (seen, s) ← readFields fields [] initial entries
    match fields.find? fun f => f.required && !seen.contains f.name with
    | some f => .error (.missingField f.name)
    | none => return s
  | .arr items => do
    let count := fields.length
    let plural := if count = 1 then "" else "s"
    let expected := s!"struct {name} with {count} element{plural}"
    let (s, rest) ← readItems expected 0 initial fields items
    if rest = 0 then return s else .error (.length items.length "fewer elements in array")
  | json => .error (.kind json s!"struct {name}")

end Decode

/-! ## Writing typed values -/

namespace Encode

def field (name : String) (value : Json) : Entries Json := [(name, value)]

/-- A field that is left out if there is nothing to write. -/
def optional (name : String) : Option Json → Entries Json
  | some value => [(name, value)]
  | none => []

def list (name : String) : List Json → Entries Json
  | [] => []
  | items => [(name, .arr items)]

def entries (name : String) : Entries Json → Entries Json
  | [] => []
  | fields => [(name, .obj fields)]

end Encode

end Workflow
