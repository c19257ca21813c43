import Workflow.Url.Host

/-!
# URLs

A URL has a scheme and may have a host and a port number; what follows them cannot be wrong.
`Url.read` says whether a text is a URL on its own, without one that it would be relative to.
-/

namespace Workflow

/-- The parts of a URL that can be wrong. -/
structure Url where
  scheme : String
  host : Option Url.Host
  portNumber : Option Nat
  deriving DecidableEq, Repr

namespace Url

/-- What a scheme says of the rest of a URL. -/
inductive SchemeKind where
  | file
  | web
  | other
  deriving DecidableEq, Repr

def schemeKind (scheme : String) : SchemeKind :=
  if scheme = "file" then .file
  else if ["http", "https", "ws", "wss", "ftp"].contains scheme then .web
  else .other

def scheme? (text : List Char) : Option (String × List Char) :=
  match text with
  | c :: _ =>
    if c.isAlpha then
      let name := text.takeWhile fun c => c.isAlphanum || c = '+' || c = '-' || c = '.'
      match text.drop name.length with
      | ':' :: rest => some (String.ofList (name.map Char.toLower), rest)
      | _ => none
    else none
  | [] => none

/-- Whether a character ends the part of a URL that names the host. -/
def endsAuthority (kind : SchemeKind) (c : Char) : Bool :=
  c = '/' || c = '?' || c = '#' || (c = '\\' && kind ≠ .other)

/-- Splits off what stands before the last `@`. -/
def splitUser (authority : List Char) : Option (List Char) × List Char :=
  if authority.contains '@' then
    let behind := (authority.reverse.takeWhile (· ≠ '@')).reverse
    (some (authority.take (authority.length - behind.length - 1)), behind)
  else (none, authority)

/-- Splits a host from its port number at the first colon outside brackets. -/
def splitHost : Bool → List Char → List Char × Option (List Char)
  | _, [] => ([], none)
  | bracketed, c :: rest =>
    if c = ':' && !bracketed then ([], some rest)
    else
      let (host, number) :=
        splitHost (if c = '[' then true else if c = ']' then false else bracketed) rest
      (c :: host, number)

/-- A port number, which may be missing. A backslash ends it. -/
def readPortNumber (text : List Char) : Except Fault (Option Nat) :=
  let digits := text.takeWhile (· ≠ '\\')
  if digits.isEmpty then .ok none
  else
    let leading := digits.takeWhile Char.isDigit
    if leading.length = digits.length && Decimal.ofDigits digits < 65536 then
      .ok (some (Decimal.ofDigits digits))
    else .error .portNumber

def readAuthority (scheme : String) (kind : SchemeKind) (text : List Char) : Except Fault Url := do
  let authority := text.takeWhile fun c => !endsAuthority kind c
  let (user, place) := splitUser authority
  let named := match user with
    | none => false
    | some user => !(user.isEmpty || user = [':'])
  let (host, digits) := splitHost false place
  if host.isEmpty then
    if user = some [] && place.isEmpty && authority.length < text.length then .error .emptyHost
    else if kind = .web || digits.isSome || named then .error .emptyHost
    else return ⟨scheme, some (.verbatim ""), none⟩
  else
    let host ← if kind = .web then Host.read host else Host.readVerbatim host
    return ⟨scheme, some host,
      ← (match digits with | some digits => readPortNumber digits | none => .ok none)⟩

def isDrive : List Char → Bool
  | [letter, sign] => letter.isAlpha && (sign = ':' || sign = '|')
  | _ => false

/-- A file, whose host may be empty. -/
def readFile (text : List Char) : Except Fault Url := do
  let isSlash := fun (c : Char) => c = '/' || c = '\\'
  match text with
  | a :: b :: rest =>
    if isSlash a && isSlash b then
      let host := rest.takeWhile fun c => !endsAuthority .file c
      if host.isEmpty || isDrive host then return ⟨"file", none, none⟩
      else return ⟨"file", some (← Host.read host), none⟩
    else return ⟨"file", none, none⟩
  | _ => return ⟨"file", none, none⟩

/-- The characters that count: none that are invisible at the ends, and no tabs or line ends. -/
def significant (text : String) : List Char :=
  let isEdge := fun (c : Char) => c.toNat ≤ 32
  let trimmed := ((text.toList.dropWhile isEdge).reverse.dropWhile isEdge).reverse
  trimmed.filter fun c => !(c = '\t' || c = '\n' || c = '\r')

def read (text : String) : Except Fault Url :=
  match scheme? (significant text) with
  | none => .error .relative
  | some (scheme, rest) =>
    match schemeKind scheme with
    | .file => readFile rest
    | .web => readAuthority scheme .web (rest.dropWhile fun c => c = '/' || c = '\\')
    | .other =>
      match rest with
      | '/' :: '/' :: rest => readAuthority scheme .other rest
      | _ => .ok ⟨scheme, none, none⟩

end Url

end Workflow
