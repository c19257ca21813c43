import Workflow.Decimal.Read
import Workflow.Url.Domain
import Workflow.Url.Fault

/-!
# Hosts

A host is a domain name, an address of four or of eight parts, or, where the scheme does not say
what hosts are, any text without separators.
-/

namespace Workflow.Url

inductive Host where
  | domain (name : String)
  | ipv4 (address : Nat)
  | ipv6 (parts : List Nat)
  | verbatim (text : String)
  deriving DecidableEq, Repr

def hexDigit? (c : Char) : Option Nat :=
  if c.isDigit then some (c.toNat - 48)
  else if 'a' ≤ c && c ≤ 'f' then some (c.toNat - 87)
  else if 'A' ≤ c && c ≤ 'F' then some (c.toNat - 55)
  else none

/-! ## Addresses of four parts -/

/-- A part of an address: decimal, octal behind a zero, or hexadecimal behind `0x`. -/
def ipv4Part? (part : List Char) : Option Nat :=
  let read := fun (base : Nat) (digits : List Char) =>
    digits.foldlM (fun n c => match hexDigit? c with
      | some d => if d < base then some (n * base + d) else none
      | none => none) 0
  match part with
  | [] => none
  | '0' :: 'x' :: digits | '0' :: 'X' :: digits => read 16 digits
  | '0' :: d :: digits => read 8 (d :: digits)
  | digits => read 10 digits

/-- The parts of a name, without an empty one at the end. -/
def nameParts (name : List Char) : List (List Char) :=
  let parts := name.splitOn '.'
  if parts.getLast? = some [] then parts.dropLast else parts

def endsInNumber (name : List Char) : Bool :=
  match (nameParts name).getLast? with
  | some last => (!last.isEmpty && last.all Char.isDigit) || (ipv4Part? last).isSome
  | none => false

/-- An address of four bytes; its last part stands for all the bytes that are left. -/
def ipv4? (name : List Char) : Option Nat := do
  let parts := nameParts name
  if 4 < parts.length then none
  else
    let numbers ← parts.mapM ipv4Part?
    let last ← numbers.getLast?
    let front := numbers.dropLast
    let left := Nat.pow 256 (4 - front.length)
    if front.any (255 < ·) || left ≤ last then none
    else some (front.foldl (fun n byte => n * 256 + byte) 0 * left + last)

/-! ## Addresses of eight parts -/

/-- A decimal byte without leading zeros. -/
def byte? (digits : List Char) : Option Nat :=
  match digits with
  | [] => none
  | ['0'] => some 0
  | '0' :: _ => none
  | digits => if digits.all Char.isDigit && digits.length ≤ 3 && Decimal.ofDigits digits ≤ 255 then
      some (Decimal.ofDigits digits) else none

/-- Four bytes as the last two parts of an address. -/
def ipv4Tail? (text : List Char) : Option (List Nat) :=
  match (text.splitOn '.').mapM byte? with
  | some [a, b, c, d] => some [a * 256 + b, c * 256 + d]
  | _ => none

/-- The parts of an address, found so far in reverse, and where the gap is that stands for zeros. -/
def ipv6Parts : Nat → List Nat → Option Nat → List Char → Option (List Nat × Option Nat)
  | _, found, gap, [] => some (found.reverse, gap)
  | 0, _, _, _ => none
  | n + 1, found, gap, c :: rest =>
    if found.length = 8 then none
    else if c = ':' then
      if gap.isSome then none else ipv6Parts n (0 :: found) (some (found.length + 1)) rest
    else
      let text := c :: rest
      let digits := (text.take 4).takeWhile fun c => (hexDigit? c).isSome
      let value := digits.foldl (fun n c => n * 16 + (hexDigit? c).getD 0) 0
      match text.drop digits.length with
      | [] => some ((value :: found).reverse, gap)
      | '.' :: _ =>
        if digits.isEmpty || 6 < found.length then none
        else (ipv4Tail? text).map fun tail => (found.reverse ++ tail, gap)
      | [':'] => none
      | ':' :: rest => ipv6Parts n (value :: found) gap rest
      | _ => none

/-- An address of eight parts. -/
def ipv6? (text : List Char) : Option (List Nat) := do
  let (parts, gap) ←
    match text with
    | ':' :: ':' :: rest => ipv6Parts text.length [0] (some 1) rest
    | ':' :: _ => none
    | [_] => none
    | [] => none
    | text => ipv6Parts (text.length + 1) [] none text
  match gap with
  | some place => some (parts.take place ++ List.replicate (8 - parts.length) 0 ++ parts.drop place)
  | none => if parts.length = 8 then some parts else none

/-! ## Hosts -/

/-- Replaces each `%` with two hexadecimal digits by the byte it stands for. -/
def percentDecode : List UInt8 → List UInt8
  | [] => []
  | [a] => [a]
  | [a, b] => [a, b]
  | a :: b :: c :: rest =>
    if a = 37 then
      match hexDigit? (Char.ofNat b.toNat), hexDigit? (Char.ofNat c.toNat) with
      | some high, some low => UInt8.ofNat (high * 16 + low) :: percentDecode rest
      | _, _ => a :: percentDecode (b :: c :: rest)
    else a :: percentDecode (b :: c :: rest)
termination_by bytes => bytes.length

def bracketed? (text : List Char) : Option (Except Fault Host) :=
  match text with
  | '[' :: rest =>
    some <| if rest.getLast? = some ']' then
      match ipv6? rest.dropLast with
      | some parts => .ok (.ipv6 parts)
      | none => .error .ipv6Address
    else .error .ipv6Address
  | _ => none

/-- A host of a scheme that knows what hosts are. -/
def Host.read (text : List Char) : Except Fault Host :=
  match bracketed? text with
  | some result => result
  | none =>
    let bytes := percentDecode (String.ofList text).toUTF8.toList
    match (String.fromUTF8? ⟨bytes.toArray⟩).bind domain? with
    | none => .error .domain
    | some name =>
      if name.isEmpty then .error .emptyHost
      else if endsInNumber name.toList then
        match ipv4? name.toList with
        | some address => .ok (.ipv4 address)
        | none => .error .ipv4Address
      else .ok (.domain name)

def isSeparator (c : Char) : Bool :=
  c.toNat = 0 || "\t\n\r #/:<>?@[\\]^|".toList.contains c

/-- A host of any other scheme. -/
def Host.readVerbatim (text : List Char) : Except Fault Host :=
  match bracketed? text with
  | some result => result
  | none =>
    if text.any isSeparator then .error .domainCharacter else .ok (.verbatim (String.ofList text))

end Workflow.Url
