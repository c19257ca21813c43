/-!
# Characters as bytes

The characters from one code point to another are written, in UTF-8, as sequences of
byte ranges: all bytes of a sequence may be chosen independently. The sequences come
in the order of the characters.
-/

namespace Workflow.Pattern

/-- The bytes from one to another. -/
structure ByteRange where
  first : Nat
  last : Nat
  deriving DecidableEq, Repr, Inhabited

namespace ByteSequence

/-- The greatest code points of one, two and three bytes. -/
def lengthBounds : List Nat := [0x7f, 0x7ff, 0xffff]

/-- The bytes of a code point. -/
def encode (code : Nat) : List Nat :=
  let tail := fun (shift : Nat) => 0x80 + code >>> shift % 64
  if code ≤ 0x7f then [code]
  else if code ≤ 0x7ff then [0xc0 + code >>> 6, tail 0]
  else if code ≤ 0xffff then [0xe0 + code >>> 12, tail 6, tail 0]
  else [0xf0 + code >>> 18, tail 12, tail 6, tail 0]

/-- Where a range has to be cut first, if anywhere: the last code point of its first part. Its parts
may not differ in length, and where they differ in a byte, all bytes behind it have to be free. -/
def cut? (first last : Nat) : Option Nat :=
  match lengthBounds.find? fun bound => first ≤ bound && bound < last with
  | some bound => some bound
  | none =>
    if last ≤ 0x7f then none
    else
      [6, 12, 18].findSome? fun shift =>
        let rest := Nat.pow 2 shift
        if first / rest = last / rest then none
        else if first % rest ≠ 0 then some (first / rest * rest + rest - 1)
        else if last % rest ≠ rest - 1 then some (last / rest * rest - 1)
        else none

/-- The sequences of a range of code points without surrogates; `fuel` bounds the cuts. -/
def ofRangeFrom : Nat → Nat → Nat → List (List ByteRange)
  | 0, _, _ => []
  | fuel + 1, first, last =>
    match cut? first last with
    | some stop => ofRangeFrom fuel first stop ++ ofRangeFrom fuel (stop + 1) last
    | none => [List.zipWith ByteRange.mk (encode first) (encode last)]

/-- The sequences of a range of code points without surrogates. -/
def ofRange (first last : Nat) : List (List ByteRange) := ofRangeFrom 32 first last

/-- The sequences of several ranges. -/
def ofRanges (ranges : List (Nat × Nat)) : List (List ByteRange) :=
  ranges.flatMap fun (first, last) => ofRange first last

end ByteSequence

end Workflow.Pattern
