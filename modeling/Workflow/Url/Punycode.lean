/-!
# Punycode

International labels are written with ASCII letters: first the ASCII characters of the label, then,
behind a dash, the others as numbers in a base that adapts to them.
-/

namespace Workflow.Url.Punycode

def digit? (c : Char) : Option Nat :=
  if 'a' ≤ c && c ≤ 'z' then some (c.toNat - 97)
  else if 'A' ≤ c && c ≤ 'Z' then some (c.toNat - 65)
  else if c.isDigit then some (c.toNat - 22)
  else none

/-- The least value of the digit at place `k` that is followed by another one. -/
def threshold (k bias : Nat) : Nat :=
  if k ≤ bias then 1 else if bias + 26 ≤ k then 26 else k - bias

/-- Divides by 35 down to 455 and counts the rounds in steps of 36. -/
def reduce (delta k : Nat) : Nat × Nat :=
  if 455 < delta then reduce (delta / 35) (k + 36) else (delta, k)
termination_by delta
decreasing_by exact Nat.div_lt_self (by omega) (by omega)

/-- The bias after a character: `delta` was the way to it and `count` characters are known. -/
def adapt (delta count : Nat) (first : Bool) : Nat :=
  let start := if first then delta / 700 else delta / 2
  let (rest, k) := reduce (start + start / count) 0
  k + 36 * rest / (rest + 38)

/-- A number, least digit first; neither it nor the weight of a digit may reach `2 ^ 32`. -/
def number? (bias : Nat) (value weight k : Nat) : List Char → Option (Nat × List Char)
  | [] => none
  | c :: rest => do
    let d ← digit? c
    let value := value + d * weight
    if 4294967296 ≤ weight || 4294967296 ≤ value then none
    else
      let t := threshold k bias
      if d < t then some (value, rest) else number? bias value (weight * (36 - t)) (k + 36) rest

/-- Inserts the characters that the numbers stand for. -/
def insertAll : Nat → List Nat → Nat → Nat → Nat → List Char → Option (List Nat)
  | _, known, _, _, _, [] => some known
  | 0, _, _, _, _, _ => none
  | n + 1, known, code, place, bias, digits => do
    let (stop, rest) ← number? bias place 1 36 digits
    let count := known.length + 1
    let bias := adapt (stop - place) count (place = 0)
    let code := code + stop / count
    let place := stop % count
    if Nat.isValidChar code then
      insertAll n (known.take place ++ code :: known.drop place) code (place + 1) bias rest
    else none

/-- The label that a written form stands for. A dash in front separates nothing. -/
def decode? (text : List Char) : Option (List Char) :=
  let reversed := text.reverse
  let digits := (reversed.takeWhile (· ≠ '-')).reverse
  let plain := ((reversed.dropWhile (· ≠ '-')).drop 1).reverse
  if plain.isEmpty && text.contains '-' then none
  else if plain.all fun c => c.toNat < 128 then
    (insertAll (digits.length + 1) (plain.map Char.toNat) 128 0 72 digits).map fun codes =>
      codes.map Char.ofNat
  else none

end Workflow.Url.Punycode
