import ApiGateway.Decimal.Text

/-! # Punycode

A label of a domain name in ASCII may stand for a text in any script: its ASCII characters come
first, and behind the last hyphen digits in base 36 tell what to insert and where. The digits form
numbers of variable length, each of which ends with the first digit below a threshold; the
thresholds adapt to the numbers read so far.
-/

set_option autoImplicit false

namespace ApiGateway.Network.Punycode

/-- The value of a digit: the letters come before the decimal digits. -/
def digit? (c : Char) : Option Nat :=
  if 'a' ≤ c ∧ c ≤ 'z' then some (c.toNat - 'a'.toNat)
  else if c.isDigit then some (26 + Decimal.digitValue c)
  else none

/-- The bias that belongs to a reduced distance. -/
def biasOf (distance : Nat) : Nat :=
  if distance > 455 then 36 + biasOf (distance / 35) else 36 * distance / (distance + 38)
termination_by distance
decreasing_by omega

/-- The bias behind an insertion: of the first distance little counts, and each distance is spread
over the characters that are there. -/
def adapted (distance count : Nat) (isFirst : Bool) : Nat :=
  let reduced := if isFirst then distance / 700 else distance / 2
  biasOf (reduced + reduced / count)

/-- What is known while digits are read. -/
structure Progress where
  text : List Char
  /-- The code point that is inserted at least. -/
  code : Nat := 128
  /-- The place of the next insertion, counted over all code points so far. -/
  place : Nat := 0
  /-- The place before the number that is being read. -/
  start : Nat := 0
  /-- What the next digit counts. -/
  weight : Nat := 1
  /-- From which the bias is taken for the threshold of the next digit. -/
  level : Nat := 36
  bias : Nat := 72

/-- No number is half read. -/
def Progress.isSettled (p : Progress) : Bool := p.level = 36

/-- Inserts the character whose number is complete. -/
def Progress.insert? (p : Progress) : Option Progress :=
  let count := p.text.length + 1
  let code := p.code + p.place / count
  let here := p.place % count
  if h : code.isValidChar then
    some {
      text := p.text.take here ++ Char.ofNatAux code h :: p.text.drop here
      code := code
      place := here + 1
      start := here + 1
      bias := adapted (p.place - p.start) count (p.start = 0) }
  else none

/-- Takes a digit. Numbers stay below `2 ^ 32`. -/
def Progress.take? (p : Progress) (digit : Nat) : Option Progress :=
  let place := p.place + digit * p.weight
  let threshold := max 1 (min 26 (p.level - p.bias))
  if 0x100000000 ≤ place then none
  else if digit < threshold then { p with place := place }.insert?
  else
    let weight := p.weight * (36 - threshold)
    if 0x100000000 ≤ weight then none
    else some { p with place := place, weight := weight, level := p.level + 36 }

/-- The text and the digits of a label, which the last hyphen divides. -/
def parts (label : List Char) : List Char × List Char :=
  let digits := (label.reverse.takeWhile (· ≠ '-')).reverse
  match label.reverse.dropWhile (· ≠ '-') with
  | _ :: text => if text.isEmpty then ([], label) else (text.reverse, digits)
  | [] => ([], label)

/-- The text that a label in lower case stands for. -/
def decode? (label : List Char) : Option (List Char) := do
  let (text, digits) := parts label
  let digits ← digits.mapM digit?
  let p ← digits.foldlM Progress.take? { text := text }
  if p.isSettled then some p.text else none

end ApiGateway.Network.Punycode
