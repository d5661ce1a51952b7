import ApiGateway.Text.Case
import ApiGateway.Text.Letter

/-! # Record identifiers

A record identifier is a number of 128 bits. It is written as 32 lower-case hexadecimal digits in
groups of 8, 4, 4, 4 and 12 with hyphens between them. `RecordId.parse?` reads digits of either
case with or without the hyphens, and the hyphenated form also in braces or behind `urn:uuid:`.
-/

set_option autoImplicit false

namespace ApiGateway

/-- The identifier of a record. -/
structure RecordId where
  number : Fin 0x100000000000000000000000000000000
  deriving DecidableEq

namespace RecordId

/-- The lower-case hexadecimal digit of a number below 16. -/
def hexDigit (n : Nat) : Char :=
  if n < 10 then Char.ofNat ('0'.toNat + n) else Char.ofNat ('a'.toNat + (n - 10))

/-- The last `width` hexadecimal digits of a number, most significant first. -/
def hexDigits : (width n : Nat) → List Char
  | 0, _ => []
  | width + 1, n => hexDigits width (n / 16) ++ [hexDigit (n % 16)]

/-- Puts hyphens behind the digits 8, 12, 16 and 20. -/
def hyphenated (digits : List Char) : List Char :=
  digits.take 8 ++ '-' :: (digits.drop 8).take 4 ++ '-' :: (digits.drop 12).take 4 ++
    '-' :: (digits.drop 16).take 4 ++ '-' :: digits.drop 20

/-- The text of an identifier. -/
def text (id : RecordId) : String := String.ofList (hyphenated (hexDigits 32 id.number))

/-- The identifier that 32 digits write. -/
def ofDigits? (digits : List Char) : Option RecordId :=
  if digits.length = 32 then
    (Text.hexNumber? digits).bind fun n =>
      if h : n < 0x100000000000000000000000000000000 then some ⟨⟨n, h⟩⟩ else none
  else none

/-- The digits of a hyphenated text. -/
def joined? (cs : List Char) : Option (List Char) :=
  let digits := cs.take 8 ++ (cs.drop 9).take 4 ++ (cs.drop 14).take 4 ++ (cs.drop 19).take 4 ++
    cs.drop 24
  if cs = hyphenated digits then some digits else none

/-- Reads an identifier. -/
def parse? (s : String) : Option RecordId :=
  let cs := s.toList
  if cs.length = 32 then ofDigits? cs
  else if cs.length = 36 then (joined? cs).bind ofDigits?
  else if cs.length = 38 ∧ cs.head? = some '\x7b' ∧ cs.getLast? = some '\x7d' then
    (joined? ((cs.drop 1).take 36)).bind ofDigits?
  else if cs.length = 45 ∧
      Text.equalIgnoringCase (String.ofList (cs.take 9)) "urn:uuid:" then
    (joined? (cs.drop 9)).bind ofDigits?
  else none

/-- The identifier of a record made at a time, in milliseconds: the time, then 12 and 62 bits of
noise, with the version 7 and the variant 2 before them. Later identifiers are greater. -/
def ofMoment (milliseconds noise : Nat) : RecordId :=
  ⟨Fin.ofNat _ ((milliseconds % 0x1000000000000) <<< 80 + 7 <<< 76 +
    (noise >>> 62 % 0x1000) <<< 64 + 2 <<< 62 + noise % 0x4000000000000000)⟩

end RecordId

end ApiGateway
