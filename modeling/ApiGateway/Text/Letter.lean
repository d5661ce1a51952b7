import ApiGateway.Text.LetterRanges

/-! # Letters, digits and word characters

The classes of characters that identifiers and placeholder names are made of. Each class is the
ASCII class together with the table of its members above the ASCII block. Identifiers follow
edition 17 of Unicode, the patterns of placeholder names and of indices edition 16: a newcomer is a
letter of an identifier, but neither a word character nor a decimal digit.
-/

set_option autoImplicit false

namespace ApiGateway.Text

/-- The property *Alphabetic*. -/
def isAlphabetic (c : Char) : Bool :=
  if c.toNat < 128 then c.isAlpha else alphabeticRanges.has c.toNat

/-- A character of one of the general categories of numbers. -/
def isNumeric (c : Char) : Bool :=
  if c.toNat < 128 then c.isDigit else numericRanges.has c.toNat

/-- A letter, mark or digit that edition 16 of Unicode does not have yet. -/
def isNewcomer (c : Char) : Bool := newcomerRanges.has c.toNat

/-- A decimal digit of any script. -/
def isDecimalDigit (c : Char) : Bool :=
  if c.toNat < 128 then c.isDigit else decimalDigitRanges.has c.toNat && !isNewcomer c

/-- A letter or a number. -/
def isAlphanumeric (c : Char) : Bool := isAlphabetic c || isNumeric c

/-- A character of a word: a letter, a mark, a decimal digit, a connector or a join control. -/
def isWordChar (c : Char) : Bool :=
  if c.toNat < 128 then c.isAlphanum || c == '_'
  else
    (alphabeticRanges.has c.toNat || decimalDigitRanges.has c.toNat ||
      joiningRanges.has c.toNat) && !isNewcomer c

/-- The value of a hexadecimal digit, in either case. -/
def hexValue? (c : Char) : Option Nat :=
  if c.isDigit then some (c.toNat - '0'.toNat)
  else if 'a' ≤ c ∧ c ≤ 'f' then some (c.toNat - 'a'.toNat + 10)
  else if 'A' ≤ c ∧ c ≤ 'F' then some (c.toNat - 'A'.toNat + 10)
  else none

/-- The value of a text of hexadecimal digits, most significant first. -/
def hexNumber? (cs : List Char) : Option Nat :=
  if cs.isEmpty then none
  else cs.foldl (fun acc c => do return 16 * (← acc) + (← hexValue? c)) (some 0)

end ApiGateway.Text
