import ApiGateway.Text.DirectionRanges
import ApiGateway.Text.Mark

/-! # The direction of text

Letters are written from the left to the right or from the right to the left, and other characters
follow the letters around them. A short text stays readable among others if it begins with a letter
and keeps to the direction of that letter up to its end (`keepsDirection`).
-/

set_option autoImplicit false

namespace ApiGateway.Text

/-- How a character is written. -/
inductive Direction where
  | leftToRight
  | rightToLeft
  /-- A digit of a number that goes with Arabic letters. -/
  | arabicNumber
  /-- A digit of any other number. -/
  | number
  /-- A mark, which goes with its letter. -/
  | mark
  | neutral
  deriving DecidableEq

namespace Direction

/-- The direction of a character. -/
def of (c : Char) : Direction :=
  if c.toNat < 128 then
    if c.isAlpha then leftToRight else if c.isDigit then number else neutral
  else if leftMarkRanges.has c.toNat then leftToRight
  else if isNonspacingMark c then mark
  else if rightToLeftRanges.has c.toNat then rightToLeft
  else if arabicNumberRanges.has c.toNat then arabicNumber
  else if europeanNumberRanges.has c.toNat then number
  else if neutralRanges.has c.toNat then neutral
  else leftToRight

/-- The text around has to care for the direction. -/
def isRightward : Direction → Bool
  | rightToLeft | arabicNumber => true
  | _ => false

end Direction

/-- Some character is not written from the left to the right. -/
def hasRightToLeft (cs : List Char) : Bool := cs.any fun c => (Direction.of c).isRightward

/-- The text begins with a letter, holds no letters of the other direction, and ends with a letter
or a digit, marks behind which do not count. From the right to the left, all its numbers are of one
kind. -/
def keepsDirection (cs : List Char) : Bool :=
  match cs.map Direction.of with
  | [] => true
  | first :: rest =>
    let body := (rest.reverse.dropWhile (· = .mark)).reverse
    match first with
    | .leftToRight =>
      body.all (fun d => !d.isRightward) && body.getLast?.all (· ≠ .neutral)
    | .rightToLeft =>
      body.all (· ≠ .leftToRight) && body.getLast?.all (· ≠ .neutral) &&
        !(body.contains .number && body.contains .arabicNumber)
    | _ => false

end ApiGateway.Text
