import ApiGateway.Text.CompositionRows
import ApiGateway.Text.Mark

/-! # Composed text

A letter with marks can be written as one character or as several. `compose` takes all of them
apart, orders the marks and puts letters and marks together again as far as characters exist for
them, so that texts which look the same become the same. The syllables of Hangul are put together
by arithmetic and need not be taken apart, since nothing but a last consonant can follow them.
-/

set_option autoImplicit false

namespace ApiGateway.Text

/-- The letters and their compositions, in turn, each with the mark. -/
def compositionsOf (mark : Char) : List Char → List (Char × Char × Char)
  | letter :: whole :: rest => (letter, mark, whole) :: compositionsOf mark rest
  | _ => []

/-- All letters with a mark that are one character: the letter, the mark, and the character. -/
def compositions : List (Char × Char × Char) :=
  compositionRows.toList.flatMap fun (mark, text) => compositionsOf (Char.ofNat mark) text.toList

/-! ## Hangul -/

/-- The syllable of a leading consonant and a vowel, or of such a syllable and a trailing
consonant. -/
def syllable? (a b : Char) : Option Char :=
  let (m, n) := (a.toNat, b.toNat)
  if 0x1100 ≤ m ∧ m < 0x1113 ∧ 0x1161 ≤ n ∧ n < 0x1176 then
    some (Char.ofNat (0xAC00 + ((m - 0x1100) * 21 + (n - 0x1161)) * 28))
  else if 0xAC00 ≤ m ∧ m < 0xD7A4 ∧ (m - 0xAC00) % 28 = 0 ∧ 0x11A8 ≤ n ∧ n < 0x11C3 then
    some (Char.ofNat (m + (n - 0x11A7)))
  else none

/-! ## Taking apart and putting together -/

/-- The parts of a character, which may have parts themselves, down to a depth. -/
def parts : (depth : Nat) → Char → List Char
  | 0, c => [c]
  | depth + 1, c =>
    match compositions.find? (·.2.2 = c) with
    | some (letter, mark, _) => parts depth letter ++ [mark]
    | none => [c]

/-- How many marks a single character holds at most. -/
def maxParts : Nat := 4

/-- The character that two characters are together. -/
def joined? (a b : Char) : Option Char :=
  ((compositions.find? fun (letter, mark, _) => letter = a ∧ mark = b).map (·.2.2)).or
    (syllable? a b)

/-- Puts an ordered text together. `letter` is the letter that may still take marks, and `marks`
those behind it that it did not take, the last one first. A mark reaches the letter only if no mark
of its own class or of a higher one stands in between. -/
def joinFrom (letter : Option Char) (marks : List Char) : List Char → List Char
  | [] => letter.toList ++ marks.reverse
  | c :: rest =>
    let reaches := marks.head?.all fun m => combiningClass m < combiningClass c
    match if reaches then letter.bind (joined? · c) else none with
    | some whole => joinFrom (some whole) marks rest
    | none =>
      if combiningClass c = 0 then letter.toList ++ marks.reverse ++ joinFrom (some c) [] rest
      else joinFrom letter (c :: marks) rest

/-- The text in composed form. -/
def compose (cs : List Char) : List Char := joinFrom none [] (order (cs.flatMap (parts maxParts)))

/-- The text is in composed form. -/
def isComposed (cs : List Char) : Bool := compose cs == cs

end ApiGateway.Text
