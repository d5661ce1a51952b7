import ApiGateway.Text.JoiningRanges
import ApiGateway.Text.Mark

/-! # Joiners

Two characters without a form of their own tell how the letters around them join: the joiner and
the non-joiner. They make a difference only in scripts whose letters do join, and `joinersFit`
accepts them only where they do: behind a virama, and for the non-joiner also between two letters
that would join without it.
-/

set_option autoImplicit false

namespace ApiGateway.Text

/-- The character that joins letters. -/
def joiner : Char := '\u200d'

/-- The character that keeps letters apart. -/
def nonJoiner : Char := '\u200c'

/-- A letter that joins the one behind it. -/
def joinsNext (c : Char) : Bool := dualJoiningRanges.has c.toNat || leftJoiningRanges.has c.toNat

/-- A letter that joins the one before it. -/
def joinsLast (c : Char) : Bool := dualJoiningRanges.has c.toNat || rightJoiningRanges.has c.toNat

/-- A mark across which letters join; one letter counts as such a mark too. -/
def isTransparent (c : Char) : Bool := isNonspacingMark c || c.toNat == 0x1E94B

/-- The joiners of a text stand where they make a difference. The characters `before` the text are
given nearest first. -/
def joinersFit (before : List Char) : List Char → Bool
  | [] => true
  | c :: rest =>
    let afterVirama := before.head?.any isVirama
    let between := (before.dropWhile isTransparent).head?.any joinsNext &&
      (rest.dropWhile isTransparent).head?.any joinsLast
    (if c = joiner then afterVirama else c ≠ nonJoiner || afterVirama || between) &&
      joinersFit (c :: before) rest

end ApiGateway.Text
