import ApiGateway.Text.MarkRanges

/-! # Marks behind letters

A mark belongs to the letter before it. Marks of different combining classes may stand in any
order, since they sit at different places of the letter; `order` brings them into the ascending
order of their classes. Characters of the class zero keep their places, and so do marks of one
class among each other.
-/

set_option autoImplicit false

namespace ApiGateway.Text

/-- A mark that takes no room of its own. -/
def isNonspacingMark (c : Char) : Bool := nonspacingRanges.has c.toNat

/-- A mark of any kind. -/
def isMark (c : Char) : Bool := isNonspacingMark c || spacingRanges.has c.toNat

/-- The class of a mark, which tells its place at the letter; zero for all other characters. -/
def combiningClass (c : Char) : Nat :=
  match combiningRows.find? fun (first, last, _) => first ≤ c.toNat && c.toNat ≤ last with
  | some (_, _, n) => n
  | none => 0

/-- A sign that takes the vowel off a consonant and so may join it to the next one. -/
def isVirama (c : Char) : Bool := combiningClass c == 9

/-- Puts a character in front of an ordered text, behind the marks of lower classes. -/
def place (c : Char) : List Char → List Char
  | [] => [c]
  | d :: rest =>
    if combiningClass d != 0 && combiningClass d < combiningClass c then d :: place c rest
    else c :: d :: rest

/-- The text with the marks behind each letter in the order of their classes. -/
def order : List Char → List Char
  | [] => []
  | c :: rest => place c (order rest)

/-- Nothing is lost or added where a character is put into its place. -/
theorem place_perm (c : Char) (cs : List Char) : (place c cs).Perm (c :: cs) := by
  induction cs with
  | nil => exact .refl _
  | cons d rest ih =>
    unfold place
    split
    · exact (ih.cons d).trans (.swap c d rest)
    · exact .refl _

/-- An ordered text has the same characters. -/
theorem order_perm (cs : List Char) : (order cs).Perm cs := by
  induction cs with
  | nil => exact .refl _
  | cons c rest ih => exact (place_perm c _).trans (ih.cons c)

end ApiGateway.Text
