import ApiGateway.Network.NameBars
import ApiGateway.Network.NameImages
import ApiGateway.Network.Punycode
import ApiGateway.Text.Case
import ApiGateway.Text.Composition
import ApiGateway.Text.Direction
import ApiGateway.Text.Joining
import ApiGateway.Text.Occurrence

/-! # Domain names in any script

A domain name is made of labels with full stops between them. `folded?` brings a name into the form
in which names are compared: in lower case, without variants of characters, and composed. A label
that begins with `xn--` stands for the text that its Punycode writes, which has to be in that form
already. Every label has to be readable beside others: it begins with no mark, its joiners make a
difference, and if some text of the name runs from the right to the left, each label keeps to one
direction.
-/

set_option autoImplicit false

namespace ApiGateway.Network.DomainName

/-! ## Characters -/

/-- An ASCII character that no domain name holds: it delimits another part of a URL, or has no
form. -/
def isForbidden (c : Char) : Bool :=
  c.toNat ≤ 32 || c.toNat == 127 ||
    ['%', '#', '/', ':', '<', '>', '?', '@', '[', '\\', ']', '^', '|'].contains c

/-- A character that no domain name holds. -/
def isBarred (c : Char) : Bool :=
  if c.toNat < 128 then isForbidden c
  else if c.toNat < 0x3000 then lowBarredRanges.has c.toNat
  else highBarredRanges.has c.toNat

/-- The text that a variant of characters stands for. -/
def listedImage? (c : Char) : Option (List Char) := do
  let (first, images) ← imageRows.findRev? (·.1 ≤ c.toNat)
  (Text.splitOn ' ' images.toList)[c.toNat - first]?

/-- A capital letter of the Cherokee, whose small letters came later and are written as capitals in
names. -/
def isCherokeeCapital (c : Char) : Bool := 0x13A0 ≤ c.toNat && c.toNat ≤ 0x13F5

/-- The text that a character stands for in a name. -/
def image (c : Char) : List Char :=
  if ignoredRanges.has c.toNat then []
  else if isCherokeeCapital c then [c]
  else if c.toNat < 128 then Text.lowerChar c
  else (listedImage? c).getD (Text.lowerChar c)

/-- The text of a name in the form in which names are compared. Characters that are barred by
themselves and ASCII characters that come out of others must not occur. -/
def folded? (cs : List Char) : Option (List Char) :=
  if cs.any fun c => 128 ≤ c.toNat && isBarred c then none
  else
    let folded := Text.compose (cs.flatMap image)
    if folded.any fun c => c.toNat < 128 && isForbidden c then none else some folded

/-- A text that is in this form already. -/
def isFolded (cs : List Char) : Bool :=
  cs.all (fun c => !isBarred c && image c == [c]) && Text.isComposed cs

/-! ## Labels -/

/-- The greatest number of characters of a label that is not plain ASCII. -/
def maxLabelLength : Nat := 1000

/-- The greatest number of characters that write a label in Punycode. -/
def maxCodeLength : Nat := 2000

/-- The text that a label stands for. -/
def labelText? : List Char → Option (List Char)
  | 'x' :: 'n' :: '-' :: '-' :: code =>
    -- With a hyphen at its end, the code would write nothing but ASCII.
    if code.length ≤ maxCodeLength ∧ code.all (·.toNat < 128) ∧ code.getLast?.any (· ≠ '-') then
      (Punycode.decode? code).filter isFolded
    else none
  | label => some label

/-- A label that reads well beside others. -/
def isLabel (text : List Char) : Bool :=
  text.all (·.toNat < 128) ||
    (text.length ≤ maxLabelLength && !text.head?.any Text.isMark && Text.joinersFit [] text)

/-! ## Names -/

/-- The domain name that a text writes. -/
def read? (cs : List Char) : Option (List Char) := do
  let name ← folded? cs
  let texts ← (Text.splitOn '.' name).mapM labelText?
  let isBidirectional := texts.any Text.hasRightToLeft
  if texts.all isLabel && (!isBidirectional || texts.all Text.keepsDirection) then some name
  else none

end ApiGateway.Network.DomainName
