/-! # Blank characters and trimming

`isBlank` is the Unicode property *White_Space*. `trim` removes blank characters from both ends
of a text and nothing else; it is used wherever the gateway ignores surrounding blanks.
-/

set_option autoImplicit false

namespace ApiGateway.Text

/-- The characters with the Unicode property *White_Space*. -/
def isBlank (c : Char) : Bool :=
  let n := c.toNat
  (9 ≤ n && n ≤ 13) || n == 0x20 || n == 0x85 || n == 0xA0 || n == 0x1680 ||
    (0x2000 ≤ n && n ≤ 0x200A) || n == 0x2028 || n == 0x2029 || n == 0x202F || n == 0x205F ||
    n == 0x3000

/-- The text without its leading blanks. -/
def trimStart (cs : List Char) : List Char := cs.dropWhile isBlank

/-- The text without its trailing blanks. -/
def trimEnd (cs : List Char) : List Char := (cs.reverse.dropWhile isBlank).reverse

/-- The text without the blanks at either end. -/
def trimChars (cs : List Char) : List Char := trimEnd (trimStart cs)

/-- The text without the blanks at either end. -/
def trim (s : String) : String := String.ofList (trimChars s.toList)

/-- A text of which nothing remains once it is trimmed. -/
def isAllBlank (s : String) : Bool := s.toList.all isBlank

/-- Core's white space is blank. -/
theorem isBlank_of_isWhitespace {c : Char} (h : c.isWhitespace = true) : isBlank c = true := by
  simp only [Char.isWhitespace, Bool.or_eq_true, decide_eq_true_eq] at h
  rcases h with ((rfl | rfl) | rfl) | rfl <;> decide

@[simp] theorem toList_trim (s : String) : (trim s).toList = trimChars s.toList :=
  String.toList_ofList

end ApiGateway.Text
