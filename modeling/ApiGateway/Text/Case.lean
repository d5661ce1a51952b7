import ApiGateway.Text.CaseRanges

/-! # Upper and lower case

`upper` and `lower` apply the full case mappings of Unicode, which may lengthen a text, without
the rules of any language. A capital sigma becomes the final small sigma where it ends a word and
the ordinary one elsewhere. `asciiLower` and `asciiUpper` touch only the 26 Latin letters.
-/

set_option autoImplicit false

namespace ApiGateway.Text

private def mapChar (runs : Array CaseRun) (expansions : Array (Nat × List Nat)) (c : Char) :
    List Char :=
  match expansions.find? (·.1 == c.toNat) with
  | some (_, images) => images.map Char.ofNat
  | none => [Char.ofNat (mapByRuns runs c.toNat)]

/-- The upper-case text of a character. -/
def upperChar (c : Char) : List Char :=
  if c.toNat < 128 then [c.toUpper] else mapChar upperRuns upperExpansions c

/-- The lower-case text of a character that stands alone. -/
def lowerChar (c : Char) : List Char :=
  if c.toNat < 128 then [c.toLower] else mapChar lowerRuns lowerExpansions c

/-- The property *Cased*. -/
def isCased (c : Char) : Bool :=
  if c.toNat < 128 then c.isAlpha else casedRanges.has c.toNat

/-- The property *Case_Ignorable*. -/
def isCaseIgnorable (c : Char) : Bool :=
  if c.toNat < 128 then c == '\'' || c == '.' || c == ':' || c == '^' || c.toNat == 0x60
  else caseIgnorableRanges.has c.toNat

/-- The nearest character that is not case-ignorable is cased. -/
def reachesCased (cs : List Char) : Bool :=
  match cs.dropWhile isCaseIgnorable with
  | [] => false
  | c :: _ => isCased c

/-- The lower-case text of the rest of a text whose earlier characters are `before`, nearest
first. A sigma with a cased character before it and none after it is final. -/
def lowerFrom (before : List Char) : List Char → List Char
  | [] => []
  | c :: cs =>
    (if c = 'Σ' then
      [if reachesCased before && !reachesCased cs then 'ς' else 'σ']
    else lowerChar c) ++ lowerFrom (c :: before) cs

/-- The text in upper case. -/
def upper (s : String) : String := String.ofList (s.toList.flatMap upperChar)

/-- The text in lower case. -/
def lower (s : String) : String := String.ofList (lowerFrom [] s.toList)

/-- The text with its ASCII capitals made small. -/
def asciiLower (s : String) : String := String.ofList (s.toList.map Char.toLower)

/-- The text with its ASCII small letters made capitals. -/
def asciiUpper (s : String) : String := String.ofList (s.toList.map Char.toUpper)

/-- Equality of texts up to the case of ASCII letters. -/
def equalIgnoringCase (a b : String) : Bool := asciiLower a == asciiLower b

theorem equalIgnoringCase_iff (a b : String) :
    equalIgnoringCase a b = true ↔ asciiLower a = asciiLower b := by
  simp [equalIgnoringCase]

end ApiGateway.Text
