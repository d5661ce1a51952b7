import ApiGateway.Text.Letter

/-! # Scalars of YAML

A scalar is written plain, in single or double quotes, or as a block of lines. In the first three
forms a line break between words counts as one space, and further breaks stay; a block keeps its
lines or folds them in the same manner, and its last break is kept or dropped as its header says.

All functions work on texts whose line ends are `\n`; the two separators of Unicode are line ends
too, which are never folded.
-/

set_option autoImplicit false

namespace ApiGateway.Yaml

/-! ## Characters -/

/-- A space or a tab. -/
def isSpace (c : Char) : Bool := c == ' ' || c == '\t'

/-- A line end. -/
def isBreak (c : Char) : Bool := c == '\n' || c.toNat == 0x2028 || c.toNat == 0x2029

/-- The text is at its end, at a blank or at a line end. -/
def endsWord : List Char → Bool
  | [] => true
  | c :: _ => isSpace c || isBreak c

/-- The text begins with a line that separates documents. -/
def isDocumentMark (cs : List Char) : Bool :=
  (cs.take 3 == ['-', '-', '-'] || cs.take 3 == ['.', '.', '.']) && endsWord (cs.drop 3)

/-- Brings the line ends of a text into one form. -/
def unifyBreaks : List Char → List Char
  | '\r' :: '\n' :: rest => '\n' :: unifyBreaks rest
  | c :: rest => (if c = '\r' ∨ c.toNat = 0x85 then '\n' else c) :: unifyBreaks rest
  | [] => []

/-- A character that a text may hold. -/
def isReadable (c : Char) : Bool :=
  let n := c.toNat
  n == 9 || n == 10 || n == 13 || (0x20 ≤ n && n ≤ 0x7E) || n == 0x85 ||
    (0xA0 ≤ n && n ≤ 0xFFFD) || 0x10000 ≤ n

/-! ## Gaps between words -/

/-- What stands between two words of a scalar. -/
inductive Gap where
  | none
  | blanks (text : List Char)
  /-- Line ends: the first one, if it counts, and the further ones. -/
  | breaks (first : Option Char) (more : List Char)
  deriving DecidableEq

namespace Gap

/-- The gap goes over a line end. -/
def isBroken : Gap → Bool
  | .breaks _ _ => true
  | _ => false

/-- The gap with one more blank; blanks behind a line end do not count. -/
def addBlank (c : Char) : Gap → Gap
  | .none => .blanks [c]
  | .blanks text => .blanks (text ++ [c])
  | gap => gap

/-- The gap with one more line end; blanks before it do not count. -/
def addBreak (c : Char) : Gap → Gap
  | .breaks first more => .breaks first (more ++ [c])
  | _ => .breaks (some c) []

/-- The text that a gap stands for. -/
def text : Gap → List Char
  | .none => []
  | .blanks text => text
  | .breaks (some '\n') [] => [' ']
  | .breaks (some '\n') more => more
  | .breaks first more => first.toList ++ more

end Gap

/-! ## Plain scalars -/

/-- A character that ends a plain scalar inside brackets. -/
def isFlowIndicator (c : Char) : Bool := [',', '[', ']', '\x7b', '\x7d'].contains c

/-- Takes a plain scalar: its text, whether a line end follows it, and the rest. Outside brackets
its further lines begin at least at the column `indent`. `done` is the text so far, last character
first. -/
def plainFrom (inFlow : Bool) (indent : Int) (column : Nat) (gap : Gap) (done : List Char) :
    List Char → Option (List Char × Bool × List Char)
  | [] => some (done.reverse, gap.isBroken, [])
  | c :: rest =>
    if isSpace c then
      -- Indentation is made of spaces alone.
      if gap.isBroken && column < indent && c == '\t' then none
      else plainFrom inFlow indent (column + 1) (gap.addBlank c) done rest
    else if isBreak c then plainFrom inFlow indent 0 (gap.addBreak c) done rest
    else if gap != .none && ((!inFlow && column < indent) || c == '#' ||
        (column == 0 && isDocumentMark (c :: rest))) then
      some (done.reverse, gap.isBroken, c :: rest)
    else if inFlow && c == ':' && rest.head?.any (fun d => isFlowIndicator d || d == '?') then none
    else if (c == ':' && endsWord rest) || (inFlow && isFlowIndicator c) then
      some (done.reverse, gap.isBroken, c :: rest)
    else plainFrom inFlow indent (column + 1) .none (c :: (gap.text.reverse ++ done)) rest

/-! ## Quoted scalars -/

/-- Takes a scalar up to its closing single quote; a quote inside is written twice. -/
def singleFrom (column : Nat) (gap : Gap) (done : List Char) :
    List Char → Option (List Char × List Char)
  | [] => none
  | '\'' :: '\'' :: rest =>
    singleFrom (column + 2) .none ('\'' :: (gap.text.reverse ++ done)) rest
  | '\'' :: rest => some (done.reverse ++ gap.text, rest)
  | c :: rest =>
    if isSpace c then singleFrom (column + 1) (gap.addBlank c) done rest
    else if isBreak c then singleFrom 0 (gap.addBreak c) done rest
    else if column = 0 ∧ isDocumentMark (c :: rest) then none
    else singleFrom (column + 1) .none (c :: (gap.text.reverse ++ done)) rest

/-- The character that a backslash and a letter stand for. -/
def escape? : Char → Option Char
  | '0' => some '\x00'
  | 'a' => some '\x07'
  | 'b' => some '\x08'
  | 't' => some '\t'
  | '\t' => some '\t'
  | 'n' => some '\n'
  | 'v' => some '\x0b'
  | 'f' => some '\x0c'
  | 'r' => some '\r'
  | 'e' => some '\x1b'
  | ' ' => some ' '
  | '"' => some '"'
  | '/' => some '/'
  | '\\' => some '\\'
  | 'N' => some '\u0085'
  | '_' => some '\u00a0'
  | 'L' => some '\u2028'
  | 'P' => some '\u2029'
  | _ => none

/-- The character with a code in hexadecimal digits. -/
def coded? (digits : List Char) : Option Char :=
  (Text.hexNumber? digits).bind fun n => if n.isValidChar then some (Char.ofNat n) else none

/-- Takes a scalar up to its closing double quote. A backslash begins an escape, and before a line
end it takes the line end out. -/
def doubleFrom (column : Nat) (gap : Gap) (done : List Char) :
    List Char → Option (List Char × List Char)
  | [] => none
  | '"' :: rest => some (done.reverse ++ gap.text, rest)
  | '\\' :: 'x' :: a :: b :: rest => do
    let c ← coded? [a, b]
    doubleFrom (column + 4) .none (c :: (gap.text.reverse ++ done)) rest
  | '\\' :: 'u' :: a :: b :: c :: d :: rest => do
    let c ← coded? [a, b, c, d]
    doubleFrom (column + 6) .none (c :: (gap.text.reverse ++ done)) rest
  | '\\' :: 'U' :: a :: b :: c :: d :: e :: f :: g :: h :: rest => do
    let c ← coded? [a, b, c, d, e, f, g, h]
    doubleFrom (column + 10) .none (c :: (gap.text.reverse ++ done)) rest
  | '\\' :: c :: rest =>
    -- The escaped line end leaves nothing behind, but blank lines after it still count.
    if isBreak c then doubleFrom 0 (.breaks none []) (gap.text.reverse ++ done) rest
    else
      match escape? c with
      | some c => doubleFrom (column + 2) .none (c :: (gap.text.reverse ++ done)) rest
      | none => none
  | c :: rest =>
    if isSpace c then doubleFrom (column + 1) (gap.addBlank c) done rest
    else if isBreak c then doubleFrom 0 (gap.addBreak c) done rest
    else if column = 0 ∧ isDocumentMark (c :: rest) then none
    else doubleFrom (column + 1) .none (c :: (gap.text.reverse ++ done)) rest

/-! ## Blocks -/

/-- What becomes of the line ends at the end of a block. -/
inductive Chomp where
  | strip
  | clip
  | keep
  deriving DecidableEq

/-- The header of a block; an `indent` of zero is found out from the first line. -/
structure BlockHeader where
  folds : Bool
  chomp : Chomp
  indent : Nat

/-- A sign that tells what becomes of the last line ends. -/
def chomp? : Char → Option Chomp
  | '-' => some .strip
  | '+' => some .keep
  | _ => none

/-- Takes the signs behind the indicator of a block, in either order: how much deeper the block
begins than the lines around it, and what becomes of the last line ends. -/
def blockSigns : List Char → Option (Nat × Chomp × List Char)
  | [] => some (0, .clip, [])
  | c :: rest =>
    match chomp? c with
    | some chomp =>
      match rest with
      | d :: more =>
        if d = '0' then none
        else if d.isDigit then some (d.toNat - '0'.toNat, chomp, more)
        else some (0, chomp, rest)
      | [] => some (0, chomp, rest)
    | none =>
      if c = '0' then none
      else if c.isDigit then
        match rest with
        | d :: more =>
          match chomp? d with
          | some chomp => some (c.toNat - '0'.toNat, chomp, more)
          | none => some (c.toNat - '0'.toNat, .clip, rest)
        | [] => some (c.toNat - '0'.toNat, .clip, rest)
      else some (0, .clip, c :: rest)

/-- Takes the rest of the header line, which may hold a comment. -/
def endHeader (cs : List Char) : Option (List Char) :=
  let cs := cs.dropWhile isSpace
  let cs := if cs.head? = some '#' then cs.dropWhile fun c => !isBreak c else cs
  match cs with
  | [] => some []
  | c :: rest => if isBreak c then some rest else none

/-- How far a block is taken. -/
structure BlockState where
  indent : Nat
  /-- The greatest column of the blank lines before the first line. -/
  widest : Nat := 0
  column : Nat := 0
  /-- The text so far, last character first. -/
  done : List Char := []
  /-- The end of the last line. -/
  leading : Option Char := none
  /-- The ends of blank lines behind it. -/
  trailing : List Char := []
  /-- The last line began with a blank. -/
  leadingBlank : Bool := false

namespace BlockState

/-- Begins a line with its first character. -/
def beginLine (folds : Bool) (s : BlockState) (c : Char) : BlockState :=
  let blank := isSpace c
  -- Folding makes one line end a space and drops the first of several, but lines that begin with a
  -- blank keep theirs.
  let joint :=
    if folds && s.leading == some '\n' && !s.leadingBlank && !blank then
      if s.trailing.isEmpty then [' '] else []
    else s.leading.toList
  { s with
    column := s.column + 1
    done := c :: ((joint ++ s.trailing).reverse ++ s.done)
    leading := none
    trailing := []
    leadingBlank := blank }

/-- The text of a block that is taken to its end. -/
def text (chomp : Chomp) (s : BlockState) : List Char :=
  s.done.reverse ++ match chomp with
    | .strip => []
    | .clip => s.leading.toList
    | .keep => s.leading.toList ++ s.trailing

end BlockState

/-- Takes the lines of a block, whose lines are indented at least to the column `least`. -/
def blockFrom (folds : Bool) (least : Nat) (inLine : Bool) (s : BlockState) :
    List Char → Option (BlockState × List Char)
  | [] => some (s, [])
  | c :: rest =>
    if inLine then
      if isBreak c then
        blockFrom folds least false { s with leading := some c, column := 0 } rest
      else
        blockFrom folds least true { s with done := c :: s.done, column := s.column + 1 } rest
    else
      let below := s.indent == 0 || s.column < s.indent
      if below && c == ' ' then
        blockFrom folds least false { s with column := s.column + 1 } rest
      else if below && c == '\t' then none
      else if isBreak c then
        let s := { s with
          trailing := s.trailing ++ [c], widest := max s.widest s.column, column := 0 }
        blockFrom folds least false s rest
      else
        let indent := if s.indent = 0 then max (max s.widest s.column) least else s.indent
        if s.column = indent then
          blockFrom folds least true ({ s with indent := indent }.beginLine folds c) rest
        else some (s, c :: rest)

end ApiGateway.Yaml
