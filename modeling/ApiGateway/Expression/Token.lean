import ApiGateway.Expression.Syntax
import ApiGateway.Json.Number
import ApiGateway.Text.Blank
import ApiGateway.Text.Letter
import ApiGateway.Text.Occurrence

/-! # The tokens of an expression

`Token.scan` splits the text of an expression into tokens, each with the byte offset of its first
character, and ends them with `stop` at the length of the text. Blanks may stand between tokens. A
point belongs to a number only if a digit follows it, and an `e` only if an exponent follows.
-/

set_option autoImplicit false

namespace ApiGateway.Expression

open Json (Number)

/-- A mark of one or two characters. -/
inductive Mark where
  | plus
  | minus
  | star
  | slash
  | percent
  | equal
  | notEqual
  | less
  | lessEqual
  | greater
  | greaterEqual
  | and
  | or
  | not
  | question
  | coalesce
  | colon
  | dot
  | comma
  | openParen
  | closeParen
  | openBracket
  | closeBracket
  deriving DecidableEq, Repr

/-- The characters of a mark. -/
def Mark.text : Mark → String
  | .plus => "+"
  | .minus => "-"
  | .star => "*"
  | .slash => "/"
  | .percent => "%"
  | .equal => "=="
  | .notEqual => "!="
  | .less => "<"
  | .lessEqual => "<="
  | .greater => ">"
  | .greaterEqual => ">="
  | .and => "&&"
  | .or => "||"
  | .not => "!"
  | .question => "?"
  | .coalesce => "??"
  | .colon => ":"
  | .dot => "."
  | .comma => ","
  | .openParen => "("
  | .closeParen => ")"
  | .openBracket => "["
  | .closeBracket => "]"

/-- What a token is. -/
inductive Lexeme where
  | number (value : Number)
  | text (value : String)
  | name (value : String)
  | mark (mark : Mark)
  /-- The end of the expression. -/
  | stop
  deriving DecidableEq

/-- A token: what it is, and the byte offset at which it begins. -/
structure Token where
  lexeme : Lexeme
  offset : Nat
  deriving DecidableEq

/-- How messages name a token. -/
def Lexeme.describe : Lexeme → String
  | .number n => "number " ++ String.ofList n.text
  | .text s => "string '" ++ s ++ "'"
  | .name s => "identifier '" ++ s ++ "'"
  | .mark m => "'" ++ m.text ++ "'"
  | .stop => "end of expression"

/-- What is wrong with a text that has no tokens. -/
inductive LexicalFault where
  | numberWithoutDigit
  | assignment
  | unexpectedCharacter (c : Char)
  | invalidNumber (text : String)
  | unterminatedText
  | unterminatedEscape
  | unknownEscape (c : Char)
  | unbracedEscape
  | malformedEscape
  | invalidScalar (digits : String)
  deriving DecidableEq

/-- The wording of a fault. -/
def LexicalFault.message : LexicalFault → String
  | .numberWithoutDigit => "numbers must start with a digit"
  | .assignment => "assignment is not supported; use '==' to compare"
  | .unexpectedCharacter c => "unexpected character '" ++ c.toString ++ "'"
  | .invalidNumber text => "invalid number '" ++ text ++ "'"
  | .unterminatedText => "unterminated string literal"
  | .unterminatedEscape => "unterminated escape sequence"
  | .unknownEscape c => "unknown escape sequence '\\" ++ c.toString ++ "'"
  | .unbracedEscape => "unicode escapes are written '\\u\x7b...\x7d'"
  | .malformedEscape => "malformed unicode escape"
  | .invalidScalar digits => "invalid unicode scalar '" ++ digits ++ "'"

/-- Something that is reported at a byte offset. -/
structure Located (α : Type) where
  offset : Nat
  value : α
  deriving DecidableEq

/-- What remains of a text behind a byte offset. -/
structure Cursor where
  offset : Nat
  rest : List Char
  deriving DecidableEq

/-! ## Strings -/

/-- Where the scanner stands inside a string. Inside an escape it remembers the offset of the
backslash, and inside braces the digits so far, last first. -/
inductive StringMode where
  | plain
  | escape (start : Nat)
  | brace (start : Nat)
  | digits (start : Nat) (read : List Char)

/-- The character behind a backslash, for the escapes of one letter. -/
def unescape? : Char → Option Char
  | '\\' => some '\\'
  | '\'' => some '\''
  | '"' => some '"'
  | 'n' => some '\n'
  | 't' => some '\t'
  | 'r' => some '\r'
  | _ => none

/-- The character whose number is written by hexadecimal digits. -/
def scalar? (digits : List Char) : Option Char :=
  (Text.hexNumber? digits).bind fun n =>
    if h : n.isValidChar then some (Char.ofNatAux n h) else none

/-- The fault of a text that ends in a mode; the string began at `start`. -/
def StringMode.faultAtEnd (start : Nat) : StringMode → Located LexicalFault
  | .plain => ⟨start, .unterminatedText⟩
  | .escape at_ => ⟨at_, .unterminatedEscape⟩
  | .brace at_ => ⟨at_, .unbracedEscape⟩
  | .digits at_ _ => ⟨at_, .malformedEscape⟩

/-- Reads a string up to its closing quote. `done` holds the characters so far, last first. -/
def scanString (quote : Char) (start : Nat) :
    StringMode → (done : List Char) → (offset : Nat) → List Char →
      Except (Located LexicalFault) (String × Cursor)
  | mode, _, _, [] => .error (mode.faultAtEnd start)
  | .plain, done, offset, c :: rest =>
    let next := offset + c.utf8Size
    if c = quote then .ok (String.ofList done.reverse, ⟨next, rest⟩)
    else if c = '\\' then scanString quote start (.escape offset) done next rest
    else scanString quote start .plain (c :: done) next rest
  | .escape at_, done, offset, c :: rest =>
    let next := offset + c.utf8Size
    if c = 'u' then scanString quote start (.brace at_) done next rest
    else
      match unescape? c with
      | some d => scanString quote start .plain (d :: done) next rest
      | none => .error ⟨at_, .unknownEscape c⟩
  | .brace at_, done, offset, c :: rest =>
    if c = '\x7b' then scanString quote start (.digits at_ []) done (offset + c.utf8Size) rest
    else .error ⟨at_, .unbracedEscape⟩
  | .digits at_ read, done, offset, c :: rest =>
    let next := offset + c.utf8Size
    if c = '\x7d' then
      match scalar? read.reverse with
      | some d => scanString quote start .plain (d :: done) next rest
      | none => .error ⟨at_, .invalidScalar (String.ofList read.reverse)⟩
    else if (Text.hexValue? c).isSome ∧ read.length < 6 then
      scanString quote start (.digits at_ (c :: read)) done next rest
    else .error ⟨at_, .malformedEscape⟩

/-! ## Numbers and names -/

/-- A point with the digits behind it, if a digit follows the point. -/
def spanFraction : List Char → List Char × List Char
  | '.' :: d :: rest =>
    if d.isDigit then
      let (digits, rest) := Decimal.spanDigits (d :: rest)
      ('.' :: digits, rest)
    else ([], '.' :: d :: rest)
  | rest => ([], rest)

/-- The sign at the front of a text. -/
def spanSign : List Char → List Char × List Char
  | '+' :: rest => (['+'], rest)
  | '-' :: rest => (['-'], rest)
  | rest => ([], rest)

/-- An exponent: its mark, an optional sign and digits. -/
def spanExponent : List Char → List Char × List Char
  | [] => ([], [])
  | e :: rest =>
    if e = 'e' ∨ e = 'E' then
      let (sign, after) := spanSign rest
      let (digits, after) := Decimal.spanDigits after
      if digits.isEmpty then ([], e :: rest) else (e :: (sign ++ digits), after)
    else ([], e :: rest)

/-- The number at the front of a text: its digits, whether it has a fraction or an exponent, and
the rest. -/
def spanNumber (cs : List Char) : List Char × Bool × List Char :=
  let (whole, rest) := Decimal.spanDigits cs
  let (fraction, rest) := spanFraction rest
  let (exponent, rest) := spanExponent rest
  (whole ++ fraction ++ exponent, !(fraction.isEmpty && exponent.isEmpty), rest)

/-- The number that digits write: an integer if they are plain and 64 bits hold it, else the
nearest float, which must be finite. -/
def numberOf? (digits : List Char) (decimal : Bool) : Option Number :=
  match if decimal then none else Decimal.readInt64? digits with
  | some n => some (.int n)
  | none =>
    (Decimal.readFloat? digits).bind fun x =>
      if Binary64.isFinite x then some (.float x) else none

/-- A character that may begin a name. -/
def startsName (c : Char) : Bool := Text.isAlphabetic c || c == '_'

/-- A character that may continue a name. -/
def continuesName (c : Char) : Bool := Text.isAlphanumeric c || c == '_'

/-! ## Tokens -/

/-- The mark of one character. -/
def singleMark? : Char → Option Mark
  | '+' => some .plus
  | '-' => some .minus
  | '*' => some .star
  | '/' => some .slash
  | '%' => some .percent
  | '.' => some .dot
  | ',' => some .comma
  | ':' => some .colon
  | '(' => some .openParen
  | ')' => some .closeParen
  | '[' => some .openBracket
  | ']' => some .closeBracket
  | '!' => some .not
  | '<' => some .less
  | '>' => some .greater
  | '?' => some .question
  | _ => none

/-- The mark of two characters. -/
def doubleMark? : Char → Char → Option Mark
  | '=', '=' => some .equal
  | '!', '=' => some .notEqual
  | '<', '=' => some .lessEqual
  | '>', '=' => some .greaterEqual
  | '&', '&' => some .and
  | '|', '|' => some .or
  | '?', '?' => some .coalesce
  | _, _ => none

/-- The token that begins with `c`, which is not blank, at an offset, and what remains behind
it. -/
def scanLexeme (offset : Nat) (c : Char) (rest : List Char) :
    Except (Located LexicalFault) (Lexeme × Cursor) :=
  let next := offset + c.utf8Size
  let nextIsDigit := rest.head?.any Char.isDigit
  match rest.head?.bind (doubleMark? c) with
  | some m => .ok (.mark m, ⟨next + 1, rest.drop 1⟩)
  | none =>
    if c = '.' ∧ nextIsDigit then .error ⟨offset, .numberWithoutDigit⟩
    else
      match singleMark? c with
      | some m => .ok (.mark m, ⟨next, rest⟩)
      | none =>
        if c = '=' then .error ⟨offset, .assignment⟩
        else if c = '\'' ∨ c = '"' then do
          let (text, cursor) ← scanString c offset .plain [] next rest
          return (.text text, cursor)
        else if c.isDigit then
          let (digits, decimal, after) := spanNumber (c :: rest)
          match numberOf? digits decimal with
          | some n => .ok (.number n, ⟨offset + Text.byteLength digits, after⟩)
          | none => .error ⟨offset, .invalidNumber (String.ofList digits)⟩
        else if startsName c then
          let tail := rest.takeWhile continuesName
          .ok (.name (String.ofList (c :: tail)),
            ⟨next + Text.byteLength tail, rest.dropWhile continuesName⟩)
        else .error ⟨offset, .unexpectedCharacter c⟩

/-! ### Every token takes at least one character -/

theorem length_scanString_le (quote : Char) (start : Nat) (mode : StringMode)
    (done : List Char) (offset : Nat) (cs : List Char) {text : String} {cursor : Cursor}
    (h : scanString quote start mode done offset cs = .ok (text, cursor)) :
    cursor.rest.length ≤ cs.length := by
  induction cs generalizing mode done offset with
  | nil => cases mode <;> simp [scanString] at h
  | cons c rest ih =>
    simp only [List.length_cons]
    have step : ∀ {mode done offset}, scanString quote start mode done offset rest
        = .ok (text, cursor) → cursor.rest.length ≤ rest.length + 1 :=
      fun h => Nat.le_succ_of_le (ih _ _ _ h)
    cases mode with
    | plain =>
      simp only [scanString] at h
      split at h
      · simp only [Except.ok.injEq, Prod.mk.injEq] at h
        rw [← h.2]; exact Nat.le_succ _
      · split at h <;> exact step h
    | escape at_ =>
      simp only [scanString] at h
      split at h
      · exact step h
      · split at h
        · exact step h
        · simp at h
    | brace at_ =>
      simp only [scanString] at h
      split at h
      · exact step h
      · simp at h
    | digits at_ read =>
      simp only [scanString] at h
      split at h
      · split at h
        · exact step h
        · simp at h
      · split at h
        · exact step h
        · simp at h

theorem length_spanFraction_snd_le (cs : List Char) :
    (spanFraction cs).2.length ≤ cs.length := by
  unfold spanFraction
  split
  · split
    · have := Decimal.length_spanDigits_snd_le (‹Char› :: ‹List Char›)
      simp only [List.length_cons] at this ⊢
      omega
    · simp
  · simp

theorem length_spanSign_snd_le (cs : List Char) : (spanSign cs).2.length ≤ cs.length := by
  unfold spanSign; split <;> simp

theorem length_spanExponent_snd_le (cs : List Char) :
    (spanExponent cs).2.length ≤ cs.length := by
  unfold spanExponent
  split
  · simp
  · split
    · have h1 := length_spanSign_snd_le ‹List Char›
      have h2 := Decimal.length_spanDigits_snd_le (spanSign ‹List Char›).2
      simp only [apply_ite Prod.snd, apply_ite List.length, List.length_cons]
      split <;> omega
    · simp

theorem length_spanNumber_lt (c : Char) (rest : List Char) (h : c.isDigit = true) :
    (spanNumber (c :: rest)).2.2.length ≤ rest.length := by
  have h1 : (Decimal.spanDigits (c :: rest)).2.length ≤ rest.length := by
    simp only [Decimal.spanDigits, List.dropWhile_cons, h, if_true]
    exact (List.dropWhile_sublist _).length_le
  have h2 := length_spanFraction_snd_le (Decimal.spanDigits (c :: rest)).2
  have h3 := length_spanExponent_snd_le (spanFraction (Decimal.spanDigits (c :: rest)).2).2
  simp only [spanNumber]
  omega

theorem length_scanLexeme_le {offset : Nat} {c : Char} {rest : List Char} {lexeme : Lexeme}
    {cursor : Cursor} (h : scanLexeme offset c rest = .ok (lexeme, cursor)) :
    cursor.rest.length ≤ rest.length := by
  unfold scanLexeme at h
  simp only at h
  split at h
  · simp only [Except.ok.injEq, Prod.mk.injEq] at h
    rw [← h.2]; simp
  · split at h
    · simp at h
    · split at h
      · simp only [Except.ok.injEq, Prod.mk.injEq] at h
        simp [← h.2]
      · split at h
        · simp at h
        · split at h
          · cases hs : scanString c offset .plain [] (offset + c.utf8Size) rest with
            | error e => simp [hs, bind, Except.bind] at h
            | ok r =>
              simp only [hs, bind, Except.bind, pure, Except.pure, Except.ok.injEq,
                Prod.mk.injEq] at h
              rw [← h.2]
              exact length_scanString_le _ _ _ _ _ _ hs
          · split at h
            · rename_i hd
              split at h
              · simp only [Except.ok.injEq, Prod.mk.injEq] at h
                rw [← h.2]
                exact length_spanNumber_lt c rest hd
              · simp at h
            · split at h
              · simp only [Except.ok.injEq, Prod.mk.injEq] at h
                rw [← h.2]
                exact (List.dropWhile_sublist _).length_le
              · simp at h

/-- The tokens of a text that begins at an offset. -/
def scanFrom (offset : Nat) : List Char → Except (Located LexicalFault) (List Token)
  | [] => .ok [⟨.stop, offset⟩]
  | c :: rest =>
    if Text.isBlank c then scanFrom (offset + c.utf8Size) rest
    else
      match h : scanLexeme offset c rest with
      | .error fault => .error fault
      | .ok (lexeme, cursor) =>
        have : cursor.rest.length ≤ rest.length := length_scanLexeme_le h
        (scanFrom cursor.offset cursor.rest).map (⟨lexeme, offset⟩ :: ·)
termination_by cs => cs.length

/-- The tokens of a text, the last of which is `stop`. -/
def Token.scan (text : String) : Except (Located LexicalFault) (List Token) :=
  scanFrom 0 text.toList

end ApiGateway.Expression
