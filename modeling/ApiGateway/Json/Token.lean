import ApiGateway.Json.Basic
import ApiGateway.Text.Letter

/-! # The tokens of JSON text

`Token.text` writes a token and `lex` splits a text into tokens. Between tokens only spaces, tabs
and line ends may stand. A string is first cut into pieces, each a character or a 16-bit unit from
an escape; `joinPieces` then combines surrogate pairs. A string in which a surrogate stands alone
and a number beyond the floats are tokens as well, though they stand for no value.
-/

set_option autoImplicit false

namespace ApiGateway.Json

/-- A token of JSON text. -/
inductive Token where
  | null
  | bool (value : Bool)
  | num (value : Number)
  | str (value : String)
  /-- A number that no float is near. -/
  | vast
  /-- A string in which half of a surrogate pair stands alone. -/
  | broken
  | beginArr
  | endArr
  | beginObj
  | endObj
  | comma
  | colon
  deriving DecidableEq

/-! ## Writing -/

/-- The lower-case hexadecimal digit of a number below sixteen. -/
def hexDigit (n : Nat) : Char := Char.ofNat (if n < 10 then '0'.toNat + n else 'a'.toNat + (n - 10))

/-- A character inside quotation marks: quotes, backslashes and control characters are escaped,
the control characters without a short form by their code. -/
def escapeChar (c : Char) : List Char :=
  if c = '"' then ['\\', '"']
  else if c = '\\' then ['\\', '\\']
  else if c = '\n' then ['\\', 'n']
  else if c = '\r' then ['\\', 'r']
  else if c = '\t' then ['\\', 't']
  else if c.toNat = 8 then ['\\', 'b']
  else if c.toNat = 12 then ['\\', 'f']
  else if c.toNat < 32 then
    ['\\', 'u', '0', '0', hexDigit (c.toNat / 16), hexDigit (c.toNat % 16)]
  else [c]

/-- A text between quotation marks. -/
def quote (cs : List Char) : List Char := '"' :: (cs.flatMap escapeChar ++ ['"'])

/-- The text of a token. Those that stand for no value are never written. -/
def Token.text : Token → List Char
  | .null => "null".toList
  | .bool true => "true".toList
  | .bool false => "false".toList
  | .num n => n.text
  | .str s => quote s.toList
  | .vast | .broken => []
  | .beginArr => ['[']
  | .endArr => [']']
  | .beginObj => ['\x7b']
  | .endObj => ['\x7d']
  | .comma => [',']
  | .colon => [':']

/-! ## Strings -/

/-- A piece of a string: a character as it stands, or a 16-bit unit from an escape. -/
inductive Piece where
  | char (c : Char)
  | unit (n : Nat)

/-- The character that a one-letter escape stands for. -/
def unescape? : Char → Option Char
  | '"' => some '"'
  | '\\' => some '\\'
  | '/' => some '/'
  | 'b' => some (Char.ofNat 8)
  | 'f' => some (Char.ofNat 12)
  | 'n' => some '\n'
  | 'r' => some '\r'
  | 't' => some '\t'
  | _ => none

/-- The pieces of a string up to its closing quote, and the text behind the quote. -/
def scanPieces : List Char → Option (List Piece × List Char)
  | [] => none
  | '"' :: rest => some ([], rest)
  | '\\' :: 'u' :: a :: b :: c :: d :: rest => do
    let n ← Text.hexNumber? [a, b, c, d]
    let (pieces, after) ← scanPieces rest
    return (.unit n :: pieces, after)
  | '\\' :: e :: rest => do
    let c ← unescape? e
    let (pieces, after) ← scanPieces rest
    return (.char c :: pieces, after)
  | c :: rest =>
    if c.toNat < 32 ∨ c = '\\' then none
    else do
      let (pieces, after) ← scanPieces rest
      return (.char c :: pieces, after)

/-- The first unit of a surrogate pair. -/
def isHighSurrogate (n : Nat) : Bool := 0xD800 ≤ n && n ≤ 0xDBFF

/-- The second unit of a surrogate pair. -/
def isLowSurrogate (n : Nat) : Bool := 0xDC00 ≤ n && n ≤ 0xDFFF

/-- The characters that pieces stand for. A high unit must be followed at once by a low one, and a
low unit stands only there. -/
def joinPieces : List Piece → Option (List Char)
  | [] => some []
  | .char c :: rest => (joinPieces rest).map (c :: ·)
  | .unit n :: rest =>
    if isLowSurrogate n then none
    else if isHighSurrogate n then
      match rest with
      | .unit m :: rest =>
        if isLowSurrogate m then
          (joinPieces rest).map
            (Char.ofNat (0x10000 + (n - 0xD800) * 0x400 + (m - 0xDC00)) :: ·)
        else none
      | _ => none
    else (joinPieces rest).map (Char.ofNat n :: ·)

/-! ## Numbers -/

/-- The number that an integer numeral writes: an integer while 64 bits hold it, the nearest float
beyond. Minus zero is a float. -/
def integerNumber? (negative : Bool) (n : Nat) : Option Number :=
  if !negative && n ≤ 0xFFFFFFFFFFFFFFFF then some (.int n)
  else if negative && n ≠ 0 && n ≤ 0x8000000000000000 then some (.int (-(n : Int)))
  else
    let x := Decimal.nearest negative n 0
    if Binary64.isFinite x then some (.float x) else none

/-- Digits behind a point, if there is a point. -/
def scanFraction? : List Char → Option (Option (List Char) × List Char)
  | '.' :: rest =>
    let (digits, rest) := Decimal.spanDigits rest
    if digits.isEmpty then none else some (some digits, rest)
  | rest => some (none, rest)

/-- An exponent behind its mark, if there is a mark. -/
def scanExponent? : List Char → Option (Option Int × List Char)
  | [] => some (none, [])
  | mark :: rest =>
    if mark = 'e' ∨ mark = 'E' then
      let (negative, rest) := Decimal.takeSign rest
      let (digits, rest) := Decimal.spanDigits rest
      if digits.isEmpty then none
      else
        let n : Int := Decimal.ofDigits digits
        some (some (if negative then -n else n), rest)
    else some (none, mark :: rest)

/-- Takes a minus sign off the front of a text, if there is one. -/
def takeMinus : List Char → Bool × List Char
  | '-' :: rest => (true, rest)
  | cs => (false, cs)

/-- The number at the front of a text, and the rest. A leading zero stands alone. A number that no
finite float is near is `none`. -/
def scanNumber (cs : List Char) : Option (Option Number × List Char) := do
  let (negative, cs) := takeMinus cs
  let (whole, rest) := Decimal.spanDigits cs
  if whole.isEmpty || (whole.head? == some '0' && whole.length > 1) then none
  else
    let (fraction, rest) ← scanFraction? rest
    let (exponent, rest) ← scanExponent? rest
    if fraction.isNone && exponent.isNone then
      return (integerNumber? negative (Decimal.ofDigits whole), rest)
    else
      let x := (Decimal.Numeral.mk whole (fraction.getD []) (exponent.getD 0)).toFloat negative
      return (if Binary64.isFinite x then some (.float x) else none, rest)

/-! ## Splitting a text -/

/-- The characters that may stand between tokens. -/
def isSpace (c : Char) : Bool := c == ' ' || c == '\t' || c == '\n' || c == '\r'

/-- The text behind a word, if it begins with the word. -/
def dropWord? (word cs : List Char) : Option (List Char) :=
  if word.isPrefixOf cs then some (cs.drop word.length) else none

/-- The token at the front of a text, and the rest. -/
def scanToken (c : Char) (cs : List Char) : Option (Token × List Char) :=
  match c with
  | '[' => some (.beginArr, cs)
  | ']' => some (.endArr, cs)
  | '\x7b' => some (.beginObj, cs)
  | '\x7d' => some (.endObj, cs)
  | ',' => some (.comma, cs)
  | ':' => some (.colon, cs)
  | 'n' => (dropWord? "ull".toList cs).map (.null, ·)
  | 't' => (dropWord? "rue".toList cs).map (.bool true, ·)
  | 'f' => (dropWord? "alse".toList cs).map (.bool false, ·)
  | '"' => do
    let (pieces, rest) ← scanPieces cs
    return ((joinPieces pieces).elim .broken fun cs => .str (String.ofList cs), rest)
  | _ => do
    let (n, rest) ← scanNumber (c :: cs)
    return (n.elim .vast .num, rest)

/-! ### Every token takes at least one character -/

theorem length_scanPieces_le {cs : List Char} {pieces : List Piece} {rest : List Char}
    (h : scanPieces cs = some (pieces, rest)) : rest.length ≤ cs.length := by
  fun_induction scanPieces cs generalizing pieces with
  | case1 => simp at h
  | case2 => simp only [Option.some.injEq, Prod.mk.injEq] at h; simp [← h.2]
  | case3 a b c d cs ih =>
    simp only [Option.bind_eq_bind, Option.bind_eq_some_iff, Option.pure_def, Option.some.injEq,
      Prod.mk.injEq, Prod.exists] at h
    obtain ⟨_, _, ps, after, hs, _, rfl⟩ := h
    have := ih hs
    simp only [List.length_cons]; omega
  | case4 e cs _ ih =>
    simp only [Option.bind_eq_bind, Option.bind_eq_some_iff, Option.pure_def, Option.some.injEq,
      Prod.mk.injEq, Prod.exists] at h
    obtain ⟨_, _, ps, after, hs, _, rfl⟩ := h
    have := ih hs
    simp only [List.length_cons]; omega
  | case5 => simp at h
  | case6 c cs _ _ _ _ ih =>
    simp only [Option.bind_eq_bind, Option.bind_eq_some_iff, Option.pure_def, Option.some.injEq,
      Prod.mk.injEq, Prod.exists] at h
    obtain ⟨ps, after, hs, _, rfl⟩ := h
    have := ih hs
    simp only [List.length_cons]; omega

theorem length_scanFraction_le {cs : List Char} {fraction : Option (List Char)}
    {rest : List Char} (h : scanFraction? cs = some (fraction, rest)) :
    rest.length ≤ cs.length := by
  unfold scanFraction? at h
  split at h
  · simp only [Option.ite_none_left_eq_some, Option.some.injEq, Prod.mk.injEq] at h
    rw [← h.2.2]
    exact Nat.le_succ_of_le (Decimal.length_spanDigits_snd_le _)
  · simp only [Option.some.injEq, Prod.mk.injEq] at h
    simp [h.2]

theorem length_takeSign_snd_le (cs : List Char) :
    (Decimal.takeSign cs).2.length ≤ cs.length := by
  unfold Decimal.takeSign; split <;> simp

theorem length_scanExponent_le {cs : List Char} {exponent : Option Int} {rest : List Char}
    (h : scanExponent? cs = some (exponent, rest)) : rest.length ≤ cs.length := by
  unfold scanExponent? at h
  split at h
  · simp only [Option.some.injEq, Prod.mk.injEq] at h
    simp [← h.2]
  · split at h
    · simp only [Option.ite_none_left_eq_some, Option.some.injEq, Prod.mk.injEq] at h
      rw [← h.2.2]
      exact Nat.le_succ_of_le
        (Nat.le_trans (Decimal.length_spanDigits_snd_le _) (length_takeSign_snd_le _))
    · simp only [Option.some.injEq, Prod.mk.injEq] at h
      simp [← h.2]

theorem length_takeMinus_snd_le (cs : List Char) : (takeMinus cs).2.length ≤ cs.length := by
  unfold takeMinus; split <;> simp

theorem length_scanNumber_lt {cs : List Char} {n : Option Number} {rest : List Char}
    (h : scanNumber cs = some (n, rest)) : rest.length < cs.length := by
  simp only [scanNumber] at h
  split at h
  · simp at h
  · rename_i hw
    have hlt : (Decimal.spanDigits (takeMinus cs).2).2.length < cs.length := by
      have hm := length_takeMinus_snd_le cs
      have hsum := congrArg List.length
        (List.takeWhile_append_dropWhile (p := Char.isDigit) (l := (takeMinus cs).2))
      simp only [List.length_append] at hsum
      have : ((takeMinus cs).2.takeWhile Char.isDigit).length ≠ 0 := by
        intro h0
        rw [List.length_eq_zero_iff] at h0
        simp [Decimal.spanDigits, h0] at hw
      simp only [Decimal.spanDigits]
      omega
    simp only [Option.bind_eq_bind, Option.bind_eq_some_iff, Prod.exists] at h
    obtain ⟨fraction, r1, hf, exponent, r2, he, h⟩ := h
    have h1 := length_scanFraction_le hf
    have h2 := length_scanExponent_le he
    have h3 : r2 = rest := by
      split at h
      all_goals
        simp only [Option.pure_def, Option.some.injEq, Prod.mk.injEq] at h
        exact h.2
    rw [← h3]
    omega

theorem length_dropWord_le {word cs rest : List Char} (h : dropWord? word cs = some rest) :
    rest.length ≤ cs.length := by
  simp only [dropWord?, Option.ite_none_right_eq_some, Option.some.injEq] at h
  rw [← h.2]
  simp

theorem length_scanToken_le {c : Char} {cs : List Char} {token : Token} {rest : List Char}
    (h : scanToken c cs = some (token, rest)) : rest.length ≤ cs.length := by
  unfold scanToken at h
  split at h <;> simp only [Option.map_eq_some_iff, Option.bind_eq_bind, Option.bind_eq_some_iff,
    Option.pure_def, Option.some.injEq, Prod.mk.injEq, Prod.exists] at h
  case h_10 =>
    obtain ⟨pieces, after, hp, _, rfl⟩ := h
    exact length_scanPieces_le hp
  case h_11 =>
    obtain ⟨n, after, hn, _, rfl⟩ := h
    exact Nat.le_of_lt_succ (length_scanNumber_lt hn)
  case h_7 | h_8 | h_9 =>
    obtain ⟨_, hd, _, rfl⟩ := h
    exact length_dropWord_le hd
  all_goals simp [← h.2]

/-- The tokens of a text. -/
def lex : List Char → Option (List Token)
  | [] => some []
  | c :: cs =>
    if isSpace c then lex cs
    else
      match h : scanToken c cs with
      | none => none
      | some (token, rest) =>
        have : rest.length ≤ cs.length := length_scanToken_le h
        (lex rest).map (token :: ·)
termination_by cs => cs.length

end ApiGateway.Json
