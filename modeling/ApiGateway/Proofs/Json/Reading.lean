import ApiGateway.Json.Printer
import ApiGateway.Json.Reader

/-! # JSON text reads back

`lex_tokens` and `run_tokens` follow a tree: its text is split into its tokens, and the machine that
takes them has built the tree when they end. Together they give `readFields_render`. Whether the
text of a number reads back is left open here: `Number.Readable` says it of one number, and a tree
whose numbers are readable is readable itself.
-/

set_option autoImplicit false

namespace ApiGateway.Json

/-! ## Tokens -/

theorem lex_cons {c : Char} {cs rest : List Char} {t : Token} (hspace : isSpace c = false)
    (ht : scanToken c cs = some (t, rest)) : lex (c :: cs) = (lex rest).map (t :: ·) := by
  rw [lex, if_neg (by simp [hspace])]
  split
  · rename_i h
    rw [ht] at h
    cases h
  · rename_i t' rest' h
    rw [ht] at h
    cases h
    rfl

/-- The text of a token in front of other text is split off from it. -/
def Token.Reads (t : Token) (rest : List Char) : Prop :=
  lex (t.text ++ rest) = (lex rest).map (t :: ·)

theorem Token.reads_null (rest : List Char) : Token.null.Reads rest :=
  lex_cons rfl rfl

theorem Token.reads_bool (b : Bool) (rest : List Char) : (Token.bool b).Reads rest := by
  cases b <;> exact lex_cons rfl rfl

theorem Token.reads_beginArr (rest : List Char) : Token.beginArr.Reads rest := lex_cons rfl rfl

theorem Token.reads_endArr (rest : List Char) : Token.endArr.Reads rest := lex_cons rfl rfl

theorem Token.reads_beginObj (rest : List Char) : Token.beginObj.Reads rest := lex_cons rfl rfl

theorem Token.reads_endObj (rest : List Char) : Token.endObj.Reads rest := lex_cons rfl rfl

theorem Token.reads_comma (rest : List Char) : Token.comma.Reads rest := lex_cons rfl rfl

theorem Token.reads_colon (rest : List Char) : Token.colon.Reads rest := lex_cons rfl rfl

/-! ### Strings -/

/-- A piece that stands for a character on its own. -/
def Piece.StandsFor (p : Piece) (c : Char) : Prop :=
  ∀ rest, joinPieces (p :: rest) = (joinPieces rest).map (c :: ·)

theorem Piece.standsFor_char (c : Char) : (Piece.char c).StandsFor c := fun _ => by
  rw [joinPieces]

/-- A unit below the surrogates stands for the character with its code. -/
theorem Piece.standsFor_unit {c : Char} (h : c.toNat < 32) : (Piece.unit c.toNat).StandsFor c := by
  intro rest
  have hlow : isLowSurrogate c.toNat = false := by
    simp only [isLowSurrogate, Bool.and_eq_false_iff, decide_eq_false_iff_not]
    omega
  have hhigh : isHighSurrogate c.toNat = false := by
    simp only [isHighSurrogate, Bool.and_eq_false_iff, decide_eq_false_iff_not]
    omega
  rw [joinPieces.eq_def]
  dsimp only
  rw [if_neg (by simp [hlow]), if_neg (by simp [hhigh]), Char.ofNat_toNat]

theorem hexNumber?_control {n : Nat} (h : n < 32) :
    Text.hexNumber? ['0', '0', hexDigit (n / 16), hexDigit (n % 16)] = some n := by
  have hall : ∀ n < 32,
      Text.hexNumber? ['0', '0', hexDigit (n / 16), hexDigit (n % 16)] = some n := by decide
  exact hall n h

theorem scanPieces_short {e c : Char} (h : unescape? e = some c) (rest : List Char) :
    scanPieces ('\\' :: e :: rest) =
      (scanPieces rest).map fun (ps, after) => (.char c :: ps, after) := by
  have hu : e ≠ 'u' := by
    rintro rfl
    cases h
  rw [scanPieces, h]
  · cases scanPieces rest <;> rfl
  · intro a b c d rest' heq
    exact absurd heq hu

/-- An escaped character is scanned as one piece that stands for it. -/
theorem scanPieces_escapeChar (c : Char) (rest : List Char) :
    ∃ p : Piece, p.StandsFor c ∧ scanPieces (escapeChar c ++ rest) =
      (scanPieces rest).map fun (ps, after) => (p :: ps, after) := by
  unfold escapeChar
  split
  · rename_i h
    exact ⟨_, Piece.standsFor_char c, scanPieces_short (by rw [h]; rfl) rest⟩
  split
  · rename_i h
    exact ⟨_, Piece.standsFor_char c, scanPieces_short (by rw [h]; rfl) rest⟩
  split
  · rename_i h
    exact ⟨_, Piece.standsFor_char c, scanPieces_short (by rw [h]; rfl) rest⟩
  split
  · rename_i h
    exact ⟨_, Piece.standsFor_char c, scanPieces_short (by rw [h]; rfl) rest⟩
  split
  · rename_i h
    exact ⟨_, Piece.standsFor_char c, scanPieces_short (by rw [h]; rfl) rest⟩
  split
  · rename_i h
    refine ⟨_, Piece.standsFor_char c, scanPieces_short ?_ rest⟩
    rw [← Char.ofNat_toNat c, h]
    rfl
  split
  · rename_i h
    refine ⟨_, Piece.standsFor_char c, scanPieces_short ?_ rest⟩
    rw [← Char.ofNat_toNat c, h]
    rfl
  split
  · rename_i h
    refine ⟨_, Piece.standsFor_unit h, ?_⟩
    show scanPieces ('\\' :: 'u' :: '0' :: '0' :: _ :: _ :: rest) = _
    rw [scanPieces, hexNumber?_control h]
    cases scanPieces rest <;> rfl
  · rename_i hquote hslash _ _ _ _ _ hcontrol
    refine ⟨_, Piece.standsFor_char c, ?_⟩
    show scanPieces (c :: rest) = _
    rw [scanPieces, if_neg (by simp [hcontrol, hslash])]
    · cases scanPieces rest <;> rfl
    · exact hquote
    · intro a b d e rest' heq
      cases heq
      exact absurd rfl hslash
    · intro e rest' heq
      cases heq
      exact absurd rfl hslash

theorem scanPieces_escaped (cs rest : List Char) :
    ∃ ps, joinPieces ps = some cs ∧
      scanPieces (cs.flatMap escapeChar ++ '"' :: rest) = some (ps, rest) := by
  induction cs with
  | nil => exact ⟨[], by rw [joinPieces], by rw [List.flatMap_nil, List.nil_append, scanPieces]⟩
  | cons c cs ih =>
      obtain ⟨ps, hjoin, hscan⟩ := ih
      obtain ⟨p, hp, hpiece⟩ := scanPieces_escapeChar c (cs.flatMap escapeChar ++ '"' :: rest)
      refine ⟨p :: ps, ?_, ?_⟩
      · rw [hp, hjoin]
        rfl
      · rw [List.flatMap_cons, List.append_assoc, hpiece, hscan]
        rfl

theorem Token.reads_str (s : String) (rest : List Char) : (Token.str s).Reads rest := by
  obtain ⟨ps, hjoin, hscan⟩ := scanPieces_escaped s.toList rest
  have htext : (Token.str s).text ++ rest =
      '"' :: (s.toList.flatMap escapeChar ++ '"' :: rest) := by
    simp [Token.text, quote]
  unfold Token.Reads
  rw [htext]
  refine lex_cons rfl ?_
  show (scanPieces _ >>= _) = _
  rw [hscan]
  show some ((joinPieces ps).elim Token.broken fun cs => .str (String.ofList cs), rest) = _
  rw [hjoin]
  simp

/-! ### Trees -/

/-- What may follow a value in compact text: nothing, a comma, or a closing bracket. -/
def EndsValue (rest : List Char) : Prop := ∀ c ∈ rest.head?, c = ',' ∨ c = ']' ∨ c = '\x7d'

/-- The text of a number is the token of the number wherever a value may end. -/
def Number.Readable (n : Number) : Prop := ∀ rest, EndsValue rest → (Token.num n).Reads rest

mutual

/-- Every number of a tree reads back. -/
def Readable : Json → Prop
  | .num n => n.Readable
  | .arr items => ReadableItems items
  | .obj members => ReadableMembers members
  | _ => True

/-- Every item is readable. -/
def ReadableItems : List Json → Prop
  | [] => True
  | v :: rest => Readable v ∧ ReadableItems rest

/-- Every member is readable. -/
def ReadableMembers : List (String × Json) → Prop
  | [] => True
  | (_, v) :: rest => Readable v ∧ ReadableMembers rest

end

/-- The text of tokens. -/
def textOf (ts : List Token) : List Char := ts.flatMap Token.text

theorem textOf_cons (t : Token) (ts : List Token) : textOf (t :: ts) = t.text ++ textOf ts :=
  List.flatMap_cons

theorem textOf_append (ts us : List Token) : textOf (ts ++ us) = textOf ts ++ textOf us :=
  List.flatMap_append

/-- The text of tokens in front of other text is split into them. -/
def Lexes (ts : List Token) (rest : List Char) : Prop :=
  lex (textOf ts ++ rest) = (lex rest).map (ts ++ ·)

theorem lexes_nil (rest : List Char) : Lexes [] rest := by
  show lex rest = (lex rest).map _
  simp

theorem lexes_cons {t : Token} {ts : List Token} {rest : List Char}
    (ht : t.Reads (textOf ts ++ rest)) (hts : Lexes ts rest) : Lexes (t :: ts) rest := by
  unfold Lexes
  rw [textOf_cons, List.append_assoc, ht, hts, Option.map_map]
  rfl

theorem lexes_append {ts us : List Token} {rest : List Char}
    (hts : Lexes ts (textOf us ++ rest)) (hus : Lexes us rest) : Lexes (ts ++ us) rest := by
  unfold Lexes
  rw [textOf_append, List.append_assoc, hts, hus, Option.map_map]
  refine congrArg (fun f => (lex rest).map f) (funext fun vs => ?_)
  rw [List.append_assoc]
  rfl

theorem endsValue_cons {c : Char} (h : c = ',' ∨ c = ']' ∨ c = '\x7d') (rest : List Char) :
    EndsValue (c :: rest) := by
  intro d hd
  cases hd
  exact h

mutual

/-- The text of a tree is split into the tokens of the tree. -/
theorem lexes_tokens : (v : Json) → v.Readable → ∀ rest, EndsValue rest → Lexes v.tokens rest
  | .null, _, rest, _ => by
      rw [tokens]
      exact lexes_cons (Token.reads_null _) (lexes_nil rest)
  | .bool b, _, rest, _ => by
      rw [tokens]
      exact lexes_cons (Token.reads_bool b _) (lexes_nil rest)
  | .num n, h, rest, hrest => by
      rw [tokens]
      exact lexes_cons (h _ hrest) (lexes_nil rest)
  | .str s, _, rest, _ => by
      rw [tokens]
      exact lexes_cons (Token.reads_str s _) (lexes_nil rest)
  | .arr items, h, rest, _ => by
      rw [tokens]
      refine lexes_cons (Token.reads_beginArr _) (lexes_append ?_ ?_)
      · exact lexes_items items h _ (endsValue_cons (by simp) rest)
      · exact lexes_cons (Token.reads_endArr _) (lexes_nil rest)
  | .obj members, h, rest, _ => by
      rw [tokens]
      refine lexes_cons (Token.reads_beginObj _) (lexes_append ?_ ?_)
      · exact lexes_members members h _ (endsValue_cons (by simp) rest)
      · exact lexes_cons (Token.reads_endObj _) (lexes_nil rest)

theorem lexes_items : (items : List Json) → ReadableItems items → ∀ rest, EndsValue rest →
    Lexes (tokensItems items) rest
  | [], _, rest, _ => by
      rw [tokensItems]
      exact lexes_nil rest
  | [v], h, rest, hrest => by
      rw [tokensItems]
      exact lexes_tokens v h.1 rest hrest
  | v :: w :: items, h, rest, hrest => by
      rw [tokensItems]
      refine lexes_append (lexes_tokens v h.1 _ (endsValue_cons (by simp) _)) ?_
      exact lexes_cons (Token.reads_comma _) (lexes_items (w :: items) h.2 rest hrest)

theorem lexes_members : (members : List (String × Json)) → ReadableMembers members →
    ∀ rest, EndsValue rest → Lexes (tokensMembers members) rest
  | [], _, rest, _ => by
      rw [tokensMembers]
      exact lexes_nil rest
  | [(k, v)], h, rest, hrest => by
      rw [tokensMembers]
      refine lexes_cons (Token.reads_str k _) (lexes_cons (Token.reads_colon _) ?_)
      exact lexes_tokens v h.1 rest hrest
  | (k, v) :: w :: members, h, rest, hrest => by
      rw [tokensMembers]
      refine lexes_cons (Token.reads_str k _) (lexes_cons (Token.reads_colon _) ?_)
      refine lexes_append (lexes_tokens v h.1 _ (endsValue_cons (by simp) _)) ?_
      exact lexes_cons (Token.reads_comma _) (lexes_members (w :: members) h.2 rest hrest)

end

/-- Compact text is split into the tokens that it was made of. -/
theorem lex_render {v : Json} (h : v.Readable) : lex v.render.toList = some v.tokens := by
  have hlexes := lexes_tokens v h [] (fun c hc => nomatch hc)
  unfold Lexes at hlexes
  unfold render
  rw [String.toList_ofList, ← List.append_nil (v.tokens.flatMap _)]
  rw [show v.tokens.flatMap Token.text = textOf v.tokens from rfl, hlexes, lex]
  simp

/-! ## The machine -/

mutual

/-- A tree as its text writes it. -/
def toWritten : Json → Written
  | .null => .null
  | .bool b => .bool b
  | .num n => .num (some n)
  | .str s => .str (some s)
  | .arr items => .arr (toWrittenItems items)
  | .obj members => .obj (toWrittenMembers members)

@[inherit_doc toWritten]
def toWrittenItems : List Json → List Written
  | [] => []
  | v :: rest => toWritten v :: toWrittenItems rest

@[inherit_doc toWritten]
def toWrittenMembers : List (String × Json) → List (Option String × Written)
  | [] => []
  | (k, v) :: rest => (some k, toWritten v) :: toWrittenMembers rest

end

namespace ReadState

theorem run_cons {s s' : ReadState} {t : Token} {ts : List Token} (h : s.step t = some s') :
    s.run (t :: ts) = s'.run ts := by
  rw [run, h]
  rfl

mutual

/-- The machine takes the tokens of a tree from where a value may stand to behind the value. -/
theorem run_tokens : (v : Json) → ∀ stack mayClose ts,
    (value stack mayClose).run (v.tokens ++ ts) = (after stack v.toWritten).run ts
  | .null, stack, mayClose, ts => by
      rw [tokens, toWritten]
      exact run_cons rfl
  | .bool b, stack, mayClose, ts => by
      rw [tokens, toWritten]
      exact run_cons rfl
  | .num n, stack, mayClose, ts => by
      rw [tokens, toWritten]
      exact run_cons rfl
  | .str s, stack, mayClose, ts => by
      rw [tokens, toWritten]
      exact run_cons rfl
  | .arr [], stack, mayClose, ts => by
      rw [tokens, toWritten, tokensItems, toWrittenItems]
      exact (run_cons rfl).trans (run_cons rfl)
  | .arr (v :: items), stack, mayClose, ts => by
      rw [tokens, toWritten, List.cons_append, List.append_assoc]
      refine (run_cons rfl).trans ?_
      exact run_items (v :: items) (List.cons_ne_nil _ _) [] stack true ts
  | .obj [], stack, mayClose, ts => by
      rw [tokens, toWritten, tokensMembers, toWrittenMembers]
      exact (run_cons rfl).trans (run_cons rfl)
  | .obj ((k, v) :: members), stack, mayClose, ts => by
      rw [tokens, toWritten, List.cons_append, List.append_assoc]
      refine (run_cons rfl).trans ?_
      exact run_members ((k, v) :: members) (List.cons_ne_nil _ _) [] stack true ts

theorem run_items : (items : List Json) → items ≠ [] → ∀ done stack mayClose ts,
    (value (.arr done :: stack) mayClose).run (tokensItems items ++ ([.endArr] ++ ts)) =
      (after stack (.arr (done.reverse ++ toWrittenItems items))).run ts
  | [], h, _, _, _, _ => absurd rfl h
  | [v], _, done, stack, mayClose, ts => by
      rw [tokensItems, run_tokens v, List.cons_append, List.nil_append]
      refine (run_cons rfl).trans ?_
      rw [toWrittenItems, toWrittenItems, List.reverse_cons]
  | v :: w :: items, _, done, stack, mayClose, ts => by
      rw [tokensItems, List.append_assoc, run_tokens v, List.cons_append]
      refine (run_cons rfl).trans ?_
      rw [run_items (w :: items) (List.cons_ne_nil _ _) (v.toWritten :: done) stack false ts,
        List.reverse_cons, List.append_assoc]
      rfl

theorem run_members : (members : List (String × Json)) → members ≠ [] →
    ∀ done stack mayClose ts,
    (key stack done mayClose).run (tokensMembers members ++ ([.endObj] ++ ts)) =
      (after stack (.obj (done.reverse ++ toWrittenMembers members))).run ts
  | [], h, _, _, _, _ => absurd rfl h
  | [(k, v)], _, done, stack, mayClose, ts => by
      rw [tokensMembers, List.cons_append, List.cons_append]
      refine (run_cons rfl).trans ((run_cons rfl).trans ?_)
      rw [run_tokens v, List.cons_append, List.nil_append]
      refine (run_cons rfl).trans ?_
      rw [toWrittenMembers, toWrittenMembers, List.reverse_cons]
  | (k, v) :: w :: members, _, done, stack, mayClose, ts => by
      rw [tokensMembers, List.cons_append, List.cons_append]
      refine (run_cons rfl).trans ((run_cons rfl).trans ?_)
      rw [List.append_assoc, run_tokens v, List.cons_append]
      refine (run_cons rfl).trans ?_
      rw [run_members (w :: members) (List.cons_ne_nil _ _) ((some k, v.toWritten) :: done) stack
        false ts, List.reverse_cons, List.append_assoc]
      rfl

end

end ReadState

theorem ofTokens?_tokens (v : Json) : ofTokens? v.tokens = some v.toWritten := by
  unfold ofTokens?
  rw [← List.append_nil v.tokens, ReadState.run_tokens]
  rfl

/-- What is read of compact text is what its tree has of the layout. -/
theorem readFields_render {v : Json} (h : v.Readable) (layout : Layout) :
    readFields layout v.render = v.toWritten.fit? maxDepth layout := by
  unfold readFields
  rw [lex_render h]
  show (ofTokens? v.tokens >>= _) = _
  rw [ofTokens?_tokens]
  rfl

end ApiGateway.Json
