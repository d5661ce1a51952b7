import ApiGateway.Proofs.Json.Characters
import ApiGateway.Proofs.Json.Integers
import ApiGateway.Proofs.Text.Classes

/-! # Compact text is uniquely readable

A value is determined by its compact text, and so is the place where the text ends inside a longer
one (`eq_of_textOf_append`). The induction follows two values at once. The first character of a text
tells the kind of the value; inside a container the character behind an item tells whether a further
item comes. Nothing is asked of the text of a number but that it tells the numbers in use apart, see
`Number.ToldApart`.
-/

set_option autoImplicit false

namespace ApiGateway

open Text (takeWhile_append_of_stop)
open Decimal (isNumeral)

/-! ## The text of a number -/

namespace Decimal

theorem intText_ne_nil (n : Int) : intText n ≠ [] := by
  unfold intText
  split
  · exact List.cons_ne_nil _ _
  · exact Nat.toDigits_ne_nil

theorem text_ne_nil (format : FloatFormat) (d : Digits) : d.text format ≠ [] := by
  unfold Digits.text
  dsimp only
  split
  · split
    · simp
    · split <;> simp
  · simp

theorem floatText_ne_nil (format : FloatFormat) (x : Float) : floatText format x ≠ [] := by
  unfold floatText
  split
  · decide
  · split <;> decide
  · dsimp only
    split
    · exact List.cons_ne_nil _ _
    · split
      · decide
      · exact text_ne_nil format _

end Decimal

namespace Json

theorem Number.isNumeric_text {n : Number} (h : n.InRange) : Decimal.IsNumeric n.text := by
  cases n with
  | int n => exact Decimal.isNumeric_intText n
  | float x => exact Decimal.isNumeric_floatText floatFormat h

theorem Number.text_ne_nil (n : Number) : n.text ≠ [] := by
  cases n with
  | int n => exact Decimal.intText_ne_nil n
  | float x => exact Decimal.floatText_ne_nil floatFormat x

/-! ## Numbers in use -/

/-- A class of numbers of documents that are told apart by their texts. -/
structure Number.ToldApart (P : Number → Prop) : Prop where
  inRange : ∀ n, P n → n.InRange
  injective : ∀ m n, P m → P n → m.text = n.text → m = n

mutual

/-- Every number of a tree belongs to a class. -/
def EachNumber (P : Number → Prop) : Json → Prop
  | .num n => P n
  | .arr items => EachNumberOfItems P items
  | .obj members => EachNumberOfMembers P members
  | _ => True

/-- Every number of every item belongs to a class. -/
def EachNumberOfItems (P : Number → Prop) : List Json → Prop
  | [] => True
  | v :: rest => EachNumber P v ∧ EachNumberOfItems P rest

/-- Every number of every member belongs to a class. -/
def EachNumberOfMembers (P : Number → Prop) : List (String × Json) → Prop
  | [] => True
  | (_, v) :: rest => EachNumber P v ∧ EachNumberOfMembers P rest

end

/-- Numbers that read back are told apart. -/
theorem Number.ToldApart.of_readable {P : Number → Prop} (hrange : ∀ n, P n → n.InRange)
    (h : ∀ n, P n → n.Readable) : ToldApart P := by
  refine ⟨hrange, fun m n hm hn htext => ?_⟩
  have hm' := h m hm [] (fun c hc => nomatch hc)
  have hn' := h n hn [] (fun c hc => nomatch hc)
  unfold Token.Reads at hm' hn'
  have hsame : (lex []).map (Token.num m :: ·) = (lex []).map (Token.num n :: ·) := by
    rw [← hm', ← hn']
    exact congrArg (fun cs => lex (cs ++ [])) htext
  rw [lex, Option.map_some, Option.map_some] at hsame
  cases hsame
  rfl

/-- The integers that 64 bits hold. -/
def Number.IsInteger (n : Number) : Prop := ∃ i, n = .int i ∧ n.InRange

theorem Number.toldApart_isInteger : ToldApart IsInteger := by
  refine .of_readable ?_ ?_
  · rintro n ⟨i, _, hrange⟩
    exact hrange
  · rintro n ⟨i, rfl, hrange⟩
    exact readable_int hrange

/-! ## Parts of a text -/

variable {P : Number → Prop} {rest rest' : List Char}

/-- A quoted text ends at its closing quote, wherever it stands. -/
theorem eq_of_quote_append {cs cs' : List Char} (h : quote cs ++ rest = quote cs' ++ rest') :
    cs = cs' ∧ rest = rest' := by
  obtain ⟨ps, hjoin, hscan⟩ := scanPieces_escaped cs rest
  obtain ⟨ps', hjoin', hscan'⟩ := scanPieces_escaped cs' rest'
  have hinner : cs.flatMap escapeChar ++ '"' :: rest = cs'.flatMap escapeChar ++ '"' :: rest' := by
    simpa [quote] using h
  rw [hinner, hscan'] at hscan
  cases hscan
  exact ⟨Option.some.inj (hjoin.symm.trans hjoin'), rfl⟩

/-- The text of a number ends where a value may end. -/
theorem eq_of_numberText_append (hP : Number.ToldApart P) {m n : Number} (hm : P m) (hn : P n)
    (hrest : EndsValue rest) (hrest' : EndsValue rest')
    (h : m.text ++ rest = n.text ++ rest') : m = n ∧ rest = rest' := by
  have hstop : ∀ {r : List Char}, EndsValue r → ∀ c, r.head? = some c → isNumeral c = false := by
    intro r hr c hc
    rcases hr c hc with rfl | rfl | rfl <;> rfl
  obtain ⟨htake, hdrop⟩ :=
    takeWhile_append_of_stop (Number.isNumeric_text (hP.inRange m hm)) (hstop hrest)
  obtain ⟨htake', hdrop'⟩ :=
    takeWhile_append_of_stop (Number.isNumeric_text (hP.inRange n hn)) (hstop hrest')
  have htext : m.text = n.text := by rw [← htake, ← htake', h]
  exact ⟨hP.injective m n hm hn htext, by rw [← hdrop, ← hdrop', h]⟩

/-- The kind of the values whose text begins with a character. -/
def kindOf? (c : Char) : Option String :=
  if c = 'n' then some "null"
  else if c = 't' ∨ c = 'f' then some "boolean"
  else if c = '"' then some "string"
  else if c = '[' then some "array"
  else if c = '\x7b' then some "object"
  else if isNumeral c then some "number"
  else none

theorem kindOf?_of_isNumeral {c : Char} (h : isNumeral c = true) :
    kindOf? c = some "number" := by
  have hne : ∀ d, isNumeral d = false → c ≠ d := by
    rintro d hd rfl
    rw [h] at hd
    cases hd
  unfold kindOf?
  rw [if_neg (hne 'n' rfl), if_neg (not_or.2 ⟨hne 't' rfl, hne 'f' rfl⟩), if_neg (hne '"' rfl),
    if_neg (hne '[' rfl), if_neg (hne '\x7b' rfl), if_pos h]

theorem textOf_arr (items : List Json) :
    textOf (Json.arr items).tokens = '[' :: (textOf (tokensItems items) ++ [']']) := by
  rw [tokens, textOf_cons, textOf_append]
  rfl

theorem textOf_obj (members : List (String × Json)) :
    textOf (Json.obj members).tokens =
      '\x7b' :: (textOf (tokensMembers members) ++ ['\x7d']) := by
  rw [tokens, textOf_cons, textOf_append]
  rfl

/-- The first character of a text tells the kind of the value. -/
theorem exists_textOf_eq_cons (hP : Number.ToldApart P) (v : Json) (hv : v.EachNumber P) :
    ∃ c cs, textOf v.tokens = c :: cs ∧ kindOf? c = some v.kind := by
  cases v with
  | null => exact ⟨'n', _, by rw [tokens]; rfl, rfl⟩
  | bool b =>
      cases b with
      | true => exact ⟨'t', _, by rw [tokens]; rfl, rfl⟩
      | false => exact ⟨'f', _, by rw [tokens]; rfl, rfl⟩
  | str s => exact ⟨'"', _, by rw [tokens]; rfl, rfl⟩
  | arr items => exact ⟨'[', _, textOf_arr items, rfl⟩
  | obj members => exact ⟨'\x7b', _, textOf_obj members, rfl⟩
  | num n =>
      obtain ⟨c, cs, htext⟩ := List.exists_cons_of_ne_nil n.text_ne_nil
      refine ⟨c, cs, ?_, ?_⟩
      · rw [tokens]
        show n.text ++ [] = _
        rw [List.append_nil, htext]
      · have hc := Number.isNumeric_text (hP.inRange n hv) c (htext ▸ List.mem_cons_self)
        exact kindOf?_of_isNumeral hc

theorem kind_eq_of_textOf_append (hP : Number.ToldApart P) {v w : Json} (hv : v.EachNumber P)
    (hw : w.EachNumber P) (h : textOf v.tokens ++ rest = textOf w.tokens ++ rest') :
    v.kind = w.kind := by
  obtain ⟨c, cs, hc, hkind⟩ := exists_textOf_eq_cons hP v hv
  obtain ⟨c', cs', hc', hkind'⟩ := exists_textOf_eq_cons hP w hw
  rw [hc, hc'] at h
  rw [(List.cons.inj h).1, hkind'] at hkind
  exact (Option.some.inj hkind).symm

/-- No value begins with a character that begins no value. -/
theorem textOf_append_ne (hP : Number.ToldApart P) {v : Json} (hv : v.EachNumber P) {c : Char}
    (hc : kindOf? c = none) (cs : List Char) : textOf v.tokens ++ rest ≠ c :: cs := by
  intro h
  obtain ⟨d, ds, hd, hkind⟩ := exists_textOf_eq_cons hP v hv
  rw [hd] at h
  rw [(List.cons.inj h).1, hc] at hkind
  cases hkind

/-! ## Several items -/

/-- What stands behind the first of several items: the closing bracket, or a comma and the text of
the others. -/
def behindFirst (close : Char) : List Char → List Char
  | [] => [close]
  | c :: others => ',' :: c :: (others ++ [close])

theorem endsValue_behindFirst {close : Char} (h : close = ']' ∨ close = '\x7d')
    (others : List Char) : EndsValue (behindFirst close others ++ rest) := by
  cases others with
  | nil => exact endsValue_cons (Or.inr h) rest
  | cons c others => exact endsValue_cons (Or.inl rfl) _

/-- The character behind an item tells whether a further item comes. -/
theorem others_of_behindFirst {close : Char} (h : close = ']' ∨ close = '\x7d')
    {others others' : List Char}
    (heq : behindFirst close others ++ rest = behindFirst close others' ++ rest') :
    others ++ close :: rest = others' ++ close :: rest' := by
  have hne : close ≠ ',' := by rcases h with rfl | rfl <;> decide
  cases others with
  | nil =>
      cases others' with
      | nil => exact heq
      | cons c' others' => exact absurd (List.cons.inj heq).1 hne
  | cons c others =>
      cases others' with
      | nil => exact absurd (List.cons.inj heq).1.symm hne
      | cons c' others' =>
          have htail := (List.cons.inj heq).2
          simpa using htail

theorem textOf_tokens_ne_nil (v : Json) : textOf v.tokens ≠ [] := by
  cases v with
  | num n =>
      rw [tokens, textOf_cons]
      exact fun h => n.text_ne_nil (List.append_eq_nil_iff.1 h).1
  | bool b => cases b <;> (rw [tokens]; exact List.cons_ne_nil _ _)
  | _ =>
      rw [tokens]
      exact List.cons_ne_nil _ _

theorem behindFirst_eq {close : Char} {others : List Char} (h : others ≠ []) :
    behindFirst close others = ',' :: (others ++ [close]) := by
  obtain ⟨c, cs, rfl⟩ := List.exists_cons_of_ne_nil h
  rfl

theorem textOf_items_cons (v : Json) (items : List Json) :
    textOf (tokensItems (v :: items)) ++ ']' :: rest =
      textOf v.tokens ++ (behindFirst ']' (textOf (tokensItems items)) ++ rest) := by
  cases items with
  | nil =>
      rw [tokensItems, tokensItems]
      rfl
  | cons w items =>
      have hne : textOf (tokensItems (w :: items)) ≠ [] := by
        cases items with
        | nil =>
            rw [tokensItems]
            exact textOf_tokens_ne_nil w
        | cons u items =>
            rw [tokensItems, textOf_append]
            exact fun h => textOf_tokens_ne_nil w (List.append_eq_nil_iff.1 h).1
      rw [tokensItems, textOf_append, textOf_cons, behindFirst_eq hne]
      simp [Token.text]

theorem textOf_members_cons (k : String) (v : Json) (members : List (String × Json)) :
    textOf (tokensMembers ((k, v) :: members)) ++ '\x7d' :: rest =
      quote k.toList ++ ':' :: (textOf v.tokens ++
        (behindFirst '\x7d' (textOf (tokensMembers members)) ++ rest)) := by
  cases members with
  | nil =>
      rw [tokensMembers, tokensMembers, textOf_cons, textOf_cons]
      simp [Token.text, textOf, behindFirst]
  | cons m members =>
      obtain ⟨l, w⟩ := m
      have hne : textOf (tokensMembers ((l, w) :: members)) ≠ [] := by
        cases members with
        | nil =>
            rw [tokensMembers]
            exact List.cons_ne_nil _ _
        | cons m members =>
            rw [tokensMembers]
            exact List.cons_ne_nil _ _
      rw [tokensMembers, textOf_cons, textOf_cons, textOf_append, textOf_cons, behindFirst_eq hne]
      simp [Token.text]

/-! ## Two values at once -/

mutual

/-- The text of a value determines the value and its own end. -/
theorem eq_of_textOf_append (hP : Number.ToldApart P) : (v w : Json) → v.EachNumber P →
    w.EachNumber P → ∀ {rest rest' : List Char}, EndsValue rest → EndsValue rest' →
    textOf v.tokens ++ rest = textOf w.tokens ++ rest' → v = w ∧ rest = rest'
  | .null, w, hv, hw, rest, rest', _, _, h => by
      have hkind := kind_eq_of_textOf_append hP hv hw h
      cases w with
      | null => exact ⟨rfl, List.append_cancel_left h⟩
      | _ => simp [kind] at hkind
  | .bool b, w, hv, hw, rest, rest', _, _, h => by
      have hkind := kind_eq_of_textOf_append hP hv hw h
      cases w with
      | bool b' =>
          rw [tokens, tokens] at h
          cases b with
          | true =>
              cases b' with
              | true => exact ⟨rfl, List.append_cancel_left h⟩
              | false => exact absurd (List.cons.inj h).1 (by decide)
          | false =>
              cases b' with
              | true => exact absurd (List.cons.inj h).1 (by decide)
              | false => exact ⟨rfl, List.append_cancel_left h⟩
      | _ => simp [kind] at hkind
  | .num n, w, hv, hw, rest, rest', hrest, hrest', h => by
      have hkind := kind_eq_of_textOf_append hP hv hw h
      cases w with
      | num n' =>
          have htext : n.text ++ rest = n'.text ++ rest' := by
            rw [tokens, tokens] at h
            simpa [textOf, Token.text] using h
          obtain ⟨hn, hrest⟩ := eq_of_numberText_append hP hv hw hrest hrest' htext
          exact ⟨congrArg Json.num hn, hrest⟩
      | _ => simp [kind] at hkind
  | .str s, w, hv, hw, rest, rest', _, _, h => by
      have hkind := kind_eq_of_textOf_append hP hv hw h
      cases w with
      | str s' =>
          have htext : quote s.toList ++ rest = quote s'.toList ++ rest' := by
            rw [tokens, tokens] at h
            simpa [textOf, Token.text] using h
          obtain ⟨hs, hrest⟩ := eq_of_quote_append htext
          exact ⟨congrArg Json.str (String.toList_inj.1 hs), hrest⟩
      | _ => simp [kind] at hkind
  | .arr items, w, hv, hw, rest, rest', _, _, h => by
      have hkind := kind_eq_of_textOf_append hP hv hw h
      cases w with
      | arr items' =>
          have hinner : textOf (tokensItems items) ++ ']' :: rest =
              textOf (tokensItems items') ++ ']' :: rest' := by
            rw [textOf_arr, textOf_arr] at h
            simpa using h
          obtain ⟨hitems, hrest⟩ := eq_of_items_append hP items items' hv hw hinner
          exact ⟨congrArg Json.arr hitems, hrest⟩
      | _ => simp [kind] at hkind
  | .obj members, w, hv, hw, rest, rest', _, _, h => by
      have hkind := kind_eq_of_textOf_append hP hv hw h
      cases w with
      | obj members' =>
          have hinner : textOf (tokensMembers members) ++ '\x7d' :: rest =
              textOf (tokensMembers members') ++ '\x7d' :: rest' := by
            rw [textOf_obj, textOf_obj] at h
            simpa using h
          obtain ⟨hmembers, hrest⟩ := eq_of_members_append hP members members' hv hw hinner
          exact ⟨congrArg Json.obj hmembers, hrest⟩
      | _ => simp [kind] at hkind

theorem eq_of_items_append (hP : Number.ToldApart P) : (items items' : List Json) →
    EachNumberOfItems P items → EachNumberOfItems P items' → ∀ {rest rest' : List Char},
    textOf (tokensItems items) ++ ']' :: rest = textOf (tokensItems items') ++ ']' :: rest' →
    items = items' ∧ rest = rest'
  | [], [], _, _, rest, rest', h => ⟨rfl, (List.cons.inj h).2⟩
  | [], w :: items', _, hw, rest, rest', h => by
      rw [textOf_items_cons] at h
      exact absurd h.symm (textOf_append_ne hP hw.1 (by decide) _)
  | v :: items, [], hv, _, rest, rest', h => by
      rw [textOf_items_cons] at h
      exact absurd h (textOf_append_ne hP hv.1 (by decide) _)
  | v :: items, w :: items', hv, hw, rest, rest', h => by
      have hclose : ']' = ']' ∨ ']' = '\x7d' := Or.inl rfl
      rw [textOf_items_cons, textOf_items_cons] at h
      obtain ⟨hvw, hbehind⟩ := eq_of_textOf_append hP v w hv.1 hw.1
        (endsValue_behindFirst hclose _) (endsValue_behindFirst hclose _) h
      obtain ⟨hitems, hrest⟩ :=
        eq_of_items_append hP items items' hv.2 hw.2 (others_of_behindFirst hclose hbehind)
      exact ⟨by rw [hvw, hitems], hrest⟩

theorem eq_of_members_append (hP : Number.ToldApart P) :
    (members members' : List (String × Json)) → EachNumberOfMembers P members →
    EachNumberOfMembers P members' → ∀ {rest rest' : List Char},
    textOf (tokensMembers members) ++ '\x7d' :: rest =
      textOf (tokensMembers members') ++ '\x7d' :: rest' →
    members = members' ∧ rest = rest'
  | [], [], _, _, rest, rest', h => ⟨rfl, (List.cons.inj h).2⟩
  | [], (l, w) :: members', _, _, rest, rest', h => by
      rw [textOf_members_cons] at h
      exact absurd (List.cons.inj h).1 (by decide)
  | (k, v) :: members, [], _, _, rest, rest', h => by
      rw [textOf_members_cons] at h
      exact absurd (List.cons.inj h).1 (by decide)
  | (k, v) :: members, (l, w) :: members', hv, hw, rest, rest', h => by
      have hclose : '\x7d' = ']' ∨ '\x7d' = '\x7d' := Or.inr rfl
      rw [textOf_members_cons, textOf_members_cons] at h
      obtain ⟨hkey, hvalue⟩ := eq_of_quote_append h
      obtain ⟨hvw, hbehind⟩ := eq_of_textOf_append hP v w hv.1 hw.1
        (endsValue_behindFirst hclose _) (endsValue_behindFirst hclose _)
        (List.cons.inj hvalue).2
      obtain ⟨hmembers, hrest⟩ :=
        eq_of_members_append hP members members' hv.2 hw.2 (others_of_behindFirst hclose hbehind)
      exact ⟨by rw [String.toList_inj.1 hkey, hvw, hmembers], hrest⟩

end

/-- Two values with one compact text are the same value. -/
theorem eq_of_render_eq (hP : Number.ToldApart P) {v w : Json} (hv : v.EachNumber P)
    (hw : w.EachNumber P) (h : v.render = w.render) : v = w := by
  have htext : textOf v.tokens ++ [] = textOf w.tokens ++ [] := by
    rw [List.append_nil, List.append_nil]
    exact String.ofList_inj.1 h
  have hend : EndsValue [] := fun c hc => nomatch hc
  exact (eq_of_textOf_append hP v w hv hw hend hend htext).1

end Json

end ApiGateway
