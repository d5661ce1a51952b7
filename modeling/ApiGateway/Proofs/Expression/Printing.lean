import ApiGateway.Proofs.Expression.Numerals
import ApiGateway.Proofs.Expression.Stacks

/-! # Printed expressions read back

`Tree.print` writes a tree with parentheses where the levels ask for them, blanks around infix
operators, and escaped strings. The scanner splits the text into the lexemes that the grammar has
for the tree (`Tree.scans_text`), and the parser makes the tree of them again.
-/

set_option autoImplicit false

namespace ApiGateway.Expression

open Json (Number)

/-! ## Printing -/

/-- The characters of a lexeme. -/
def Lexeme.written : Lexeme → List Char
  | .number n => n.text
  | .text s => quoted s
  | .name s => s.toList
  | .mark m => m.text.toList
  | .stop => []

namespace Tree

mutual

/-- The text of a tree as an operand of a level. -/
def text (floor : Nat) : Tree → List Char
  | .literal v => (literalLexeme? v).elim [] Lexeme.written
  | .root r => r.name.toList
  | .member target name => target.text Level.access ++ '.' :: name.toList
  | .index target position => target.text Level.access ++ '[' :: (position.text 0 ++ [']'])
  | .unary op operand =>
    enclose '(' ')' floor Level.unary (op.mark.text.toList ++ operand.text Level.unary)
  | .binary op left right =>
    enclose '(' ')' floor op.level
      (left.text op.leftLevel ++ ' ' :: (op.mark.text.toList ++ ' ' :: right.text op.rightLevel))
  | .conditional condition yes no =>
    enclose '(' ')' floor Level.conditional
      (condition.text (Level.conditional + 1) ++
        ' ' :: '?' :: ' ' :: (yes.text 0 ++ ' ' :: ':' :: ' ' :: no.text 0))
  | .call f arguments => f.name.toList ++ '(' :: (argumentsText arguments ++ [')'])

/-- The text of the arguments of a call. -/
def argumentsText : List Tree → List Char
  | [] => []
  | [t] => t.text 0
  | t :: ts => t.text 0 ++ ',' :: ' ' :: argumentsText ts

end

/-- The text of a tree. -/
def print (t : Tree) : String := String.ofList (t.text 0)

mutual

/-- The numbers that the literals of a tree hold. -/
def numbers : Tree → List Number
  | .literal (.num n) => [n]
  | .literal _ | .root _ => []
  | .member target _ => target.numbers
  | .index target position => target.numbers ++ position.numbers
  | .unary _ operand => operand.numbers
  | .binary _ left right => left.numbers ++ right.numbers
  | .conditional condition yes no => condition.numbers ++ (yes.numbers ++ no.numbers)
  | .call _ arguments => allNumbers arguments

/-- The numbers that the literals of the trees hold. -/
def allNumbers : List Tree → List Number
  | [] => []
  | t :: ts => t.numbers ++ allNumbers ts

end

end Tree

/-! ## Ends and beginnings -/

/-- What follows an operand in a printed tree. -/
inductive EndsOperand : List Char → Prop where
  | nil : EndsOperand []
  | blank (rest : List Char) : EndsOperand (' ' :: rest)
  | comma (rest : List Char) : EndsOperand (',' :: rest)
  | closeParen (rest : List Char) : EndsOperand (')' :: rest)
  | openBracket (rest : List Char) : EndsOperand ('[' :: rest)
  | closeBracket (rest : List Char) : EndsOperand (']' :: rest)
  | field {c : Char} (rest : List Char) : startsName c = true → EndsOperand ('.' :: c :: rest)

theorem EndsOperand.endsWord {rest : List Char} (h : EndsOperand rest) : EndsWord rest := by
  cases h with
  | nil => exact ⟨nofun, nofun⟩
  | field rest hc =>
      refine ⟨?_, ?_⟩
      · rintro c h
        cases h
        decide
      · rintro c cs h
        cases h
        exact isDigit_eq_false_of_startsName hc
  | _ =>
      refine ⟨?_, nofun⟩
      rintro c h
      cases h
      decide

theorem EndsOperand.endsMark {rest : List Char} (h : EndsOperand rest) : EndsMark rest := by
  cases h with
  | nil => exact nofun
  | _ =>
      rintro c h
      cases h
      decide

/-- The text begins with a character in which no mark ends. -/
def BeginsOperand (cs : List Char) : Prop := cs ≠ [] ∧ EndsMark cs

theorem BeginsOperand.append {cs : List Char} (h : BeginsOperand cs) (ds : List Char) :
    BeginsOperand (cs ++ ds) := by
  obtain ⟨hne, hmark⟩ := h
  obtain ⟨c, cs, rfl⟩ := List.exists_cons_of_ne_nil hne
  exact ⟨List.cons_ne_nil _ _, hmark⟩

theorem beginsOperand_cons {c : Char} (h : c ≠ '=' ∧ c ≠ '&' ∧ c ≠ '|' ∧ c ≠ '?')
    (cs : List Char) : BeginsOperand (c :: cs) := by
  refine ⟨List.cons_ne_nil _ _, ?_⟩
  rintro d hd
  cases hd
  exact h

theorem beginsOperand_of_word {c : Char} (h : c.isDigit = true ∨ startsName c = true)
    (cs : List Char) : BeginsOperand (c :: cs) := by
  refine beginsOperand_cons ⟨?_, ?_, ?_, ?_⟩ cs <;> rintro rfl <;> revert h <;> decide

theorem ReadsBack.beginsOperand {n : Number} (h : ReadsBack n) : BeginsOperand n.text := by
  obtain ⟨c, cs, next, htext, hscan⟩ := h
  rw [htext]
  obtain ⟨_, hm⟩ | ⟨_, hm⟩ | ⟨hdigit, _⟩ | ⟨_, hm⟩ := scanLexeme_cases hscan
  · cases hm
  · cases hm
  · exact beginsOperand_of_word (.inl hdigit) cs
  · cases hm

theorem isIdentifier_rootName (r : Root) : IsIdentifier r.name := by
  cases r <;> exact ⟨_, _, rfl, by decide, by decide⟩

theorem isIdentifier_functionName (f : Function) : IsIdentifier f.name := by
  cases f <;> exact ⟨_, _, rfl, by decide, by decide⟩

theorem IsIdentifier.beginsOperand {name : String} (h : IsIdentifier name) :
    BeginsOperand name.toList := by
  obtain ⟨c, cs, hname, hc, _⟩ := h
  rw [hname]
  exact beginsOperand_of_word (.inr hc) cs

namespace Tree

theorem beginsOperand_enclose {floor level : Nat} {body : List Char} (h : BeginsOperand body) :
    BeginsOperand (enclose '(' ')' floor level body) := by
  unfold enclose
  split
  · exact beginsOperand_cons (by decide) _
  · exact h

/-- The text of a tree begins with an operand. -/
theorem beginsOperand_text :
    (t : Tree) → t.WellFormed → (∀ n ∈ t.numbers, ReadsBack n) → (floor : Nat) →
      BeginsOperand (t.text floor)
  | .literal v, h, hn, _ => by
      cases v with
      | null => exact beginsOperand_cons (by decide) _
      | bool b => cases b <;> exact beginsOperand_cons (by decide) _
      | num n => exact (hn n List.mem_cons_self).beginsOperand
      | str s => exact beginsOperand_cons (by decide) _
      | arr items => exact absurd h id
      | obj members => exact absurd h id
  | .root r, _, _, _ => (isIdentifier_rootName r).beginsOperand
  | .member target _, h, hn, _ => (beginsOperand_text target h.1 hn _).append _
  | .index target _, h, hn, _ =>
      (beginsOperand_text target h.1 (List.forall_mem_append.1 hn).1 _).append _
  | .unary op _, _, _, _ => by
      refine beginsOperand_enclose ?_
      cases op <;> exact beginsOperand_cons (by decide) _
  | .binary _ left _, h, hn, _ =>
      beginsOperand_enclose
        ((beginsOperand_text left h.1 (List.forall_mem_append.1 hn).1 _).append _)
  | .conditional condition _ _, h, hn, _ =>
      beginsOperand_enclose
        ((beginsOperand_text condition h.1 (List.forall_mem_append.1 hn).1 _).append _)
  | .call f _, _, _, _ => (isIdentifier_functionName f).beginsOperand.append _

/-- So does the text of arguments, if there are any. -/
theorem endsMark_argumentsText (ts : List Tree) (h : AllWellFormed ts)
    (hn : ∀ n ∈ allNumbers ts, ReadsBack n) (rest : List Char) :
    EndsMark (argumentsText ts ++ [')'] ++ rest) := by
  match ts, h, hn with
  | [], _, _ => exact (EndsOperand.closeParen rest).endsMark
  | [t], h, hn =>
      have hbegins := beginsOperand_text t h.1 (List.forall_mem_append.1 hn).1 0
      exact ((hbegins.append [')']).append rest).2
  | t :: u :: ts, h, hn =>
      have hbegins := beginsOperand_text t h.1 (List.forall_mem_append.1 hn).1 0
      exact (((hbegins.append _).append [')']).append rest).2

/-! ## The scanner finds the lexemes -/

theorem scans_openParen {rest : List Char} (h : EndsMark rest) :
    Scans ['('] [.mark .openParen] rest :=
  .singleMark rfl (by decide) h nofun

theorem scans_closeParen {rest : List Char} (h : EndsOperand rest) :
    Scans [')'] [.mark .closeParen] rest :=
  .singleMark rfl (by decide) h.endsMark nofun

/-- Parentheses around a body, where they are needed. -/
theorem scans_enclose {floor level : Nat} {body rest : List Char} {ls : List Lexeme}
    (hbegins : BeginsOperand body)
    (h : ∀ rest, EndsOperand rest → Scans body ls rest) (hrest : EndsOperand rest) :
    Scans (enclose '(' ')' floor level body)
      (enclose (.mark .openParen) (.mark .closeParen) floor level ls) rest := by
  unfold enclose
  split
  · have hbody := (h (')' :: rest) (.closeParen rest)).append (scans_closeParen hrest)
    have hopen : EndsMark (body ++ [')'] ++ rest) := ((hbegins.append [')']).append rest).2
    exact (scans_openParen hopen).append hbody
  · exact h rest hrest

/-- A literal is split off as its lexeme. -/
theorem scans_literal {v : Json} (h : IsLiteral v) (hn : ∀ n, v = .num n → ReadsBack n)
    {rest : List Char} (hrest : EndsOperand rest) :
    Scans ((literalLexeme? v).elim [] Lexeme.written) (literalLexeme? v).toList rest := by
  have hname : ∀ name : String, IsIdentifier name → Scans name.toList [.name name] rest :=
    fun _ hname => .name hname hrest.endsWord
  cases v with
  | null => exact hname "null" ⟨_, _, rfl, by decide, by decide⟩
  | bool b =>
      cases b with
      | false => exact hname "false" ⟨_, _, rfl, by decide, by decide⟩
      | true => exact hname "true" ⟨_, _, rfl, by decide, by decide⟩
  | num n => exact .number (hn n rfl) hrest.endsWord
  | str s => exact .quoted s rest
  | arr items => exact absurd h id
  | obj members => exact absurd h id

mutual

/-- The scanner splits the text of a tree into the lexemes of the tree. -/
theorem scans_text : (t : Tree) → t.WellFormed → (∀ n ∈ t.numbers, ReadsBack n) →
    (floor : Nat) → (rest : List Char) → EndsOperand rest →
      Scans (t.text floor) (t.lexemes floor) rest
  | .literal v, h, hn, _, _, hrest =>
      scans_literal h (fun n heq => hn n (by rw [heq]; exact List.mem_cons_self)) hrest
  | .root r, _, _, _, _, hrest => .name (isIdentifier_rootName r) hrest.endsWord
  | .member target name, h, hn, _, rest, hrest => by
      obtain ⟨c, cs, hname, hc, hcs⟩ := h.2
      have hends : EndsOperand ('.' :: name.toList ++ rest) := by
        rw [hname]
        exact .field (cs ++ rest) hc
      have hdot : Scans ['.'] [.mark .dot] (name.toList ++ rest) := by
        refine .singleMark rfl (by decide) ((h.2.beginsOperand.append rest).2) fun _ => ?_
        rw [hname]
        exact isDigit_eq_false_of_startsName hc
      have hfield := hdot.append (.name h.2 hrest.endsWord)
      exact (scans_text target h.1 hn Level.access _ hends).append hfield
  | .index target position, h, hn, _, rest, hrest => by
      obtain ⟨htarget, hposition⟩ := List.forall_mem_append.1 hn
      have hclose : Scans [']'] [.mark .closeBracket] rest :=
        .singleMark rfl (by decide) hrest.endsMark nofun
      have hinside := (scans_text position h.2 hposition 0 _ (.closeBracket rest)).append hclose
      have hbegins := ((beginsOperand_text position h.2 hposition 0).append [']']).append rest
      have hopen : Scans ['['] [.mark .openBracket] (position.text 0 ++ [']'] ++ rest) :=
        .singleMark rfl (by decide) hbegins.2 nofun
      exact (scans_text target h.1 htarget Level.access _ (.openBracket _)).append
        (hopen.append hinside)
  | .unary op operand, h, hn, floor, rest, hrest => by
      refine scans_enclose (by cases op <;> exact beginsOperand_cons (by decide) _) ?_ hrest
      intro rest hrest
      have hbegins := (beginsOperand_text operand h hn Level.unary).append rest
      have hmark :
          Scans op.mark.text.toList [.mark op.mark] (operand.text Level.unary ++ rest) := by
        cases op <;> exact .singleMark rfl (by decide) hbegins.2 nofun
      exact hmark.append (scans_text operand h hn Level.unary rest hrest)
  | .binary op left right, h, hn, floor, rest, hrest => by
      obtain ⟨hleft, hright⟩ := List.forall_mem_append.1 hn
      refine scans_enclose ((beginsOperand_text left h.1 hleft _).append _) ?_ hrest
      intro rest hrest
      exact (scans_text left h.1 hleft op.leftLevel _ (.blank _)).append
        (.spaced op.mark (scans_text right h.2 hright op.rightLevel rest hrest))
  | .conditional condition yes no, h, hn, floor, rest, hrest => by
      obtain ⟨hcondition, hbranches⟩ := List.forall_mem_append.1 hn
      obtain ⟨hyes, hno⟩ := List.forall_mem_append.1 hbranches
      refine scans_enclose ((beginsOperand_text condition h.1 hcondition _).append _) ?_ hrest
      intro rest hrest
      have hlast := Scans.spaced .colon (scans_text no h.2.2 hno 0 rest hrest)
      have hboth := Scans.spaced .question
        ((scans_text yes h.2.1 hyes 0 _ (.blank _)).append hlast)
      exact (scans_text condition h.1 hcondition _ _ (.blank _)).append hboth
  | .call f arguments, h, hn, _, rest, hrest => by
      have hinside := (scans_argumentsText arguments h.2 hn _ (.closeParen rest)).append
        (scans_closeParen hrest)
      have hopen := scans_openParen (endsMark_argumentsText arguments h.2 hn rest)
      have hname : EndsWord ('(' :: (argumentsText arguments ++ [')']) ++ rest) := by
        refine ⟨?_, nofun⟩
        rintro c hc
        cases hc
        decide
      exact (Scans.name (isIdentifier_functionName f) hname).append (hopen.append hinside)

/-- The scanner splits the text of arguments into their lexemes. -/
theorem scans_argumentsText : (ts : List Tree) → AllWellFormed ts →
    (∀ n ∈ allNumbers ts, ReadsBack n) → (rest : List Char) → EndsOperand rest →
      Scans (argumentsText ts) (argumentLexemes ts) rest
  | [], _, _, rest, _ => .nil rest
  | [t], h, hn, rest, hrest =>
      scans_text t h.1 (List.forall_mem_append.1 hn).1 0 rest hrest
  | t :: u :: ts, h, hn, rest, hrest => by
      obtain ⟨ht, hothers⟩ := List.forall_mem_append.1 hn
      have hlast := (Scans.mark_blank .comma _).append
        ((scans_argumentsText (u :: ts) h.2 hothers rest hrest).blank (c := ' ') (by decide))
      exact (scans_text t h.1 ht 0 _ (.comma _)).append hlast

end

/-! ## What is parsed is well-formed -/

mutual

/-- A tree that proper lexemes write is well-formed. -/
theorem Reads.wellFormed {floor : Nat} {t : Tree} {ls : List Lexeme} :
    Reads floor t ls → (∀ l ∈ ls, l.Proper) → t.WellFormed
  | .group h, hls => by
      obtain ⟨_, hbody⟩ := List.forall_mem_cons.1 hls
      exact h.wellFormed (List.forall_mem_append.1 hbody).1
  | @Reads.literal _ v l hv, hls => by
      have hl := hls l List.mem_cons_self
      cases v with
      | num n =>
          cases hv
          exact hl
      | arr items => cases hv
      | obj members => cases hv
      | _ => trivial
  | .root _, _ => trivial
  | .member name h, hls => by
      obtain ⟨htarget, hfield⟩ := List.forall_mem_append.1 hls
      exact ⟨h.wellFormed htarget, hfield (.name name) (by simp)⟩
  | .index h hposition, hls => by
      obtain ⟨htarget, hbracket⟩ := List.forall_mem_append.1 hls
      obtain ⟨_, hinside⟩ := List.forall_mem_cons.1 hbracket
      exact ⟨h.wellFormed htarget, hposition.wellFormed (List.forall_mem_append.1 hinside).1⟩
  | .unary _ h, hls => h.wellFormed (List.forall_mem_cons.1 hls).2
  | .binary _ h hright, hls => by
      obtain ⟨hl, hmark⟩ := List.forall_mem_append.1 hls
      exact ⟨h.wellFormed hl, hright.wellFormed (List.forall_mem_cons.1 hmark).2⟩
  | .conditional _ h hyes hno, hls => by
      obtain ⟨hc, hquestion⟩ := List.forall_mem_append.1 hls
      obtain ⟨_, hbranches⟩ := List.forall_mem_cons.1 hquestion
      obtain ⟨hy, hcolon⟩ := List.forall_mem_append.1 hbranches
      exact ⟨h.wellFormed hc, hyes.wellFormed hy, hno.wellFormed (List.forall_mem_cons.1 hcolon).2⟩
  | .call hf h, hls => by
      obtain ⟨_, hopen⟩ := List.forall_mem_cons.1 hls
      obtain ⟨_, hinside⟩ := List.forall_mem_cons.1 hopen
      exact ⟨hf, h.allWellFormed (List.forall_mem_append.1 hinside).1⟩

@[inherit_doc Reads.wellFormed]
theorem ReadsAll.allWellFormed {ts : List Tree} {ls : List Lexeme} :
    ReadsAll ts ls → (∀ l ∈ ls, l.Proper) → AllWellFormed ts
  | .nil, _ => trivial
  | .one h, hls => ⟨h.wellFormed hls, trivial⟩
  | .more h hmore, hls => by
      obtain ⟨hfirst, hcomma⟩ := List.forall_mem_append.1 hls
      exact ⟨h.wellFormed hfirst, hmore.allWellFormed (List.forall_mem_cons.1 hcomma).2⟩

end

/-! ## The round trip -/

theorem parse_eq_ok_iff {text : String} {t : Tree} :
    Tree.parse text = .ok t ↔
      ∃ tokens, Token.scan text = .ok tokens ∧ Tree.ofTokens tokens = .ok t := by
  unfold Tree.parse
  cases Token.scan text with
  | error fault => simp
  | ok tokens => simp

/-- The tokens of a text that is parsed are proper, and write the tree. -/
theorem reads_of_parse {text : String} {t : Tree} (h : Tree.parse text = .ok t) :
    ∃ tokens ls, Token.scan text = .ok tokens ∧ tokens.map Token.lexeme = ls ++ [.stop] ∧
      Reads 0 t ls ∧ ∀ l ∈ ls, l.Proper := by
  obtain ⟨tokens, hscan, hparse⟩ := parse_eq_ok_iff.1 h
  obtain ⟨ls, htokens, hreads⟩ := ofTokens_eq_ok_iff.1 hparse
  refine ⟨tokens, ls, hscan, htokens, hreads, fun l hl => ?_⟩
  have hmem : l ∈ tokens.map Token.lexeme := htokens ▸ List.mem_append_left _ hl
  obtain ⟨token, htoken, rfl⟩ := List.mem_map.1 hmem
  exact proper_of_scanFrom hscan token htoken

theorem wellFormed_of_parse {text : String} {t : Tree} (h : Tree.parse text = .ok t) :
    t.WellFormed := by
  obtain ⟨_, _, _, _, hreads, hproper⟩ := reads_of_parse h
  exact hreads.wellFormed hproper

/-- A text that is split off whole has these lexemes and the end. -/
theorem scan_of_scans {text : String} {ls : List Lexeme} (h : Scans text.toList ls []) :
    ∃ tokens, Token.scan text = .ok tokens ∧ tokens.map Token.lexeme = ls ++ [.stop] := by
  obtain ⟨tokens, next, htokens, hscan⟩ := h 0
  refine ⟨tokens ++ [⟨.stop, next⟩], ?_, by simp [htokens]⟩
  rw [List.append_nil, scanFrom] at hscan
  rw [Token.scan, hscan]
  rfl

/-- The text of a tree has the lexemes of the tree. -/
theorem scan_print {t : Tree} (h : t.WellFormed) (hn : ∀ n ∈ t.numbers, ReadsBack n) :
    ∃ tokens, Token.scan t.print = .ok tokens ∧
      tokens.map Token.lexeme = t.lexemes 0 ++ [.stop] := by
  refine scan_of_scans ?_
  rw [print, String.toList_ofList]
  exact scans_text t h hn 0 [] .nil

/-- **Printing and parsing.** A well-formed tree whose numbers read back is parsed from its text.
Every text that is parsed gives a well-formed tree, all tokens of the text up to its end write that
tree, and with fewer lexemes than `print` uses, parentheses included, it cannot be written. -/
theorem parse_roundTrip :
    (∀ t : Tree, t.WellFormed → (∀ n ∈ t.numbers, ReadsBack n) → Tree.parse t.print = .ok t) ∧
    ∀ (text : String) (t : Tree), Tree.parse text = .ok t →
      t.WellFormed ∧ ∃ tokens ls, Token.scan text = .ok tokens ∧
        tokens.map Token.lexeme = ls ++ [.stop] ∧ Reads 0 t ls ∧
          (t.lexemes 0).length ≤ ls.length := by
  constructor
  · intro t h hn
    obtain ⟨tokens, hscan, htokens⟩ := scan_print h hn
    exact parse_eq_ok_iff.2 ⟨tokens, hscan, ofTokens_eq_ok_iff.2 ⟨_, htokens, h.reads t 0⟩⟩
  · intro text t h
    obtain ⟨tokens, ls, hscan, htokens, hreads, hproper⟩ := reads_of_parse h
    exact ⟨hreads.wellFormed hproper, tokens, ls, hscan, htokens, hreads,
      hreads.length_lexemes_le⟩

/-- A tree whose levels ask for two pairs of parentheses and forbid all others. -/
def netPrice : Tree :=
  .conditional
    (.binary (.strict .multiply)
      (.binary .coalesce (.member (.root .model) "price") (.literal (Json.int 0)))
      (.binary (.strict .subtract) (.literal (Json.int 2)) (.unary .negate (.root .config))))
    (.call .upper [.index (.root .model) (.literal (.str "odd \"key\""))])
    (.literal .null)

theorem netPrice_wellFormed : netPrice.WellFormed :=
  ⟨⟨⟨⟨trivial, _, _, rfl, by decide, by decide⟩, by decide, by decide⟩, ⟨by decide, by decide⟩,
    trivial⟩, ⟨rfl, ⟨trivial, trivial⟩, trivial⟩, trivial⟩

theorem netPrice_readsBack : ∀ n ∈ netPrice.numbers, ReadsBack n := by
  show ∀ n ∈ [Number.int 0, Number.int 2], ReadsBack n
  rintro n (_ | ⟨_, _ | ⟨_, h⟩⟩)
  · exact readsBack_int (by decide) (by decide)
  · exact readsBack_int (by decide) (by decide)
  · cases h

theorem parse_roundTrip_netPrice :
    netPrice.print =
      "(model.price ?? 0) * (2 - -config) ? upper(model[\"odd \\\"key\\\"\"]) : null" ∧
    Tree.parse netPrice.print = .ok netPrice ∧
    ∃ tokens ls, Token.scan netPrice.print = .ok tokens ∧
      tokens.map Token.lexeme = ls ++ [.stop] ∧ Reads 0 netPrice ls ∧
        (netPrice.lexemes 0).length ≤ ls.length :=
  ⟨by decide, parse_roundTrip.1 netPrice netPrice_wellFormed netPrice_readsBack,
    (parse_roundTrip.2 netPrice.print netPrice
      (parse_roundTrip.1 netPrice netPrice_wellFormed netPrice_readsBack)).2⟩

end Tree

end ApiGateway.Expression
