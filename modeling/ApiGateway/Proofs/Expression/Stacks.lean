import ApiGateway.Proofs.Expression.Parsing

/-! # The parser reads nothing else

The stack of the machine accounts for the lexemes that it has taken: `Stacks` writes them as the
bodies of the frames with the operators and brackets between them. Every step keeps this
(`ParseState.Seen.step`), so that the tokens of an expression write the tree that the machine makes
of them. Together with the other direction: there is a tree for the tokens exactly if the grammar
has one (`Tree.ofTokens_eq_ok_iff`).
-/

set_option autoImplicit false

namespace ApiGateway.Expression

open ApiGateway.Expression.Tree (Reads ReadsAll)

/-- The lexemes may have led to the stack. -/
inductive Stacks : List Frame → List Lexeme → Prop where
  | nil : Stacks [] []
  | unary {stack : List Frame} {pre : List Lexeme} {op : UnaryOp} :
      Stacks stack pre → Stacks (.unary op :: stack) (pre ++ [.mark op.mark])
  | binary {stack : List Frame} {pre ls : List Lexeme} {op : InfixOp} {left : Tree} :
      Stacks stack pre → floorOf stack ≤ op.level → Reads op.leftLevel left ls →
        Stacks (.binary op left :: stack) (pre ++ (ls ++ [.mark op.mark]))
  | branch {stack : List Frame} {pre ls : List Lexeme} {condition : Tree} :
      Stacks stack pre → floorOf stack ≤ Level.conditional →
        Reads (Level.conditional + 1) condition ls →
          Stacks (.branch condition :: stack) (pre ++ (ls ++ [.mark .question]))
  | otherwise {stack : List Frame} {pre ls ms : List Lexeme} {condition yes : Tree} :
      Stacks stack pre → floorOf stack ≤ Level.conditional →
        Reads (Level.conditional + 1) condition ls → Reads 0 yes ms →
          Stacks (.otherwise condition yes :: stack)
            (pre ++ (ls ++ .mark .question :: (ms ++ [.mark .colon])))
  | group {stack : List Frame} {pre : List Lexeme} :
      Stacks stack pre → Stacks (.group :: stack) (pre ++ [.mark .openParen])
  | index {stack : List Frame} {pre ls : List Lexeme} {target : Tree} :
      Stacks stack pre → Reads Level.access target ls →
        Stacks (.index target :: stack) (pre ++ (ls ++ [.mark .openBracket]))
  | opened {stack : List Frame} {pre : List Lexeme} {f : Function} {offset : Nat} :
      Stacks stack pre →
        Stacks (.arguments f offset [] :: stack) (pre ++ [.name f.name, .mark .openParen])
  | arguments {stack : List Frame} {pre ls : List Lexeme} {f : Function} {offset : Nat} {t : Tree}
      {done : List Tree} :
      Stacks stack pre → ReadsAll (t :: done).reverse ls →
        Stacks (.arguments f offset (t :: done) :: stack)
          (pre ++ .name f.name :: .mark .openParen :: (ls ++ [.mark .comma]))

theorem Root.name_of_ofName? {name : String} {r : Root} (h : Root.ofName? name = some r) :
    r.name = name := by
  unfold Root.ofName? at h
  repeat' split at h
  all_goals
    cases h
    try (subst name; rfl)

theorem Function.name_of_ofName? {name : String} {f : Function}
    (h : Function.ofName? name = some f) : f.name = name := by
  have hfound := List.find?_some h
  exact eq_of_beq hfound

theorem Tree.ReadsAll.concat {ts : List Tree} {ls ms : List Lexeme} {t : Tree}
    (h : ReadsAll ts ls) (hne : ts ≠ []) (ht : Reads 0 t ms) :
    ReadsAll (ts ++ [t]) (ls ++ .mark .comma :: ms) := by
  induction ts generalizing ls with
  | nil => exact absurd rfl hne
  | cons u us ih =>
      cases h with
      | one hu => exact .more hu (.one ht)
      | more hu hmore =>
          rw [List.append_assoc]
          exact .more hu (ih hmore (List.cons_ne_nil _ _))

/-- The lexemes led to the stack, and behind it to an operand of a level. -/
def Accounts (level : Nat) (seen : List Lexeme) (stack : List Frame) (t : Tree) : Prop :=
  ∃ pre body, seen = pre ++ body ∧ Stacks stack pre ∧ Reads level t body

/-! ## Completed operators -/

/-- The level that the operand has at least that an operator of a power finds. -/
def settledLevel (p : Nat) : Nat := if p = 0 then 0 else if p ≤ 2 then p + 1 else p

theorem settledLevel_mono {p q : Nat} (h : p ≤ q) : settledLevel p ≤ settledLevel q := by
  unfold settledLevel
  repeat' split
  all_goals omega

theorem InfixOp.settledLevel_power (op : InfixOp) : settledLevel op.power = op.leftLevel := by
  cases op with
  | strict op => cases op <;> decide
  | _ => decide

theorem InfixOp.leftLevel_le (op : InfixOp) : op.leftLevel ≤ Level.access := by
  cases op with
  | strict op => cases op <;> decide
  | _ => decide

theorem InfixOp.settledLevel_rightFloor_le (op : InfixOp) :
    settledLevel op.rightFloor ≤ op.level := by
  cases op with
  | strict op => cases op <;> decide
  | _ => decide

/-- Completing the operators on top of the stack changes what stands on it, but not what it
accounts for. -/
theorem Accounts.settle {p : Nat} {seen : List Lexeme} {stack : List Frame} {t : Tree} {level : Nat}
    (h : Accounts level seen stack t) (hfloor : floorOf stack ≤ level)
    (hp : settledLevel p ≤ level) :
    Accounts (settledLevel p) seen (settle p stack t).1 (settle p stack t).2 ∧
      floorOf (settle p stack t).1 ≤ p := by
  obtain ⟨pre, body, rfl, hstacks, hreads⟩ := h
  fun_induction Expression.settle p stack t generalizing pre body level with
  | case1 op stack t hle ih =>
      cases hstacks with
      | unary hstack =>
          rw [List.append_assoc]
          refine ih (floorOf_le_unary stack) ?_ _ _ hstack
            (.unary (Nat.le_refl _) (hreads.mono hfloor))
          exact settledLevel_mono hle
  | case2 op stack t hgt =>
      exact ⟨⟨pre, body, rfl, hstacks, hreads.mono hp⟩, Nat.le_of_not_le hgt⟩
  | case3 op left stack t hle ih =>
      cases hstacks with
      | @binary _ pre ls _ _ hstack hbelow hleft =>
          have hseen : pre ++ (ls ++ [.mark op.mark]) ++ body =
              pre ++ (ls ++ .mark op.mark :: body) := by simp
          rw [hseen]
          refine ih hbelow ?_ _ _ hstack (.binary (Nat.le_refl _) hleft (hreads.mono hfloor))
          exact Nat.le_trans (settledLevel_mono hle) op.settledLevel_rightFloor_le
  | case4 op left stack t hgt =>
      refine ⟨⟨pre, body, rfl, hstacks, hreads.mono hp⟩, ?_⟩
      show op.rightLevel ≤ p
      rw [op.rightLevel_eq]
      omega
  | case5 condition yes stack t hle ih =>
      cases hstacks with
      | @otherwise _ pre ls ms _ _ hstack hbelow hcondition hyes =>
          have hseen : pre ++ (ls ++ .mark .question :: (ms ++ [.mark .colon])) ++ body =
              pre ++ (ls ++ .mark .question :: (ms ++ .mark .colon :: body)) := by simp
          rw [hseen]
          refine ih hbelow ?_ _ _ hstack
            (.conditional (Nat.le_refl _) hcondition hyes (hreads.mono (Nat.zero_le _)))
          exact Nat.le_trans (settledLevel_mono hle) (by decide)
  | case6 condition yes stack t hgt =>
      exact ⟨⟨pre, body, rfl, hstacks, hreads.mono hp⟩, Nat.zero_le _⟩
  | case7 stack t hunary hbinary hotherwise =>
      refine ⟨⟨pre, body, rfl, hstacks, hreads.mono hp⟩, ?_⟩
      unfold floorOf
      split
      · rename_i op below heq
        exact (hunary op below heq).elim
      · rename_i op left below heq
        exact (hbinary op left below heq).elim
      · exact Nat.zero_le _

/-- Behind a field, an index, or anything else that is read whole, every operator finds its left
operand. -/
theorem Accounts.settle_access {seen : List Lexeme} {stack : List Frame} {t : Tree}
    (h : Accounts Level.access seen stack t) {p : Nat} (hp : settledLevel p ≤ Level.access) :
    Accounts (settledLevel p) seen (Expression.settle p stack t).1
        (Expression.settle p stack t).2 ∧
      floorOf (Expression.settle p stack t).1 ≤ p :=
  h.settle (floorOf_le_access stack) hp

/-! ## Steps -/

namespace ParseState

/-- The lexemes led to the state. -/
def Seen : ParseState → List Lexeme → Prop
  | .operand stack mayClose, seen =>
    Stacks stack seen ∧
      (mayClose = true → ∃ f offset below, stack = .arguments f offset [] :: below)
  | .named stack name _, seen => ∃ pre, seen = pre ++ [.name name] ∧ Stacks stack pre
  | .field stack target, seen =>
    ∃ front, seen = front ++ [.mark .dot] ∧ Accounts Level.access front stack target
  | .complete stack t, seen => Accounts Level.access seen stack t
  | .finished t, seen => ∃ ls, seen = ls ++ [.stop] ∧ Reads 0 t ls

variable {stack : List Frame} {t : Tree} {seen : List Lexeme} {token : Token} {s s' : ParseState}

theorem seen_finishCall {f : Function} {offset : Nat} {done : List Tree} {pre ls : List Lexeme}
    (h : finishCall stack f offset done = .ok s') (hstack : Stacks stack pre)
    (hls : ReadsAll done.reverse ls) :
    s'.Seen (pre ++ .name f.name :: .mark .openParen :: (ls ++ [.mark .closeParen])) := by
  unfold finishCall at h
  split at h
  · rename_i hf
    cases h
    exact ⟨pre, _, rfl, hstack, .call (by simpa using hf) hls⟩
  · cases h

/-- A bracket that closes makes an operand of what stands in it. -/
theorem seen_close (h : Accounts 0 seen stack t) (hs : close stack t token = .ok s') :
    s'.Seen (seen ++ [token.lexeme]) := by
  obtain ⟨pre, body, rfl, hstacks, hreads⟩ := h
  unfold close at hs
  split at hs
  · split at hs
    · rename_i hclose
      cases hs
      cases hstacks with
      | @group _ pre hstack =>
          rw [hclose]
          exact ⟨pre, _, by simp, hstack, .group hreads⟩
    · cases hs
  · split at hs
    · rename_i hclose
      cases hs
      cases hstacks with
      | @index _ pre ls _ hstack htarget =>
          rw [hclose]
          exact ⟨pre, ls ++ .mark .openBracket :: (body ++ [.mark .closeBracket]), by simp, hstack,
            .index htarget hreads⟩
    · cases hs
  · split at hs
    · rename_i hclose
      cases hs
      cases hstacks with
      | @branch _ pre ls _ hstack hbelow hcondition =>
          refine ⟨?_, nofun⟩
          have hseen : pre ++ (ls ++ [.mark .question]) ++ body ++ [token.lexeme] =
              pre ++ (ls ++ .mark .question :: (body ++ [.mark .colon])) := by simp [hclose]
          rw [hseen]
          exact .otherwise hstack hbelow hcondition hreads
    · cases hs
  · rename_i f offset done stack
    -- The arguments so far and the one that has just been read.
    have harguments : ∃ pre' ls, pre ++ body = pre' ++ .name f.name :: .mark .openParen :: ls ∧
        Stacks stack pre' ∧ ReadsAll (t :: done).reverse ls := by
      cases hstacks with
      | @opened _ pre _ _ hstack => exact ⟨pre, body, by simp, hstack, .one hreads⟩
      | @arguments _ pre ls _ _ u done hstack hls =>
          refine ⟨pre, ls ++ .mark .comma :: body, by simp, hstack, ?_⟩
          rw [List.reverse_cons]
          exact hls.concat (by simp) hreads
    obtain ⟨pre', ls, hseen, hstack, hls⟩ := harguments
    rw [hseen]
    split at hs
    · rename_i hcomma
      cases hs
      refine ⟨?_, nofun⟩
      have hfront : pre' ++ .name f.name :: .mark .openParen :: ls ++ [token.lexeme] =
          pre' ++ .name f.name :: .mark .openParen :: (ls ++ [.mark .comma]) := by simp [hcomma]
      rw [hfront]
      exact .arguments hstack hls
    · split at hs
      · rename_i hclose
        have hfront : pre' ++ .name f.name :: .mark .openParen :: ls ++ [token.lexeme] =
            pre' ++ .name f.name :: .mark .openParen :: (ls ++ [.mark .closeParen]) := by
          simp [hclose]
        rw [hfront]
        exact seen_finishCall hs hstack hls
      · cases hs
  · split at hs
    · rename_i hend
      cases hs
      obtain ⟨hempty, hstop⟩ := hend
      cases List.isEmpty_iff.1 hempty
      cases hstacks
      rw [hstop]
      exact ⟨body, rfl, hreads⟩
    · cases hs

/-- An operand goes on, meets an operator, or ends. -/
theorem seen_afterOperand (h : Accounts Level.access seen stack t)
    (hs : afterOperand stack t token = .ok s') : s'.Seen (seen ++ [token.lexeme]) := by
  have hclosed := h.settle_access (p := 0) (Nat.zero_le _)
  unfold afterOperand at hs
  split at hs
  · rename_i hdot
    cases hs
    exact ⟨seen, by rw [hdot], h⟩
  · rename_i hbracket
    cases hs
    obtain ⟨pre, body, rfl, hstack, hreads⟩ := h
    refine ⟨?_, nofun⟩
    rw [hbracket, List.append_assoc]
    exact .index hstack hreads
  · rename_i hquestion
    cases hs
    obtain ⟨⟨pre, body, hseen, hstack, hreads⟩, hfloor⟩ :=
      h.settle_access (p := Power.conditional) (by decide)
    refine ⟨?_, nofun⟩
    rw [hquestion, hseen, List.append_assoc]
    exact .branch hstack hfloor hreads
  · rename_i hmark
    split at hs
    · rename_i op hop
      cases hs
      have hlevel : settledLevel op.power ≤ Level.access := by
        rw [op.settledLevel_power]
        exact op.leftLevel_le
      obtain ⟨⟨pre, body, hseen, hstack, hreads⟩, hfloor⟩ := h.settle_access hlevel
      rw [op.settledLevel_power] at hreads
      refine ⟨?_, nofun⟩
      rw [hmark, ← Mark.mark_of_infixOp? hop, hseen, List.append_assoc]
      exact .binary hstack (op.level_eq_power ▸ hfloor) hreads
    · exact seen_close hclosed.1 hs
  · exact seen_close hclosed.1 hs

/-- The first token of an operand. -/
theorem seen_startOperand {mayClose : Bool} (h : (operand stack mayClose).Seen seen)
    (hs : startOperand stack mayClose token = .ok s') : s'.Seen (seen ++ [token.lexeme]) := by
  obtain ⟨hstack, hmay⟩ := h
  unfold startOperand at hs
  split at hs
  · rename_i n _ _ hnumber
    cases hs
    exact ⟨seen, _, by rw [hnumber], hstack, .literal rfl⟩
  · rename_i text _ _ htext
    cases hs
    exact ⟨seen, _, by rw [htext], hstack, .literal rfl⟩
  · rename_i name _ _ hname
    split at hs
    · rename_i v hv
      cases hs
      exact ⟨seen, _, by rw [hname], hstack, .literal (literalLexeme?_of_literal? hv)⟩
    · cases hs
      exact ⟨seen, by rw [hname], hstack⟩
  · rename_i hnot
    cases hs
    rw [hnot]
    exact ⟨.unary hstack, nofun⟩
  · rename_i hminus
    cases hs
    rw [hminus]
    exact ⟨.unary hstack, nofun⟩
  · rename_i hopen
    cases hs
    rw [hopen]
    exact ⟨.group hstack, nofun⟩
  · rename_i f offset done stack hclose
    obtain ⟨f', offset', below, heq⟩ := hmay rfl
    cases heq
    cases hstack with
    | @opened _ pre _ _ hstack =>
        rw [hclose, List.append_assoc]
        exact seen_finishCall hs hstack .nil
  · cases hs

/-- Every step accounts for its token. -/
theorem Seen.step (h : s.Seen seen) (hs : s.step token = .ok s') :
    s'.Seen (seen ++ [token.lexeme]) := by
  unfold ParseState.step at hs
  split at hs
  · exact seen_startOperand h hs
  · obtain ⟨pre, rfl, hstack⟩ := h
    split at hs
    · rename_i hopen
      split at hs
      · rename_i f hf
        cases hs
        have hname := Function.name_of_ofName? hf
        refine ⟨?_, fun _ => ⟨_, _, _, rfl⟩⟩
        rw [hopen, List.append_assoc, ← hname]
        exact .opened hstack
      · cases hs
    · split at hs
      · rename_i r hr
        have hname := Root.name_of_ofName? hr
        refine seen_afterOperand ⟨pre, _, rfl, hstack, ?_⟩ hs
        rw [← hname]
        exact .root r
      · cases hs
  · obtain ⟨front, rfl, pre, body, rfl, hstack, hreads⟩ := h
    split at hs
    · rename_i name hname
      cases hs
      rw [hname]
      exact ⟨pre, body ++ [.mark .dot, .name name], by simp, hstack, .member name hreads⟩
    · cases hs
  · exact seen_afterOperand h hs
  · cases hs

/-- So does every run. -/
theorem Seen.run {tokens : List Token} (h : s.Seen seen) (hs : s.run tokens = .ok s') :
    s'.Seen (seen ++ tokens.map Token.lexeme) := by
  induction tokens generalizing s seen with
  | nil =>
      cases hs
      rwa [List.map_nil, List.append_nil]
  | cons token tokens ih =>
      rw [ParseState.run] at hs
      split at hs
      · rename_i next hnext
        have hrest := ih (h.step hnext) hs
        rwa [List.append_assoc] at hrest
      · cases hs

end ParseState

/-! ## The grammar decides -/

/-- There is a tree for tokens exactly if the grammar writes it with them, up to the token that ends
the expression. -/
theorem Tree.ofTokens_eq_ok_iff {tokens : List Token} {t : Tree} :
    Tree.ofTokens tokens = .ok t ↔
      ∃ ls, tokens.map Token.lexeme = ls ++ [.stop] ∧ Reads 0 t ls := by
  unfold Tree.ofTokens
  constructor
  · intro h
    split at h
    · rename_i u hrun
      cases h
      have hstart : (ParseState.operand [] false).Seen [] := ⟨.nil, nofun⟩
      exact hstart.run hrun
    · cases h
    · cases h
  · rintro ⟨ls, htokens, hreads⟩
    have hreaches : (ParseState.operand [] false).Reaches (ls ++ [.stop]) (· = .finished t) :=
      (hreads.reaches [] false (Nat.zero_le _)).append fun s hs => .one fun offset =>
        ⟨_, hs.step_closing (by decide) rfl offset, rfl⟩
    obtain ⟨s, hrun, rfl⟩ := hreaches tokens htokens
    rw [hrun]

end ApiGateway.Expression
