import ApiGateway.Proofs.Expression.Grammar

/-! # The parser reads what the grammar writes

What writes a tree is read as that tree (`Tree.Reads.reaches`). Behind an operand the machine may
still hold operators that wait in it, and `settle` completes them as soon as an operator or a
bracket arrives that the level of the operand allows: this is what `ParseState.Delivers` says.
-/

set_option autoImplicit false

namespace ApiGateway.Expression

/-! ## Powers and levels -/

theorem InfixOp.level_eq_power (op : InfixOp) : op.level = op.power := by
  cases op with
  | strict op => cases op <;> decide
  | _ => decide

theorem InfixOp.rightLevel_eq (op : InfixOp) : op.rightLevel = op.rightFloor + 1 := by
  cases op with
  | strict op => cases op <;> decide
  | _ => decide

theorem InfixOp.level_le_leftLevel (op : InfixOp) : op.level ≤ op.leftLevel := by
  unfold leftLevel
  split <;> omega

theorem InfixOp.power_bounds (op : InfixOp) : 2 ≤ op.power ∧ op.power < Level.unary := by
  cases op with
  | strict op => cases op <;> decide
  | _ => decide

theorem InfixOp.rightLevel_le (op : InfixOp) : op.rightLevel ≤ Level.unary := by
  cases op with
  | strict op => cases op <;> decide
  | _ => decide

/-- The greatest power of an arriving operator that completes all that waits in an operand of a
level. -/
def closingPower (floor : Nat) : Nat := if floor ≤ 2 then floor - 1 else floor

theorem closingPower_mono {f g : Nat} (h : f ≤ g) : closingPower f ≤ closingPower g := by
  unfold closingPower
  split <;> split <;> omega

theorem InfixOp.power_le_closingPower (op : InfixOp) : op.power ≤ closingPower op.leftLevel := by
  cases op with
  | strict op => cases op <;> decide
  | _ => decide

theorem InfixOp.closingPower_level_le (op : InfixOp) : closingPower op.level ≤ op.rightFloor := by
  cases op with
  | strict op => cases op <;> decide
  | _ => decide

theorem InfixOp.rightFloor_le_closingPower (op : InfixOp) :
    op.rightFloor ≤ closingPower op.rightLevel := by
  cases op with
  | strict op => cases op <;> decide
  | _ => decide

/-- The level of the operand that the top of the stack waits for. -/
def floorOf : List Frame → Nat
  | .unary _ :: _ => Level.unary
  | .binary op _ :: _ => op.rightLevel
  | _ => 0

theorem floorOf_le_unary (stack : List Frame) : floorOf stack ≤ Level.unary := by
  unfold floorOf
  split
  · exact Nat.le_refl _
  · rename_i op _ _
    exact op.rightLevel_le
  · exact Nat.zero_le _

theorem floorOf_le_access (stack : List Frame) : floorOf stack ≤ Level.access :=
  Nat.le_trans (floorOf_le_unary stack) (by decide)

/-- An operator for which the top of the stack is too loose completes nothing. -/
theorem settle_eq_self {p : Nat} {stack : List Frame} (t : Tree) (hpos : 0 < p)
    (hunary : p < Level.unary) (h : floorOf stack ≤ p) : settle p stack t = (stack, t) := by
  unfold settle
  split
  · have hfloor : Level.unary ≤ p := h
    omega
  · rename_i op _ _
    have hfloor : op.rightLevel ≤ p := h
    rw [op.rightLevel_eq] at hfloor
    exact if_neg (by omega)
  · exact if_neg (Nat.not_le.2 hpos)
  · rfl

/-! ## What writes a tree is read as that tree -/

/-- The lexemes that end an operand in a bracket, or the whole expression. -/
def closings : List Lexeme :=
  [.mark .closeParen, .mark .closeBracket, .mark .colon, .mark .comma, .stop]

theorem afterOperand_closing {stack : List Frame} {t : Tree}
    {l : Lexeme} (h : l ∈ closings) (offset : Nat) :
    afterOperand stack t ⟨l, offset⟩ =
      close (settle 0 stack t).1 (settle 0 stack t).2 ⟨l, offset⟩ := by
  simp only [closings, List.mem_cons, List.not_mem_nil, or_false] at h
  rcases h with rfl | rfl | rfl | rfl | rfl <;> rfl

/-- Behind the lexemes, wherever they stand, the machine is in a state with a property. -/
def ParseState.Reaches (s : ParseState) (ls : List Lexeme) (P : ParseState → Prop) : Prop :=
  ∀ tokens : List Token, tokens.map Token.lexeme = ls → ∃ s', s.run tokens = .ok s' ∧ P s'

namespace ParseState

theorem run_append {s s' : ParseState} {ts : List Token} (h : s.run ts = .ok s')
    (us : List Token) : s.run (ts ++ us) = s'.run us := by
  induction ts generalizing s with
  | nil =>
      cases h
      rfl
  | cons token ts ih =>
      rw [List.cons_append, run]
      rw [run] at h
      cases hstep : s.step token with
      | error e =>
          rw [hstep] at h
          cases h
      | ok next =>
          rw [hstep] at h
          exact ih h

variable {s : ParseState} {l : Lexeme} {ls ms : List Lexeme} {P Q : ParseState → Prop}

theorem Reaches.nil (h : P s) : s.Reaches [] P := fun tokens htokens => by
  cases List.map_eq_nil_iff.1 htokens
  exact ⟨s, rfl, h⟩

theorem Reaches.cons
    (h : ∀ offset, ∃ s', s.step ⟨l, offset⟩ = .ok s' ∧ s'.Reaches ls P) :
    s.Reaches (l :: ls) P := fun tokens htokens => by
  obtain ⟨⟨l', offset⟩, rest, rfl, rfl, hrest⟩ := List.map_eq_cons_iff.1 htokens
  obtain ⟨s', hstep, hreaches⟩ := h offset
  obtain ⟨s'', hrun, hP⟩ := hreaches rest hrest
  refine ⟨s'', ?_, hP⟩
  rw [run, hstep]
  exact hrun

theorem Reaches.append (h : s.Reaches ls P) (hnext : ∀ s', P s' → s'.Reaches ms Q) :
    s.Reaches (ls ++ ms) Q := fun tokens htokens => by
  obtain ⟨ts, us, rfl, hts, hus⟩ := List.map_eq_append_iff.1 htokens
  obtain ⟨s', hrun, hP⟩ := h ts hts
  obtain ⟨s'', hrun', hQ⟩ := hnext s' hP us hus
  exact ⟨s'', (run_append hrun us).trans hrun', hQ⟩

/-- A single lexeme whose step leads to a state with the property. -/
theorem Reaches.one (h : ∀ offset, ∃ s', s.step ⟨l, offset⟩ = .ok s' ∧ P s') :
    s.Reaches [l] P := .cons fun offset => by
  obtain ⟨s', hstep, hP⟩ := h offset
  exact ⟨s', hstep, .nil hP⟩

/-- The state has read an operand: it takes the next token as one behind `t`. A bracket that opens
is left out, since it would make a call of a name. -/
def ActsAs (s : ParseState) (stack : List Frame) (t : Tree) : Prop :=
  ∀ token : Token, token.lexeme ≠ .mark .openParen → s.step token = afterOperand stack t token

/-- The state has read `t` as an operand of a level, up to operators that still wait in it. -/
def Delivers (floor : Nat) (stack : List Frame) (t : Tree) (s : ParseState) : Prop :=
  ∃ inner last, s.ActsAs inner last ∧
    (∀ p, p ≤ closingPower floor → settle p inner last = settle p stack t) ∧
    (Level.access ≤ floor → inner = stack ∧ last = t)

theorem ActsAs.delivers {stack : List Frame} {t : Tree} (h : s.ActsAs stack t) (floor : Nat) :
    s.Delivers floor stack t :=
  ⟨stack, t, h, fun _ _ => rfl, fun _ => ⟨rfl, rfl⟩⟩

theorem actsAs_complete (stack : List Frame) (t : Tree) : (complete stack t).ActsAs stack t :=
  fun _ _ => rfl

/-- An operand that a frame has waited for makes an operand of the frame. -/
theorem Delivers.settled {floor inside : Nat} {frame : Frame} {stack : List Frame} {t u : Tree}
    (h : s.Delivers inside (frame :: stack) t) (haccess : floor < Level.access)
    (hinside : closingPower floor ≤ closingPower inside)
    (hsettle : ∀ p, p ≤ closingPower floor → settle p (frame :: stack) t = settle p stack u) :
    s.Delivers floor stack u := by
  obtain ⟨inner, last, hacts, hclosed, _⟩ := h
  refine ⟨inner, last, hacts, fun p hp => ?_, fun hge => absurd hge (Nat.not_le.2 haccess)⟩
  exact (hclosed p (Nat.le_trans hp hinside)).trans (hsettle p hp)

/-- Behind an operand a closing lexeme meets the frame that the operand stands in. -/
theorem Delivers.step_closing {floor : Nat} {stack : List Frame} {t : Tree}
    (h : s.Delivers floor stack t) (hl : l ∈ closings) (hsettle : settle 0 stack t = (stack, t))
    (offset : Nat) : s.step ⟨l, offset⟩ = close stack t ⟨l, offset⟩ := by
  obtain ⟨inner, last, hacts, hclosed, _⟩ := h
  have hne : l ≠ .mark .openParen := by
    rintro rfl
    exact absurd hl (by decide)
  rw [hacts ⟨l, offset⟩ hne, afterOperand_closing hl, hclosed 0 (Nat.zero_le _), hsettle]

/-- Behind an operand of its left level an operator waits for its right operand. -/
theorem Delivers.step_infixOp {op : InfixOp} {stack : List Frame} {t : Tree}
    (h : s.Delivers op.leftLevel stack t) (hstack : floorOf stack ≤ op.level) (offset : Nat) :
    s.step ⟨.mark op.mark, offset⟩ = .ok (.operand (.binary op t :: stack) false) := by
  obtain ⟨inner, last, hacts, hclosed, _⟩ := h
  have hne : (Lexeme.mark op.mark) ≠ .mark .openParen := by
    cases op with
    | strict op => cases op <;> decide
    | _ => decide
  have hpower := op.power_bounds
  have hsettle : settle op.power inner last = (stack, t) := by
    rw [hclosed _ op.power_le_closingPower]
    exact settle_eq_self t (by omega) hpower.2 (op.level_eq_power ▸ hstack)
  have hafter : afterOperand inner last ⟨.mark op.mark, offset⟩ =
      .ok (.operand (.binary op (settle op.power inner last).2 ::
        (settle op.power inner last).1) false) := by
    cases op with
    | strict op => cases op <;> rfl
    | _ => rfl
  rw [hacts _ hne, hafter, hsettle]

/-- Behind a condition the first branch begins. -/
theorem Delivers.step_question {stack : List Frame} {t : Tree}
    (h : s.Delivers (Level.conditional + 1) stack t) (hstack : floorOf stack ≤ Level.conditional)
    (offset : Nat) :
    s.step ⟨.mark .question, offset⟩ = .ok (.operand (.branch t :: stack) false) := by
  obtain ⟨inner, last, hacts, hclosed, _⟩ := h
  have hsettle : settle Power.conditional inner last = (stack, t) := by
    rw [hclosed Power.conditional (by decide)]
    exact settle_eq_self t (by decide) (by decide) hstack
  rw [hacts _ (show Lexeme.mark .question ≠ .mark .openParen by decide)]
  show Except.ok (ParseState.operand (.branch (settle Power.conditional inner last).2 ::
    (settle Power.conditional inner last).1) false) = _
  rw [hsettle]

end ParseState

open ParseState

theorem literal?_rootName (r : Root) : literal? r.name = none := by cases r <;> decide

theorem ofName?_rootName (r : Root) : Root.ofName? r.name = some r := by cases r <;> decide

theorem literal?_functionName (f : Function) : literal? f.name = none := by cases f <;> decide

/-- A name that is a root is read as that root. -/
theorem actsAs_root (stack : List Frame) (r : Root) (offset : Nat) :
    (named stack r.name offset).ActsAs stack (.root r) := fun token htoken => by
  rw [ParseState.step, if_neg htoken, ofName?_rootName]

theorem step_literal {v : Json} {l : Lexeme} (h : literalLexeme? v = some l) (stack : List Frame)
    (mayClose : Bool) (offset : Nat) :
    (operand stack mayClose).step ⟨l, offset⟩ = .ok (complete stack (.literal v)) := by
  cases v with
  | null => cases h; rfl
  | bool b => cases b <;> cases h <;> rfl
  | num n => cases h; rfl
  | str s => cases h; rfl
  | arr items => cases h
  | obj members => cases h

theorem step_name {name : String} (h : literal? name = none) (stack : List Frame)
    (mayClose : Bool) (offset : Nat) :
    (operand stack mayClose).step ⟨.name name, offset⟩ = .ok (named stack name offset) := by
  rw [ParseState.step]
  unfold startOperand
  dsimp only
  rw [h]

theorem step_call (f : Function) (stack : List Frame) (offset offset' : Nat) :
    (named stack f.name offset).step ⟨.mark .openParen, offset'⟩ =
      .ok (operand (.arguments f offset [] :: stack) true) := by
  rw [ParseState.step, if_pos rfl, f.ofName?_name]

namespace Tree

mutual

/-- The machine reads what writes a tree as that tree. -/
theorem Reads.reaches {floor : Nat} {t : Tree} {ls : List Lexeme} :
    Reads floor t ls → ∀ (stack : List Frame) (mayClose : Bool), floorOf stack ≤ floor →
      (operand stack mayClose).Reaches ls (Delivers floor stack t)
  | .group h, stack, mayClose, _ =>
      .cons fun _ => ⟨_, rfl, (h.reaches (.group :: stack) false (Nat.zero_le _)).append
        fun _ hs => .one fun offset =>
          ⟨complete stack _, hs.step_closing (by decide) rfl offset,
            (actsAs_complete stack _).delivers floor⟩⟩
  | .literal h, stack, mayClose, _ =>
      .one fun offset => ⟨_, step_literal h stack mayClose offset,
        (actsAs_complete stack _).delivers floor⟩
  | .root r, stack, mayClose, _ =>
      .one fun offset => ⟨_, step_name (literal?_rootName r) stack mayClose offset,
        (actsAs_root stack r offset).delivers floor⟩
  | .member name h, stack, mayClose, _ =>
      (h.reaches stack mayClose (floorOf_le_access stack)).append fun s hs => by
        obtain ⟨inner, last, hacts, _, hexact⟩ := hs
        obtain ⟨rfl, rfl⟩ := hexact (Nat.le_refl _)
        refine .cons fun offset => ⟨field inner last, hacts ⟨_, offset⟩ nofun, ?_⟩
        exact .one fun _ => ⟨_, rfl, (actsAs_complete inner _).delivers floor⟩
  | .index h hposition, stack, mayClose, _ =>
      (h.reaches stack mayClose (floorOf_le_access stack)).append fun s hs => by
        obtain ⟨inner, last, hacts, _, hexact⟩ := hs
        obtain ⟨rfl, rfl⟩ := hexact (Nat.le_refl _)
        refine .cons fun offset =>
          ⟨operand (.index last :: inner) false, hacts ⟨_, offset⟩ nofun, ?_⟩
        refine (hposition.reaches (.index last :: inner) false (Nat.zero_le _)).append
          fun _ hs => .one fun offset => ⟨_, hs.step_closing (by decide) rfl offset, ?_⟩
        exact (actsAs_complete inner _).delivers floor
  | @Reads.unary _ op _ _ hf h, stack, mayClose, _ => by
      refine .cons fun offset => ⟨operand (.unary op :: stack) false, by cases op <;> rfl, ?_⟩
      intro tokens htokens
      obtain ⟨s, hrun, hs⟩ := h.reaches (.unary op :: stack) false (Nat.le_refl _) tokens htokens
      have hclosing : closingPower floor ≤ closingPower Level.unary := closingPower_mono hf
      have hunary : floor < Level.access := Nat.lt_succ_of_le hf
      exact ⟨s, hrun, hs.settled hunary hclosing fun p hp => if_pos (Nat.le_trans hp hclosing)⟩
  | @Reads.binary _ op left _ _ _ hf h hright, stack, mayClose, hstack => by
      have hleft := h.reaches stack mayClose
        (Nat.le_trans hstack (Nat.le_trans hf op.level_le_leftLevel))
      refine hleft.append fun s hs => .cons fun offset =>
        ⟨_, hs.step_infixOp (Nat.le_trans hstack hf) offset, ?_⟩
      intro tokens htokens
      obtain ⟨s, hrun, hs⟩ :=
        hright.reaches (.binary op left :: stack) false (Nat.le_refl _) tokens htokens
      have hclosing : closingPower floor ≤ op.rightFloor :=
        Nat.le_trans (closingPower_mono hf) op.closingPower_level_le
      have hlevel : floor < Level.access := by
        have hpower := op.power_bounds.2
        rw [op.level_eq_power] at hf
        exact Nat.lt_trans (Nat.lt_of_le_of_lt hf hpower) (by decide)
      exact ⟨s, hrun, hs.settled hlevel (Nat.le_trans hclosing op.rightFloor_le_closingPower)
        fun p hp => if_pos (Nat.le_trans hp hclosing)⟩
  | @Reads.conditional _ condition yes _ _ _ _ hf h hyes hno, stack, mayClose, hstack => by
      have hcondition := h.reaches stack mayClose
        (Nat.le_trans hstack (Nat.le_trans hf (Nat.le_succ _)))
      refine hcondition.append fun s hs => .cons fun offset =>
        ⟨_, hs.step_question (Nat.le_trans hstack hf) offset, ?_⟩
      refine (hyes.reaches (.branch condition :: stack) false (Nat.zero_le _)).append fun s hs =>
        .cons fun offset => ⟨_, hs.step_closing (by decide) rfl offset, ?_⟩
      intro tokens htokens
      obtain ⟨s, hrun, hs⟩ :=
        hno.reaches (.otherwise condition yes :: stack) false (Nat.zero_le _) tokens htokens
      have hclosing : closingPower floor ≤ 0 := closingPower_mono hf
      exact ⟨s, hrun, hs.settled (Nat.lt_of_le_of_lt hf (by decide)) hclosing
        fun p hp => if_pos (Nat.le_trans hp hclosing)⟩
  | @Reads.call _ f _ _ hf h, stack, mayClose, _ => by
      refine .cons fun offset => ⟨_, step_name (literal?_functionName f) stack mayClose offset, ?_⟩
      refine .cons fun offset' => ⟨_, step_call f stack offset offset', ?_⟩
      intro tokens htokens
      obtain ⟨s, hrun, rfl⟩ := h.reaches stack f offset [] true (fun _ => rfl)
        (by simpa using hf) tokens htokens
      exact ⟨_, hrun, (actsAs_complete stack _).delivers floor⟩

/-- The machine reads what writes arguments, in front of the bracket that closes them, as these
arguments. -/
theorem ReadsAll.reaches {ts : List Tree} {ls : List Lexeme} :
    ReadsAll ts ls → ∀ (stack : List Frame) (f : Function) (offset : Nat) (done : List Tree)
      (mayClose : Bool), (ts = [] → mayClose = true) →
        f.accepts (done.length + ts.length) = true →
          (operand (.arguments f offset done :: stack) mayClose).Reaches
            (ls ++ [.mark .closeParen]) (· = complete stack (.call f (done.reverse ++ ts)))
  | .nil, stack, f, offset, done, mayClose, hmay, hf => by
      refine .one fun _ => ⟨_, ?_, rfl⟩
      rw [hmay rfl]
      show finishCall stack f offset done = _
      rw [finishCall, if_pos (by simpa using hf), List.append_nil]
  | .one h, stack, f, offset, done, mayClose, _, hf => by
      refine (h.reaches (.arguments f offset done :: stack) mayClose (Nat.zero_le _)).append
        fun s hs => .one fun offset' => ⟨_, ?_, rfl⟩
      rw [hs.step_closing (by decide) rfl offset']
      show finishCall stack f offset (_ :: done) = _
      rw [finishCall, if_pos (by simpa using hf), List.reverse_cons]
  | @ReadsAll.more t _ _ _ _ h hmore, stack, f, offset, done, mayClose, _, hf => by
      rw [List.append_assoc]
      refine (h.reaches (.arguments f offset done :: stack) mayClose (Nat.zero_le _)).append
        fun s hs => .cons fun offset' =>
          ⟨operand (.arguments f offset (t :: done) :: stack) false,
            hs.step_closing (by decide) rfl offset', ?_⟩
      have hothers := hmore.reaches stack f offset (t :: done) false (fun h => nomatch h)
        (by simpa [Nat.add_comm, Nat.add_left_comm] using hf)
      rwa [List.reverse_cons, List.append_assoc] at hothers

end

end Tree

end ApiGateway.Expression
