import ApiGateway.Expression.Parser

/-! # The grammar of expressions

`infixLevels` is the table of precedences. `Tree.Reads` is the grammar it gives: the lexemes that
may write a tree as an operand that has to bind at some level at least, with parentheses wherever
somebody cares to put them. `Tree.lexemes` puts parentheses only where the level asks for them, and
no other writing is shorter (`Reads.length_lexemes_le`). `Tree.WellFormed` says which trees have a
writing at all.
-/

set_option autoImplicit false

namespace ApiGateway.Expression

open Json (Number)

/-! ## Levels -/

/-- The infix operators by increasing precedence. Operators that stand together bind equally. -/
def infixLevels : List (List InfixOp) :=
  [[.coalesce],
    [.or],
    [.and],
    [.strict .equal, .strict .notEqual],
    [.strict .less, .strict .lessEqual, .strict .greater, .strict .greaterEqual],
    [.strict .add, .strict .subtract],
    [.strict .multiply, .strict .divide, .strict .remainder]]

namespace Level

/-- The level of the conditional, below all infix operators. -/
def conditional : Nat := 1
/-- The level of an operator in front of its operand, above all infix operators. -/
def unary : Nat := infixLevels.length + 2
/-- The level of a field, an index, and everything that needs no parentheses. -/
def access : Nat := infixLevels.length + 3

end Level

/-- The level of an infix operator. -/
def InfixOp.level (op : InfixOp) : Nat := infixLevels.findIdx (·.contains op) + 2

/-- Only `??` associates to the right, as the conditional does. -/
def InfixOp.associatesRight (op : InfixOp) : Bool := op = .coalesce

/-- The level of a left operand. -/
def InfixOp.leftLevel (op : InfixOp) : Nat :=
  if op.associatesRight then op.level + 1 else op.level

/-- The level of a right operand. -/
def InfixOp.rightLevel (op : InfixOp) : Nat :=
  if op.associatesRight then op.level else op.level + 1

/-- The level of a tree is that of its outermost operator. -/
def Tree.level : Tree → Nat
  | .conditional .. => Level.conditional
  | .binary op _ _ => op.level
  | .unary .. => Level.unary
  | _ => Level.access

/-! ## Lexemes -/

/-- The mark in front of an operand. -/
def UnaryOp.mark : UnaryOp → Mark
  | .not => .not
  | .negate => .minus

/-- The mark between two operands. -/
def InfixOp.mark : InfixOp → Mark
  | .strict .add => .plus
  | .strict .subtract => .minus
  | .strict .multiply => .star
  | .strict .divide => .slash
  | .strict .remainder => .percent
  | .strict .equal => .equal
  | .strict .notEqual => .notEqual
  | .strict .less => .less
  | .strict .lessEqual => .lessEqual
  | .strict .greater => .greater
  | .strict .greaterEqual => .greaterEqual
  | .and => .and
  | .or => .or
  | .coalesce => .coalesce

theorem Mark.mark_of_infixOp? {m : Mark} {op : InfixOp} (h : m.infixOp? = some op) :
    op.mark = m := by
  cases m <;> cases h <;> rfl

/-- The lexeme that writes a literal. Arrays and objects have none. -/
def literalLexeme? : Json → Option Lexeme
  | .null => some (.name "null")
  | .bool true => some (.name "true")
  | .bool false => some (.name "false")
  | .num n => some (.number n)
  | .str s => some (.text s)
  | .arr _ | .obj _ => none

/-- A name that is a literal writes it. -/
theorem literalLexeme?_of_literal? {name : String} {v : Json} (h : literal? name = some v) :
    literalLexeme? v = some (.name name) := by
  unfold literal? at h
  split at h
  · subst name
    cases h
    rfl
  split at h
  · subst name
    cases h
    rfl
  split at h
  · subst name
    cases h
    rfl
  · cases h

namespace Tree

mutual

/-- The lexemes may write the tree as an operand of a level. -/
inductive Reads : Nat → Tree → List Lexeme → Prop where
  | group {floor : Nat} {t : Tree} {ls : List Lexeme} :
      Reads 0 t ls → Reads floor t (.mark .openParen :: (ls ++ [.mark .closeParen]))
  | literal {floor : Nat} {v : Json} {l : Lexeme} :
      literalLexeme? v = some l → Reads floor (.literal v) [l]
  | root {floor : Nat} (r : Root) : Reads floor (.root r) [.name r.name]
  | member {floor : Nat} {target : Tree} {ls : List Lexeme} (name : String) :
      Reads Level.access target ls →
        Reads floor (.member target name) (ls ++ [.mark .dot, .name name])
  | index {floor : Nat} {target position : Tree} {ls ms : List Lexeme} :
      Reads Level.access target ls → Reads 0 position ms →
        Reads floor (.index target position)
          (ls ++ .mark .openBracket :: (ms ++ [.mark .closeBracket]))
  | unary {floor : Nat} {op : UnaryOp} {operand : Tree} {ls : List Lexeme} :
      floor ≤ Level.unary → Reads Level.unary operand ls →
        Reads floor (.unary op operand) (.mark op.mark :: ls)
  | binary {floor : Nat} {op : InfixOp} {left right : Tree} {ls ms : List Lexeme} :
      floor ≤ op.level → Reads op.leftLevel left ls → Reads op.rightLevel right ms →
        Reads floor (.binary op left right) (ls ++ .mark op.mark :: ms)
  | conditional {floor : Nat} {condition yes no : Tree} {ls ms ns : List Lexeme} :
      floor ≤ Level.conditional →
        Reads (Level.conditional + 1) condition ls → Reads 0 yes ms → Reads 0 no ns →
          Reads floor (.conditional condition yes no)
            (ls ++ .mark .question :: (ms ++ .mark .colon :: ns))
  | call {floor : Nat} {f : Function} {arguments : List Tree} {ls : List Lexeme} :
      f.accepts arguments.length = true → ReadsAll arguments ls →
        Reads floor (.call f arguments)
          (.name f.name :: .mark .openParen :: (ls ++ [.mark .closeParen]))

/-- The lexemes may write the trees as the arguments of a call. -/
inductive ReadsAll : List Tree → List Lexeme → Prop where
  | nil : ReadsAll [] []
  | one {t : Tree} {ls : List Lexeme} : Reads 0 t ls → ReadsAll [t] ls
  | more {t u : Tree} {ts : List Tree} {ls ms : List Lexeme} :
      Reads 0 t ls → ReadsAll (u :: ts) ms → ReadsAll (t :: u :: ts) (ls ++ .mark .comma :: ms)

end

/-- What binds tightly enough for a level binds tightly enough for a lower one. -/
theorem Reads.mono {f g : Nat} {t : Tree} {ls : List Lexeme} (h : Reads f t ls) (hle : g ≤ f) :
    Reads g t ls := by
  cases h with
  | group h => exact .group h
  | literal h => exact .literal h
  | root r => exact .root r
  | member name h => exact .member name h
  | index h hposition => exact .index h hposition
  | unary hf h => exact .unary (Nat.le_trans hle hf) h
  | binary hf h hright => exact .binary (Nat.le_trans hle hf) h hright
  | conditional hf h hyes hno => exact .conditional (Nat.le_trans hle hf) h hyes hno
  | call hf h => exact .call hf h

end Tree

/-! ## Well-formed trees -/

/-- A finite number without a sign. -/
def IsNumeral : Number → Prop
  | .int n => 0 ≤ n ∧ (Number.int n).InRange
  | .float x => ∃ d, Binary64.decode x = .finite d ∧ d.negative = false

/-- A name that the scanner takes whole. -/
def IsIdentifier (name : String) : Prop :=
  ∃ c cs, name.toList = c :: cs ∧ startsName c = true ∧ cs.all continuesName = true

/-- A value that an expression can write: no array and no object, and no sign. -/
def IsLiteral : Json → Prop
  | .null | .bool _ | .str _ => True
  | .num n => IsNumeral n
  | .arr _ | .obj _ => False

namespace Tree

mutual

/-- The literals of the tree can be written, its field names are identifiers, and its calls have
as many arguments as their functions take. -/
def WellFormed : Tree → Prop
  | .literal v => IsLiteral v
  | .root _ => True
  | .member target name => target.WellFormed ∧ IsIdentifier name
  | .index target position => target.WellFormed ∧ position.WellFormed
  | .unary _ operand => operand.WellFormed
  | .binary _ left right => left.WellFormed ∧ right.WellFormed
  | .conditional condition yes no => condition.WellFormed ∧ yes.WellFormed ∧ no.WellFormed
  | .call f arguments => f.accepts arguments.length = true ∧ AllWellFormed arguments

/-- All trees are well-formed. -/
def AllWellFormed : List Tree → Prop
  | [] => True
  | t :: ts => t.WellFormed ∧ AllWellFormed ts

end

/-! ## Parentheses where they are needed -/

/-- The body between two brackets if it binds less tightly than it has to. -/
def enclose {α : Type} (opening closing : α) (floor level : Nat) (body : List α) : List α :=
  if level < floor then opening :: (body ++ [closing]) else body

theorem enclose_of_le {α : Type} {opening closing : α} {floor level : Nat} {body : List α}
    (h : floor ≤ level) : enclose opening closing floor level body = body :=
  if_neg (Nat.not_lt.2 h)

theorem length_enclose_le {α : Type} (opening closing : α) (floor level : Nat) (body : List α) :
    (enclose opening closing floor level body).length ≤ body.length + 2 := by
  unfold enclose
  split
  · simp
  · exact Nat.le_add_right _ _

mutual

/-- The lexemes of a tree as an operand of a level. -/
def lexemes (floor : Nat) : Tree → List Lexeme
  | .literal v => (literalLexeme? v).toList
  | .root r => [.name r.name]
  | .member target name => target.lexemes Level.access ++ [.mark .dot, .name name]
  | .index target position =>
    target.lexemes Level.access ++
      .mark .openBracket :: (position.lexemes 0 ++ [.mark .closeBracket])
  | .unary op operand =>
    enclose (.mark .openParen) (.mark .closeParen) floor Level.unary
      (.mark op.mark :: operand.lexemes Level.unary)
  | .binary op left right =>
    enclose (.mark .openParen) (.mark .closeParen) floor op.level
      (left.lexemes op.leftLevel ++ .mark op.mark :: right.lexemes op.rightLevel)
  | .conditional condition yes no =>
    enclose (.mark .openParen) (.mark .closeParen) floor Level.conditional
      (condition.lexemes (Level.conditional + 1) ++
        .mark .question :: (yes.lexemes 0 ++ .mark .colon :: no.lexemes 0))
  | .call f arguments =>
    .name f.name :: .mark .openParen :: (argumentLexemes arguments ++ [.mark .closeParen])

/-- The lexemes of the arguments of a call. -/
def argumentLexemes : List Tree → List Lexeme
  | [] => []
  | [t] => t.lexemes 0
  | t :: ts => t.lexemes 0 ++ .mark .comma :: argumentLexemes ts

end

/-- Whatever its level, a tree in parentheses may be written in its place. -/
theorem Reads.enclose {floor level : Nat} {t : Tree} {ls : List Lexeme}
    (h : ∀ f, f ≤ level → Reads f t ls) :
    Reads floor t (Tree.enclose (.mark .openParen) (.mark .closeParen) floor level ls) := by
  unfold Tree.enclose
  split
  · exact .group (h 0 (Nat.zero_le _))
  · exact h floor (by omega)

mutual

/-- A well-formed tree may be written by its lexemes. -/
theorem WellFormed.reads :
    (t : Tree) → t.WellFormed → (floor : Nat) → Reads floor t (t.lexemes floor)
  | .literal v, h, floor => by
      cases v with
      | arr items => exact absurd h id
      | obj members => exact absurd h id
      | bool b => cases b <;> exact .literal rfl
      | _ => exact .literal rfl
  | .root r, _, floor => .root r
  | .member target name, h, floor => .member name (WellFormed.reads target h.1 _)
  | .index target position, h, floor =>
      .index (WellFormed.reads target h.1 _) (WellFormed.reads position h.2 _)
  | .unary op operand, h, floor =>
      Reads.enclose fun _ hf => .unary hf (WellFormed.reads operand h _)
  | .binary op left right, h, floor =>
      Reads.enclose fun _ hf =>
        .binary hf (WellFormed.reads left h.1 _) (WellFormed.reads right h.2 _)
  | .conditional condition yes no, h, floor =>
      Reads.enclose fun _ hf =>
        .conditional hf (WellFormed.reads condition h.1 _) (WellFormed.reads yes h.2.1 _)
          (WellFormed.reads no h.2.2 _)
  | .call f arguments, h, floor => .call h.1 (AllWellFormed.readsAll arguments h.2)

@[inherit_doc WellFormed.reads]
theorem AllWellFormed.readsAll :
    (ts : List Tree) → AllWellFormed ts → ReadsAll ts (argumentLexemes ts)
  | [], _ => .nil
  | [t], h => .one (WellFormed.reads t h.1 0)
  | t :: u :: ts, h => .more (WellFormed.reads t h.1 0) (AllWellFormed.readsAll (u :: ts) h.2)

end

/-! ## No writing is shorter -/

/-- At a lower level a tree needs two parentheses less at most. -/
theorem length_lexemes_le (floor : Nat) (t : Tree) :
    (t.lexemes floor).length ≤ (t.lexemes 0).length + 2 := by
  cases t with
  | unary op operand =>
      simp only [lexemes, enclose_of_le (Nat.zero_le _)]
      exact length_enclose_le ..
  | binary op left right =>
      simp only [lexemes, enclose_of_le (Nat.zero_le _)]
      exact length_enclose_le ..
  | conditional condition yes no =>
      simp only [lexemes, enclose_of_le (Nat.zero_le _)]
      exact length_enclose_le ..
  | _ =>
      simp only [lexemes]
      exact Nat.le_add_right _ _

mutual

/-- Every writing of a tree has at least as many lexemes as `lexemes` gives it. -/
theorem Reads.length_lexemes_le {floor : Nat} {t : Tree} {ls : List Lexeme} :
    Reads floor t ls → (t.lexemes floor).length ≤ ls.length
  | .group h => by
      have hinner := h.length_lexemes_le
      have hfloor := Tree.length_lexemes_le floor t
      simp only [List.length_cons, List.length_append, List.length_nil]
      omega
  | .literal h => by
      simp only [lexemes, h, Option.toList_some]
      exact Nat.le_refl _
  | .root r => Nat.le_refl _
  | .member name h => by
      have htarget := h.length_lexemes_le
      simp only [lexemes, List.length_append]
      omega
  | .index h hposition => by
      have htarget := h.length_lexemes_le
      have hindex := hposition.length_lexemes_le
      simp only [lexemes, List.length_append, List.length_cons]
      omega
  | .unary hf h => by
      have hoperand := h.length_lexemes_le
      simp only [lexemes, enclose_of_le hf, List.length_cons]
      omega
  | .binary hf h hright => by
      have hl := h.length_lexemes_le
      have hr := hright.length_lexemes_le
      simp only [lexemes, enclose_of_le hf, List.length_append, List.length_cons]
      omega
  | .conditional hf h hyes hno => by
      have hc := h.length_lexemes_le
      have hy := hyes.length_lexemes_le
      have hn := hno.length_lexemes_le
      simp only [lexemes, enclose_of_le hf, List.length_append, List.length_cons]
      omega
  | .call _ h => by
      have harguments := h.length_lexemes_le
      simp only [lexemes, List.length_append, List.length_cons]
      omega

@[inherit_doc Reads.length_lexemes_le]
theorem ReadsAll.length_lexemes_le {ts : List Tree} {ls : List Lexeme} :
    ReadsAll ts ls → (argumentLexemes ts).length ≤ ls.length
  | .nil => Nat.le_refl _
  | .one h => h.length_lexemes_le
  | .more h hmore => by
      have hfirst := h.length_lexemes_le
      have hothers := hmore.length_lexemes_le
      simp only [argumentLexemes, List.length_append, List.length_cons] at hothers ⊢
      omega

end

end Tree

end ApiGateway.Expression
