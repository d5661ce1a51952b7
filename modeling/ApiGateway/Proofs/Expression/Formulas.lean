import ApiGateway.Expression.Evaluation
import ApiGateway.Proofs.Failing
import Mathlib.Data.Int.Notation
import Mathlib.Logic.Basic
import Mathlib.Tactic.ByContra

/-! # Formulas over integers

A formula applies `+`, `-`, `*`, `%` and the unary minus to operands that evaluate to signed 64-bit
integers. Its exact value is an integer without bounds (`Formula.value`), and its applications are
listed in the order in which they are evaluated. The evaluation gives the exact value unless an
application fails, and then it fails as the first one that does (`eval_accounted`).
-/

set_option autoImplicit false

namespace ApiGateway.Expression

open Binary64 (minInt64 maxInt64)

/-- The integer is a signed one of 64 bits. -/
def IsSigned (n : ℤ) : Prop := minInt64 ≤ n ∧ n ≤ maxInt64

instance : DecidablePred IsSigned := fun n => by unfold IsSigned; infer_instance

theorem toInt64?_of_isSigned {n : ℤ} (h : IsSigned n) : (Json.Number.int n).toInt64? = some n :=
  if_pos h

/-- An operator that is exact on integers. -/
inductive ExactOp where
  | add
  | subtract
  | multiply
  | remainder
  deriving DecidableEq

/-- The operator of expressions. -/
def ExactOp.strict : ExactOp → StrictOp
  | .add => .add
  | .subtract => .subtract
  | .multiply => .multiply
  | .remainder => .remainder

/-- The exact result. The quotient that belongs to a remainder is truncated. -/
def ExactOp.result (op : ExactOp) (a b : ℤ) : ℤ :=
  match op with
  | .add => a + b
  | .subtract => a - b
  | .multiply => a * b
  | .remainder => a.tmod b

/-! ## One application -/

/-- An operator with the integers that it is applied to. -/
inductive Application where
  | negate (a : ℤ)
  | binary (op : ExactOp) (a b : ℤ)
  deriving DecidableEq

namespace Application

/-- The exact result. -/
def result : Application → ℤ
  | negate a => -a
  | binary op a b => op.result a b

/-- The symbol of the operator. -/
def symbol : Application → String
  | negate _ => "-"
  | binary op _ _ => op.strict.symbol

/-- The remainder of a division by zero. -/
def DividesByZero : Application → Prop
  | binary .remainder _ b => b = 0
  | _ => False

/-- There is an exact result, and it is no signed integer of 64 bits; or the quotient that belongs
to a remainder is none. -/
def Overflows (a : Application) : Prop :=
  ¬a.DividesByZero ∧ (¬IsSigned a.result ∨ a = binary .remainder minInt64 (-1))

/-- How an application fails. -/
inductive FailsWith : Application → RuntimeError → Prop where
  | divisionByZero {a : Application} : a.DividesByZero → FailsWith a .divisionByZero
  | overflow {a : Application} : a.Overflows → FailsWith a (.overflow a.symbol)

/-- An application that does not fail. -/
def Succeeds (a : Application) : Prop := ∀ e, ¬a.FailsWith e

instance : DecidablePred DividesByZero := fun a => by
  unfold DividesByZero
  split <;> infer_instance

instance : DecidablePred Overflows := fun a => by unfold Overflows; infer_instance

/-- The error of an application that fails. -/
def fault? (a : Application) : Option RuntimeError :=
  if a.DividesByZero then some .divisionByZero
  else if a.Overflows then some (.overflow a.symbol) else none

theorem fault?_eq_some_iff {a : Application} {e : RuntimeError} :
    a.fault? = some e ↔ a.FailsWith e := by
  unfold fault?
  constructor
  · intro h
    split at h
    · rename_i hzero
      cases h
      exact .divisionByZero hzero
    · split at h
      · rename_i hoverflows
        cases h
        exact .overflow hoverflows
      · cases h
  · rintro (hzero | hoverflows)
    · rw [if_pos hzero]
    · rw [if_neg hoverflows.1, if_pos hoverflows]

theorem fault?_eq_none_iff {a : Application} : a.fault? = none ↔ a.Succeeds := by
  rw [Option.eq_none_iff_forall_ne_some]
  exact forall_congr' fun e => not_congr fault?_eq_some_iff

theorem Succeeds.isSigned {a : Application} (h : a.Succeeds) (hzero : ¬a.DividesByZero) :
    IsSigned a.result := by
  by_contra hresult
  exact h _ (.overflow ⟨hzero, Or.inl hresult⟩)

/-- What an application evaluates to. -/
def outcome (a : Application) : Outcome :=
  match a.fault? with
  | some e => .error e
  | none => .ok (.int a.result)

/-- Where no quotient is involved, an application is checked for its result alone. -/
theorem outcome_eq_checkedInt (a : Application) (h : ∀ m n, a ≠ binary .remainder m n) :
    a.outcome = checkedInt a.symbol a.result := by
  have hzero : ¬a.DividesByZero := by
    cases a with
    | negate m => exact not_false
    | binary op m n =>
        cases op with
        | remainder => exact absurd rfl (h m n)
        | _ => exact not_false
  have hoverflows : a.Overflows ↔ ¬IsSigned a.result := by
    unfold Overflows
    rw [and_iff_right hzero, or_iff_left (h _ _)]
  unfold outcome fault? checkedInt
  rw [if_neg hzero]
  by_cases hresult : IsSigned a.result
  · rw [if_neg (not_not.2 hresult ∘ hoverflows.1)]
    exact (if_pos hresult).symm
  · rw [if_pos (hoverflows.2 hresult)]
    exact (if_neg hresult).symm

end Application

/-- A remainder is smaller than the divisor. -/
theorem isSigned_tmod (a : ℤ) {b : ℤ} (hb : IsSigned b) (hzero : b ≠ 0) :
    IsSigned (a.tmod b) := by
  have habs := Int.natAbs_tmod a b
  have hlt : a.natAbs % b.natAbs < b.natAbs := Nat.mod_lt _ (by omega)
  unfold IsSigned minInt64 maxInt64 at *
  omega

/-- Negating an integer. -/
theorem negate_int {a : ℤ} (ha : IsSigned a) :
    negate (.int a) = (Application.negate a).outcome := by
  rw [Application.outcome_eq_checkedInt (.negate a) nofun]
  unfold negate Json.int
  dsimp only
  rw [toInt64?_of_isSigned ha]
  rfl

/-- Two integers never meet as floats. -/
theorem applyStrict_int (op : ExactOp) {a b : ℤ} (ha : IsSigned a) (hb : IsSigned b) :
    applyStrict op.strict (.int a) (.int b) = intArithmetic op.strict a b := by
  have hnumbers : ∀ op : StrictOp, op ≠ .divide →
      numberArithmetic op (.int a) (.int b) = intArithmetic op a b := by
    intro op hop
    unfold numberArithmetic
    rw [if_neg hop, toInt64?_of_isSigned ha, toInt64?_of_isSigned hb]
  cases op
  all_goals exact hnumbers _ (by decide)

/-- A remainder is never beyond the signed integers, though its quotient may be. -/
theorem overflows_remainder {a b : ℤ} (hb : IsSigned b) (hzero : b ≠ 0) :
    (Application.binary .remainder a b).Overflows ↔ a = minInt64 ∧ b = -1 := by
  have hresult : ¬¬IsSigned (Application.binary .remainder a b).result :=
    not_not.2 (isSigned_tmod a hb hzero)
  unfold Application.Overflows
  rw [or_iff_right hresult]
  simp [Application.DividesByZero, hzero]

/-- Applying an operator to two integers. -/
theorem applyStrict_eq_outcome (op : ExactOp) {a b : ℤ} (ha : IsSigned a) (hb : IsSigned b) :
    applyStrict op.strict (.int a) (.int b) = (Application.binary op a b).outcome := by
  rw [applyStrict_int op ha hb]
  cases op with
  | add => exact (Application.outcome_eq_checkedInt (.binary .add a b) nofun).symm
  | subtract => exact (Application.outcome_eq_checkedInt (.binary .subtract a b) nofun).symm
  | multiply => exact (Application.outcome_eq_checkedInt (.binary .multiply a b) nofun).symm
  | remainder =>
      show (if b = 0 then Except.error RuntimeError.divisionByZero
        else if a = minInt64 ∧ b = -1 then .error (.overflow "%")
        else .ok (Json.int (a.tmod b))) = _
      unfold Application.outcome Application.fault?
      by_cases hzero : b = 0
      · have hdivides : (Application.binary .remainder a b).DividesByZero := hzero
        rw [if_pos hzero, if_pos hdivides]
      · have hdivides : ¬(Application.binary .remainder a b).DividesByZero := hzero
        rw [if_neg hzero, if_neg hdivides]
        by_cases hquotient : a = minInt64 ∧ b = -1
        · rw [if_pos hquotient, if_pos ((overflows_remainder hb hzero).2 hquotient)]
          rfl
        · rw [if_neg hquotient, if_neg (hquotient ∘ (overflows_remainder hb hzero).1)]
          rfl

/-! ## Formulas -/

/-- A formula over operands, each with the integer that it stands for. -/
inductive Formula where
  | operand (tree : Tree) (value : ℤ)
  | negate (inner : Formula)
  | binary (op : ExactOp) (left right : Formula)

namespace Formula

/-- The expression. -/
def tree : Formula → Tree
  | operand t _ => t
  | negate f => .unary .negate f.tree
  | binary op f g => .binary (.strict op.strict) f.tree g.tree

/-- The exact value, an integer without bounds. -/
def value : Formula → ℤ
  | operand _ n => n
  | negate f => -f.value
  | binary op f g => op.result f.value g.value

/-- The applications of the operators to exact values, in the order of evaluation. -/
def applications : Formula → List Application
  | operand _ _ => []
  | negate f => f.applications ++ [.negate f.value]
  | binary op f g => f.applications ++ g.applications ++ [.binary op f.value g.value]

/-- The operands evaluate to signed integers, those that they stand for. -/
def Stands (c : Context) : Formula → Prop
  | operand t n => t.eval c = .ok (.int n) ∧ IsSigned n
  | negate f => f.Stands c
  | binary _ f g => f.Stands c ∧ g.Stands c

/-- The error of the first application that fails. -/
def fault? (f : Formula) : Option RuntimeError := f.applications.findSome? Application.fault?

variable {c : Context}

theorem fault?_negate (f : Formula) :
    (negate f).fault? = f.fault?.or (Application.negate f.value).fault? := by
  unfold fault?
  rw [applications, List.findSome?_append, List.findSome?_singleton]

theorem fault?_binary (op : ExactOp) (f g : Formula) :
    (binary op f g).fault? =
      (f.fault?.or g.fault?).or (Application.binary op f.value g.value).fault? := by
  unfold fault?
  rw [applications, List.findSome?_append, List.findSome?_append, List.findSome?_singleton]

/-- Where nothing fails, the exact value is a signed integer. -/
theorem Stands.isSigned_value {f : Formula} (h : f.Stands c) (hfault : f.fault? = none) :
    IsSigned f.value := by
  cases f with
  | operand t n => exact h.2
  | negate f =>
      rw [fault?_negate, Option.or_eq_none_iff] at hfault
      exact (Application.fault?_eq_none_iff.1 hfault.2).isSigned not_false
  | binary op f g =>
      rw [fault?_binary, Option.or_eq_none_iff] at hfault
      refine (Application.fault?_eq_none_iff.1 hfault.2).isSigned fun hzero => ?_
      exact Application.fault?_eq_none_iff.1 hfault.2 _ (.divisionByZero hzero)

/-- The evaluation of a formula, by induction on the formula: a part that fails ends it, and the
parts that do not fail give the exact integers that the operator is applied to. -/
theorem Stands.eval_eq {f : Formula} (h : f.Stands c) :
    f.tree.eval c = match f.fault? with
      | some e => .error e
      | none => .ok (.int f.value) := by
  induction f with
  | operand t n => exact h.1
  | negate f ih =>
      rw [tree, Tree.eval, ih h, fault?_negate]
      cases hf : f.fault? with
      | some e => rfl
      | none => exact negate_int (isSigned_value h hf)
  | binary op f g ihf ihg =>
      obtain ⟨hf, hg⟩ := h
      rw [tree, Tree.eval, ihf hf, ihg hg, fault?_binary]
      cases hfaultf : f.fault? with
      | some e => rfl
      | none =>
          cases hfaultg : g.fault? with
          | some e => rfl
          | none =>
              exact applyStrict_eq_outcome op (hf.isSigned_value hfaultf)
                (hg.isSigned_value hfaultg)

/-- **Integer formulas are exact or fail.** A formula evaluates to its exact value, a signed 64-bit
integer, just if all its applications succeed; else it fails, and just as the first application that
fails: with a division by zero if this is a remainder by zero, and with an overflow if its exact
result is no signed 64-bit integer or it is the remainder of the least one by -1. -/
theorem eval_accounted {f : Formula} (h : f.Stands c) :
    (∀ v, f.tree.eval c = .ok v ↔
      (∀ a ∈ f.applications, a.Succeeds) ∧ IsSigned f.value ∧ v = .int f.value) ∧
    ∀ e, f.tree.eval c = .error e ↔
      ∃ before a after, f.applications = before ++ a :: after ∧ (∀ b ∈ before, b.Succeeds) ∧
        a.FailsWith e := by
  have hnone : f.fault? = none ↔ ∀ a ∈ f.applications, a.Succeeds := by
    unfold fault?
    rw [List.findSome?_eq_none_iff]
    exact forall₂_congr fun _ _ => Application.fault?_eq_none_iff
  have hsome : ∀ e, f.fault? = some e ↔ ∃ before a after, f.applications = before ++ a :: after ∧
      (∀ b ∈ before, b.Succeeds) ∧ a.FailsWith e := by
    intro e
    unfold fault?
    simp only [List.findSome?_eq_some_iff, Application.fault?_eq_some_iff,
      Application.fault?_eq_none_iff, and_comm]
  rw [h.eval_eq]
  constructor
  · intro v
    rw [← hnone]
    cases hfault : f.fault? with
    | some e => simp
    | none => simp [h.isSigned_value hfault, eq_comm]
  · intro e
    rw [← hsome]
    cases f.fault? with
    | some e => simp
    | none => simp

/-! ### An overflow within, and none at the end -/

/-- `model % 10 + -model * 0`, where the model is an integer. -/
def cancelled (n : ℤ) : Formula :=
  .binary .add (.binary .remainder (.operand (.root .model) n) (.operand (.literal (.int 10)) 10))
    (.binary .multiply (.negate (.operand (.root .model) n)) (.operand (.literal (.int 0)) 0))

theorem eval_accounted_cancelled :
    (cancelled (-17)).Stands ⟨.int (-17), .null, none⟩ ∧
      (cancelled (-17)).tree.eval ⟨.int (-17), .null, none⟩ = .ok (.int (-7)) ∧
      (cancelled minInt64).Stands ⟨.int minInt64, .null, none⟩ ∧
      (cancelled minInt64).value = -8 ∧
      (cancelled minInt64).tree.eval ⟨.int minInt64, .null, none⟩ = .error (.overflow "-") := by
  have hstands : ∀ n, IsSigned n → (cancelled n).Stands ⟨.int n, .null, none⟩ := fun n hn =>
    ⟨⟨⟨rfl, hn⟩, rfl, by decide⟩, ⟨rfl, hn⟩, rfl, by decide⟩
  have hsucceeds : ∀ a : Application, a.fault? = none → a.Succeeds :=
    fun a => Application.fault?_eq_none_iff.1
  refine ⟨hstands _ (by decide), ?_, hstands _ (by decide), by decide, ?_⟩
  · refine ((eval_accounted (hstands (-17) (by decide))).1 _).2 ⟨fun a ha => ?_, by decide, rfl⟩
    refine hsucceeds a ?_
    revert a
    decide
  · refine ((eval_accounted (hstands minInt64 (by decide))).2 _).2
      ⟨[.binary .remainder minInt64 10], .negate minInt64, _, rfl, fun b hb => ?_, ?_⟩
    · refine hsucceeds b ?_
      rw [List.mem_singleton.1 hb]
      decide
    · exact .overflow (by decide)

end Formula

end ApiGateway.Expression
