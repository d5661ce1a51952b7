import ApiGateway.Expression.Evaluation

/-! # What the value of an expression depends on

An expression sees its context only through the roots that it mentions. Two contexts that give
these roots the same values give the expression the same value, or the same error.
-/

set_option autoImplicit false

namespace ApiGateway.Expression

/-- The contexts agree on every root with a property. -/
def AgreeOn (P : Root → Prop) (c d : Context) : Prop := ∀ r, P r → c.value r = d.value r

theorem AgreeOn.mono {P Q : Root → Prop} {c d : Context} (h : AgreeOn Q c d)
    (hPQ : ∀ r, P r → Q r) : AgreeOn P c d :=
  fun r hr => h r (hPQ r hr)

namespace Tree

mutual

/-- The value of a tree depends only on the roots that it mentions. -/
theorem eval_congr {c d : Context} :
    (t : Tree) → AgreeOn (fun r => t.mentions r = true) c d → t.eval c = t.eval d
  | .literal _, _ => by rw [eval, eval]
  | .root r, h => by
      rw [eval, eval, h r (by simp [mentions])]
  | .member target _, h => by
      rw [eval, eval, eval_congr target h]
  | .index target position, h => by
      rw [eval, eval, eval_congr target (h.mono fun r hr => by simp [mentions, hr]),
        eval_congr position (h.mono fun r hr => by simp [mentions, hr])]
  | .unary .not operand, h => by
      rw [eval, eval, eval_congr operand h]
  | .unary .negate operand, h => by
      rw [eval, eval, eval_congr operand h]
  | .binary (.strict op) left right, h => by
      rw [eval, eval, eval_congr left (h.mono fun r hr => by simp [mentions, hr]),
        eval_congr right (h.mono fun r hr => by simp [mentions, hr])]
  | .binary .and left right, h => by
      rw [eval, eval, eval_congr left (h.mono fun r hr => by simp [mentions, hr]),
        eval_congr right (h.mono fun r hr => by simp [mentions, hr])]
  | .binary .or left right, h => by
      rw [eval, eval, eval_congr left (h.mono fun r hr => by simp [mentions, hr]),
        eval_congr right (h.mono fun r hr => by simp [mentions, hr])]
  | .binary .coalesce left right, h => by
      rw [eval, eval, eval_congr left (h.mono fun r hr => by simp [mentions, hr]),
        eval_congr right (h.mono fun r hr => by simp [mentions, hr])]
  | .conditional condition yes no, h => by
      rw [eval, eval, eval_congr condition (h.mono fun r hr => by simp [mentions, hr]),
        eval_congr yes (h.mono fun r hr => by simp [mentions, hr]),
        eval_congr no (h.mono fun r hr => by simp [mentions, hr])]
  | .call _ arguments, h => by
      rw [eval, eval, evalAll_congr arguments h]

theorem evalAll_congr {c d : Context} :
    (ts : List Tree) → AgreeOn (fun r => mentionsAny r ts = true) c d →
      evalAll c ts = evalAll d ts
  | [], _ => by rw [evalAll, evalAll]
  | t :: ts, h => by
      rw [evalAll, evalAll, eval_congr t (h.mono fun r hr => by simp [mentionsAny, hr]),
        evalAll_congr ts (h.mono fun r hr => by simp [mentionsAny, hr])]

end

theorem mem_roots {t : Tree} {r : Root} : r ∈ t.roots ↔ t.mentions r = true := by
  cases r <;> simp [roots]

end Tree

/-- An expression sees nothing of a root that it does not mention. -/
theorem eval_of_not_references {e : Expression} {r : Root} (h : e.references r = false)
    {c d : Context} (hagree : AgreeOn (· ≠ r) c d) : e.eval c = e.eval d := by
  apply e.tree.eval_congr
  intro s hs
  apply hagree
  rintro rfl
  have hmentions : e.tree.mentions s = false := h
  rw [hmentions] at hs
  cases hs

/-- An expression that does not mention the model has the same value for every model. -/
theorem eval_of_not_references_model {e : Expression} (h : e.references .model = false)
    {c d : Context} (hconfig : c.config = d.config) (hresponse : c.response = d.response) :
    e.eval c = e.eval d := by
  apply eval_of_not_references h
  intro r hr
  cases r with
  | model => exact absurd rfl hr
  | config => exact hconfig
  | response => exact congrArg (·.getD .null) hresponse

end ApiGateway.Expression
