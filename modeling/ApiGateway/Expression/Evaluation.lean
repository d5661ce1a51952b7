import ApiGateway.Expression.Call
import ApiGateway.Expression.Parser

/-! # Evaluation

`Tree.eval` gives the value of a tree in a context, or the first error in evaluation order. The
logical operators, `??` and the conditional evaluate only the operands that they need.
-/

set_option autoImplicit false

namespace ApiGateway

namespace Expression

/-- The values of the three roots. The response exists only once there is one. -/
structure Context where
  model : Json
  config : Json
  response : Option Json := none
  deriving DecidableEq

/-- The value of a root; an absent response is null. -/
def Context.value (c : Context) : Root → Json
  | .model => c.model
  | .config => c.config
  | .response => c.response.getD .null

mutual

/-- The value of a tree. -/
def Tree.eval (c : Context) : Tree → Outcome
  | .literal v => .ok v
  | .root r => .ok (c.value r)
  | .member target name => do return memberOf (← target.eval c) name
  | .index target position => do
    let target ← target.eval c
    let position ← position.eval c
    return itemAt target position
  | .unary .not operand => do return .bool (!(← operand.eval c).isTruthy)
  | .unary .negate operand => do negate (← operand.eval c)
  | .binary (.strict op) left right => do
    let left ← left.eval c
    let right ← right.eval c
    applyStrict op left right
  | .binary .and left right => do
    if (← left.eval c).isTruthy then return .bool (← right.eval c).isTruthy else return .bool false
  | .binary .or left right => do
    if (← left.eval c).isTruthy then return .bool true else return .bool (← right.eval c).isTruthy
  | .binary .coalesce left right => do
    match ← left.eval c with
    | .null => right.eval c
    | v => return v
  | .conditional condition yes no => do
    if (← condition.eval c).isTruthy then yes.eval c else no.eval c
  | .call f arguments => do callFunction f (← Tree.evalAll c arguments)

/-- The values of trees, from the first to the last. -/
def Tree.evalAll (c : Context) : List Tree → Except RuntimeError (List Json)
  | [] => .ok []
  | t :: ts => do
    let v ← t.eval c
    let vs ← Tree.evalAll c ts
    return v :: vs

end

/-- The value of an expression. -/
def eval (e : Expression) (c : Context) : Outcome := e.tree.eval c

end Expression

end ApiGateway
