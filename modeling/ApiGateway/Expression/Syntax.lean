import ApiGateway.Expression.Function
import ApiGateway.Json.Basic

/-! # Expression trees

A tree reads from three namespaces, the *roots*. Infix operators have a power; an operator with a
higher power binds more tightly. All infix operators associate to the left except `??` and the
conditional. `Tree.roots` lists the namespaces that a tree mentions.
-/

set_option autoImplicit false

namespace ApiGateway.Expression

/-- A namespace that an expression may read. -/
inductive Root where
  | model
  | config
  | response
  deriving DecidableEq, Repr

/-- The name of a root. -/
def Root.name : Root → String
  | .model => "model"
  | .config => "config"
  | .response => "response"

/-- The root with a name. -/
def Root.ofName? (name : String) : Option Root :=
  if name = "model" then some .model
  else if name = "config" then some .config
  else if name = "response" then some .response
  else none

/-- An operator in front of its operand. -/
inductive UnaryOp where
  | not
  | negate
  deriving DecidableEq, Repr

/-- An infix operator that takes the values of both operands. -/
inductive StrictOp where
  | add
  | subtract
  | multiply
  | divide
  | remainder
  | equal
  | notEqual
  | less
  | lessEqual
  | greater
  | greaterEqual
  deriving DecidableEq, Repr

/-- The symbol of an operator. -/
def StrictOp.symbol : StrictOp → String
  | .add => "+"
  | .subtract => "-"
  | .multiply => "*"
  | .divide => "/"
  | .remainder => "%"
  | .equal => "=="
  | .notEqual => "!="
  | .less => "<"
  | .lessEqual => "<="
  | .greater => ">"
  | .greaterEqual => ">="

/-- An infix operator. The last three look at their right operand only if they must. -/
inductive InfixOp where
  | strict (op : StrictOp)
  | and
  | or
  | coalesce
  deriving DecidableEq, Repr

namespace Power

/-- The power of the conditional, the lowest. -/
def conditional : Nat := 1
/-- The power of `??`. -/
def coalesce : Nat := 2
/-- The power of `||`. -/
def or : Nat := 3
/-- The power of `&&`. -/
def and : Nat := 4
/-- The power of `==` and `!=`. -/
def equality : Nat := 5
/-- The power of the comparisons. -/
def comparison : Nat := 6
/-- The power of `+` and `-`. -/
def additive : Nat := 7
/-- The power of `*`, `/` and `%`. -/
def multiplicative : Nat := 8
/-- The power of the operators in front of an operand, above all infix operators. -/
def unary : Nat := 9

end Power

/-- How tightly an infix operator binds. -/
def InfixOp.power : InfixOp → Nat
  | .coalesce => Power.coalesce
  | .or => Power.or
  | .and => Power.and
  | .strict .equal | .strict .notEqual => Power.equality
  | .strict .less | .strict .lessEqual | .strict .greater | .strict .greaterEqual =>
    Power.comparison
  | .strict .add | .strict .subtract => Power.additive
  | .strict .multiply | .strict .divide | .strict .remainder => Power.multiplicative

/-- Only operators above this power may stand in the right operand without parentheses. A
right-associative operator admits itself there. -/
def InfixOp.rightFloor : InfixOp → Nat
  | .coalesce => Power.coalesce - 1
  | op => op.power

/-- An expression tree. -/
inductive Tree where
  | literal (value : Json)
  | root (root : Root)
  | member (target : Tree) (name : String)
  | index (target position : Tree)
  | unary (op : UnaryOp) (operand : Tree)
  | binary (op : InfixOp) (left right : Tree)
  | conditional (condition yes no : Tree)
  | call (function : Function) (arguments : List Tree)
  deriving Inhabited

namespace Tree

mutual

/-- The tree mentions a root. -/
def mentions (r : Root) : Tree → Bool
  | .literal _ => false
  | .root s => s == r
  | .member target _ => mentions r target
  | .index target position => mentions r target || mentions r position
  | .unary _ operand => mentions r operand
  | .binary _ left right => mentions r left || mentions r right
  | .conditional condition yes no => mentions r condition || mentions r yes || mentions r no
  | .call _ arguments => mentionsAny r arguments

/-- Some of the trees mentions a root. -/
def mentionsAny (r : Root) : List Tree → Bool
  | [] => false
  | t :: ts => mentions r t || mentionsAny r ts

end

/-- The roots that a tree mentions. -/
def roots (t : Tree) : List Root := [Root.model, .config, .response].filter (t.mentions ·)

end Tree

end ApiGateway.Expression
