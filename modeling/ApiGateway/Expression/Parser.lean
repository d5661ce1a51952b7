import ApiGateway.Expression.Token

/-! # From tokens to trees

The parser takes one token at a time. It keeps the work that waits for an operand on a stack of
frames: operators that wait for their right operand, and brackets that wait to be closed. When an
infix operator arrives, `settle` completes the waiting operators that bind at least as tightly;
when a bracket closes, it completes them all. Postfix marks, a field name or an index, apply to the
operand just read.

`Expression.parse` takes the text of an expression, with or without the wrapper `${{ … }}`.
-/

set_option autoImplicit false

namespace ApiGateway

namespace Expression

/-- What a closing mark would have closed. -/
inductive Closing where
  | group
  | index
  | arguments
  | condition
  deriving DecidableEq

/-- The mark that was due. -/
def Closing.mark : Closing → Mark
  | .group => .closeParen
  | .index => .closeBracket
  | .arguments => .closeParen
  | .condition => .colon

/-- What the mark was due for. -/
def Closing.purpose : Closing → String
  | .group => "to close group"
  | .index => "to close index"
  | .arguments => "to close argument list"
  | .condition => "in conditional expression"

/-- What is wrong with a text that is no expression. -/
inductive SyntaxFault where
  | empty
  | lexical (fault : LexicalFault)
  | unexpected (found : Lexeme)
  | unclosed (closing : Closing) (found : Lexeme)
  | missingFieldName
  | unknownRoot (name : String)
  | unknownFunction (name : String)
  | argumentCount (function : Function) (count : Nat)
  deriving DecidableEq

/-- How many arguments a function expects. -/
def Function.arityText (f : Function) : String :=
  match f.arity with
  | (least, none) => "at least " ++ Nat.repr least
  | (least, some most) =>
    if most = least then Nat.repr least else Nat.repr least ++ " to " ++ Nat.repr most

/-- The wording of a fault. -/
def SyntaxFault.message : SyntaxFault → String
  | .empty => "expression cannot be empty"
  | .lexical fault => fault.message
  | .unexpected found => "unexpected " ++ found.describe
  | .unclosed closing found =>
    "expected '" ++ closing.mark.text ++ "' " ++ closing.purpose ++ ", found " ++ found.describe
  | .missingFieldName => "expected a field name after '.'"
  | .unknownRoot name => "unknown root '" ++ name ++ "'; expected model, config or response"
  | .unknownFunction name => "unknown function '" ++ name ++ "'"
  | .argumentCount f count =>
    "function '" ++ f.name ++ "' expects " ++ f.arityText ++ " argument(s), got " ++ Nat.repr count

/-- A fault in the text `source`, reported at a byte offset. -/
structure SyntaxError where
  source : String
  offset : Nat
  fault : SyntaxFault
  deriving DecidableEq

/-- The full text of an error. -/
def SyntaxError.message (e : SyntaxError) : String :=
  "syntax error at offset " ++ Nat.repr e.offset ++ " in '" ++ e.source ++ "': " ++ e.fault.message

/-! ## The stack -/

/-- Work that waits for an operand. -/
inductive Frame where
  | unary (op : UnaryOp)
  | binary (op : InfixOp) (left : Tree)
  /-- A conditional that waits for its last branch. -/
  | otherwise (condition yes : Tree)
  /-- A conditional that waits for its first branch and a colon. -/
  | branch (condition : Tree)
  | group
  | index (target : Tree)
  /-- A call whose name stands at `offset`, with the arguments so far, last first. -/
  | arguments (function : Function) (offset : Nat) (done : List Tree)

/-- Completes the operators on top of the stack that bind an operand at least as tightly as an
operator of the given power does. -/
def settle (power : Nat) : List Frame → Tree → List Frame × Tree
  | .unary op :: stack, t =>
    if power ≤ Power.unary then settle power stack (.unary op t) else (.unary op :: stack, t)
  | .binary op left :: stack, t =>
    if power ≤ op.rightFloor then settle power stack (.binary op left t)
    else (.binary op left :: stack, t)
  | .otherwise condition yes :: stack, t =>
    if power ≤ Power.conditional - 1 then settle power stack (.conditional condition yes t)
    else (.otherwise condition yes :: stack, t)
  | stack, t => (stack, t)

/-- What the parser has just read. -/
inductive ParseState where
  /-- Nothing yet of the next operand; `mayClose` if a list of arguments has just been opened. -/
  | operand (stack : List Frame) (mayClose : Bool)
  /-- A name that may turn out to be a root or a function. -/
  | named (stack : List Frame) (name : String) (offset : Nat)
  /-- The point behind an operand. -/
  | field (stack : List Frame) (target : Tree)
  /-- An operand. -/
  | complete (stack : List Frame) (tree : Tree)
  /-- The whole expression. -/
  | finished (tree : Tree)

/-- The outcome of a step. -/
abbrev Step := Except (Located SyntaxFault) ParseState

/-- The infix operator that a mark stands for. -/
def Mark.infixOp? : Mark → Option InfixOp
  | .plus => some (.strict .add)
  | .minus => some (.strict .subtract)
  | .star => some (.strict .multiply)
  | .slash => some (.strict .divide)
  | .percent => some (.strict .remainder)
  | .equal => some (.strict .equal)
  | .notEqual => some (.strict .notEqual)
  | .less => some (.strict .less)
  | .lessEqual => some (.strict .lessEqual)
  | .greater => some (.strict .greater)
  | .greaterEqual => some (.strict .greaterEqual)
  | .and => some .and
  | .or => some .or
  | .coalesce => some .coalesce
  | _ => none

/-- A call with all its arguments; their number is checked. -/
def finishCall (stack : List Frame) (f : Function) (offset : Nat) (done : List Tree) : Step :=
  if f.accepts done.length then .ok (.complete stack (.call f done.reverse))
  else .error ⟨offset, .argumentCount f done.length⟩

/-- Closes the innermost bracket around a settled operand. -/
def close (stack : List Frame) (t : Tree) (token : Token) : Step :=
  match stack with
  | .group :: stack =>
    if token.lexeme = .mark .closeParen then .ok (.complete stack t)
    else .error ⟨token.offset, .unclosed .group token.lexeme⟩
  | .index target :: stack =>
    if token.lexeme = .mark .closeBracket then .ok (.complete stack (.index target t))
    else .error ⟨token.offset, .unclosed .index token.lexeme⟩
  | .branch condition :: stack =>
    if token.lexeme = .mark .colon then .ok (.operand (.otherwise condition t :: stack) false)
    else .error ⟨token.offset, .unclosed .condition token.lexeme⟩
  | .arguments f offset done :: stack =>
    if token.lexeme = .mark .comma then
      .ok (.operand (.arguments f offset (t :: done) :: stack) false)
    else if token.lexeme = .mark .closeParen then finishCall stack f offset (t :: done)
    else .error ⟨token.offset, .unclosed .arguments token.lexeme⟩
  | _ =>
    if stack.isEmpty ∧ token.lexeme = .stop then .ok (.finished t)
    else .error ⟨token.offset, .unexpected token.lexeme⟩

/-- The token behind an operand: a postfix mark, an infix operator, or the end of the operand. -/
def afterOperand (stack : List Frame) (t : Tree) (token : Token) : Step :=
  match token.lexeme with
  | .mark .dot => .ok (.field stack t)
  | .mark .openBracket => .ok (.operand (.index t :: stack) false)
  | .mark .question =>
    -- A condition binds more loosely than every operator, so that all of them are applied first.
    let (stack, t) := settle Power.conditional stack t
    .ok (.operand (.branch t :: stack) false)
  | .mark m =>
    match m.infixOp? with
    | some op =>
      let (stack, t) := settle op.power stack t
      .ok (.operand (.binary op t :: stack) false)
    | none =>
      let (stack, t) := settle 0 stack t
      close stack t token
  | _ =>
    let (stack, t) := settle 0 stack t
    close stack t token

/-- The value of a name that is a literal. -/
def literal? (name : String) : Option Json :=
  if name = "true" then some (.bool true)
  else if name = "false" then some (.bool false)
  else if name = "null" then some .null
  else none

/-- The first token of an operand. -/
def startOperand (stack : List Frame) (mayClose : Bool) (token : Token) : Step :=
  match token.lexeme, mayClose, stack with
  | .number n, _, _ => .ok (.complete stack (.literal (.num n)))
  | .text s, _, _ => .ok (.complete stack (.literal (.str s)))
  | .name name, _, _ =>
    match literal? name with
    | some v => .ok (.complete stack (.literal v))
    | none => .ok (.named stack name token.offset)
  | .mark .not, _, _ => .ok (.operand (.unary .not :: stack) false)
  | .mark .minus, _, _ => .ok (.operand (.unary .negate :: stack) false)
  | .mark .openParen, _, _ => .ok (.operand (.group :: stack) false)
  | .mark .closeParen, true, .arguments f offset done :: stack => finishCall stack f offset done
  | found, _, _ => .error ⟨token.offset, .unexpected found⟩

/-- Takes one token. -/
def ParseState.step : ParseState → Token → Step
  | .operand stack mayClose, token => startOperand stack mayClose token
  | .named stack name offset, token =>
    if token.lexeme = .mark .openParen then
      match Function.ofName? name with
      | some f => .ok (.operand (.arguments f offset [] :: stack) true)
      | none => .error ⟨offset, .unknownFunction name⟩
    else
      match Root.ofName? name with
      | some r => afterOperand stack (.root r) token
      | none => .error ⟨offset, .unknownRoot name⟩
  | .field stack target, token =>
    match token.lexeme with
    | .name name => .ok (.complete stack (.member target name))
    | _ => .error ⟨token.offset, .missingFieldName⟩
  | .complete stack t, token => afterOperand stack t token
  | .finished _, token => .error ⟨token.offset, .unexpected token.lexeme⟩

/-- Takes tokens one after another. -/
def ParseState.run : ParseState → List Token → Step
  | state, [] => .ok state
  | state, token :: tokens =>
    match state.step token with
    | .ok state => state.run tokens
    | .error e => .error e

/-- The tree of tokens that end with `stop`. -/
def Tree.ofTokens (tokens : List Token) : Except (Located SyntaxFault) Tree :=
  match (ParseState.operand [] false).run tokens with
  | .ok (.finished t) => .ok t
  | .ok _ => .error ⟨0, .unexpected .stop⟩
  | .error e => .error e

/-- The tree of a text. -/
def Tree.parse (text : String) : Except (Located SyntaxFault) Tree :=
  match Token.scan text with
  | .ok tokens => Tree.ofTokens tokens
  | .error fault => .error ⟨fault.offset, .lexical fault.value⟩

/-- The text without surrounding blanks and without the wrapper `${{ … }}`, whose end may be
missing. -/
def unwrap (text : String) : String :=
  match Text.trimChars text.toList with
  | '$' :: '\x7b' :: '\x7b' :: inner =>
    let inner := Text.trimChars inner
    let inner := match inner.reverse with
      | '\x7d' :: '\x7d' :: reversed => reversed.reverse
      | _ => inner
    String.ofList (Text.trimChars inner)
  | trimmed => String.ofList trimmed

end Expression

/-- An expression: its text, unwrapped and trimmed, and its tree. -/
structure Expression where
  source : String
  tree : Expression.Tree

namespace Expression

/-- Reads an expression, with or without its wrapper. -/
def parse (text : String) : Except SyntaxError Expression :=
  let source := unwrap text
  if source.isEmpty then .error ⟨text, 0, .empty⟩
  else
    match Tree.parse source with
    | .ok tree => .ok ⟨source, tree⟩
    | .error e => .error ⟨source, e.offset, e.value⟩

/-- The expression reads from a root. -/
def references (e : Expression) (r : Root) : Bool := e.tree.mentions r

end Expression

end ApiGateway
