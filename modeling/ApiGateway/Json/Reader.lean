import ApiGateway.Json.Token
import ApiGateway.Json.Written

/-! # Reading JSON text

The reader is a machine that takes one token at a time. Its state holds the open containers,
innermost first, and what may come next. `readFields` gives what a text has of a layout,
`readDocument` all of it with the members of objects as they are written, and `read?` the value
that the document stands for.
-/

set_option autoImplicit false

namespace ApiGateway.Json

/-- An open container with what it holds so far, last item first: an array, or an object that waits
for the value of a key. -/
inductive Frame where
  | arr (done : List Written)
  | obj (done : List (Option String × Written)) (key : Option String)

/-- What the reader waits for. -/
inductive ReadState where
  /-- A value; `mayClose` if the array just opened may also be closed. -/
  | value (stack : List Frame) (mayClose : Bool)
  /-- A key of the innermost object, whose members so far are `done`. -/
  | key (stack : List Frame) (done : List (Option String × Written)) (mayClose : Bool)
  /-- The colon behind a key. -/
  | colon (stack : List Frame) (done : List (Option String × Written)) (key : Option String)
  /-- What may follow the complete value `v`. -/
  | after (stack : List Frame) (v : Written)

/-- Takes one token. -/
def ReadState.step : ReadState → Token → Option ReadState
  | .value stack _, .null => some (.after stack .null)
  | .value stack _, .bool b => some (.after stack (.bool b))
  | .value stack _, .num n => some (.after stack (.num (some n)))
  | .value stack _, .vast => some (.after stack (.num none))
  | .value stack _, .str s => some (.after stack (.str (some s)))
  | .value stack _, .broken => some (.after stack (.str none))
  | .value stack _, .beginArr => some (.value (.arr [] :: stack) true)
  | .value stack _, .beginObj => some (.key stack [] true)
  | .value (.arr [] :: stack) true, .endArr => some (.after stack (.arr []))
  | .key stack done _, .str k => some (.colon stack done (some k))
  | .key stack done _, .broken => some (.colon stack done none)
  | .key stack _ true, .endObj => some (.after stack (.obj []))
  | .colon stack done k, .colon => some (.value (.obj done k :: stack) false)
  | .after (.arr done :: stack) v, .comma => some (.value (.arr (v :: done) :: stack) false)
  | .after (.arr done :: stack) v, .endArr => some (.after stack (.arr (v :: done).reverse))
  | .after (.obj done k :: stack) v, .comma => some (.key stack ((k, v) :: done) false)
  | .after (.obj done k :: stack) v, .endObj =>
    some (.after stack (.obj ((k, v) :: done).reverse))
  | _, _ => none

/-- Takes tokens one after another. -/
def ReadState.run : ReadState → List Token → Option ReadState
  | state, [] => some state
  | state, token :: tokens => (state.step token).bind (·.run tokens)

/-- The tree whose tokens these are. -/
def ofTokens? (tokens : List Token) : Option Written :=
  match (ReadState.value [] false).run tokens with
  | some (.after [] v) => some v
  | _ => none

/-- What a text has of a layout, with the members of its objects as written. -/
def readFields (layout : Layout) (text : String) : Option Json := do
  let v ← ofTokens? (← lex text.toList)
  v.fit? maxDepth layout

/-- The document that a text holds, with the members of its objects as written. -/
def readDocument (text : String) : Option Json := readFields .whole text

/-- The value that a text holds. -/
def read? (text : String) : Option Json := (readDocument text).map normalize

end ApiGateway.Json
