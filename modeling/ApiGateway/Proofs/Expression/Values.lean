import ApiGateway.Expression.Evaluation
import ApiGateway.Proofs.Expression.Printing
import ApiGateway.Proofs.Failing
import ApiGateway.Proofs.Json.Values

/-! # Values of expressions are normal

In a context of normal values, an expression that is read from a text has a normal value if it has
one (`givesNormal_eval_of_parse`): literals, operators and functions make scalars, and members,
items and arguments come from normal values.
-/

set_option autoImplicit false

namespace ApiGateway.Expression

/-- The roots of a context have normal values. -/
structure Context.Normal (c : Context) : Prop where
  model : c.model.Normal
  config : c.config.Normal
  response : ∀ v ∈ c.response, v.Normal

theorem Context.Normal.value {c : Context} (h : c.Normal) (r : Root) : (c.value r).Normal := by
  cases r with
  | model => exact h.model
  | config => exact h.config
  | response =>
      rw [Context.value]
      cases hresponse : c.response with
      | none => trivial
      | some v => exact h.response v hresponse

/-! ## Computations -/

variable {ε : Type}

/-- If the computation succeeds, its value is normal. -/
def GivesNormal (o : Except ε Json) : Prop := ∀ v, o = .ok v → v.Normal

namespace GivesNormal

theorem ok {v : Json} (h : v.Normal) : GivesNormal (.ok v : Except ε Json) := by
  intro w hw
  cases hw
  exact h

theorem error (e : ε) : GivesNormal (.error e : Except ε Json) := nofun

theorem bind {α : Type} {x : Except ε α} {f : α → Except ε Json}
    (h : ∀ a, x = .ok a → GivesNormal (f a)) : GivesNormal (x >>= f) := by
  intro v hv
  obtain ⟨a, ha, hv⟩ := bind_eq_ok_iff.1 hv
  exact h a ha v hv

theorem map {α : Type} {x : Except ε α} {f : α → Json} (h : ∀ a, (f a).Normal) :
    GivesNormal (x.map f) := by
  intro v hv
  obtain ⟨a, _, rfl⟩ := exists_of_map_eq_ok hv
  exact h a

end GivesNormal

/-! ## Operators -/

theorem normal_of_ofFloat? {x : Float} {v : Json} (h : ofFloat? x = some v) : v.Normal := by
  unfold ofFloat? at h
  split at h
  · split at h
    · split at h <;> cases h <;> trivial
    · cases h
      trivial
  · cases h

theorem givesNormal_ofFloat (x : Float) : GivesNormal (ofFloat x) := by
  unfold ofFloat
  split
  · exact .ok (normal_of_ofFloat? ‹_›)
  · exact .error _

theorem givesNormal_checkedInt (operation : String) (n : Int) :
    GivesNormal (checkedInt operation n) := by
  unfold checkedInt
  split
  · exact .ok trivial
  · exact .error _

theorem givesNormal_negate (v : Json) : GivesNormal (negate v) := by
  unfold negate
  split
  · exact .ok trivial
  · split
    · exact givesNormal_checkedInt _ _
    · exact givesNormal_ofFloat _
  · exact .error _

theorem givesNormal_intArithmetic (op : StrictOp) (a b : Int) :
    GivesNormal (intArithmetic op a b) := by
  unfold intArithmetic
  split
  · exact givesNormal_checkedInt _ _
  · exact givesNormal_checkedInt _ _
  · exact givesNormal_checkedInt _ _
  · split
    · exact .error _
    · split
      · exact .error _
      · exact .ok trivial

theorem givesNormal_floatArithmetic (op : StrictOp) (a b : Float) :
    GivesNormal (floatArithmetic op a b) := by
  unfold floatArithmetic
  split
  · exact givesNormal_ofFloat _
  · exact givesNormal_ofFloat _
  · exact givesNormal_ofFloat _
  all_goals
    split
    · exact .error _
    · exact givesNormal_ofFloat _

theorem givesNormal_arithmetic (op : StrictOp) (l r : Json) : GivesNormal (arithmetic op l r) := by
  unfold arithmetic
  split
  · exact .ok trivial
  · exact .ok trivial
  · unfold numberArithmetic
    split
    · exact givesNormal_intArithmetic _ _ _
    · exact givesNormal_floatArithmetic _ _ _
  · exact .error _

theorem givesNormal_applyStrict (op : StrictOp) (l r : Json) :
    GivesNormal (applyStrict op l r) := by
  cases op with
  | equal | notEqual => exact .ok trivial
  | less | lessEqual | greater | greaterEqual => exact .map fun _ => trivial
  | add =>
      unfold applyStrict
      dsimp only
      split
      · exact .ok trivial
      · exact givesNormal_arithmetic _ _ _
  | _ => exact givesNormal_arithmetic _ _ _

theorem normal_memberOf {v : Json} (h : v.Normal) (name : String) : (memberOf v name).Normal := by
  unfold memberOf
  cases hmember : v.get? name with
  | none => trivial
  | some w =>
      cases v with
      | obj members => exact Json.Normal.child? h (.member name) hmember
      | _ => cases hmember

theorem normal_itemAt {v : Json} (h : v.Normal) (position : Json) : (itemAt v position).Normal := by
  unfold itemAt
  split
  · rename_i items n
    cases hitem : n.toUInt64?.bind (items[·]?) with
    | none => trivial
    | some w =>
        obtain ⟨i, _, hi⟩ := Option.bind_eq_some_iff.1 hitem
        exact Json.Normal.child? h (.item i) hi
  · rename_i members key
    cases hmember : Json.find? key members with
    | none => trivial
    | some w => exact Json.Normal.child? h (.member key) hmember
  · trivial

/-! ## Functions -/

theorem givesNormal_mapText (f : String → String) (v : Json) : GivesNormal (mapText f v) := by
  unfold mapText
  split
  · exact .ok trivial
  · exact .map fun _ => trivial

theorem givesNormal_finiteResult (x : Float) : GivesNormal (finiteResult x) := by
  unfold finiteResult
  split
  · exact .ok (normal_of_ofFloat? ‹_›)
  · exact .error _

theorem givesNormal_mapNumber (f : Float → Float) (v : Json) : GivesNormal (mapNumber f v) := by
  unfold mapNumber
  split
  · exact .ok trivial
  · refine .bind fun x _ => ?_
    split
    · exact givesNormal_finiteResult _
    · exact .ok trivial

theorem givesNormal_substring (v start : Json) (length : Option Json) :
    GivesNormal (substring v start length) := by
  unfold substring
  split
  · exact .ok trivial
  · refine .bind fun text _ => .bind fun first _ => ?_
    dsimp only
    split
    · refine .bind fun _ h => ?_
      cases h
    · split
      · exact .ok trivial
      · refine .bind fun count _ => ?_
        split
        · refine .bind fun _ h => ?_
          cases h
        · exact .ok trivial

theorem givesNormal_replaceText (v pattern replacement : Json) :
    GivesNormal (replaceText v pattern replacement) := by
  unfold replaceText
  split
  · exact .ok trivial
  · refine .bind fun text _ => .bind fun pattern _ => ?_
    split
    · exact .ok trivial
    · exact .bind fun _ _ => .ok trivial

theorem givesNormal_lengthOf (v : Json) : GivesNormal (lengthOf v) := by
  cases v with
  | bool | num => exact .error _
  | _ => exact .ok trivial

theorem givesNormal_roundTo (v : Json) (places : Option Json) :
    GivesNormal (roundTo v places) := by
  unfold roundTo
  refine .bind fun x _ => ?_
  split
  · exact .ok trivial
  · cases places with
    | none | some => exact .bind fun _ _ => givesNormal_finiteResult _

theorem givesNormal_scaleBy (v exponent : Json) : GivesNormal (scaleBy v exponent) := by
  unfold scaleBy
  refine .bind fun x _ => ?_
  split
  · exact .ok trivial
  · exact .bind fun _ _ => givesNormal_finiteResult _

theorem givesNormal_toNumber (v : Json) : GivesNormal (toNumber v) := by
  unfold toNumber
  split
  · exact .ok trivial
  · exact .ok trivial
  · exact .ok trivial
  · dsimp only
    split
    · exact .ok trivial
    · split
      · rename_i w hw
        obtain ⟨x, _, hx⟩ := Option.bind_eq_some_iff.1 hw
        exact .ok (normal_of_ofFloat? hx)
      · exact .error _
  · exact .error _

theorem givesNormal_formatDate (v pattern : Json) : GivesNormal (formatDate v pattern) := by
  unfold formatDate
  split
  · exact .ok trivial
  · split
    · exact .error _
    · refine .bind fun pattern _ => ?_
      split
      · exact .ok trivial
      · exact .error _

theorem givesNormal_keyedHash (payload key : Json) : GivesNormal (keyedHash payload key) := by
  unfold keyedHash
  split
  · exact .error _
  · exact .bind fun _ _ => .bind fun _ _ => .ok trivial

/-- Only `coalesce` can give an array or an object, which is then one of its arguments. -/
theorem givesNormal_callPlain (f : Function) {arguments : List Json}
    (h : ∀ v ∈ arguments, v.Normal) : GivesNormal (callPlain f arguments) := by
  cases f with
  | upper | lower | trim => exact givesNormal_mapText _ _
  | floor | ceil | abs => exact givesNormal_mapNumber _ _
  | substring => exact givesNormal_substring _ _ _
  | replace => exact givesNormal_replaceText _ _ _
  | length => exact givesNormal_lengthOf _
  | concat | jsonEncode => exact .ok trivial
  | coalesce =>
      refine .ok ?_
      cases hfound : arguments.find? (· ≠ .null) with
      | none => trivial
      | some v => exact h v (List.mem_of_find?_eq_some hfound)
  | round => exact givesNormal_roundTo _ _
  | scale => exact givesNormal_scaleBy _ _
  | toNumber => exact givesNormal_toNumber _
  | toText =>
      refine .ok ?_
      split <;> trivial
  | dateFormat => exact givesNormal_formatDate _ _
  | sha256 | base64Encode => exact .map fun _ => trivial
  | hmacSha256 => exact givesNormal_keyedHash _ _

theorem givesNormal_callFunction (f : Function) {arguments : List Json}
    (h : ∀ v ∈ arguments, v.Normal) : GivesNormal (callFunction f arguments) := by
  unfold callFunction
  split
  · unfold absolute
    split
    · rename_i n hn
      split
      · rw [hn]
        exact .ok trivial
      · exact givesNormal_checkedInt _ _
    · split
      · exact .ok (givesNormal_mapNumber _ _ _ ‹_›)
      · exact .error _
  · split
    · exact .ok (givesNormal_callPlain f h _ ‹_›)
    · exact .error _

/-! ## Trees -/

namespace Tree

variable {c : Context}

mutual

/-- A well-formed tree has a normal value. -/
theorem givesNormal_eval (hc : c.Normal) : (t : Tree) → t.WellFormed → GivesNormal (t.eval c)
  | .literal v, h => by
      rw [eval]
      refine .ok ?_
      cases v with
      | arr items => cases h
      | obj members => cases h
      | _ => trivial
  | .root r, _ => by
      rw [eval]
      exact .ok (hc.value r)
  | .member target name, h => by
      rw [eval]
      exact .bind fun v hv => .ok (normal_memberOf (givesNormal_eval hc target h.1 v hv) name)
  | .index target position, h => by
      rw [eval]
      exact .bind fun v hv => .bind fun w _ =>
        .ok (normal_itemAt (givesNormal_eval hc target h.1 v hv) w)
  | .unary .not operand, _ => by
      rw [eval]
      exact .bind fun _ _ => .ok trivial
  | .unary .negate operand, _ => by
      rw [eval]
      exact .bind fun v _ => givesNormal_negate v
  | .binary (.strict op) left right, _ => by
      rw [eval]
      exact .bind fun v _ => .bind fun w _ => givesNormal_applyStrict op v w
  | .binary .and left right, _ => by
      rw [eval]
      refine .bind fun v _ => ?_
      split
      · exact .bind fun _ _ => .ok trivial
      · exact .ok trivial
  | .binary .or left right, _ => by
      rw [eval]
      refine .bind fun v _ => ?_
      split
      · exact .ok trivial
      · exact .bind fun _ _ => .ok trivial
  | .binary .coalesce left right, h => by
      rw [eval]
      refine .bind fun v hv => ?_
      split
      · exact givesNormal_eval hc right h.2
      · exact .ok (givesNormal_eval hc left h.1 _ hv)
  | .conditional condition yes no, h => by
      rw [eval]
      refine .bind fun v _ => ?_
      split
      · exact givesNormal_eval hc yes h.2.1
      · exact givesNormal_eval hc no h.2.2
  | .call f arguments, h => by
      rw [eval]
      exact .bind fun vs hvs => givesNormal_callFunction f (normal_evalAll hc arguments h.2 vs hvs)

theorem normal_evalAll (hc : c.Normal) : (ts : List Tree) → AllWellFormed ts →
    ∀ vs, evalAll c ts = .ok vs → ∀ v ∈ vs, v.Normal
  | [], _, vs, h => by
      cases h
      exact fun _ hv => nomatch hv
  | t :: ts, hts, vs, h => by
      rw [evalAll] at h
      obtain ⟨v, hv, h⟩ := bind_eq_ok_iff.1 h
      obtain ⟨rest, hrest, h⟩ := bind_eq_ok_iff.1 h
      cases h
      exact List.forall_mem_cons.2
        ⟨givesNormal_eval hc t hts.1 v hv, normal_evalAll hc ts hts.2 rest hrest⟩

end

end Tree

theorem givesNormal_eval_of_parse {text : String} {e : Expression}
    (h : Expression.parse text = .ok e) {c : Context} (hc : c.Normal) :
    GivesNormal (e.eval c) := by
  unfold Expression.parse at h
  dsimp only at h
  split at h
  · cases h
  · split at h
    · cases h
      exact Tree.givesNormal_eval hc _ (Tree.wellFormed_of_parse ‹_›)
    · cases h

end ApiGateway.Expression
