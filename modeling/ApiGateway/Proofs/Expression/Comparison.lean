import ApiGateway.Proofs.Binary64.Integers
import ApiGateway.Proofs.Expression.Formulas
import ApiGateway.Proofs.Json.Uniqueness

/-! # How integers are compared

Two signed 64-bit integers are compared by their values. As soon as one of two integers is beyond
them, both are compared by their values rounded to 53 bits, so that neighbours meet
(`compared_accounted`). Rounding keeps the order of integers, so that no integer is ever above a
greater one.
-/

set_option autoImplicit false

namespace ApiGateway

namespace Json

mutual

/-- The trees are the same but for their numbers, which are related. -/
inductive Agree (R : Number → Number → Prop) : Json → Json → Prop where
  | null : Agree R .null .null
  | bool {b : Bool} : Agree R (.bool b) (.bool b)
  | num {m n : Number} : R m n → Agree R (.num m) (.num n)
  | str {s : String} : Agree R (.str s) (.str s)
  | arr {items items' : List Json} : AgreeItems R items items' → Agree R (.arr items) (.arr items')
  | obj {members members' : List (String × Json)} :
      AgreeMembers R members members' → Agree R (.obj members) (.obj members')

@[inherit_doc Agree]
inductive AgreeItems (R : Number → Number → Prop) : List Json → List Json → Prop where
  | nil : AgreeItems R [] []
  | cons {v w : Json} {rest rest' : List Json} :
      Agree R v w → AgreeItems R rest rest' → AgreeItems R (v :: rest) (w :: rest')

@[inherit_doc Agree]
inductive AgreeMembers (R : Number → Number → Prop) :
    List (String × Json) → List (String × Json) → Prop where
  | nil : AgreeMembers R [] []
  | cons {k : String} {v w : Json} {rest rest' : List (String × Json)} :
      Agree R v w → AgreeMembers R rest rest' → AgreeMembers R ((k, v) :: rest) ((k, w) :: rest')

end

variable {R : Number → Number → Prop} {P : Number → Prop}

mutual

/-- Trees are the same in any case if related numbers are. -/
theorem Agree.eq (hR : ∀ m n, P m → P n → R m n → m = n) {v w : Json} :
    Agree R v w → v.EachNumber P → w.EachNumber P → v = w
  | .null, _, _ | .bool, _, _ | .str, _, _ => rfl
  | .num h, hv, hw => congrArg _ (hR _ _ hv hw h)
  | .arr h, hv, hw => congrArg _ (AgreeItems.eq hR h hv hw)
  | .obj h, hv, hw => congrArg _ (AgreeMembers.eq hR h hv hw)

theorem AgreeItems.eq (hR : ∀ m n, P m → P n → R m n → m = n) {items items' : List Json} :
    AgreeItems R items items' → EachNumberOfItems P items → EachNumberOfItems P items' →
      items = items'
  | .nil, _, _ => rfl
  | .cons hfirst hrest, hv, hw => by
      rw [hfirst.eq hR hv.1 hw.1, AgreeItems.eq hR hrest hv.2 hw.2]

theorem AgreeMembers.eq (hR : ∀ m n, P m → P n → R m n → m = n)
    {members members' : List (String × Json)} :
    AgreeMembers R members members' → EachNumberOfMembers P members →
      EachNumberOfMembers P members' → members = members'
  | .nil, _, _ => rfl
  | .cons hfirst hrest, hv, hw => by
      rw [hfirst.eq hR hv.1 hw.1, AgreeMembers.eq hR hrest hv.2 hw.2]

end

mutual

theorem Agree.refl (hR : ∀ n, P n → R n n) : (v : Json) → v.EachNumber P → Agree R v v
  | .null, _ => .null
  | .bool _, _ => .bool
  | .num n, hv => .num (hR n hv)
  | .str _, _ => .str
  | .arr items, hv => .arr (AgreeItems.refl hR items hv)
  | .obj members, hv => .obj (AgreeMembers.refl hR members hv)

theorem AgreeItems.refl (hR : ∀ n, P n → R n n) :
    (items : List Json) → EachNumberOfItems P items → AgreeItems R items items
  | [], _ => .nil
  | v :: items, hv => .cons (Agree.refl hR v hv.1) (AgreeItems.refl hR items hv.2)

theorem AgreeMembers.refl (hR : ∀ n, P n → R n n) :
    (members : List (String × Json)) → EachNumberOfMembers P members →
      AgreeMembers R members members
  | [], _ => .nil
  | (_, v) :: members, hv => .cons (Agree.refl hR v hv.1) (AgreeMembers.refl hR members hv.2)

end

mutual

theorem EachNumber.mono {Q : Number → Prop} (hQ : ∀ n, P n → Q n) :
    (v : Json) → v.EachNumber P → v.EachNumber Q
  | .null, _ | .bool _, _ | .str _, _ => trivial
  | .num n, hv => hQ n hv
  | .arr items, hv => EachNumberOfItems.mono hQ items hv
  | .obj members, hv => EachNumberOfMembers.mono hQ members hv

theorem EachNumberOfItems.mono {Q : Number → Prop} (hQ : ∀ n, P n → Q n) :
    (items : List Json) → EachNumberOfItems P items → EachNumberOfItems Q items
  | [], _ => trivial
  | v :: items, hv => ⟨EachNumber.mono hQ v hv.1, EachNumberOfItems.mono hQ items hv.2⟩

theorem EachNumberOfMembers.mono {Q : Number → Prop} (hQ : ∀ n, P n → Q n) :
    (members : List (String × Json)) → EachNumberOfMembers P members → EachNumberOfMembers Q members
  | [], _ => trivial
  | (_, v) :: members, hv => ⟨EachNumber.mono hQ v hv.1, EachNumberOfMembers.mono hQ members hv.2⟩

end

end Json

namespace Expression

open Binary64
open Json (Number Agree AgreeItems AgreeMembers)

/-! ## Two integers -/

/-- What two integers are compared by. -/
def compared (a b : ℤ) : ℤ × ℤ := if IsSigned a ∧ IsSigned b then (a, b) else (nearest a, nearest b)

/-- The integers count as equal. -/
def Meet (a b : ℤ) : Prop := (compared a b).1 = (compared a b).2

instance (a b : ℤ) : Decidable (Meet a b) := by unfold Meet; infer_instance

/-- The operators tell `a` and `b` apart as they would tell apart `p` and `q`. -/
structure ComparesAs (a b p q : ℤ) : Prop where
  equal : applyStrict .equal (.int a) (.int b) = .ok (.bool (decide (p = q)))
  notEqual : applyStrict .notEqual (.int a) (.int b) = .ok (.bool (decide (p ≠ q)))
  less : applyStrict .less (.int a) (.int b) = .ok (.bool (decide (p < q)))
  lessEqual : applyStrict .lessEqual (.int a) (.int b) = .ok (.bool (decide (p ≤ q)))
  greater : applyStrict .greater (.int a) (.int b) = .ok (.bool (decide (q < p)))
  greaterEqual : applyStrict .greaterEqual (.int a) (.int b) = .ok (.bool (decide (q ≤ p)))

variable {a b : ℤ}

theorem natAbs_lt_of_inRange (h : (Number.int a).InRange) : a.natAbs < 2 ^ 64 := by
  unfold Number.InRange minInt64 maxUInt64 at h
  omega

theorem compared_of_isSigned (ha : IsSigned a) (hb : IsSigned b) : compared a b = (a, b) :=
  if_pos ⟨ha, hb⟩

/-- Where one integer is not signed, numbers are looked at as floats. -/
theorem toInt64?_eq_none (h : ¬(IsSigned a ∧ IsSigned b)) :
    (Number.int a).toInt64? = none ∨ (Number.int b).toInt64? = none := by
  rcases not_and_or.1 h with ha | hb
  · exact Or.inl (if_neg ha)
  · exact Or.inr (if_neg hb)

theorem numbersEqual_int (ha : (Number.int a).InRange) (hb : (Number.int b).InRange) :
    numbersEqual (.int a) (.int b) = true ↔ Meet a b := by
  unfold Meet
  by_cases hsigned : IsSigned a ∧ IsSigned b
  · obtain ⟨hsa, hsb⟩ := hsigned
    unfold numbersEqual
    rw [toInt64?_of_isSigned hsa, toInt64?_of_isSigned hsb, compared_of_isSigned hsa hsb]
    exact beq_iff_eq
  · have hfloats : numbersEqual (.int a) (.int b) = (ofInt a == ofInt b) := by
      unfold numbersEqual
      rcases toInt64?_eq_none hsigned with hnone | hnone
      · rw [hnone]
        rfl
      · rw [hnone]
        cases (Number.int a).toInt64? <;> rfl
    rw [hfloats, compared, if_neg hsigned]
    exact ofInt_beq_ofInt (natAbs_lt_of_inRange ha) (natAbs_lt_of_inRange hb)

/-- Floats of integers are always in order. -/
theorem compareFloats_ofInt (ha : a.natAbs < 2 ^ 64) (hb : b.natAbs < 2 ^ 64) :
    compareFloats (ofInt a) (ofInt b) = some (compare (nearest a) (nearest b)) := by
  unfold compareFloats
  simp only [ofInt_lt_ofInt ha hb, ofInt_lt_ofInt hb ha, ofInt_beq_ofInt ha hb]
  rcases lt_trichotomy (nearest a) (nearest b) with hlt | heq | hlt
  · rw [if_pos hlt, compare_lt_iff_lt.2 hlt]
  · rw [if_neg (by omega), if_pos heq, compare_eq_iff_eq.2 heq]
  · rw [if_neg (by omega), if_neg (by omega), if_pos hlt, compare_gt_iff_gt.2 hlt]

theorem compareNumbers_int (ha : (Number.int a).InRange) (hb : (Number.int b).InRange) :
    compareNumbers (.int a) (.int b) = some (compare (compared a b).1 (compared a b).2) := by
  by_cases hsigned : IsSigned a ∧ IsSigned b
  · obtain ⟨hsa, hsb⟩ := hsigned
    unfold compareNumbers
    rw [toInt64?_of_isSigned hsa, toInt64?_of_isSigned hsb, compared_of_isSigned hsa hsb]
  · have hfloats : compareNumbers (.int a) (.int b) = compareFloats (ofInt a) (ofInt b) := by
      unfold compareNumbers
      rcases toInt64?_eq_none hsigned with hnone | hnone
      · rw [hnone]
        rfl
      · rw [hnone]
        cases (Number.int a).toInt64? <;> rfl
    rw [hfloats, compared, if_neg hsigned]
    exact compareFloats_ofInt (natAbs_lt_of_inRange ha) (natAbs_lt_of_inRange hb)

/-- The comparison operators read the order of two integers. -/
theorem holds_compare (p q : ℤ) :
    StrictOp.less.holds (compare p q) = decide (p < q) ∧
      StrictOp.lessEqual.holds (compare p q) = decide (p ≤ q) ∧
      StrictOp.greater.holds (compare p q) = decide (q < p) ∧
      StrictOp.greaterEqual.holds (compare p q) = decide (q ≤ p) := by
  rcases lt_trichotomy p q with hlt | rfl | hlt
  · rw [compare_lt_iff_lt.2 hlt]
    simp [StrictOp.holds, hlt, hlt.le]
  · rw [compare_eq_iff_eq.2 rfl]
    simp [StrictOp.holds]
  · rw [compare_gt_iff_gt.2 hlt]
    simp [StrictOp.holds, hlt, hlt.le]

/-- Integers are compared by what stands for them. -/
theorem comparesAs_compared (ha : (Number.int a).InRange) (hb : (Number.int b).InRange) :
    ComparesAs a b (compared a b).1 (compared a b).2 := by
  have hequal : valuesEqual (.int a) (.int b) = decide (Meet a b) := by
    rw [Bool.eq_iff_iff, decide_eq_true_iff]
    exact numbersEqual_int ha hb
  have horder : ∀ op, compareValues op (.int a) (.int b) =
      .ok (compare (compared a b).1 (compared a b).2) := by
    intro op
    unfold compareValues Json.int
    dsimp only
    rw [compareNumbers_int ha hb]
  obtain ⟨hless, hlessEqual, hgreater, hgreaterEqual⟩ :=
    holds_compare (compared a b).1 (compared a b).2
  constructor
  · show Except.ok (Json.bool (valuesEqual _ _)) = _
    rw [hequal]
    rfl
  · show Except.ok (Json.bool (!valuesEqual _ _)) = _
    rw [hequal, ← decide_not]
    rfl
  · show (compareValues .less _ _).map (fun o => Json.bool (StrictOp.less.holds o)) = _
    rw [horder, ← hless]
    rfl
  · show (compareValues .lessEqual _ _).map (fun o => Json.bool (StrictOp.lessEqual.holds o)) = _
    rw [horder, ← hlessEqual]
    rfl
  · show (compareValues .greater _ _).map (fun o => Json.bool (StrictOp.greater.holds o)) = _
    rw [horder, ← hgreater]
    rfl
  · show (compareValues .greaterEqual _ _).map
      (fun o => Json.bool (StrictOp.greaterEqual.holds o)) = _
    rw [horder, ← hgreaterEqual]
    rfl

/-! ## Trees of integers -/

/-- Two numbers are integers that count as equal. -/
def NumbersMeet (m n : Number) : Prop := ∃ a b, m = .int a ∧ n = .int b ∧ Meet a b

theorem numbersEqual_iff {m n : Number} (hm : m.IsInteger) (hn : n.IsInteger) :
    numbersEqual m n = true ↔ NumbersMeet m n := by
  obtain ⟨a, rfl, ha⟩ := hm
  obtain ⟨b, rfl, hb⟩ := hn
  rw [numbersEqual_int ha hb]
  constructor
  · intro h
    exact ⟨a, b, rfl, rfl, h⟩
  · rintro ⟨_, _, hm, hn, h⟩
    cases hm
    cases hn
    exact h

mutual

/-- Trees of integers are equal just if they are the same but for integers that count as equal. -/
theorem valuesEqual_iff : (v w : Json) → v.EachNumber Number.IsInteger →
    w.EachNumber Number.IsInteger → (valuesEqual v w = true ↔ Agree NumbersMeet v w)
  | .null, w, _, _ => by
      cases w with
      | null => exact ⟨fun _ => .null, fun _ => rfl⟩
      | _ => exact ⟨nofun, nofun⟩
  | .bool a, w, _, _ => by
      cases w with
      | bool b =>
          rw [valuesEqual, beq_iff_eq]
          constructor
          · rintro rfl
            exact .bool
          · rintro ⟨⟩
            rfl
      | _ => exact ⟨nofun, nofun⟩
  | .num m, w, hv, hw => by
      cases w with
      | num n =>
          rw [valuesEqual, numbersEqual_iff hv hw]
          constructor
          · exact .num
          · rintro ⟨⟩
            assumption
      | _ => exact ⟨nofun, nofun⟩
  | .str s, w, _, _ => by
      cases w with
      | str t =>
          rw [valuesEqual, beq_iff_eq]
          constructor
          · rintro rfl
            exact .str
          · rintro ⟨⟩
            rfl
      | _ => exact ⟨nofun, nofun⟩
  | .arr items, w, hv, hw => by
      cases w with
      | arr items' =>
          rw [valuesEqual, itemsEqual_iff items items' hv hw]
          constructor
          · exact .arr
          · rintro ⟨⟩
            assumption
      | _ => exact ⟨nofun, nofun⟩
  | .obj members, w, hv, hw => by
      cases w with
      | obj members' =>
          rw [valuesEqual, membersEqual_iff members members' hv hw]
          constructor
          · exact .obj
          · rintro ⟨⟩
            assumption
      | _ => exact ⟨nofun, nofun⟩

theorem itemsEqual_iff : (items items' : List Json) →
    Json.EachNumberOfItems Number.IsInteger items → Json.EachNumberOfItems Number.IsInteger items' →
    (itemsEqual items items' = true ↔ AgreeItems NumbersMeet items items')
  | [], [], _, _ => ⟨fun _ => .nil, fun _ => rfl⟩
  | [], _ :: _, _, _ => ⟨nofun, nofun⟩
  | _ :: _, [], _, _ => ⟨nofun, nofun⟩
  | v :: items, w :: items', hv, hw => by
      rw [itemsEqual, Bool.and_eq_true, valuesEqual_iff v w hv.1 hw.1,
        itemsEqual_iff items items' hv.2 hw.2]
      constructor
      · rintro ⟨hfirst, hrest⟩
        exact .cons hfirst hrest
      · rintro ⟨⟩
        exact ⟨‹_›, ‹_›⟩

theorem membersEqual_iff : (members members' : List (String × Json)) →
    Json.EachNumberOfMembers Number.IsInteger members →
    Json.EachNumberOfMembers Number.IsInteger members' →
    (membersEqual members members' = true ↔ AgreeMembers NumbersMeet members members')
  | [], [], _, _ => ⟨fun _ => .nil, fun _ => rfl⟩
  | [], _ :: _, _, _ => ⟨nofun, nofun⟩
  | _ :: _, [], _, _ => ⟨nofun, nofun⟩
  | (k, v) :: members, (l, w) :: members', hv, hw => by
      rw [membersEqual, Bool.and_eq_true, Bool.and_eq_true, beq_iff_eq,
        valuesEqual_iff v w hv.1 hw.1, membersEqual_iff members members' hv.2 hw.2]
      constructor
      · rintro ⟨⟨rfl, hfirst⟩, hrest⟩
        exact .cons hfirst hrest
      · rintro ⟨⟩
        exact ⟨⟨rfl, ‹_›⟩, ‹_›⟩

end

/-- The number is a signed integer of 64 bits. -/
def IsSignedNumber (n : Number) : Prop := ∃ i, n = .int i ∧ IsSigned i

theorem IsSignedNumber.isInteger {n : Number} (h : IsSignedNumber n) : n.IsInteger := by
  obtain ⟨i, rfl, hi⟩ := h
  refine ⟨i, rfl, ?_⟩
  unfold Number.InRange
  unfold IsSigned minInt64 maxInt64 at hi
  unfold minInt64 maxUInt64
  omega

theorem numbersMeet_iff_of_signed {m n : Number} (hm : IsSignedNumber m) (hn : IsSignedNumber n) :
    NumbersMeet m n ↔ m = n := by
  obtain ⟨a, rfl, ha⟩ := hm
  obtain ⟨b, rfl, hb⟩ := hn
  have hmeet : Meet a b ↔ a = b := by rw [Meet, compared_of_isSigned ha hb]
  constructor
  · rintro ⟨_, _, hm, hn, h⟩
    cases hm
    cases hn
    exact congrArg _ (hmeet.1 h)
  · intro h
    cases h
    exact ⟨a, a, rfl, rfl, hmeet.2 rfl⟩

theorem equal_eq_true_iff {v w : Json} :
    applyStrict .equal v w = .ok (.bool true) ↔ valuesEqual v w = true := by
  show Except.ok (Json.bool (valuesEqual v w)) = _ ↔ _
  rw [Except.ok.injEq, Json.bool.injEq]

/-- **How integers are compared.** Every comparison of two integers goes by the integers themselves
if both are signed, and by their values rounded to 53 bits if one of them is not, where no integer
is above a greater one. Trees of integers are equal just if they are the same but for integers that
count as equal, and trees of signed integers just if they are the same. -/
theorem compared_accounted (a b : ℤ) (v w : Json) :
    ((Number.int a).InRange → (Number.int b).InRange →
      ComparesAs a b (compared a b).1 (compared a b).2 ∧
        (a ≤ b → (compared a b).1 ≤ (compared a b).2)) ∧
    (v.EachNumber Number.IsInteger → w.EachNumber Number.IsInteger →
      (applyStrict .equal v w = .ok (.bool true) ↔ Agree NumbersMeet v w)) ∧
    (v.EachNumber IsSignedNumber → w.EachNumber IsSignedNumber →
      (applyStrict .equal v w = .ok (.bool true) ↔ v = w)) := by
  refine ⟨fun ha hb => ⟨comparesAs_compared ha hb, fun hle => ?_⟩, fun hv hw => ?_,
    fun hv hw => ?_⟩
  · unfold compared
    split
    · exact hle
    · exact nearest_mono hle
  · rw [equal_eq_true_iff]
    exact valuesEqual_iff v w hv hw
  · have hinteger : ∀ n, IsSignedNumber n → n.IsInteger := fun n => IsSignedNumber.isInteger
    rw [equal_eq_true_iff, valuesEqual_iff v w (.mono hinteger v hv) (.mono hinteger w hw)]
    constructor
    · intro h
      exact h.eq (fun m n hm hn => (numbersMeet_iff_of_signed hm hn).1) hv hw
    · rintro rfl
      exact .refl (fun n hn => (numbersMeet_iff_of_signed hn hn).2 rfl) v hv

/-! ### The greatest signed integer and the one above it -/

theorem compared_accounted_neighbours :
    ComparesAs maxInt64 (maxInt64 + 1) 0x8000000000000000 0x8000000000000000 ∧
      (applyStrict .equal (.arr [.int maxInt64]) (.arr [.int (maxInt64 + 1)]) = .ok (.bool true) ↔
        Agree NumbersMeet (.arr [.int maxInt64]) (.arr [.int (maxInt64 + 1)])) ∧
      applyStrict .equal (.arr [.int maxInt64]) (.arr [.int (maxInt64 - 1)]) ≠ .ok (.bool true) := by
  have hsigned : ∀ n, IsSigned n → (Json.arr [.int n]).EachNumber IsSignedNumber :=
    fun n hn => ⟨⟨n, rfl, hn⟩, trivial⟩
  have hinteger : ∀ n, (Number.int n).InRange → (Json.arr [.int n]).EachNumber Number.IsInteger :=
    fun n hn => ⟨⟨n, rfl, hn⟩, trivial⟩
  obtain ⟨hpair, htrees, -⟩ := compared_accounted maxInt64 (maxInt64 + 1) (.arr [.int maxInt64])
    (.arr [.int (maxInt64 + 1)])
  refine ⟨?_, htrees (hinteger _ (by decide)) (hinteger _ (by decide)), ?_⟩
  · have hcompared :
        compared maxInt64 (maxInt64 + 1) = (0x8000000000000000, 0x8000000000000000) := by
      decide +kernel
    have hpair := (hpair (by decide) (by decide)).1
    rwa [hcompared] at hpair
  · rw [Ne, (compared_accounted 0 0 _ _).2.2 (hsigned _ (by decide)) (hsigned _ (by decide))]
    decide

/-- The two greatest integers count as equal, and equality is not transitive: an integer beyond the
signed ones is equal to each of two that differ. -/
theorem equal_meets_neighbours :
    (Number.int maxUInt64).InRange ∧ (Number.int (maxUInt64 - 1)).InRange ∧
      applyStrict .equal (.int maxUInt64) (.int (maxUInt64 - 1)) = .ok (.bool true) ∧
      applyStrict .less (.int (maxUInt64 - 1)) (.int maxUInt64) = .ok (.bool false) ∧
      applyStrict .equal (.int (maxInt64 - 1)) (.int (maxInt64 + 1)) = .ok (.bool true) ∧
      applyStrict .equal (.int (maxInt64 + 1)) (.int maxInt64) = .ok (.bool true) ∧
      applyStrict .equal (.int (maxInt64 - 1)) (.int maxInt64) = .ok (.bool false) := by
  decide +kernel

end Expression

end ApiGateway
