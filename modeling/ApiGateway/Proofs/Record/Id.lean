import ApiGateway.Proofs.Json.Layouts
import ApiGateway.Record.Document

/-! # Identifiers read back

The text of an identifier is read as the identifier, and of a document that is a record a reader
that asks for the identifier alone gets the identifier of the record.
-/

set_option autoImplicit false

namespace ApiGateway

namespace Text

/-- The digits of a number in front of one more digit. -/
theorem hexNumber?_concat {cs : List Char} {n d : Nat} {c : Char} (hcs : hexNumber? cs = some n)
    (hc : hexValue? c = some d) : hexNumber? (cs ++ [c]) = some (16 * n + d) := by
  unfold hexNumber? at hcs ⊢
  split at hcs
  · cases hcs
  · rw [if_neg (by simp), List.foldl_append, hcs]
    show (do return 16 * (← some n) + (← hexValue? c)) = _
    rw [hc]
    rfl

end Text

namespace RecordId

theorem hexValue?_hexDigit {n : Nat} (h : n < 16) : Text.hexValue? (hexDigit n) = some n := by
  have hall : ∀ n < 16, Text.hexValue? (hexDigit n) = some n := by decide
  exact hall n h

theorem length_hexDigits (width n : Nat) : (hexDigits width n).length = width := by
  induction width generalizing n with
  | zero => rfl
  | succ width ih => rw [hexDigits, List.length_append, ih, List.length_singleton]

/-- Hexadecimal digits write the number as far as they reach. -/
theorem hexNumber?_hexDigits (width n : Nat) :
    Text.hexNumber? (hexDigits (width + 1) n) = some (n % Nat.pow 16 (width + 1)) := by
  induction width generalizing n with
  | zero =>
      have hdigit := hexValue?_hexDigit (Nat.mod_lt n (by decide : 0 < 16))
      show (do return 16 * (← some 0) + (← Text.hexValue? (hexDigit (n % 16)))) = _
      rw [hdigit]
      simp
  | succ width ih =>
      have hdigit := hexValue?_hexDigit (Nat.mod_lt n (by decide : 0 < 16))
      rw [hexDigits, Text.hexNumber?_concat (ih (n / 16)) hdigit]
      congr 1
      rw [Nat.pow_eq, Nat.pow_eq, Nat.pow_succ' (n := width + 1), Nat.mod_mul, Nat.add_comm]

/-- Five groups of digits are the digits again. -/
theorem groups_eq (ds : List Char) :
    ds.take 8 ++ (ds.drop 8).take 4 ++ (ds.drop 12).take 4 ++ (ds.drop 16).take 4 ++ ds.drop 20 =
      ds := by
  have hgroup : ∀ n m, (ds.drop n).take m ++ ds.drop (n + m) = ds.drop n := by
    intro n m
    rw [← List.drop_drop]
    exact List.take_append_drop m (ds.drop n)
  rw [List.append_assoc, hgroup 16 4, List.append_assoc, hgroup 12 4, List.append_assoc,
    hgroup 8 4, List.take_append_drop]

theorem length_hyphenated {ds : List Char} (h : ds.length = 32) :
    (hyphenated ds).length = 36 := by
  simp [hyphenated, h]

/-- The digits of a hyphenated text are those that it was made of. -/
theorem joined?_hyphenated {ds : List Char} (h : ds.length = 32) :
    joined? (hyphenated ds) = some ds := by
  have hdigits : (hyphenated ds).take 8 ++ ((hyphenated ds).drop 9).take 4 ++
      ((hyphenated ds).drop 14).take 4 ++ ((hyphenated ds).drop 19).take 4 ++
      (hyphenated ds).drop 24 = ds := by
    refine Eq.trans ?_ (groups_eq ds)
    simp [hyphenated, List.drop_append, List.drop_take, h]
  unfold joined?
  dsimp only
  rw [hdigits, if_pos rfl]

/-- The text of an identifier is read as the identifier. -/
theorem parse?_text (id : RecordId) : parse? id.text = some id := by
  have hlength := length_hexDigits 32 id.number
  have hnumber : Text.hexNumber? (hexDigits 32 id.number) = some id.number.val := by
    rw [hexNumber?_hexDigits 31, Nat.mod_eq_of_lt]
    exact Nat.lt_of_lt_of_le id.number.isLt (by decide)
  unfold parse? text
  dsimp only
  rw [String.toList_ofList, length_hyphenated hlength, if_neg (by decide), if_pos rfl,
    joined?_hyphenated hlength, Option.bind_some, ofDigits?, if_pos hlength, hnumber,
    Option.bind_some, dif_pos id.number.isLt]

end RecordId

/-! ## The identifier in a document -/

theorem RecordId.ofJson?_toJson (id : RecordId) : RecordId.ofJson? id.toJson = some id := by
  rw [RecordId.ofJson?, RecordId.toJson, Json.string?, Option.bind_some, RecordId.parse?_text]

namespace Record

/-- The fields of a document that tell the identifier, the provider and the inputs of its record. -/
theorem fields_of_ofJson? {j : Json} {r : Record} (h : ofJson? j = some r) :
    ∃ f, Json.Fields.ofJson? fieldNames j = some f ∧
      f.required "id" RecordId.ofJson? = some r.id ∧
      f.required "provider" Json.string? = some r.provider ∧
      f.defaulted "inputs" {} ReplayInputs.ofJson? = some r.inputs := by
  unfold ofJson? at h
  obtain ⟨f, hf, h⟩ := Option.bind_eq_some_iff.1 h
  obtain ⟨id, hid, h⟩ := Option.bind_eq_some_iff.1 h
  obtain ⟨provider, hprovider, h⟩ := Option.bind_eq_some_iff.1 h
  -- the fields in between do not matter
  iterate 13 obtain ⟨_, _, h⟩ := Option.bind_eq_some_iff.1 h
  obtain ⟨inputs, hinputs, h⟩ := Option.bind_eq_some_iff.1 h
  cases h
  exact ⟨f, hf, hid, hprovider, hinputs⟩

end Record

end ApiGateway
