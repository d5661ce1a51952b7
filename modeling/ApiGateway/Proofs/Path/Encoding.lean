import ApiGateway.Network.Host
import ApiGateway.Path.Template

/-! # Encoded values

An encoded value holds nothing but unreserved characters and percent triplets (`Encoded`), so that
it has no mark that a path or a template gives a meaning to (`Encoded.not_mem`). Its triplets
decode to the bytes of the value, from which the value can be told (`encodeValue_faithful`).
-/

set_option autoImplicit false

namespace ApiGateway.Path

open Network (percentDecode)

/-- ASCII letters and digits, the four marks that need no encoding, and percent triplets. -/
inductive Encoded : List Char → Prop where
  | nil : Encoded []
  | unreserved {c : Char} {cs : List Char}
      (kept : c.isAlphanum = true ∨ c ∈ ['-', '.', '_', '~']) (behind : Encoded cs) :
      Encoded (c :: cs)
  | triplet {high low : Char} {cs : List Char} (digit : (Text.hexValue? high).isSome = true)
      (digit' : (Text.hexValue? low).isSome = true) (behind : Encoded cs) :
      Encoded ('%' :: high :: low :: cs)

theorem isUnreserved_iff {c : Char} :
    isUnreserved c = true ↔ c.isAlphanum = true ∨ c ∈ ['-', '.', '_', '~'] := by
  simp [isUnreserved, or_assoc]

theorem hexValue?_upperHexDigit {n : Nat} (h : n < 16) :
    Text.hexValue? (upperHexDigit n) = some n := by
  have hall : ∀ n < 16, Text.hexValue? (upperHexDigit n) = some n := by decide
  exact hall n h

/-- The two digits of a byte. -/
theorem hexValue?_percentByte (b : UInt8) :
    Text.hexValue? (upperHexDigit (b.toNat / 16)) = some (b.toNat / 16) ∧
      Text.hexValue? (upperHexDigit (b.toNat % 16)) = some (b.toNat % 16) := by
  have hlt : b.toNat < 256 := UInt8.toNat_lt_size b
  exact ⟨hexValue?_upperHexDigit (by omega), hexValue?_upperHexDigit (by omega)⟩

/-! ## The shape of encoded texts -/

theorem Encoded.append {cs ds : List Char} (h : Encoded cs) (hds : Encoded ds) :
    Encoded (cs ++ ds) := by
  induction h with
  | nil => exact hds
  | unreserved kept _ ih => exact .unreserved kept ih
  | triplet digit digit' _ ih => exact .triplet digit digit' ih

theorem encoded_flatMap {α : Type} {f : α → List Char} (hf : ∀ a, Encoded (f a)) (as : List α) :
    Encoded (as.flatMap f) := by
  induction as with
  | nil => exact .nil
  | cons a as ih =>
      rw [List.flatMap_cons]
      exact (hf a).append ih

theorem encoded_percentByte (b : UInt8) : Encoded (percentByte b) := by
  obtain ⟨hhigh, hlow⟩ := hexValue?_percentByte b
  exact .triplet (by rw [hhigh]; rfl) (by rw [hlow]; rfl) .nil

theorem encoded_encodeChar (c : Char) : Encoded (encodeChar c) := by
  unfold encodeChar
  split
  · rename_i hc
    exact .unreserved (isUnreserved_iff.1 hc) .nil
  · exact encoded_flatMap encoded_percentByte _

theorem encoded_encodeValue (value : String) : Encoded (encodeValue value).toList := by
  rw [encodeValue, String.toList_ofList]
  exact encoded_flatMap encoded_encodeChar _

/-- A character that is not unreserved, no percent sign and no hexadecimal digit is in no encoded
text. -/
theorem Encoded.not_mem {cs : List Char} (h : Encoded cs) {c : Char}
    (hc : isUnreserved c = false) (hpercent : c ≠ '%') (hdigit : Text.hexValue? c = none) :
    c ∉ cs := by
  have hne : ∀ {d : Char}, (Text.hexValue? d).isSome = true → c ≠ d := by
    rintro d hd rfl
    simp [hdigit] at hd
  induction h with
  | nil => exact List.not_mem_nil
  | unreserved kept _ ih =>
      refine List.not_mem_cons_of_ne_of_not_mem ?_ ih
      rintro rfl
      simp [isUnreserved_iff.2 kept] at hc
  | triplet digit digit' _ ih =>
      simp [hpercent, hne digit, hne digit', ih]

/-! ## Decoding -/

theorem percentDecode_percentByte (b : UInt8) (rest : List Char) :
    percentDecode (percentByte b ++ rest) = b :: percentDecode rest := by
  obtain ⟨hhigh, hlow⟩ := hexValue?_percentByte b
  have hbyte : UInt8.ofNat (16 * (b.toNat / 16) + b.toNat % 16) = b := by
    rw [Nat.div_add_mod, UInt8.ofNat_toNat]
  show percentDecode
    ('%' :: upperHexDigit (b.toNat / 16) :: upperHexDigit (b.toNat % 16) :: rest) = _
  rw [percentDecode, hhigh, hlow]
  simp only [hbyte]

theorem percentDecode_percentBytes (bs : List UInt8) (rest : List Char) :
    percentDecode (bs.flatMap percentByte ++ rest) = bs ++ percentDecode rest := by
  induction bs with
  | nil => rfl
  | cons b bs ih =>
      rw [List.flatMap_cons, List.append_assoc, percentDecode_percentByte, ih, List.cons_append]

theorem percentDecode_of_ne {c : Char} (h : c ≠ '%') (rest : List Char) :
    percentDecode (c :: rest) = String.utf8EncodeChar c ++ percentDecode rest := by
  rw [percentDecode.eq_def]
  split
  · rename_i heq
    cases heq
  · rename_i heq
    exact absurd (List.cons.inj heq).1 h
  · rename_i heq
    obtain ⟨rfl, rfl⟩ := List.cons.inj heq
    rfl

theorem percentDecode_encodeChars (cs : List Char) :
    percentDecode (cs.flatMap encodeChar) = cs.flatMap String.utf8EncodeChar := by
  induction cs with
  | nil => rw [List.flatMap_nil, List.flatMap_nil, percentDecode]
  | cons c cs ih =>
      rw [List.flatMap_cons, List.flatMap_cons, ← ih]
      unfold encodeChar
      split
      · rename_i hc
        refine percentDecode_of_ne ?_ _
        rintro rfl
        exact absurd hc (by decide)
      · exact percentDecode_percentBytes _ _

theorem percentDecode_encodeValue (value : String) :
    (percentDecode (encodeValue value).toList).toByteArray = value.toUTF8 := by
  rw [encodeValue, String.toList_ofList, percentDecode_encodeChars, String.toUTF8_eq_toByteArray,
    ← String.utf8Encode_toList]
  rfl

/-- **Encoded values tell the value.** The encoded text of a value is made of ASCII letters, digits,
four marks and percent triplets, and decodes to the UTF-8 bytes of the value; so values that differ
have different encoded texts. -/
theorem encodeValue_faithful :
    (∀ value : String, Encoded (encodeValue value).toList ∧
      (percentDecode (encodeValue value).toList).toByteArray = value.toUTF8) ∧
    Function.Injective encodeValue := by
  refine ⟨fun value => ⟨encoded_encodeValue value, percentDecode_encodeValue value⟩, ?_⟩
  intro value value' heq
  have hbytes : value.toUTF8 = value'.toUTF8 := by
    rw [← percentDecode_encodeValue value, heq, percentDecode_encodeValue]
  exact String.toByteArray_inj.1 hbytes

example : encodeValue "50% à/1" = "50%25%20%C3%A0%2F1" := by decide

end ApiGateway.Path
