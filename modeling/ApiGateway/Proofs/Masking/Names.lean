import ApiGateway.Masking
import ApiGateway.Proofs.Headers
import ApiGateway.Proofs.Text.Classes

/-! # Sensitive names

A masker knows the names that it was given, in normal form, but for the blank ones among them
(`mem_fields_addFields`). Headers keep their names, so that masking the headers of one name is the
same as looking for the name among the masked headers (`named_maskHeaders`).
-/

set_option autoImplicit false

namespace ApiGateway

namespace Masker

theorem normalName_eq_empty_iff {name : String} :
    normalName name = "" ↔ Text.isAllBlank name = true := by
  have hchars : normalName name = "" ↔ Text.trimChars name.toList = [] := by
    rw [← String.toList_eq_nil_iff]
    simp [normalName, Text.asciiLower]
  rw [hchars, Text.trimChars_eq_nil_iff, Text.isAllBlank, List.all_eq_true]

variable {m : Masker}

/-! ## The names that a masker knows -/

theorem mem_fields_addField {name n : String} :
    n ∈ (m.addField name).fields ↔ n ∈ m.fields ∨ (n = normalName name ∧ n ≠ "") := by
  unfold addField
  dsimp only
  split
  · rename_i hempty
    have hname : normalName name = "" := String.isEmpty_iff.1 hempty
    rw [hname]
    simp
  · rename_i hnonempty
    have hname : normalName name ≠ "" := fun h => hnonempty (String.isEmpty_iff.2 h)
    rw [List.mem_cons]
    constructor
    · rintro (rfl | hn)
      · exact Or.inr ⟨rfl, hname⟩
      · exact Or.inl hn
    · rintro (hn | ⟨rfl, _⟩)
      · exact Or.inr hn
      · exact Or.inl rfl

theorem mem_fields_addFields {names : List String} {n : String} :
    n ∈ (m.addFields names).fields ↔
      n ∈ m.fields ∨ ∃ name ∈ names, n = normalName name ∧ n ≠ "" := by
  unfold addFields
  induction names generalizing m with
  | nil => simp
  | cons name names ih =>
      rw [List.foldl_cons, ih, mem_fields_addField]
      simp [or_assoc]

/-- What no step of a loop changes, the loop does not change. -/
theorem foldl_keeps {α β γ : Type} {step : β → α → β} {view : β → γ}
    (h : ∀ state item, view (step state item) = view state) (start : β) (items : List α) :
    view (items.foldl step start) = view start := by
  induction items generalizing start with
  | nil => rfl
  | cons item items ih => rw [List.foldl_cons, ih, h]

theorem token_addField (m : Masker) (name : String) : (m.addField name).token = m.token := by
  unfold addField
  dsimp only
  split <;> rfl

theorem fields_addSecret (m : Masker) (secret : String) :
    (m.addSecret secret).fields = m.fields := by
  unfold addSecret
  split <;> rfl

theorem token_addSecret (m : Masker) (secret : String) :
    (m.addSecret secret).token = m.token := by
  unfold addSecret
  split <;> rfl

theorem token_addFields (names : List String) : (m.addFields names).token = m.token :=
  foldl_keeps token_addField m names

theorem fields_addSecrets (secrets : List String) : (m.addSecrets secrets).fields = m.fields :=
  foldl_keeps fields_addSecret m secrets

theorem token_addSecrets (secrets : List String) : (m.addSecrets secrets).token = m.token :=
  foldl_keeps token_addSecret m secrets

theorem isSensitive_iff {name : String} : m.isSensitive name = true ↔ normalName name ∈ m.fields :=
  List.contains_iff_mem

/-! ## Headers -/

theorem named_maskHeaders (name : String) (headers : Headers) :
    (m.maskHeaders headers).named name = m.maskHeaders (headers.named name) := by
  unfold maskHeaders Headers.named
  rw [List.filter_map]
  rfl

end Masker

end ApiGateway
