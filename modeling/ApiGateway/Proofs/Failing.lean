/-! # Steps that may fail

What the success of a computation says about its steps: of two steps one after another, of a step
whose result is changed, and of the same step for each element of a list.
-/

set_option autoImplicit false

namespace ApiGateway

variable {ε α β : Type}

theorem ok_bind (a : α) (f : α → Except ε β) : Except.ok a >>= f = f a := rfl

theorem error_bind (error : ε) (f : α → Except ε β) : Except.error error >>= f = .error error := rfl

theorem bind_eq_ok_iff {x : Except ε α} {f : α → Except ε β} {b : β} :
    x >>= f = .ok b ↔ ∃ a, x = .ok a ∧ f a = .ok b := by
  cases x with
  | error e =>
      constructor
      · intro h
        cases h
      · rintro ⟨a, ha, _⟩
        cases ha
  | ok a =>
      constructor
      · intro h
        exact ⟨a, rfl, h⟩
      · rintro ⟨a', ha, h⟩
        cases ha
        exact h

theorem exists_of_map_eq_ok {x : Except ε α} {f : α → β} {y : β}
    (h : x.map f = .ok y) : ∃ a, x = .ok a ∧ f a = y := by
  cases x with
  | error error => cases h
  | ok a => exact ⟨a, rfl, Except.ok.inj h⟩

theorem eq_error_of_map_eq_error {x : Except ε α} {f : α → β} {error : ε}
    (h : x.map f = .error error) : x = .error error := by
  cases x with
  | error e =>
      cases h
      rfl
  | ok a => cases h

theorem eq_ok_get {x : Except ε α} (h : x.toOption.isSome = true) :
    x = .ok (x.toOption.get h) := by
  cases x with
  | error e => cases h
  | ok a => rfl

theorem eq_ok_of_toOption {x : Except ε α} {a : α} (h : x.toOption = some a) : x = .ok a := by
  cases x with
  | error e => cases h
  | ok b => exact congrArg _ (Option.some.inj h)

theorem exists_error_of_toOption {x : Except ε α} (h : x.toOption = none) :
    ∃ error, x = .error error := by
  cases x with
  | error error => exact ⟨error, rfl⟩
  | ok a => cases h

/-- Passes over a list agree if they agree at each of its elements. -/
theorem mapM_congr {f g : α → Except ε β} {as : List α} (h : ∀ a ∈ as, f a = g a) :
    as.mapM f = as.mapM g := by
  induction as with
  | nil => rfl
  | cons a as ih =>
      rw [List.mapM_cons, List.mapM_cons, h a List.mem_cons_self,
        ih fun b hb => h b (List.mem_cons_of_mem a hb)]

/-- What a successful pass over a list gives comes from an element of the list. -/
theorem mem_of_mapM_ok {f : α → Except ε β} {as : List α} {bs : List β} (h : as.mapM f = .ok bs)
    {b : β} (hb : b ∈ bs) : ∃ a ∈ as, f a = .ok b := by
  induction as generalizing bs with
  | nil =>
      cases h
      cases hb
  | cons a as ih =>
      rw [List.mapM_cons, bind_eq_ok_iff] at h
      obtain ⟨b', ha, h⟩ := h
      rw [bind_eq_ok_iff] at h
      obtain ⟨bs', hrest, h⟩ := h
      cases h
      rcases List.mem_cons.1 hb with rfl | hb
      · exact ⟨a, List.mem_cons_self, ha⟩
      · obtain ⟨a', ha', hfa'⟩ := ih hrest hb
        exact ⟨a', List.mem_cons_of_mem _ ha', hfa'⟩

/-- A successful pass over a list succeeds at each of its elements. -/
theorem exists_of_mapM_ok {f : α → Except ε β} {as : List α} {bs : List β} (h : as.mapM f = .ok bs)
    {a : α} (ha : a ∈ as) : ∃ b ∈ bs, f a = .ok b := by
  induction as generalizing bs with
  | nil => cases ha
  | cons a' as ih =>
      rw [List.mapM_cons, bind_eq_ok_iff] at h
      obtain ⟨b, hb, h⟩ := h
      rw [bind_eq_ok_iff] at h
      obtain ⟨bs', hrest, h⟩ := h
      cases h
      rcases List.mem_cons.1 ha with rfl | ha
      · exact ⟨b, List.mem_cons_self, hb⟩
      · obtain ⟨b', hb', hfa⟩ := ih hrest ha
        exact ⟨b', List.mem_cons_of_mem _ hb', hfa⟩

/-- A pass over a list fails as one of its steps does. -/
theorem exists_of_mapM_error {f : α → Except ε β} {as : List α} {error : ε}
    (h : as.mapM f = .error error) : ∃ a ∈ as, f a = .error error := by
  induction as with
  | nil => cases h
  | cons a as ih =>
      rw [List.mapM_cons] at h
      cases hfirst : f a with
      | error e =>
          rw [hfirst] at h
          cases h
          exact ⟨a, List.mem_cons_self, hfirst⟩
      | ok b =>
          rw [hfirst] at h
          cases hrest : as.mapM f with
          | error e =>
              rw [hrest] at h
              cases h
              obtain ⟨a', ha', hfa⟩ := ih hrest
              exact ⟨a', List.mem_cons_of_mem a ha', hfa⟩
          | ok bs =>
              rw [hrest] at h
              cases h

/-- What holds between any two elements of a list holds between what a successful pass makes of
them. -/
theorem pairwise_of_mapM_ok {f : α → Except ε β} {R : α → α → Prop} {S : β → β → Prop}
    (hf : ∀ {a a' b b'}, f a = .ok b → f a' = .ok b' → R a a' → S b b') {as : List α} {bs : List β}
    (h : as.mapM f = .ok bs) (hR : as.Pairwise R) : bs.Pairwise S := by
  induction as generalizing bs with
  | nil =>
      cases h
      exact .nil
  | cons a as ih =>
      rw [List.mapM_cons, bind_eq_ok_iff] at h
      obtain ⟨b, hb, h⟩ := h
      rw [bind_eq_ok_iff] at h
      obtain ⟨bs', hrest, h⟩ := h
      cases h
      obtain ⟨hfirst, hbehind⟩ := List.pairwise_cons.1 hR
      refine List.pairwise_cons.2 ⟨fun b' hb' => ?_, ih hrest hbehind⟩
      obtain ⟨a', ha', hfa⟩ := mem_of_mapM_ok hrest hb'
      exact hf hb hfa (hfirst a' ha')

/-- A successful pass over a list keeps what each of its steps keeps. -/
theorem map_eq_of_mapM_ok {γ : Type} {f : α → Except ε β} {k : α → γ} {l : β → γ}
    (hf : ∀ a b, f a = .ok b → l b = k a) {as : List α} {bs : List β} (h : as.mapM f = .ok bs) :
    bs.map l = as.map k := by
  induction as generalizing bs with
  | nil =>
      cases h
      rfl
  | cons a as ih =>
      rw [List.mapM_cons, bind_eq_ok_iff] at h
      obtain ⟨b, ha, h⟩ := h
      rw [bind_eq_ok_iff] at h
      obtain ⟨bs', hrest, h⟩ := h
      cases h
      rw [List.map_cons, List.map_cons, hf a b ha, ih hrest]

end ApiGateway
