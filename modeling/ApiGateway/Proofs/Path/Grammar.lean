import ApiGateway.Path.Target
import ApiGateway.Proofs.Failing
import ApiGateway.Proofs.Text.Classes

/-! # The grammar of target paths

`Brackets` and `Group` say which texts a target path is made of, without a word on how they are
read: keys between points, and behind a key brackets around a number or nothing. A path is read just
if its groups are of this kind (`groupsSteps_eq_ok_iff`, `groups_of_parse`).
-/

set_option autoImplicit false

namespace ApiGateway

namespace Path

/-- Brackets one behind another, and the steps that they name. -/
inductive Brackets : List Char → List Segment → Prop where
  | nil : Brackets [] []
  | cons {inside rest : List Char} {step : Segment} {steps : List Segment}
      (unclosed : ']' ∉ inside) (step_eq : bracketStep (Text.trimChars inside) = .ok step)
      (behind : Brackets rest steps) : Brackets ('[' :: (inside ++ ']' :: rest)) (step :: steps)

/-- A key with brackets behind it, and the steps that they name. -/
inductive Group : List Char → List Segment → Prop where
  | mk {key behind : List Char} {steps : List Segment} (nonempty : key ≠ [])
      (unbracketed : ∀ c ∈ key, c ≠ '[' ∧ c ≠ ']') (brackets : Brackets behind steps) :
      Group (key ++ behind) (.key (String.ofList key) :: steps)

/-- Groups one behind another, and all steps that they name. -/
inductive Groups : List (List Char) → List Segment → Prop where
  | nil : Groups [] []
  | cons {group : List Char} {groups : List (List Char)} {steps more : List Segment}
      (first : Group group steps) (behind : Groups groups more) :
      Groups (group :: groups) (steps ++ more)

/-! ## Reading -/

/-- An open bracket ends at the first closing one. -/
theorem brackets_some_eq_ok_iff {cs done : List Char} {steps : List Segment} :
    brackets (some done) cs = .ok steps ↔
      ∃ inside rest step more, cs = inside ++ ']' :: rest ∧ ']' ∉ inside ∧
        bracketStep (Text.trimChars (done.reverse ++ inside)) = .ok step ∧
        brackets none rest = .ok more ∧ steps = step :: more := by
  induction cs generalizing done with
  | nil => simp [brackets]
  | cons c cs ih =>
      rw [brackets]
      split
      · rename_i hc
        subst hc
        rw [bind_eq_ok_iff]
        constructor
        · rintro ⟨step, hstep, h⟩
          obtain ⟨more, hmore, h⟩ := bind_eq_ok_iff.1 h
          cases h
          exact ⟨[], cs, step, more, rfl, List.not_mem_nil, by simpa using hstep, hmore, rfl⟩
        · rintro ⟨inside, rest, step, more, hcs, hopen, hstep, hmore, rfl⟩
          cases inside with
          | nil =>
              cases hcs
              exact ⟨step, by simpa using hstep, bind_eq_ok_iff.2 ⟨more, hmore, rfl⟩⟩
          | cons d inside =>
              -- the bracket would be closed by its first character
              obtain ⟨rfl, _⟩ := List.cons.inj hcs
              exact absurd List.mem_cons_self hopen
      · rename_i hc
        rw [ih]
        constructor
        · rintro ⟨inside, rest, step, more, rfl, hopen, hstep, hmore⟩
          exact ⟨c :: inside, rest, step, more, rfl, List.not_mem_cons_of_ne_of_not_mem (Ne.symm hc) hopen,
            by simpa using hstep, hmore⟩
        · rintro ⟨inside, rest, step, more, hcs, hopen, hstep, hmore⟩
          cases inside with
          | nil => exact absurd (List.cons.inj hcs).1 hc
          | cons d inside =>
              obtain ⟨rfl, rfl⟩ := List.cons.inj hcs
              exact ⟨inside, rest, step, more, rfl, fun h => hopen (List.mem_cons_of_mem c h),
                by simpa using hstep, hmore⟩

theorem brackets_eq_ok_iff {cs : List Char} {steps : List Segment} :
    brackets none cs = .ok steps ↔ Brackets cs steps := by
  constructor
  · intro h
    -- on the steps, since a bracket takes more than one character
    induction steps generalizing cs with
    | nil =>
        cases cs with
        | nil => exact .nil
        | cons c cs =>
            rw [brackets] at h
            split at h
            · obtain ⟨_, _, _, _, _, _, _, _, hsteps⟩ := brackets_some_eq_ok_iff.1 h
              cases hsteps
            · cases h
    | cons step steps ih =>
        cases cs with
        | nil => cases h
        | cons c cs =>
            rw [brackets] at h
            split at h
            · rename_i hc
              obtain ⟨inside, rest, _, _, rfl, hopen, hstep, hmore, hsteps⟩ :=
                brackets_some_eq_ok_iff.1 h
              cases hsteps
              subst hc
              exact .cons hopen hstep (ih hmore)
            · cases h
  · intro h
    induction h with
    | nil => rfl
    | cons hopen hstep _ ih =>
        rw [brackets, if_pos rfl, brackets_some_eq_ok_iff]
        exact ⟨_, _, _, _, rfl, hopen, hstep, ih, rfl⟩

theorem Brackets.head_eq {cs : List Char} {steps : List Segment} (h : Brackets cs steps) :
    ∀ c, cs.head? = some c → c = '[' := by
  cases h with
  | nil => exact fun _ hc => nomatch hc
  | cons => exact fun _ hc => (Option.some.inj hc).symm

theorem groupSteps_eq_ok_iff {group : List Char} {steps : List Segment} :
    groupSteps group = .ok steps ↔ Group group steps := by
  unfold groupSteps
  dsimp only
  constructor
  · intro h
    split at h
    · cases h
    · rename_i hkey
      split at h
      · cases h
      · rename_i hplain
        obtain ⟨more, hmore, h⟩ := bind_eq_ok_iff.1 h
        cases h
        have hbehind := brackets_eq_ok_iff.1 hmore
        refine (List.takeWhile_append_dropWhile (p := (· != '[')) (l := group)).subst
          (motive := (Group · _)) (.mk (by simpa using hkey) (fun c hc => ⟨?_, ?_⟩) hbehind)
        · simpa using List.all_eq_true.1 (List.all_takeWhile (p := (· != '[')) (l := group)) c hc
        · rintro rfl
          exact hplain (List.contains_iff_mem.2 hc)
  · rintro ⟨hkey, hplain, hbrackets⟩
    rename_i key behind steps
    have hspan : (key ++ behind).takeWhile (· != '[') = key ∧
        (key ++ behind).dropWhile (· != '[') = behind := by
      have hall : ∀ c ∈ key, (c != '[') = true := fun c hc => by simpa using (hplain c hc).1
      rw [List.takeWhile_append_of_pos hall, List.dropWhile_append_of_pos hall]
      cases behind with
      | nil => simp
      | cons c behind => simp [hbrackets.head_eq c rfl]
    rw [hspan.1, hspan.2, if_neg (by simpa using hkey),
      if_neg fun h => (hplain ']' (List.contains_iff_mem.1 h)).2 rfl,
      brackets_eq_ok_iff.2 hbrackets]
    rfl

theorem groupsSteps_eq_ok_iff {groups : List (List Char)} {segments : List Segment} :
    groupsSteps groups = .ok segments ↔ Groups groups segments := by
  constructor
  · intro h
    induction groups generalizing segments with
    | nil =>
        cases h
        exact .nil
    | cons group groups ih =>
        obtain ⟨steps, hsteps, h⟩ := bind_eq_ok_iff.1 h
        obtain ⟨more, hmore, h⟩ := bind_eq_ok_iff.1 h
        cases h
        exact .cons (groupSteps_eq_ok_iff.1 hsteps) (ih hmore)
  · intro h
    induction h with
    | nil => rfl
    | cons hgroup _ ih =>
        exact bind_eq_ok_iff.2 ⟨_, groupSteps_eq_ok_iff.2 hgroup, bind_eq_ok_iff.2 ⟨_, ih, rfl⟩⟩

/-- The source of a target is the trimmed text, and its groups name its segments. -/
theorem groups_of_parse {text : String} {t : Target} (h : Target.parse text = .ok t) :
    t.source = Text.trim text ∧ Groups (Text.splitOn '.' t.source.toList) t.segments := by
  unfold Target.parse at h
  dsimp only at h
  split at h
  · cases h
  · split at h
    · rename_i segments hsegments
      cases h
      exact ⟨rfl, groupsSteps_eq_ok_iff.1 hsegments⟩
    · cases h

end Path

end ApiGateway
