import ApiGateway.Proofs.Json.Integers
import ApiGateway.Proofs.Path.Grammar
import ApiGateway.Proofs.Text.Classes
import Mathlib.Data.List.Infix

/-! # Spellings of a target path

Several texts name one place: `a[0]`, `a[ 0 ]` and `a[00]` have the same segments. `tidy` takes the
blanks and the leading zeros out of the brackets of a path, and two paths that are read have the
same segments just if they are tidied to the same text (`segments_eq_iff`). A path with a pair of
empty brackets in its text appends (`appends_of_occursIn`); one that appends may also have blanks
between its brackets.
-/

set_option autoImplicit false

namespace ApiGateway

namespace Text

theorem occursIn_iff {pattern cs : List Char} : occursIn pattern cs = true ↔ pattern <:+: cs := by
  induction cs with
  | nil => simp [occursIn]
  | cons c cs ih => rw [occursIn, Bool.or_eq_true, ih, List.isPrefixOf_iff_prefix,
      List.infix_cons_iff]

/-- A word does not begin in a part that lacks its first character. -/
theorem infix_of_infix_append_of_head {c : Char} {word front cs : List Char} (hc : c ∉ front)
    (h : c :: word <:+: front ++ cs) : c :: word <:+: cs := by
  induction front with
  | nil => exact h
  | cons d front ih =>
      rw [List.cons_append, List.infix_cons_iff] at h
      rcases h with h | h
      · exact absurd (List.cons_prefix_cons.1 h).1 (List.ne_of_not_mem_cons hc)
      · exact ih (List.not_mem_of_not_mem_cons hc) h

/-- A word that begins and ends with visible characters stands in a text just if it does once the
text is trimmed. -/
theorem infix_trimChars {c d : Char} {cs : List Char} (hc : isBlank c = false)
    (hd : isBlank d = false) (h : [c, d] <:+: cs) : [c, d] <:+: trimChars cs := by
  obtain ⟨front, back, hcs, hfront, hback⟩ := exists_trimChars cs
  have hnot : ∀ {e : Char} {blanks : List Char}, isBlank e = false →
      (∀ c ∈ blanks, isBlank c = true) → e ∉ blanks :=
    fun he hall hmem => by simp [hall _ hmem] at he
  rw [hcs, List.append_assoc] at h
  have hinner := List.reverse_infix.2 (infix_of_infix_append_of_head (hnot hc hfront) h)
  rw [List.reverse_append] at hinner
  have htext := infix_of_infix_append_of_head
    (hnot hd fun e he => hback e (List.mem_reverse.1 he)) hinner
  exact List.reverse_infix.1 htext

end Text

namespace Path

/-- The text of a step: a point and a key, or brackets around an index or nothing. -/
def Segment.spelling : Segment → List Char
  | .key name => '.' :: name.toList
  | .index position => '[' :: (Decimal.digitsOf position ++ [']'])
  | .append => ['[', ']']

/-- An index without blanks around it and without leading zeros. -/
def tidyIndex (inside : List Char) : List Char :=
  let digits := Text.trimChars inside
  if digits.isEmpty then [] else Decimal.digitsOf (Decimal.ofDigits digits)

/-- A text with tidy brackets. Inside a bracket, `inside` holds its characters so far, last
first. -/
def tidyFrom (inside : Option (List Char)) : List Char → List Char
  | [] => (inside.getD []).reverse
  | c :: rest =>
    match inside with
    | none => c :: tidyFrom (if c = '[' then some [] else none) rest
    | some done =>
      if c = ']' then tidyIndex done.reverse ++ ']' :: tidyFrom none rest
      else tidyFrom (some (c :: done)) rest

/-- A path with tidy brackets. -/
def tidy (source : String) : String := String.ofList (tidyFrom none source.toList)

example : tidy "items[ 007 ].price[ ]" = "items[7].price[]" := by decide

/-! ## Tidying -/

theorem tidyFrom_append {plain : List Char} (h : '[' ∉ plain) (rest : List Char) :
    tidyFrom none (plain ++ rest) = plain ++ tidyFrom none rest := by
  induction plain with
  | nil => rfl
  | cons c plain ih =>
      have hc : ¬ c = '[' := fun heq => h (heq ▸ List.mem_cons_self)
      rw [List.cons_append, tidyFrom, if_neg hc, ih (List.not_mem_of_not_mem_cons h),
        List.cons_append]

theorem tidyFrom_inside {inside : List Char} (h : ']' ∉ inside) (done rest : List Char) :
    tidyFrom (some done) (inside ++ ']' :: rest) =
      tidyIndex (done.reverse ++ inside) ++ ']' :: tidyFrom none rest := by
  induction inside generalizing done with
  | nil => rw [List.nil_append, tidyFrom, if_pos rfl, List.append_nil]
  | cons c inside ih =>
      have hc : ¬ c = ']' := fun heq => h (heq ▸ List.mem_cons_self)
      rw [List.cons_append, tidyFrom, if_neg hc, ih (List.not_mem_of_not_mem_cons h),
        List.reverse_cons, List.append_assoc, List.singleton_append]

/-- What the text of a bracket can be. -/
theorem bracketStep_eq_ok {digits : List Char} {step : Segment}
    (h : bracketStep digits = .ok step) :
    (digits = [] ∧ step = .append) ∨
      (digits ≠ [] ∧ digits.all Char.isDigit = true ∧ Decimal.ofDigits digits ≤ maxIndex ∧
        step = .index (Decimal.ofDigits digits)) := by
  unfold bracketStep at h
  split at h
  · rename_i hempty
    cases h
    exact .inl ⟨List.isEmpty_iff.1 hempty, rfl⟩
  · rename_i hsome
    split at h
    · cases h
    · rename_i hdigits
      split at h
      · rename_i hmax
        cases h
        exact .inr ⟨fun heq => hsome (List.isEmpty_iff.2 heq), by simpa using hdigits, hmax, rfl⟩
      · cases h

theorem spelling_of_bracketStep {inside : List Char} {step : Segment}
    (h : bracketStep (Text.trimChars inside) = .ok step) :
    step.spelling = '[' :: (tidyIndex inside ++ [']']) := by
  rcases bracketStep_eq_ok h with ⟨hempty, rfl⟩ | ⟨hsome, _, _, rfl⟩
  · rw [tidyIndex, hempty]
    rfl
  · rw [tidyIndex, if_neg fun h => hsome (List.isEmpty_iff.1 h)]
    rfl

theorem Brackets.tidyFrom_append {cs : List Char} {steps : List Segment} (h : Brackets cs steps)
    (rest : List Char) :
    tidyFrom none (cs ++ rest) = steps.flatMap Segment.spelling ++ tidyFrom none rest := by
  induction h with
  | nil => rfl
  | @cons inside behind step steps hopen hstep _ ih =>
      rw [List.cons_append, tidyFrom, if_pos rfl, List.append_assoc, List.cons_append,
        tidyFrom_inside hopen, List.reverse_nil, List.nil_append, ih, List.flatMap_cons,
        spelling_of_bracketStep hstep]
      simp

theorem Groups.tidyFrom {groups : List (List Char)} {segments : List Segment}
    (h : Groups groups segments) :
    tidyFrom none (groups.flatMap ('.' :: ·)) = segments.flatMap Segment.spelling := by
  induction h with
  | nil => rfl
  | cons first _ ih =>
      obtain ⟨_, hplain, hbrackets⟩ := first
      have hplain' : '[' ∉ _ := fun hmem => (hplain '[' hmem).1 rfl
      rw [List.flatMap_cons, List.cons_append, Path.tidyFrom, if_neg (by decide), List.append_assoc,
        tidyFrom_append hplain', hbrackets.tidyFrom_append, ih, List.flatMap_append,
        List.flatMap_cons, Segment.spelling, String.toList_ofList]
      simp

/-- The tidied text of a path is the text of its steps, but for the point in front. -/
theorem tidy_of_parse {text : String} {t : Target} (h : Target.parse text = .ok t) :
    '.' :: (tidy t.source).toList = t.segments.flatMap Segment.spelling := by
  rw [← (groups_of_parse h).2.tidyFrom, Text.flatMap_splitOn, tidyFrom, if_neg (by decide), tidy,
    String.toList_ofList]

/-! ## Reading spellings back -/

/-- A key that a path can have: no point or bracket is in its name. -/
def Segment.IsPlain : Segment → Prop
  | .key name => ∀ c ∈ name.toList, c ≠ '.' ∧ c ≠ '['
  | _ => True

theorem Brackets.isPlain {cs : List Char} {steps : List Segment} (h : Brackets cs steps) :
    ∀ step ∈ steps, step.IsPlain := by
  induction h with
  | nil => exact fun _ h => nomatch h
  | cons _ hstep _ ih =>
      refine List.forall_mem_cons.2 ⟨?_, ih⟩
      rcases bracketStep_eq_ok hstep with ⟨_, rfl⟩ | ⟨_, _, _, rfl⟩ <;> exact trivial

theorem Groups.isPlain {groups : List (List Char)} {segments : List Segment}
    (h : Groups groups segments) (hpoints : ∀ group ∈ groups, '.' ∉ group) :
    ∀ segment ∈ segments, segment.IsPlain := by
  induction h with
  | nil => exact fun _ h => nomatch h
  | cons first _ ih =>
      obtain ⟨hpoint, hbehind⟩ := List.forall_mem_cons.1 hpoints
      obtain ⟨_, hplain, hbrackets⟩ := first
      refine List.forall_mem_append.2 ⟨List.forall_mem_cons.2 ⟨fun c hc => ?_, hbrackets.isPlain⟩,
        ih hbehind⟩
      rw [String.toList_ofList] at hc
      refine ⟨?_, (hplain c hc).1⟩
      rintro rfl
      exact hpoint (List.mem_append_left _ hc)

theorem isPlain_of_parse {text : String} {t : Target} (h : Target.parse text = .ok t) :
    ∀ segment ∈ t.segments, segment.IsPlain :=
  (groups_of_parse h).2.isPlain fun _ => Text.not_mem_of_mem_splitOn

/-- What follows a key in a spelling does not go on with the key. -/
theorem head?_flatMap_spelling (segments : List Segment) :
    ∀ c, (segments.flatMap Segment.spelling).head? = some c → (c != '.' && c != '[') = false := by
  cases segments with
  | nil => exact fun _ h => nomatch h
  | cons segment segments =>
      intro c hc
      cases segment <;> cases hc <;> rfl

/-- Spellings are read from the front: the first steps agree, and so do the texts behind them. -/
theorem eq_of_spelling_append {s s' : Segment} (hs : s.IsPlain) (hs' : s'.IsPlain)
    {behind behind' : List Segment}
    (h : s.spelling ++ behind.flatMap Segment.spelling =
      s'.spelling ++ behind'.flatMap Segment.spelling) :
    s = s' ∧ behind.flatMap Segment.spelling = behind'.flatMap Segment.spelling := by
  cases s <;> cases s'
  case key.key name name' =>
      have hspan : ∀ {name : String}, (Segment.key name).IsPlain → ∀ (behind : List Segment),
          (name.toList ++ behind.flatMap Segment.spelling).takeWhile (fun c => c != '.' && c != '[')
            = name.toList := by
        intro name hname behind
        refine (Text.takeWhile_append_of_stop (fun c hc => ?_) (head?_flatMap_spelling behind)).1
        simpa using hname c hc
      have hnames : name.toList ++ behind.flatMap Segment.spelling =
          name'.toList ++ behind'.flatMap Segment.spelling := (List.cons.inj h).2
      have heq : name.toList = name'.toList := by
        rw [← hspan hs behind, hnames, hspan hs' behind']
      rw [heq] at hnames
      exact ⟨congrArg _ (String.toList_inj.1 heq), List.append_cancel_left hnames⟩
  case index.index n n' =>
      have hspan : ∀ (n : Nat) (rest : List Char),
          (Decimal.digitsOf n ++ ']' :: rest).takeWhile Char.isDigit = Decimal.digitsOf n :=
        fun n rest => (Text.takeWhile_append_of_stop
          (fun c hc => Decimal.isDigit_of_mem_digitsOf hc) (fun c hc => by cases hc; rfl)).1
      simp only [Segment.spelling, List.cons_append, List.append_assoc, List.nil_append,
        List.cons.injEq, true_and] at h
      have heq : Decimal.digitsOf n = Decimal.digitsOf n' := by rw [← hspan n _, h, hspan]
      have hn : n = n' := by rw [← Decimal.ofDigits_digitsOf n, heq, Decimal.ofDigits_digitsOf]
      subst hn
      exact ⟨rfl, (List.cons.inj (List.append_cancel_left h)).2⟩
  case append.append => exact ⟨rfl, (List.cons.inj (List.cons.inj h).2).2⟩
  case index.append n | append.index n =>
      -- an index has a digit behind its bracket
      obtain ⟨c, cs, hdigits, hc, _⟩ := Decimal.digitsOf_eq_cons n
      simp only [Segment.spelling, hdigits, List.cons_append, List.cons.injEq, true_and] at h
      rcases h with ⟨rfl, _⟩
      cases hc
  all_goals cases h

theorem eq_of_flatMap_spelling {segments segments' : List Segment}
    (hplain : ∀ s ∈ segments, s.IsPlain) (hplain' : ∀ s ∈ segments', s.IsPlain)
    (h : segments.flatMap Segment.spelling = segments'.flatMap Segment.spelling) :
    segments = segments' := by
  induction segments generalizing segments' with
  | nil =>
      cases segments' with
      | nil => rfl
      | cons s' _ => cases s' <;> cases h
  | cons s segments ih =>
      cases segments' with
      | nil => cases s <;> cases h
      | cons s' segments' =>
          obtain ⟨hs, hmore⟩ := List.forall_mem_cons.1 hplain
          obtain ⟨hs', hmore'⟩ := List.forall_mem_cons.1 hplain'
          obtain ⟨rfl, hbehind⟩ := eq_of_spelling_append hs hs' h
          rw [ih hmore hmore' hbehind]

/-- Two paths have the same segments just if they are tidied to the same text. -/
theorem segments_eq_iff {text text' : String} {t t' : Target} (h : Target.parse text = .ok t)
    (h' : Target.parse text' = .ok t') :
    t.segments = t'.segments ↔ tidy t.source = tidy t'.source := by
  constructor
  · intro heq
    have hpoint : '.' :: (tidy t.source).toList = '.' :: (tidy t'.source).toList := by
      rw [tidy_of_parse h, tidy_of_parse h', heq]
    exact String.toList_inj.1 (List.cons.inj hpoint).2
  · intro heq
    refine eq_of_flatMap_spelling (isPlain_of_parse h) (isPlain_of_parse h') ?_
    rw [← tidy_of_parse h, ← tidy_of_parse h', heq]

/-! ## Empty brackets -/

/-- Inside of a bracket stand blanks and digits. -/
theorem isBlank_or_isDigit_of_bracketStep {inside : List Char} {step : Segment}
    (h : bracketStep (Text.trimChars inside) = .ok step) {c : Char} (hc : c ∈ inside) :
    Text.isBlank c = true ∨ c.isDigit = true := by
  obtain ⟨front, back, hsplit, hfront, hback⟩ := Text.exists_trimChars inside
  rw [hsplit, List.mem_append, List.mem_append] at hc
  rcases hc with (hc | hc) | hc
  · exact .inl (hfront _ hc)
  · rcases bracketStep_eq_ok h with ⟨hempty, _⟩ | ⟨_, hdigits, _⟩
    · rw [hempty] at hc
      cases hc
    · exact .inr (List.all_eq_true.1 hdigits _ hc)
  · exact .inl (hback _ hc)

/-- No bracket opens inside of a bracket. -/
theorem not_mem_of_bracketStep {inside : List Char} {step : Segment}
    (h : bracketStep (Text.trimChars inside) = .ok step) : '[' ∉ inside := by
  intro hmem
  rcases isBlank_or_isDigit_of_bracketStep h hmem with hblank | hdigit
  · exact absurd hblank (by decide)
  · exact absurd hdigit (by decide)

theorem Brackets.append_mem {cs : List Char} {steps : List Segment} (h : Brackets cs steps)
    {rest : List Char} (hi : ['[', ']'] <:+: cs ++ rest) :
    .append ∈ steps ∨ ['[', ']'] <:+: rest := by
  induction h with
  | nil => exact .inr hi
  | @cons inside behind step steps hopen hstep _ ih =>
      rw [List.cons_append, List.infix_cons_iff] at hi
      rcases hi with hp | hi
      · -- the brackets are the first ones, with nothing between them
        cases inside with
        | nil =>
            cases hstep
            exact .inl List.mem_cons_self
        | cons c inside =>
            have hc := (List.cons_prefix_cons.1 (List.cons_prefix_cons.1 hp).2).1
            exact absurd (hc ▸ List.mem_cons_self) hopen
      · have hclosed : '[' ∉ inside ++ [']'] := by
          simpa using not_mem_of_bracketStep hstep
        have hbehind : ['[', ']'] <:+: (inside ++ [']']) ++ (behind ++ rest) := by simpa using hi
        rcases ih (Text.infix_of_infix_append_of_head hclosed hbehind) with hmem | hi
        · exact .inl (List.mem_cons_of_mem step hmem)
        · exact .inr hi

theorem Groups.append_mem {groups : List (List Char)} {segments : List Segment}
    (h : Groups groups segments) (hi : ['[', ']'] <:+: groups.flatMap ('.' :: ·)) :
    .append ∈ segments := by
  induction h with
  | nil => exact absurd hi (by decide)
  | cons first _ ih =>
      obtain ⟨_, hplain, hbrackets⟩ := first
      rename_i key behind steps _
      have hopen : '[' ∉ '.' :: key := by
        simpa using fun hmem => (hplain '[' hmem).1 rfl
      rw [List.flatMap_cons, List.cons_append, List.append_assoc, ← List.cons_append] at hi
      rcases hbrackets.append_mem (Text.infix_of_infix_append_of_head hopen hi) with hmem | hi
      · exact List.mem_append_left _ (List.mem_cons_of_mem _ hmem)
      · exact List.mem_append_right _ (ih hi)

/-- A path with a pair of empty brackets in its text appends. -/
theorem appends_of_occursIn {text : String} {t : Target} (h : Target.parse text = .ok t)
    (hi : Text.occursIn "[]".toList text.toList = true) : t.appends = true := by
  obtain ⟨hsource, hgroups⟩ := groups_of_parse h
  have htrimmed : ['[', ']'] <:+: t.source.toList := by
    rw [hsource, Text.toList_trim]
    exact Text.infix_trimChars (by decide) (by decide) (Text.occursIn_iff.1 hi)
  have hmem : .append ∈ t.segments := by
    refine hgroups.append_mem ?_
    rw [Text.flatMap_splitOn]
    exact htrimmed.trans (List.suffix_cons '.' _).isInfix
  exact List.contains_iff_mem.2 hmem

end Path

end ApiGateway
