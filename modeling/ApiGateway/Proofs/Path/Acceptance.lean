import ApiGateway.Catalog.Validation
import ApiGateway.Proofs.Path.Spelling

/-! # Texts that are target paths

A target path is made of groups between points, and a group of a key and brackets behind it
(`KeyGroup`). A text is read just if it is of this kind once it is trimmed, and its segments are
those of its groups; the text of segments is read as these segments again; and validation, which
looks for numbers between brackets on its own, refuses no text that is read (`parse_accounted`).
-/

set_option autoImplicit false

namespace ApiGateway

namespace Path

/-! ## Groups -/

/-- What stands in a bracket, and the step that it names: blanks name an append, and digits between
blanks an index. -/
inductive Inside : List Char → Segment → Prop where
  | append {blanks : List Char} (blank : ∀ c ∈ blanks, Text.isBlank c = true) :
      Inside blanks .append
  | index {front digits back : List Char} (blank_front : ∀ c ∈ front, Text.isBlank c = true)
      (blank_back : ∀ c ∈ back, Text.isBlank c = true) (nonempty : digits ≠ [])
      (isDigit : ∀ c ∈ digits, c.isDigit = true) (small : Decimal.ofDigits digits ≤ maxIndex) :
      Inside (front ++ digits ++ back) (.index (Decimal.ofDigits digits))

/-- A bracket: what stands in it, and the step that it names. -/
structure Bracket where
  inside : List Char
  step : Segment
  holds : Inside inside step

/-- The text of a bracket. -/
def Bracket.text (b : Bracket) : List Char := '[' :: (b.inside ++ [']'])

/-- A key with brackets behind it. -/
structure KeyGroup where
  key : List Char
  brackets : List Bracket
  nonempty : key ≠ []
  plain : ∀ c ∈ key, c ≠ '.' ∧ c ≠ '[' ∧ c ≠ ']'

namespace KeyGroup

/-- The text of a group. -/
def text (g : KeyGroup) : List Char := g.key ++ g.brackets.flatMap Bracket.text

/-- The segments that a group names. -/
def segments (g : KeyGroup) : List Segment :=
  .key (String.ofList g.key) :: g.brackets.map Bracket.step

end KeyGroup

/-! ## Brackets -/

variable {inside : List Char} {step : Segment}

theorem inside_of_bracketStep (h : bracketStep (Text.trimChars inside) = .ok step) :
    Inside inside step := by
  obtain ⟨front, back, hsplit, hfront, hback⟩ := Text.exists_trimChars inside
  rcases bracketStep_eq_ok h with ⟨hempty, rfl⟩ | ⟨hsome, hdigits, hmax, rfl⟩
  · exact .append (Text.trimChars_eq_nil_iff.1 hempty)
  · have hindex := Inside.index hfront hback hsome (List.all_eq_true.1 hdigits) hmax
    rwa [← hsplit] at hindex

namespace Inside

/-- Only blanks and digits stand in a bracket. -/
theorem isBlank_or_isDigit (h : Inside inside step) :
    ∀ c ∈ inside, Text.isBlank c = true ∨ c.isDigit = true := by
  intro c hc
  cases h with
  | append hblank => exact .inl (hblank c hc)
  | index hfront hback _ hdigits _ =>
      rw [List.mem_append, List.mem_append] at hc
      rcases hc with (hc | hc) | hc
      · exact .inl (hfront c hc)
      · exact .inr (hdigits c hc)
      · exact .inl (hback c hc)

theorem not_mem (h : Inside inside step) {c : Char} (hblank : Text.isBlank c = false)
    (hdigit : c.isDigit = false) : c ∉ inside := by
  intro hc
  rcases h.isBlank_or_isDigit c hc with hc | hc
  · rw [hblank] at hc
    cases hc
  · rw [hdigit] at hc
    cases hc

theorem bracketStep_eq (h : Inside inside step) :
    bracketStep (Text.trimChars inside) = .ok step := by
  cases h with
  | append hblank =>
      rw [Text.trimChars_eq_nil_iff.2 hblank]
      rfl
  | @index front digits back hfront hback hsome hdigits hmax =>
      have hvisible : ∀ c ∈ digits, Text.isBlank c = false := fun c hc =>
        Text.isBlank_eq_false_of_isDigit (hdigits c hc)
      rw [Text.trimChars_append hfront hback hsome hvisible, bracketStep,
        if_neg (by simpa using hsome), if_neg (by simpa using hdigits), if_pos hmax]

end Inside

theorem brackets_iff {cs : List Char} {steps : List Segment} :
    Brackets cs steps ↔
      ∃ bs : List Bracket, bs.flatMap Bracket.text = cs ∧ bs.map Bracket.step = steps := by
  constructor
  · intro h
    induction h with
    | nil => exact ⟨[], rfl, rfl⟩
    | @cons inside rest step steps _ hstep _ ih =>
        obtain ⟨bs, rfl, rfl⟩ := ih
        refine ⟨⟨inside, step, inside_of_bracketStep hstep⟩ :: bs, ?_, rfl⟩
        simp [Bracket.text]
  · rintro ⟨bs, rfl, rfl⟩
    induction bs with
    | nil => exact .nil
    | cons b bs ih =>
        have hclosed : ']' ∉ b.inside := b.holds.not_mem (by decide) (by decide)
        have hcons := Brackets.cons hclosed b.holds.bracketStep_eq ih
        simpa [Bracket.text] using hcons

/-! ## Groups that are read -/

namespace KeyGroup

theorem point_not_mem (g : KeyGroup) : '.' ∉ g.text := by
  intro h
  rcases List.mem_append.1 h with h | h
  · exact (g.plain _ h).1 rfl
  · obtain ⟨b, -, hb⟩ := List.mem_flatMap.1 h
    have hinside : '.' ∉ b.inside := b.holds.not_mem (by decide) (by decide)
    simp [Bracket.text, hinside] at hb

theorem group (g : KeyGroup) : Group g.text g.segments :=
  .mk g.nonempty (fun c hc => (g.plain c hc).2) (brackets_iff.2 ⟨g.brackets, rfl, rfl⟩)

end KeyGroup

theorem exists_keyGroup {cs : List Char} {steps : List Segment} (h : Group cs steps)
    (hpoint : '.' ∉ cs) : ∃ g : KeyGroup, g.text = cs ∧ g.segments = steps := by
  obtain ⟨hne, hplain, hbrackets⟩ := h
  obtain ⟨bs, rfl, rfl⟩ := brackets_iff.1 hbrackets
  rename_i key
  refine ⟨⟨key, bs, hne, fun c hc => ⟨?_, hplain c hc⟩⟩, rfl, rfl⟩
  rintro rfl
  exact hpoint (List.mem_append_left _ hc)

theorem groups_iff {parts : List (List Char)} {segments : List Segment}
    (hpoints : ∀ part ∈ parts, '.' ∉ part) :
    Groups parts segments ↔ ∃ groups : List KeyGroup,
      groups.map KeyGroup.text = parts ∧ groups.flatMap KeyGroup.segments = segments := by
  constructor
  · intro h
    induction h with
    | nil => exact ⟨[], rfl, rfl⟩
    | cons first _ ih =>
        obtain ⟨hpoint, hmore⟩ := List.forall_mem_cons.1 hpoints
        obtain ⟨groups, rfl, rfl⟩ := ih hmore
        obtain ⟨g, rfl, rfl⟩ := exists_keyGroup first hpoint
        exact ⟨g :: groups, rfl, rfl⟩
  · rintro ⟨groups, rfl, rfl⟩
    clear hpoints
    induction groups with
    | nil => exact .nil
    | cons g groups ih => exact .cons g.group ih

/-- The text of groups with points between them. -/
def joined (groups : List KeyGroup) : List Char := ['.'].intercalate (groups.map KeyGroup.text)

theorem splitOn_joined {groups : List KeyGroup} (h : groups ≠ []) :
    Text.splitOn '.' (joined groups) = groups.map KeyGroup.text := by
  rw [Text.splitOn_eq]
  refine List.splitOn_intercalate '.' ?_ (by simpa using h)
  intro part hpart
  obtain ⟨g, -, rfl⟩ := List.mem_map.1 hpart
  exact g.point_not_mem

/-- A point in front of joined groups is one in front of each. -/
theorem cons_joined {groups : List KeyGroup} (h : groups ≠ []) :
    '.' :: joined groups = groups.flatMap fun g => '.' :: g.text := by
  have hparts := Text.flatMap_splitOn '.' (joined groups)
  rw [splitOn_joined h, List.flatMap_map] at hparts
  exact hparts.symm

/-- A text is read just if it is made of groups once it is trimmed, which name its segments. -/
theorem parse_eq_ok_iff {text : String} {t : Target} :
    Target.parse text = .ok t ↔ t.source = Text.trim text ∧ ∃ groups : List KeyGroup, groups ≠ [] ∧
      t.source.toList = joined groups ∧ t.segments = groups.flatMap KeyGroup.segments := by
  constructor
  · intro h
    obtain ⟨hsource, hgroups⟩ := groups_of_parse h
    obtain ⟨groups, htexts, hsegments⟩ :=
      (groups_iff fun _ => Text.not_mem_of_mem_splitOn).1 hgroups
    refine ⟨hsource, groups, ?_, ?_, hsegments.symm⟩
    · rintro rfl
      exact Text.splitOn_ne_nil _ _ htexts.symm
    · rw [joined, htexts, Text.splitOn_eq, List.intercalate_splitOn]
  · rintro ⟨hsource, groups, hne, htext, hsegments⟩
    have hread : groupsSteps (Text.splitOn '.' t.source.toList) = .ok t.segments := by
      rw [htext, splitOn_joined hne, groupsSteps_eq_ok_iff, hsegments]
      refine (groups_iff ?_).2 ⟨groups, rfl, rfl⟩
      intro part hpart
      obtain ⟨g, -, rfl⟩ := List.mem_map.1 hpart
      exact g.point_not_mem
    have hsome : t.source.isEmpty = false := by
      cases hempty : t.source.isEmpty with
      | false => rfl
      | true =>
          -- an empty text would be a group without a key
          rw [String.isEmpty_iff.1 hempty] at hread
          cases hread
    unfold Target.parse
    dsimp only
    rw [← hsource, hsome, hread]
    rfl

/-! ## Segments and their text -/

/-- A segment that a path can name: a key without marks, or an index that is not too large. -/
def Segment.Fits : Segment → Prop
  | .key name => name ≠ "" ∧ ∀ c ∈ name.toList, c ≠ '.' ∧ c ≠ '[' ∧ c ≠ ']'
  | .index position => position ≤ maxIndex
  | .append => True

instance : DecidablePred Segment.Fits
  | .key name => decidable_of_iff
      (name ≠ "" ∧ (name.toList.all fun c => c ≠ '.' ∧ c ≠ '[' ∧ c ≠ ']') = true)
      (by simp only [List.all_eq_true, decide_eq_true_eq, Segment.Fits])
  | .index position => inferInstanceAs (Decidable (position ≤ maxIndex))
  | .append => .isTrue trivial

/-- The text of segments, of which the first is a key, without the point in front. -/
def spell (segments : List Segment) : String :=
  String.ofList ((segments.flatMap Segment.spelling).drop 1)

theorem exists_bracket {position : Nat} (h : position ≤ maxIndex) :
    ∃ b : Bracket, b.text = (Segment.index position).spelling ∧ b.step = .index position := by
  have hdigits : Decimal.digitsOf position ≠ [] := by
    obtain ⟨_, _, hdigits, -⟩ := Decimal.digitsOf_eq_cons position
    rw [hdigits]
    exact List.cons_ne_nil _ _
  have hsmall : Decimal.ofDigits (Decimal.digitsOf position) ≤ maxIndex := by
    rwa [Decimal.ofDigits_digitsOf]
  have hinside : Inside ([] ++ Decimal.digitsOf position ++ []) _ :=
    .index nofun nofun hdigits (fun c hc => Decimal.isDigit_of_mem_digitsOf hc) hsmall
  rw [Decimal.ofDigits_digitsOf, List.nil_append, List.append_nil] at hinside
  exact ⟨⟨_, _, hinside⟩, rfl, rfl⟩

/-- Segments are brackets, which belong to a key in front of them, and groups. -/
theorem exists_groups {segments : List Segment} (h : ∀ s ∈ segments, s.Fits) :
    ∃ (bs : List Bracket) (groups : List KeyGroup),
      bs.map Bracket.step ++ groups.flatMap KeyGroup.segments = segments ∧
      bs.flatMap Bracket.text ++ (groups.flatMap fun g => '.' :: g.text) =
        segments.flatMap Segment.spelling := by
  induction segments with
  | nil => exact ⟨[], [], rfl, rfl⟩
  | cons s segments ih =>
      obtain ⟨hs, hmore⟩ := List.forall_mem_cons.1 h
      obtain ⟨bs, groups, rfl, htext⟩ := ih hmore
      rw [List.flatMap_cons, ← htext]
      cases s with
      | key name =>
          obtain ⟨hne, hplain⟩ := hs
          have hkey : name.toList ≠ [] := by simpa using hne
          refine ⟨[], ⟨name.toList, bs, hkey, hplain⟩ :: groups, ?_, ?_⟩
          · simp [KeyGroup.segments]
          · simp [KeyGroup.text, Segment.spelling]
      | index position =>
          obtain ⟨b, htext, hstep⟩ := exists_bracket hs
          refine ⟨b :: bs, groups, ?_, ?_⟩
          · simp [hstep]
          · simp [htext]
      | append =>
          refine ⟨⟨[], .append, .append (List.forall_mem_nil _)⟩ :: bs, groups, rfl, ?_⟩
          simp [Bracket.text, Segment.spelling]

theorem parse_spell {name : String} {more : List Segment}
    (hfits : ∀ s ∈ Segment.key name :: more, s.Fits)
    (htrim : Text.trim (spell (.key name :: more)) = spell (.key name :: more)) :
    Target.parse (spell (.key name :: more)) =
      .ok ⟨spell (.key name :: more), .key name :: more⟩ := by
  obtain ⟨hname, hmore⟩ := List.forall_mem_cons.1 hfits
  obtain ⟨bs, groups, hsegments, htext⟩ := exists_groups hmore
  obtain ⟨hne, hplain⟩ := hname
  -- the brackets in front of the next group belong to the first key
  let first : KeyGroup := ⟨name.toList, bs, by simpa using hne, hplain⟩
  have hspell : '.' :: (spell (.key name :: more)).toList =
      '.' :: joined (first :: groups) := by
    rw [cons_joined (List.cons_ne_nil _ _), spell, String.toList_ofList, List.flatMap_cons,
      ← htext]
    simp [first, KeyGroup.text, Segment.spelling]
  refine parse_eq_ok_iff.2 ⟨htrim.symm, first :: groups, List.cons_ne_nil _ _,
    (List.cons.inj hspell).2, ?_⟩
  simp [first, KeyGroup.segments, ← hsegments]

end Path

/-! ## Validation -/

theorem Text.isDecimalDigit_of_isDigit {c : Char} : c.isDigit = true → isDecimalDigit c = true :=
  eq_of_isDigit (p := isDecimalDigit) (by decide)

theorem Text.isDecimalDigit_eq_false_of_isBlank {c : Char} (h : isBlank c = true) :
    isDecimalDigit c = false := by
  have hclass := class_eq_false_of_isBlank Char.isDigit decimalDigitRanges (by decide +kernel) h
  unfold isDecimalDigit
  split at hclass
  · rwa [if_pos (by assumption)]
  · rw [if_neg (by assumption), hclass]
    rfl

namespace Catalog

open Path (Inside Bracket KeyGroup)

/-- No number between brackets is too large. -/
def SmallNumbers (cs : List Char) : Prop :=
  ∀ digits ∈ bracketedNumbers cs, isSmallIndex digits = true

theorem smallNumbers_append {plain rest : List Char} (h : '[' ∉ plain) (hrest : SmallNumbers rest) :
    SmallNumbers (plain ++ rest) := by
  induction plain with
  | nil => exact hrest
  | cons c plain ih =>
      rw [List.mem_cons, not_or] at h
      rw [List.cons_append, SmallNumbers, bracketedNumbers, if_neg (Ne.symm h.1)]
      exact ih h.2

/-- The number that is found in a bracket of a path is the index that the bracket names. -/
theorem isSmallIndex_of_bracketedNumber? {inside rest digits : List Char} {step : Path.Segment}
    (h : Inside inside step) (hfound : bracketedNumber? (inside ++ ']' :: rest) = some digits) :
    isSmallIndex digits = true := by
  have hclose : ∀ c, (']' :: rest).head? = some c → Text.isBlank c = false := by
    rintro c hc
    cases hc
    decide
  unfold bracketedNumber? at hfound
  dsimp only at hfound
  cases h with
  | append hblank =>
      rw [Text.trimStart, (Text.takeWhile_append_of_stop hblank hclose).2] at hfound
      cases hfound
  | @index front written back hfront hback hsome hdigits hmax =>
      have hfirst : ∀ c, (written ++ (back ++ ']' :: rest)).head? = some c →
          Text.isBlank c = false := by
        obtain ⟨d, written, rfl⟩ := List.exists_cons_of_ne_nil hsome
        rintro c hc
        cases hc
        exact Text.isBlank_eq_false_of_isDigit (hdigits _ List.mem_cons_self)
      have hbehind : ∀ c, (back ++ ']' :: rest).head? = some c →
          Text.isDecimalDigit c = false := by
        intro c hc
        cases back with
        | nil =>
            cases hc
            decide
        | cons b back =>
            cases hc
            exact Text.isDecimalDigit_eq_false_of_isBlank (hback _ List.mem_cons_self)
      have hspan := Text.takeWhile_append_of_stop
        (fun c hc => Text.isDecimalDigit_of_isDigit (hdigits c hc)) hbehind
      rw [List.append_assoc, List.append_assoc, Text.trimStart,
        (Text.takeWhile_append_of_stop hfront hfirst).2, hspan.1] at hfound
      split at hfound
      · cases hfound
      split at hfound
      · cases hfound
        have hall : digits.all Char.isDigit = true := List.all_eq_true.2 hdigits
        rw [isSmallIndex, hall, decide_eq_true hmax]
        rfl
      · cases hfound

theorem smallNumbers_bracket (b : Bracket) {rest : List Char} (hrest : SmallNumbers rest) :
    SmallNumbers (b.text ++ rest) := by
  have hclosed : '[' ∉ b.inside ++ [']'] := by
    simpa using b.holds.not_mem (by decide) (by decide)
  have hbehind := smallNumbers_append hclosed hrest
  intro digits hdigits
  rw [Bracket.text, List.cons_append, bracketedNumbers, if_pos rfl, List.mem_append] at hdigits
  rcases hdigits with hdigits | hdigits
  · rw [List.append_assoc, List.singleton_append, Option.mem_toList] at hdigits
    exact isSmallIndex_of_bracketedNumber? b.holds hdigits
  · exact hbehind digits hdigits

theorem smallNumbers_group (g : KeyGroup) {rest : List Char} (hrest : SmallNumbers rest) :
    SmallNumbers ('.' :: g.text ++ rest) := by
  have hbrackets : ∀ bs : List Bracket, SmallNumbers (bs.flatMap Bracket.text ++ rest) := by
    intro bs
    induction bs with
    | nil => exact hrest
    | cons b bs ih =>
        rw [List.flatMap_cons, List.append_assoc]
        exact smallNumbers_bracket b ih
  have hopen : '[' ∉ '.' :: g.key := by
    simpa using fun h => (g.plain _ h).2.1 rfl
  have hgroup := smallNumbers_append hopen (hbrackets g.brackets)
  rwa [KeyGroup.text, ← List.cons_append, List.append_assoc]

theorem smallNumbers_joined {groups : List KeyGroup} (h : groups ≠ []) {rest : List Char}
    (hrest : SmallNumbers rest) : SmallNumbers (Path.joined groups ++ rest) := by
  have hpoints : SmallNumbers ((groups.flatMap fun g => '.' :: g.text) ++ rest) := by
    clear h
    induction groups with
    | nil => exact hrest
    | cons g groups ih =>
        rw [List.flatMap_cons, List.append_assoc]
        exact smallNumbers_group g ih
  rw [← Path.cons_joined h, List.cons_append, SmallNumbers, bracketedNumbers,
    if_neg (by decide)] at hpoints
  exact hpoints

/-- Validation accepts the indices of a path that is read. -/
theorem checkIndices_of_parse {text : String} {t : Path.Target} (h : Path.Target.parse text = .ok t)
    (location : String) : checkIndices location text = .ok () := by
  obtain ⟨hsource, groups, hne, htext, -⟩ := Path.parse_eq_ok_iff.1 h
  obtain ⟨front, back, hsplit, hfront, hback⟩ := Text.exists_trimChars text.toList
  have hnot : ∀ {blanks : List Char}, (∀ c ∈ blanks, Text.isBlank c = true) → '[' ∉ blanks :=
    fun hall hmem => absurd (hall _ hmem) (by decide)
  have hend : SmallNumbers back := by
    have hnil : SmallNumbers ([] : List Char) := nofun
    have hblanks := smallNumbers_append (hnot hback) hnil
    rwa [List.append_nil] at hblanks
  have hsmall : SmallNumbers text.toList := by
    rw [hsplit, ← Text.toList_trim, ← hsource, htext, List.append_assoc]
    exact smallNumbers_append (hnot hfront) (smallNumbers_joined hne hend)
  unfold checkIndices
  rw [List.find?_eq_none.2 fun digits hdigits => by simp [hsmall digits hdigits]]

end Catalog

namespace Path

/-- A text is read just if it is made of groups once it is trimmed; segments that fit are read back
from their text, if it neither begins nor ends with a blank; and validation refuses no text that is
read. -/
theorem parse_accounted :
    (∀ (text : String) (t : Target), Target.parse text = .ok t ↔ t.source = Text.trim text ∧
      ∃ groups : List KeyGroup, groups ≠ [] ∧
        t.source.toList = ['.'].intercalate (groups.map KeyGroup.text) ∧
          t.segments = groups.flatMap KeyGroup.segments) ∧
    (∀ (name : String) (more : List Segment), (∀ s ∈ Segment.key name :: more, s.Fits) →
      Text.trim (spell (.key name :: more)) = spell (.key name :: more) →
        Target.parse (spell (.key name :: more)) =
          .ok ⟨spell (.key name :: more), .key name :: more⟩) ∧
    ∀ (text : String) (t : Target) (location : String), Target.parse text = .ok t →
      Catalog.checkIndices location text = .ok () :=
  ⟨fun _ _ => parse_eq_ok_iff, fun _ _ => parse_spell, fun _ _ location h =>
    Catalog.checkIndices_of_parse h location⟩

theorem parse_accounted_lineItems :
    let segments := [Segment.key "line items", .index 1024, .append, .key "größe"]
    (∀ s ∈ segments, s.Fits) ∧ Text.trim (spell segments) = spell segments ∧
      Target.parse "line items[1024][].größe" = .ok ⟨"line items[1024][].größe", segments⟩ ∧
      Catalog.checkIndices "shop/order" "line items[1024][].größe" = .ok () := by
  intro segments
  have hfits : ∀ s ∈ segments, s.Fits := by decide
  have htrim : Text.trim (spell segments) = spell segments := by decide +kernel
  have hspell : spell segments = "line items[1024][].größe" := by decide +kernel
  obtain ⟨-, hrender, hcheck⟩ := parse_accounted
  have hparse := hrender "line items" [.index 1024, .append, .key "größe"] hfits htrim
  rw [show spell (.key "line items" :: _) = _ from hspell] at hparse
  exact ⟨hfits, htrim, hparse, hcheck _ _ "shop/order" hparse⟩

end Path

end ApiGateway
