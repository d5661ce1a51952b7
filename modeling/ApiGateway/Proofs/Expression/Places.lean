import ApiGateway.Expression.Evaluation
import ApiGateway.Proofs.Expression.Printing
import ApiGateway.Proofs.Path.Apart
import ApiGateway.Proofs.Path.Spelling

/-! # Target paths as expressions

Target paths and expressions are read by different programs. A target path is split at its points
and then at its brackets, with blanks and leading zeros wherever they do no harm; an expression is
scanned character by character, and has numbers with points and exponents. Still the text of a path
whose keys are identifiers, behind `model.`, is scanned as the lexemes of its segments
(`Groups.scans`), these write the tree that goes along the path (`reads_reach`), and the value of
this tree is what stands at the place of the path (`eval_reach`). So what was written at a path can
be read there by an expression (`Target.read_after_write`).
-/

set_option autoImplicit false

namespace ApiGateway

open Expression (Lexeme Scans EndsMark EndsWord EndsOperand IsIdentifier startsName)

namespace Path

/-! ## The lexemes of a path -/

/-- The lexemes of a segment. -/
def Segment.lexemes : Segment → List Lexeme
  | .key name => [.mark .dot, .name name]
  | .index position => [.mark .openBracket, .number (.int position), .mark .closeBracket]
  | .append => [.mark .openBracket, .mark .closeBracket]

/-- What stands in a bracket is scanned as an integer or as nothing, whatever blanks and zeros there
are. -/
theorem scans_inside {inside : List Char} {step : Segment}
    (h : bracketStep (Text.trimChars inside) = .ok step) (rest : List Char) :
    ∃ ls, step.lexemes = .mark .openBracket :: (ls ++ [.mark .closeBracket]) ∧
      Scans inside ls (']' :: rest) := by
  obtain ⟨front, back, hinside, hfront, hback⟩ := Text.exists_trimChars inside
  generalize Text.trimChars inside = digits at h hinside
  subst hinside
  have hend : Scans back [] (']' :: rest) := by
    have hblanks := (Scans.nil (']' :: rest)).blanks hback
    rwa [List.append_nil] at hblanks
  rcases bracketStep_eq_ok h with ⟨rfl, rfl⟩ | ⟨hsome, hdigits, hmax, rfl⟩
  · rw [List.append_nil]
    exact ⟨[], rfl, hend.blanks hfront⟩
  · -- the digits end at a blank or at the bracket
    have hword : EndsWord (back ++ ']' :: rest) := by
      cases back with
      | nil => exact (EndsOperand.closeBracket rest).endsWord
      | cons c back => exact .blank (hback c List.mem_cons_self) _
    have hrange : (Decimal.ofDigits digits : Int) ≤ Binary64.maxInt64 :=
      Int.le_trans (Int.ofNat_le.2 hmax) (by decide)
    have hnumber := Scans.digits hsome (List.all_eq_true.1 hdigits) hrange hword
    rw [List.append_assoc]
    exact ⟨_, rfl, (hnumber.append hend).blanks hfront⟩

/-- A bracket is scanned as the lexemes of its step. -/
theorem scans_bracket {inside rest : List Char} {step : Segment}
    (h : bracketStep (Text.trimChars inside) = .ok step) (hrest : EndsOperand rest) :
    Scans ('[' :: (inside ++ [']'])) step.lexemes rest := by
  have hmark : EndsMark (inside ++ [']'] ++ rest) := by
    intro c hc
    cases inside with
    | nil =>
        cases hc
        decide
    | cons d inside =>
        cases hc
        refine ⟨?_, ?_, ?_, ?_⟩ <;> rintro rfl <;>
          exact absurd (isBlank_or_isDigit_of_bracketStep h List.mem_cons_self) (by decide)
  have hopen : Scans ['['] [.mark .openBracket] (inside ++ [']'] ++ rest) :=
    .singleMark rfl (by decide) hmark fun hdot => absurd hdot (by decide)
  have hclose : Scans [']'] [.mark .closeBracket] rest :=
    .singleMark rfl (by decide) hrest.endsMark fun hdot => absurd hdot (by decide)
  obtain ⟨ls, hls, hinside⟩ := scans_inside h rest
  rw [hls]
  exact hopen.append (hinside.append hclose)

theorem Brackets.endsOperand {cs rest : List Char} {steps : List Segment} (h : Brackets cs steps)
    (hrest : EndsOperand rest) : EndsOperand (cs ++ rest) := by
  cases h with
  | nil => exact hrest
  | cons => exact .openBracket _

theorem Brackets.scans {cs rest : List Char} {steps : List Segment} (h : Brackets cs steps)
    (hrest : EndsOperand rest) : Scans cs (steps.flatMap Segment.lexemes) rest := by
  induction h with
  | nil => exact .nil rest
  | @cons inside behind step steps unclosed step_eq brackets ih =>
      have hfirst := scans_bracket step_eq (brackets.endsOperand hrest)
      have hboth := hfirst.append ih
      rwa [List.cons_append, List.append_assoc, List.singleton_append] at hboth

/-- Blanks and the first character of a name begin neither a number nor a longer mark. -/
theorem head_field {blanks : List Char} (hblanks : ∀ c ∈ blanks, Text.isBlank c = true) {c : Char}
    (hc : startsName c = true) (cs : List Char) :
    ∀ d, (blanks ++ c :: cs).head? = some d → Text.isBlank d = true ∨ startsName d = true := by
  intro d hd
  cases blanks with
  | nil =>
      cases hd
      exact .inr hc
  | cons b blanks =>
      cases hd
      exact .inl (hblanks _ List.mem_cons_self)

theorem isDigit_eq_false_of_field {d : Char} (h : Text.isBlank d = true ∨ startsName d = true) :
    d.isDigit = false := by
  rcases h with hblank | hname
  · cases hdigit : d.isDigit with
    | false => rfl
    | true =>
        rw [Text.isBlank_eq_false_of_isDigit hdigit] at hblank
        cases hblank
  · exact Expression.isDigit_eq_false_of_startsName hname

/-- A point is split off in front of a name, also if there are blanks between the two. -/
theorem scans_point {blanks : List Char} (hblanks : ∀ c ∈ blanks, Text.isBlank c = true) {c : Char}
    (hc : startsName c = true) {cs rest : List Char} {ls : List Lexeme}
    (h : Scans (c :: cs) ls rest) : Scans ('.' :: (blanks ++ c :: cs)) (.mark .dot :: ls) rest := by
  have hhead := head_field hblanks hc (cs ++ rest)
  have hdot : Scans ['.'] [.mark .dot] (blanks ++ c :: cs ++ rest) := by
    rw [List.append_assoc, List.cons_append]
    refine .singleMark rfl (by decide) (fun d hd => ?_) fun _ => ?_
    · refine ⟨?_, ?_, ?_, ?_⟩ <;> rintro rfl <;> exact absurd (hhead _ hd) (by decide)
    · cases hfirst : (blanks ++ c :: (cs ++ rest)).head? with
      | none => rfl
      | some d => exact isDigit_eq_false_of_field (hhead d hfirst)
  exact hdot.append (h.blanks hblanks)

/-- A name ends at a point in front of a name. -/
theorem endsWord_point {blanks : List Char} (hblanks : ∀ c ∈ blanks, Text.isBlank c = true)
    {c : Char} (hc : startsName c = true) (cs : List Char) :
    EndsWord ('.' :: (blanks ++ c :: cs)) := by
  refine ⟨?_, fun d ds heq => ?_⟩
  · rintro d hd
    cases hd
    decide
  · have hhead := head_field hblanks hc cs d (by rw [(List.cons.inj heq).2]; rfl)
    exact isDigit_eq_false_of_field hhead

/-- A group is scanned as the lexemes of its steps, without the point in front. -/
theorem Group.scans {group : List Char} {steps : List Segment} (h : Group group steps)
    (hnames : ∀ name, .key name ∈ steps → IsIdentifier name) :
    ∃ c cs ls, group = c :: cs ∧ startsName c = true ∧
      steps.flatMap Segment.lexemes = .mark .dot :: ls ∧
        ∀ rest, EndsOperand rest → Scans group ls rest := by
  obtain ⟨nonempty, unbracketed, brackets⟩ := h
  rename_i key behind steps
  have hname := hnames _ List.mem_cons_self
  obtain ⟨c, cs, hchars, hc, _⟩ := id hname
  rw [String.toList_ofList] at hchars
  refine ⟨c, cs ++ behind, .name (String.ofList key) :: steps.flatMap Segment.lexemes,
    by rw [hchars]; rfl, hc, rfl, fun rest hrest => ?_⟩
  have hkey := Scans.name hname (brackets.endsOperand hrest).endsWord
  rw [String.toList_ofList] at hkey
  exact hkey.append (brackets.scans hrest)

/-- Groups, each behind a point, are scanned as the lexemes of their steps. -/
theorem Groups.scans {groups : List (List Char)} {segments : List Segment}
    (h : Groups groups segments) (hnames : ∀ name, .key name ∈ segments → IsIdentifier name) :
    EndsOperand (groups.flatMap ('.' :: ·)) ∧
      Scans (groups.flatMap ('.' :: ·)) (segments.flatMap Segment.lexemes) [] := by
  induction h with
  | nil => exact ⟨.nil, .nil []⟩
  | @cons group groups steps more first _ ih =>
      obtain ⟨hends, hbehind⟩ := ih fun name hname => hnames name (List.mem_append_right _ hname)
      obtain ⟨c, cs, ls, rfl, hc, hls, hscans⟩ :=
        first.scans fun name hname => hnames name (List.mem_append_left _ hname)
      have hnone : ∀ c ∈ ([] : List Char), Text.isBlank c = true := nofun
      have hpoint := scans_point hnone hc
        (hscans (groups.flatMap ('.' :: ·) ++ []) (by rwa [List.append_nil]))
      rw [List.flatMap_cons, List.flatMap_append, hls]
      exact ⟨.field _ hc, hpoint.append hbehind⟩

end Path

/-! ## The tree along a path -/

namespace Expression.Tree

open ApiGateway.Path (Segment place)

/-- The tree that goes from the value of a tree to a place in it. -/
def reach (t : Tree) : List Json.Step → Tree
  | [] => t
  | .member name :: steps => (Tree.member t name).reach steps
  | .item position :: steps => (Tree.index t (.literal (Json.int position))).reach steps

variable {path : List Segment} {root : Json}

/-- The lexemes of a path write the tree along it. -/
theorem reads_reach (happend : .append ∉ path) {t : Tree} {ls : List Lexeme}
    (h : Reads Level.access t ls) :
    Reads Level.access (t.reach (place path root)) (ls ++ path.flatMap Segment.lexemes) := by
  -- on the path, since each segment stands behind all the lexemes of the tree so far
  induction path generalizing t ls root with
  | nil => rwa [List.flatMap_nil, List.append_nil]
  | cons segment path ih =>
      rw [List.mem_cons, not_or] at happend
      rw [List.flatMap_cons, ← List.append_assoc]
      cases segment with
      | key name => exact ih happend.2 (.member name h)
      | index position =>
          have hposition : Reads 0 (.literal (Json.int position)) [.number (.int position)] :=
            .literal rfl
          exact ih happend.2 (.index h hposition)
      | append => exact absurd rfl happend.1

theorem memberOf_eq (v : Json) (name : String) :
    memberOf v name = ((Json.Step.member name).child? v).getD .null := by
  cases v <;> rfl

theorem itemAt_eq (v : Json) {position : Nat} (h : position ≤ Path.maxIndex) :
    itemAt v (Json.int position) = ((Json.Step.item position).child? v).getD .null := by
  have hposition : (Json.Number.int position).toUInt64? = some position := by
    have hmax : (position : Int) ≤ Binary64.maxUInt64 :=
      Int.le_trans (Int.ofNat_le.2 h) (by decide)
    rw [Json.Number.toUInt64?, if_pos ⟨Int.natCast_nonneg _, hmax⟩, Int.toNat_natCast]
  cases v with
  | arr items =>
      show (((Json.Number.int position).toUInt64?).bind (items[·]?)).getD .null = _
      rw [hposition]
      rfl
  | _ => rfl

/-- The tree along a path has the value that stands at its place, or null. -/
theorem eval_reach (happend : .append ∉ path)
    (hmax : ∀ position, .index position ∈ path → position ≤ Path.maxIndex) {c : Context} {t : Tree}
    {v : Json} (hv : t.eval c = .ok v) :
    (t.reach (place path root)).eval c = .ok ((v.at? (place path root)).getD .null) := by
  -- the tree goes on with null where the place has ended, so `v` may be any value
  induction path generalizing t v root with
  | nil => exact hv
  | cons segment path ih =>
      rw [List.mem_cons, not_or] at happend
      have hmax' := fun position hposition => hmax position (List.mem_cons_of_mem segment hposition)
      cases segment with
      | key name =>
          have hchild : (Tree.member t name).eval c = .ok (memberOf v name) := by
            rw [Tree.eval, hv]
            rfl
          rw [place, reach, ih happend.2 hmax' hchild, memberOf_eq, Json.getD_at?_child]
      | index position =>
          have hchild : (Tree.index t (.literal (Json.int position))).eval c =
              .ok (itemAt v (Json.int position)) := by
            rw [Tree.eval, Tree.eval, hv]
            rfl
          rw [place, reach, ih happend.2 hmax' hchild, itemAt_eq v (hmax _ List.mem_cons_self),
            Json.getD_at?_child]
      | append => exact absurd rfl happend.1

end Expression.Tree

/-! ## Written and read -/

namespace Path

theorem Brackets.le_maxIndex {cs : List Char} {steps : List Segment} (h : Brackets cs steps) :
    ∀ position, .index position ∈ steps → position ≤ maxIndex := by
  induction h with
  | nil => exact nofun
  | cons _ step_eq _ ih =>
      intro position hposition
      rcases List.mem_cons.1 hposition with rfl | hposition
      · rcases bracketStep_eq_ok step_eq with ⟨_, heq⟩ | ⟨_, _, hmax, heq⟩
        · cases heq
        · cases heq
          exact hmax
      · exact ih position hposition

theorem Groups.le_maxIndex {groups : List (List Char)} {segments : List Segment}
    (h : Groups groups segments) :
    ∀ position, .index position ∈ segments → position ≤ maxIndex := by
  induction h with
  | nil => exact nofun
  | cons first _ ih =>
      intro position hposition
      obtain ⟨_, _, brackets⟩ := first
      rcases List.mem_append.1 hposition with hposition | hposition
      · rcases List.mem_cons.1 hposition with heq | hposition
        · cases heq
        · exact brackets.le_maxIndex position hposition
      · exact ih position hposition

/-- The text of a path behind `model.` is the text of its segments behind `model`, with blanks
behind the first point. -/
theorem exists_unwrap {text : String} {t : Target} (h : Target.parse text = .ok t) :
    ∃ front, (∀ c ∈ front, Text.isBlank c = true) ∧
      (Expression.unwrap ("model." ++ text)).toList =
        "model".toList ++ '.' :: (front ++ t.source.toList) := by
  have hsource : t.source.toList = Text.trimChars text.toList := by
    rw [(groups_of_parse h).1, Text.toList_trim]
  have hne : Text.trimChars text.toList ≠ [] := fun hempty => by
    have hblank : (Text.trim text).isEmpty = true := by
      rw [String.isEmpty_iff, ← String.toList_inj, Text.toList_trim, hempty]
      rfl
    unfold Target.parse at h
    rw [if_pos hblank] at h
    cases h
  obtain ⟨front, hfront, hend⟩ := Text.exists_trimEnd hne
  refine ⟨front, hfront, ?_⟩
  have htrim : Text.trimChars ("model." ++ text).toList =
      "model".toList ++ '.' :: Text.trimEnd text.toList := by
    rw [String.toList_append]
    exact Text.trimEnd_append_cons (by decide) "model".toList text.toList
  rw [Expression.unwrap, htrim, hend, hsource]
  exact String.toList_ofList

/-- The text of a path behind `model.` is scanned as the lexemes of its segments behind `model`. -/
theorem scans_model {text : String} {t : Target} (h : Target.parse text = .ok t)
    (hnames : ∀ name, .key name ∈ t.segments → IsIdentifier name) :
    Scans (Expression.unwrap ("model." ++ text)).toList
      ([.name Expression.Root.model.name] ++ t.segments.flatMap Segment.lexemes) [] := by
  obtain ⟨front, hfront, hsource⟩ := exists_unwrap h
  have hgroups := (groups_of_parse h).2
  have htext := Text.flatMap_splitOn '.' t.source.toList
  obtain ⟨group, groups, hparts⟩ :=
    List.exists_cons_of_ne_nil (Text.splitOn_ne_nil '.' t.source.toList)
  rw [hparts] at hgroups htext
  generalize t.segments = segments at hgroups hnames ⊢
  obtain - | ⟨first, behind⟩ := hgroups
  rename_i steps more
  -- the first group stands behind the blanks, and all others directly behind their points
  obtain ⟨hends, hbehind⟩ :=
    behind.scans fun name hname => hnames name (List.mem_append_right _ hname)
  obtain ⟨c, cs, ls, rfl, hc, hls, hscans⟩ :=
    first.scans fun name hname => hnames name (List.mem_append_left _ hname)
  have hjoined : t.source.toList = c :: (cs ++ groups.flatMap ('.' :: ·)) :=
    ((List.cons.inj htext).2).symm
  have hpath : Scans (c :: cs ++ groups.flatMap ('.' :: ·))
      (ls ++ more.flatMap Segment.lexemes) [] :=
    (hscans _ (by rwa [List.append_nil])).append hbehind
  have hmodel := Scans.name (Expression.isIdentifier_rootName .model)
    (endsWord_point hfront hc (cs ++ groups.flatMap ('.' :: ·)))
  have hpoint := scans_point hfront hc hpath
  rw [hsource, hjoined, List.flatMap_append, hls]
  exact Scans.append (by rwa [List.append_nil]) hpoint

/-- The expression of a path reads along it, in every tree. -/
theorem parse_model_eq_ok {text : String} {t : Target} (h : Target.parse text = .ok t)
    (hnames : ∀ name, .key name ∈ t.segments → IsIdentifier name) (happend : .append ∉ t.segments)
    (root : Json) :
    Expression.parse ("model." ++ text) = .ok ⟨Expression.unwrap ("model." ++ text),
      (Expression.Tree.root .model).reach (place t.segments root)⟩ := by
  obtain ⟨tokens, hscan, htokens⟩ := Expression.Tree.scan_of_scans (scans_model h hnames)
  have hreads : Expression.Tree.Reads 0
      ((Expression.Tree.root .model).reach (place t.segments root))
      ([.name Expression.Root.model.name] ++ t.segments.flatMap Segment.lexemes) :=
    (Expression.Tree.reads_reach happend (.root .model)).mono (Nat.zero_le _)
  have htree : Expression.Tree.parse (Expression.unwrap ("model." ++ text)) =
      .ok ((Expression.Tree.root .model).reach (place t.segments root)) :=
    Expression.Tree.parse_eq_ok_iff.2
      ⟨tokens, hscan, Expression.Tree.ofTokens_eq_ok_iff.2 ⟨_, htokens, hreads⟩⟩
  have hsome : ¬ (Expression.unwrap ("model." ++ text)).isEmpty = true := fun hempty => by
    obtain ⟨front, _, hsource⟩ := exists_unwrap h
    rw [String.isEmpty_iff.1 hempty] at hsource
    cases hsource
  unfold Expression.parse
  dsimp only
  rw [if_neg hsome, htree]

/-- **What is written can be read.** Let a target path have identifiers as keys and no appends, and
let a value have been written there. Then the text of the path behind `model.` is an expression,
which has this value if the model is the tree that was written to. At any place that is neither on
the way to the value nor inside of it stands what was there before, or null if nothing was. -/
theorem Target.read_after_write {text : String} {t : Target} (h : Target.parse text = .ok t)
    (hnames : ∀ name, .key name ∈ t.segments → IsIdentifier name) (happend : t.appends = false)
    {root value : Json} (hwrite : (t.write root value).2 = true) :
    (∃ e, Expression.parse ("model." ++ text) = .ok e ∧
      ∀ config response, e.eval ⟨(t.write root value).1, config, response⟩ = .ok value) ∧
    ∀ location, .append ∉ location → Apart t.segments location →
      (t.write root value).1.at? (place location root) = root.at? (place location root) ∨
        (root.at? (place location root) = none ∧
          (t.write root value).1.at? (place location root) = some .null) := by
  have hfree : .append ∉ t.segments := fun hmem => by
    rw [Target.appends, List.contains_iff_mem.2 hmem] at happend
    cases happend
  have hputs : Puts t.segments root value (t.write root value).1 := puts_write hwrite
  refine ⟨⟨_, parse_model_eq_ok h hnames hfree root, fun config response => ?_⟩,
    fun location hlocation hapart => ?_⟩
  · have hmodel : (Expression.Tree.root .model).eval ⟨(t.write root value).1, config, response⟩ =
        .ok (t.write root value).1 := rfl
    have hmax := (groups_of_parse h).2.le_maxIndex
    rw [Expression.eval, Expression.Tree.eval_reach hfree hmax hmodel, hputs.there,
      Option.getD_some]
  · exact hputs.apart _ (not_prefix_place hlocation hfree hapart.symm root root)
      (not_prefix_place hfree hlocation hapart root root)

/-- A path with blanks around it and in its brackets, and with a zero in front of its index. The
array is padded, and the item in front of the new one stays. -/
theorem read_after_write_sku :
    let text := " lines[ 02 ].sku "
    let t : Target := ⟨"lines[ 02 ].sku", [.key "lines", .index 2, .key "sku"]⟩
    let root : Json := .obj [("lines", .arr [.str "A-1"])]
    Target.parse text = .ok t ∧ t.appends = false ∧
      t.write root (.str "B-7") =
        (.obj [("lines", .arr [.str "A-1", .null, .obj [("sku", .str "B-7")]])], true) ∧
      (∃ e, Expression.parse ("model." ++ text) = .ok e ∧
        ∀ config response, e.eval ⟨(t.write root (.str "B-7")).1, config, response⟩ =
          .ok (.str "B-7")) ∧
      (t.write root (.str "B-7")).1.at? (place [.key "lines", .index 0] root) =
        some (.str "A-1") := by
  intro text t root
  have hparse : Target.parse text = .ok t := by decide +kernel
  have hwrite : t.write root (.str "B-7") =
      (.obj [("lines", .arr [.str "A-1", .null, .obj [("sku", .str "B-7")]])], true) := by
    decide +kernel
  have hnames : ∀ name, .key name ∈ t.segments → IsIdentifier name := by
    intro name hname
    have hcases : name = "lines" ∨ name = "sku" := by simpa [t] using hname
    rcases hcases with rfl | rfl
    · exact ⟨_, _, rfl, by decide, by decide⟩
    · exact ⟨_, _, rfl, by decide, by decide⟩
  have happend : t.appends = false := by decide
  obtain ⟨hread, hothers⟩ := Target.read_after_write hparse hnames happend (by rw [hwrite])
  refine ⟨hparse, happend, hwrite, hread, ?_⟩
  rcases hothers [.key "lines", .index 0] (by decide) (by decide) with hsame | ⟨hnone, _⟩
  · rw [hsame]
    decide
  · exact absurd hnone (by decide)

end Path

end ApiGateway
