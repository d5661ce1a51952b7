import ApiGateway.Proofs.Catalog.Reading
import ApiGateway.Proofs.Path.Segments

/-! # Paths of requests

The two scans of a template agree on it: what one lists the other fills, and where one stops at a
brace the other does (`placeholders_agree`). A rendered path is divided as its template is, whatever
the values are (`render_keeps_structure`). Only a segment of dots can be made of values, as dots are
unreserved and stay as they are (`dotSegment_of_value`).
-/

set_option autoImplicit false

namespace ApiGateway.Catalog

open Expression (Context)
open ApiGateway.Path (Piece Pieces holeNames hasValue find?_hasValue_eq_none_iff)

/-! ## Two scans of one grammar -/

theorem ParameterFault.field_ne {c : Context} {name : String} {f : Expression}
    {error : ResolveError} (h : ParameterFault c name f error) : error.field ≠ "path" := by
  have hne : "path." ++ name ≠ "path" := fun heq => by
    have hchars := congrArg String.toList heq
    rw [String.toList_append] at hchars
    exact absurd (congrArg List.length hchars) (by simp)
  cases h with
  | expression => exact hne
  | missing => exact hne

/-- **Names and paths agree.** If the names of a template are listed, these are the names of its
pieces, the path is rendered just if each of them has a value, and otherwise the first one without a
value is reported. If the listing stops at a brace that is never closed, rendering stops at the same
byte unless one of the names in front of it has no value. So a template that was compiled is never
at fault when it is rendered: an error names one of its parameters. -/
theorem placeholders_agree (template : String) (value : String → Option Json) :
    (∀ names, Path.placeholders template = .ok names →
      (∃ ps, Pieces template.toList ps ∧ names = (holeNames ps).foldl Path.listName []) ∧
        ((∃ path, Path.render template value = .ok path) ↔
          ∀ name ∈ names, hasValue value name = true) ∧
        ∀ name, names.find? (!hasValue value ·) = some name →
          Path.render template value = .error (.missing name)) ∧
    (∀ template' offset, Path.placeholders template = .error (.unclosed template' offset) →
      ∃ front inside names, template.toList = front ++ '\x7b' :: inside ∧ '\x7d' ∉ inside ∧
        template' = template ∧ offset = Text.byteLength front ∧
        Path.placeholders (String.ofList front) = .ok names ∧
        ((∀ name ∈ names, hasValue value name = true) →
          Path.render template value = .error (.unclosed template offset)) ∧
        ∀ name, names.find? (!hasValue value ·) = some name →
          Path.render template value = .error (.missing name)) ∧
    ∀ (location : String) (path : PathTemplate) (c : Context) (error : ResolveError),
      PathTemplate.compile location template = .ok path → path.render c = .error error →
        error.field ≠ "path" := by
  have hfirst : ∀ ps, ((holeNames ps).foldl Path.listName []).find? (!hasValue value ·) =
      (holeNames ps).find? (!hasValue value ·) := fun ps => Path.find?_foldl_listName _ _ _
  refine ⟨fun names h => ?_, fun template' offset h => ?_, fun location path c error h herror => ?_⟩
  · obtain ⟨ps, hps, _, rfl⟩ := Path.placeholders_eq_ok_iff.1 h
    have hrender := Path.render_of_pieces hps value
    rw [← hfirst] at hrender
    refine ⟨⟨ps, hps, rfl⟩, ?_, fun name hname => by rw [hrender, hname]⟩
    rw [hrender, ← find?_hasValue_eq_none_iff]
    constructor
    · rintro ⟨path, hpath⟩
      split at hpath
      · cases hpath
      · assumption
    · intro hnone
      rw [hnone]
      exact ⟨_, rfl⟩
  · obtain ⟨rfl, front, inside, ps, hcs, hinside, rfl, hps, hnamed⟩ := Path.exists_of_unclosed h
    have hrender := Path.render_of_open hcs hinside hps value
    have hfront : Path.placeholders (String.ofList front) =
        .ok ((holeNames ps).foldl Path.listName []) :=
      Path.placeholders_eq_ok_iff.2 ⟨ps, by rwa [String.toList_ofList], hnamed, rfl⟩
    rw [← hfirst] at hrender
    refine ⟨front, inside, _, hcs, hinside, rfl, rfl, hfront, fun hvalues => ?_,
      fun name hname => ?_⟩
    · rw [hrender, find?_hasValue_eq_none_iff.2 hvalues]
    · rw [hrender, hname]
  · obtain ⟨q, _, hfault⟩ := PathTemplate.fault_of_render h herror
    exact hfault.field_ne

/-- The compiled path to a note under one of its tags. -/
def noteUnderTag : PathTemplate :=
  (PathTemplate.compile "shop" "/notes/\x7bid\x7d/\x7b tag \x7d/\x7bid\x7d").toOption.get
    (by decide +kernel)

/-- A template with a name that stands twice, and one with a brace behind a character of two bytes
that is never closed. -/
theorem placeholders_agree_noteTemplates :
    let value : String → Option Json := fun name => if name = "id" then some (.int 7) else none
    let twice := "/notes/\x7bid\x7d/\x7b tag \x7d/\x7bid\x7d"
    let unclosed := "/notes/\x7bid\x7d/é\x7btag"
    Path.placeholders twice = .ok ["id", "tag"] ∧
      Path.render twice value = .error (.missing "tag") ∧
      Path.placeholders unclosed = .error (.unclosed unclosed 14) ∧
      Path.render unclosed value = .error (.unclosed unclosed 14) ∧
      PathTemplate.compile "shop" twice = .ok noteUnderTag ∧
      ∃ error, noteUnderTag.render ⟨.obj [("id", .int 7)], .null, none⟩ = .error error ∧
        error.field ≠ "path" := by
  intro value twice unclosed
  have htwice : Path.placeholders twice = .ok ["id", "tag"] := by decide +kernel
  have hunclosed : Path.placeholders unclosed = .error (.unclosed unclosed 14) := by decide +kernel
  have hcompiled : PathTemplate.compile "shop" twice = .ok noteUnderTag := eq_ok_get _
  obtain ⟨error, hfault⟩ : ∃ error,
      noteUnderTag.render ⟨.obj [("id", .int 7)], .null, none⟩ = .error error :=
    exists_error_of_toOption (by decide +kernel)
  refine ⟨htwice, ((placeholders_agree twice value).1 _ htwice).2.2 "tag" (by decide +kernel),
    hunclosed, ?_, hcompiled, error, hfault,
    (placeholders_agree twice value).2.2 "shop" noteUnderTag _ _ hcompiled hfault⟩
  obtain ⟨front, inside, names, hcs, -, -, hoffset, hnames, hrender, -⟩ :=
    (placeholders_agree unclosed value).2.1 _ _ hunclosed
  have htake : front = unclosed.toList.take front.length := by rw [hcs, List.take_left']; rfl
  have hlength : front.length < 19 := by
    have hle : front.length < unclosed.toList.length := by rw [hcs]; simp
    exact Nat.lt_trans hle (by decide)
  -- the offset tells how much of the text stands in front of the brace
  have hfront : front = "/notes/\x7bid\x7d/é".toList := by
    have hall : ∀ k < 19, 14 = Text.byteLength (unclosed.toList.take k) →
        unclosed.toList.take k = "/notes/\x7bid\x7d/é".toList := by decide +kernel
    rw [htake] at hoffset ⊢
    exact hall _ hlength hoffset
  have hlisted : Path.placeholders (String.ofList front) = .ok ["id"] := by
    rw [hfront]
    decide +kernel
  obtain rfl : names = ["id"] := Except.ok.inj (hnames.symm.trans hlisted)
  exact hrender (by decide)

/-! ## Values inside a path -/

/-- **Values keep the structure of a path.** A rendered path is its template with the encoded value
of an expression in place of each name. Its slashes, question marks and number signs are those that
the template has outside of braces, so it has the segments of the template; no value is searched
for names; and a segment is `.` or `..`, or made of more dots, just if the plain texts of its values
make it so. -/
theorem PathTemplate.render_keeps_structure {p : PathTemplate} {c : Context} {path : String}
    (h : p.render c = .ok path) :
    ∃ (ps : List Piece) (value : String → Option Json), Pieces p.template.toList ps ∧
      (∀ name ∈ holeNames ps, ∃ e v, (name, e) ∈ p.parameters ∧
        parameterValue c name e = .ok v ∧ value name = some v) ∧
      Path.KeepsStructure ps value path := by
  obtain ⟨values, hvalues, h⟩ := bind_eq_ok_iff.1 h
  split at h
  · rename_i text hrender
    cases h
    obtain ⟨ps, hps, hfilled, rfl⟩ := Path.render_eq_ok_iff.1 hrender
    refine ⟨ps, _, hps, fun name hname => ?_, hps.keepsStructure _⟩
    have hlookup := hfilled name hname
    unfold hasValue at hlookup
    dsimp only at hlookup ⊢
    cases hv : values.lookup name with
    | none => simp [hv] at hlookup
    | some v =>
        obtain ⟨⟨name', e⟩, hmem, hq⟩ := mem_of_mapM_ok hvalues (mem_of_lookup_eq_some hv)
        obtain ⟨v', hv', hq⟩ := bind_eq_ok_iff.1 hq
        cases hq
        exact ⟨e, v, hmem, hv', rfl⟩
  · cases h
  · cases h

/-- The compiled path to the notes of a customer. -/
def customerNotes : PathTemplate :=
  (PathTemplate.compile "shop" "/customers/\x7bid\x7d/notes").toOption.get (by decide +kernel)

/-- A value with slashes, a question mark and braces stays within its segment. -/
theorem render_keeps_structure_customerNotes :
    let c : Context := ⟨.obj [("id", .str "a/..?\x7bid\x7d")], .null, none⟩
    customerNotes.render c = .ok "/customers/a%2F..%3F%7Bid%7D/notes" ∧
      ∃ (ps : List Piece) (value : String → Option Json), Pieces customerNotes.template.toList ps ∧
        (∀ name ∈ holeNames ps, ∃ e v, (name, e) ∈ customerNotes.parameters ∧
          parameterValue c name e = .ok v ∧ value name = some v) ∧
        Path.KeepsStructure ps value "/customers/a%2F..%3F%7Bid%7D/notes" := by
  intro c
  have hrender : customerNotes.render c = .ok "/customers/a%2F..%3F%7Bid%7D/notes" :=
    eq_ok_of_toOption (by decide +kernel)
  exact ⟨hrender, PathTemplate.render_keeps_structure hrender⟩

/-- A value of two dots is a segment that leads back, as dots are not encoded. -/
theorem dotSegment_of_value :
    let ps := "/customers/".toList.map Piece.char ++
      .hole "id".toList :: "/notes".toList.map Piece.char
    let value : String → Option Json := fun name => if name = "id" then some (.str "..") else none
    PathTemplate.compile "shop" "/customers/\x7bid\x7d/notes" = .ok customerNotes ∧
      customerNotes.render ⟨.obj [("id", .str "..")], .null, none⟩ = .ok "/customers/../notes" ∧
      Pieces "/customers/\x7bid\x7d/notes".toList ps ∧
      [.hole "id".toList] ∈ ps.splitOnP Piece.isSeparator ∧
      [Piece.hole "id".toList].flatMap (Piece.fill value) = "..".toList ∧
      "/customers/../notes".toList.splitOnP Path.isSeparator =
        (ps.splitOnP Piece.isSeparator).map (·.flatMap (Piece.fill value)) := by
  intro ps value
  refine ⟨eq_ok_get _, eq_ok_of_toOption (by decide +kernel), ?_, by decide +kernel,
    by decide +kernel, by decide +kernel⟩
  have hparts : "/customers/\x7bid\x7d/notes".toList =
      "/customers/".toList ++ '\x7b' :: ("id".toList ++ '\x7d' :: ("/notes".toList ++ [])) := by
    decide +kernel
  have hend : Pieces ("/notes".toList ++ []) ("/notes".toList.map .char ++ []) :=
    .plain (by decide) .nil
  rw [List.append_nil ("/notes".toList.map Piece.char)] at hend
  have hhole : '\x7d' ∉ "id".toList := by decide
  have hfront : '\x7b' ∉ "/customers/".toList := by decide
  rw [hparts]
  exact .plain hfront (.hole hhole hend)

end ApiGateway.Catalog
