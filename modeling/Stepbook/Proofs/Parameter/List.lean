import Stepbook.Parameter.List
import Stepbook.Proofs.Text.Enclosed
import Stepbook.Proofs.Text.Pieces

/-!
# Parameter lists as they are written

A declaration is taken apart at its first `(` and its last `)`, and there is one way
to do so or none.  What stands between is cut at its commas, again in one way only.
So a list of segments that is written into a declaration is read back, parentheses
inside the segments included, and a text without such a pair of parentheses is the
only one that is refused.

## Main definitions

* `ParameterList.Declaration` — a declaration, taken apart at the outermost
  parentheses.
* `ParameterList.CutAtCommas` — a text, cut at its commas.
* `ParameterList.IsSegment` — what a parameter list can hold between two commas.

## Main statements

* `ParameterList.text_injective`, `ParameterList.CutAtCommas.unique` — there is one
  way to take a text apart.
* `ParameterList.segments_eq_error_iff` — which texts have no parameter list.
* `ParameterList.segments_undo_writing` — reading undoes writing.
-/

namespace Stepbook.ParameterList

open Stepbook.Text

/-- A declaration, taken apart at its first `(` and its last `)`. -/
@[ext]
structure Declaration where
  head : String
  body : String
  tail : String
  not_mem_head : '(' ∉ head.toList
  not_mem_tail : ')' ∉ tail.toList

/-- The text of a declaration. -/
def Declaration.text (d : Declaration) : String := d.head ++ "(" ++ d.body ++ ")" ++ d.tail

/-- The pieces of a text between its commas. -/
structure CutAtCommas (body : String) (cut : List String) : Prop where
  ne_nil : cut ≠ []
  no_comma : ∀ s ∈ cut, ',' ∉ s.toList
  join : ",".intercalate cut = body

/-- What a parameter list can hold between two commas.  It may hold parentheses. -/
structure IsSegment (s : String) : Prop where
  no_comma : ',' ∉ s.toList
  not_blank : ∃ c ∈ s.toList, isBlank c = false

/-! ## The parentheses -/

theorem toList_text (d : Declaration) :
    d.text.toList = d.head.toList ++ '(' :: (d.body.toList ++ ')' :: d.tail.toList) := by
  simp [Declaration.text]

/-- There is one way at most to take a text apart at the outermost parentheses. -/
theorem text_injective : Function.Injective Declaration.text := by
  intro d d' h
  have hlist := congrArg String.toList h
  rw [toList_text, toList_text] at hlist
  obtain ⟨hhead, hbody, htail⟩ :=
    enclosed_inj d.not_mem_head d'.not_mem_head d.not_mem_tail d'.not_mem_tail hlist
  exact Declaration.ext (String.toList_inj.mp hhead) (String.toList_inj.mp hbody)
    (String.toList_inj.mp htail)

/-- A text with a `(` before a `)` is the text of a declaration. -/
theorem exists_text_eq {text : String} (h : Encloses '(' ')' text.toList) :
    ∃ d : Declaration, d.text = text := by
  obtain ⟨before, e, after, hbefore, hafter, htext⟩ := h.exists_outermost
  refine ⟨⟨String.ofList before, String.ofList e, String.ofList after, by simpa using hbefore,
    by simpa using hafter⟩, String.toList_inj.mp ?_⟩
  rw [toList_text, htext]
  simp

/-- A declaration has a parameter list. -/
theorem segments_text (d : Declaration) :
    segments d.text = .ok ((segmentsOf d.body.toList).map String.ofList) := by
  have hbody : enclosed? '(' ')' d.text.toList = some d.body.toList :=
    enclosed?_eq_some_iff.mpr ⟨_, _, d.not_mem_head, d.not_mem_tail, toList_text d⟩
  simp only [segments, hbody]

/-- The texts without a parameter list are those that have no `)` behind a `(`. -/
theorem segments_eq_error_iff {text : String} {cause : Malformed} :
    segments text = .error cause ↔
      cause = .parameterList text ∧ ¬ Encloses '(' ')' text.toList := by
  rw [← enclosed?_eq_none_iff]
  unfold segments
  cases enclosed? '(' ')' text.toList with
  | none => simp [eq_comm]
  | some e => simp

/-- A text with a parameter list has a `)` behind a `(`. -/
theorem encloses_of_segments {text : String} {segs : List String}
    (h : segments text = .ok segs) : Encloses '(' ')' text.toList := by
  unfold segments at h
  cases he : enclosed? '(' ')' text.toList with
  | none =>
      rw [he] at h
      cases h
  | some e => exact encloses_of_enclosed? he

/-! ## The commas -/

theorem toList_comma_intercalate (texts : List String) :
    (",".intercalate texts).toList = [','].intercalate (texts.map String.toList) :=
  String.toList_intercalate

/-- A text is cut at its commas in one way. -/
theorem CutAtCommas.map_toList_eq {body : String} {cut : List String} (h : CutAtCommas body cut) :
    cut.map String.toList = pieces (· == ',') body.toList := by
  rw [← h.join, toList_comma_intercalate, pieces_intercalate]
  · intro s hs
    obtain ⟨t, ht, rfl⟩ := List.mem_map.mp hs
    exact h.no_comma t ht
  · simpa using h.ne_nil

theorem CutAtCommas.unique {body : String} {cut cut' : List String} (h : CutAtCommas body cut)
    (h' : CutAtCommas body cut') : cut = cut' := by
  have hmap : cut.map String.toList = cut'.map String.toList := by
    rw [h.map_toList_eq, h'.map_toList_eq]
  exact (List.map_inj_right fun _ _ => String.toList_inj.mp).mp hmap

/-- Every text can be cut at its commas. -/
theorem exists_cutAtCommas (body : String) : ∃ cut, CutAtCommas body cut := by
  refine ⟨(pieces (· == ',') body.toList).map String.ofList, ?_, ?_, ?_⟩
  · simpa using pieces_ne_nil _ _
  · intro s hs
    obtain ⟨t, ht, rfl⟩ := List.mem_map.mp hs
    intro hmem
    simpa using not_of_mem_pieces ht ',' (by simpa using hmem)
  · refine String.toList_inj.mp ?_
    rw [toList_comma_intercalate, List.map_map]
    simpa [Function.comp_def] using intercalate_pieces ',' body.toList

/-- The segments are the pieces between the commas that are not blank. -/
theorem map_segmentsOf {body : String} {cut : List String} (h : CutAtCommas body cut) :
    (segmentsOf body.toList).map String.ofList = cut.filter fun s => !s.toList.all isBlank := by
  rw [segmentsOf, ← h.map_toList_eq, List.filter_map, List.map_map]
  simp [Function.comp_def]

/-- Segments joined by commas are the segments of the text. -/
theorem map_segmentsOf_intercalate {segs : List String} (h : ∀ s ∈ segs, IsSegment s) :
    (segmentsOf (",".intercalate segs).toList).map String.ofList = segs := by
  cases segs with
  | nil => rfl
  | cons s segs =>
      have hcut : CutAtCommas (",".intercalate (s :: segs)) (s :: segs) :=
        ⟨by simp, fun t ht => (h t ht).no_comma, rfl⟩
      rw [map_segmentsOf hcut, List.filter_eq_self]
      intro t ht
      simpa using (h t ht).not_blank

/-! ## Both -/

/-- **Reading a parameter list undoes writing it**, and fails just on the texts that
hold none.  Segments joined by commas between the outermost parentheses are read
back.  A text is refused just when it has no `)` behind a `(`.  Every other text can
be taken apart at the outermost parentheses in one way, and what stands between them
can be cut at its commas in one way; the segments are the pieces that are not
blank, as they are. -/
theorem segments_undo_writing :
    (∀ (d : Declaration) (segs : List String), (∀ s ∈ segs, IsSegment s) →
      d.body = ",".intercalate segs → segments d.text = .ok segs) ∧
    (∀ text cause, segments text = .error cause ↔
      cause = .parameterList text ∧ ¬ Encloses '(' ')' text.toList) ∧
    (∀ text segs, segments text = .ok segs →
      ∃ d : Declaration, d.text = text ∧ (∀ other : Declaration, other.text = text → other = d) ∧
        ∃ cut, CutAtCommas d.body cut ∧ (∀ other, CutAtCommas d.body other → other = cut) ∧
          segs = cut.filter fun s => !s.toList.all isBlank) := by
  refine ⟨?_, fun text cause => segments_eq_error_iff, ?_⟩
  · intro d segs hsegs hbody
    rw [segments_text, hbody, map_segmentsOf_intercalate hsegs]
  · intro text segs hsegs
    obtain ⟨d, rfl⟩ := exists_text_eq (encloses_of_segments hsegs)
    obtain ⟨cut, hcut⟩ := exists_cutAtCommas d.body
    rw [segments_text, map_segmentsOf hcut] at hsegs
    exact ⟨d, rfl, fun other hother => text_injective hother, cut, hcut,
      fun other hother => hother.unique hcut, (Except.ok.inj hsegs).symm⟩

/-- A list whose segments hold parentheses is read back, and a list with a blank
piece is taken apart in one way. -/
theorem annotated_segments_read_back :
    let d : Declaration :=
      { head := "public void f"
        body := "@Transform(X.class) List<A> as, int n"
        tail := " throws E;"
        not_mem_head := by decide +kernel
        not_mem_tail := by decide +kernel }
    let segs := ["@Transform(X.class) List<A> as", " int n"]
    ((∀ s ∈ segs, IsSegment s) ∧ d.body = ",".intercalate segs ∧ segments d.text = .ok segs) ∧
      segments "f(int a,\t, b c)" = .ok ["int a", " b c"] ∧
      ∃ d : Declaration, d.text = "f(int a,\t, b c)" ∧
        ∃ cut, CutAtCommas d.body cut ∧
          ["int a", " b c"] = cut.filter fun s => !s.toList.all isBlank := by
  intro d segs
  have hsegs : ∀ s ∈ segs, IsSegment s := by
    simp only [segs, List.forall_mem_cons, List.not_mem_nil, false_imp_iff, implies_true, and_true]
    exact ⟨⟨by decide +kernel, '@', by decide +kernel, by decide +kernel⟩,
      ⟨by decide +kernel, 'i', by decide +kernel, by decide +kernel⟩⟩
  have hbody : d.body = ",".intercalate segs := by decide +kernel
  have hblank : segments "f(int a,\t, b c)" = .ok ["int a", " b c"] := by decide +kernel
  refine ⟨⟨hsegs, hbody, segments_undo_writing.1 d segs hsegs hbody⟩, hblank, ?_⟩
  obtain ⟨d', htext, -, cut, hcut, -, hfilter⟩ := segments_undo_writing.2.2 _ _ hblank
  exact ⟨d', htext, cut, hcut, hfilter⟩

end Stepbook.ParameterList
