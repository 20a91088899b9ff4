import Mathlib.Data.List.Infix
import Stepbook.Proofs.Phrase.NormalForm

/-!
# The meaning of a match expression

A match expression is written as a sequence of fragments: plain text, groups that
capture nothing, captures, and optional groups around further fragments.  The
passes work on the flat text, but their result is put together from the fragments:
each of them shows the same wherever it stands.

## Main definitions

* `Phrase.Fragment` — a fragment of an expression.
* `Phrase.Rendering`, `Phrase.Rendering.sequence` — a way to write the groups, and
  a sequence of fragments written that way.
* `Phrase.source`, `Phrase.display` — the expression that a sequence writes, and
  the phrase it shows.

## Main statements

* `Phrase.Rendering.sequence_rel` — two renderings of a sequence are related once
  those of each kind of fragment are.
* `Phrase.rewrites_source`, `Phrase.rewrites_silenced` — a pass over the text
  rewrites each fragment in place.
* `Phrase.reaches_display` — tagging groups one by one rewrites each optional group
  in place.
* `Phrase.extract_source` — the phrase of a written sequence is its display.

## Design notes

Between source and display stand two more renderings, one after each pass that
replaces groups.  The bracket pass is not followed level by level: it is enough
that the display is reached by tagging groups in some order
(`tagOptional_eq_of_reaches`), and the order of the tree, innermost first, will do.
-/

namespace Stepbook.Phrase

open Relation Stepbook.Text

/-! ## Fragments -/

/-- A text with none of some characters. -/
structure TextWithout (excluded : List Char) where
  text : List Char
  not_mem : ∀ c ∈ excluded, c ∉ text

/-- A text outside of groups. -/
abbrev PlainText := TextWithout ['(', ')', '[', ']']

/-- A text inside a group, which may hold brackets. -/
abbrev GroupText := TextWithout ['(', ')', '\n']

/-- A group that captures nothing, written out. -/
def silentSource (c : GroupText) : List Char := ['(', '?', ':'] ++ (c.text ++ [')'])

/-- A part of what a capture encloses. -/
inductive CapturePart where
  | text (t : GroupText)
  /-- A group that captures nothing. -/
  | silent (c : GroupText)

/-- A part of a capture, with its groups written in a given way. -/
def CapturePart.render (silent : GroupText → List Char) : CapturePart → List Char
  | .text t => t.text
  | .silent c => silent c

/-- What a capture encloses.  It does not read as a group that captures nothing. -/
structure Capture where
  parts : List CapturePart
  not_silent : ¬ ['?', ':'] <+: parts.flatMap (CapturePart.render silentSource)

/-- A capture, with the groups inside written in a given way. -/
def Capture.render (silent : GroupText → List Char) (b : Capture) : List Char :=
  '(' :: (b.parts.flatMap (CapturePart.render silent) ++ [')'])

/-- A fragment of a match expression. -/
inductive Fragment where
  | text (t : PlainText)
  /-- A group that captures nothing. -/
  | silent (c : GroupText)
  | capture (b : Capture)
  /-- An optional group around a sequence of fragments. -/
  | optional (fs : List Fragment)

/-! ## Renderings -/

/-- A way to write the groups of an expression. -/
structure Rendering where
  silent : GroupText → List Char
  capture : Capture → List Char
  optional : List Char → List Char

/-- A sequence of fragments, written. -/
def Rendering.sequence (r : Rendering) : List Fragment → List Char
  | [] => []
  | .text t :: fs => t.text ++ r.sequence fs
  | .silent c :: fs => r.silent c ++ r.sequence fs
  | .capture b :: fs => r.capture b ++ r.sequence fs
  | .optional inner :: fs => r.optional (r.sequence inner) ++ r.sequence fs

/-- An optional group, written out. -/
def bracketed (s : List Char) : List Char := '[' :: (s ++ [']', '?'])

/-- An optional group, tagged. -/
def tagged (s : List Char) : List Char := optionalOpen ++ s ++ optionalClose

/-- The expression that a sequence of fragments writes. -/
def source (fs : List Fragment) : List Char :=
  Rendering.sequence ⟨silentSource, Capture.render silentSource, bracketed⟩ fs

/-- The expression once the groups that capture nothing are replaced. -/
def silenced (fs : List Fragment) : List Char :=
  Rendering.sequence ⟨fun _ => anyMarker, Capture.render fun _ => anyMarker, bracketed⟩ fs

/-- The expression once all groups but the optional ones are replaced. -/
def replaced (fs : List Fragment) : List Char :=
  Rendering.sequence ⟨fun _ => anyMarker, fun _ => placeholder, bracketed⟩ fs

/-- The phrase that a sequence of fragments shows. -/
def display (fs : List Fragment) : List Char :=
  Rendering.sequence ⟨fun _ => anyMarker, fun _ => placeholder, tagged⟩ fs

/-- Two renderings of a sequence are related once those of each kind of fragment
are. -/
theorem Rendering.sequence_rel {R : List Char → List Char → Prop} {r r' : Rendering}
    (nil : R [] []) (append : ∀ u v u' v', R u v → R u' v' → R (u ++ u') (v ++ v'))
    (text : ∀ t : PlainText, R t.text t.text) (silent : ∀ c, R (r.silent c) (r'.silent c))
    (capture : ∀ b, R (r.capture b) (r'.capture b))
    (optional : ∀ u v, R u v → R (r.optional u) (r'.optional v)) (fs : List Fragment) :
    R (r.sequence fs) (r'.sequence fs) := by
  induction fs using Rendering.sequence.induct with
  | case1 =>
      rw [Rendering.sequence, Rendering.sequence]
      exact nil
  | case2 t fs ih =>
      rw [Rendering.sequence, Rendering.sequence]
      exact append _ _ _ _ (text t) ih
  | case3 c fs ih =>
      rw [Rendering.sequence, Rendering.sequence]
      exact append _ _ _ _ (silent c) ih
  | case4 b fs ih =>
      rw [Rendering.sequence, Rendering.sequence]
      exact append _ _ _ _ (capture b) ih
  | case5 inner fs ihinner ih =>
      rw [Rendering.sequence, Rendering.sequence]
      exact append _ _ _ _ (optional _ _ ihinner) ih

/-! ## Passes that replace groups -/

theorem PlainText.not_mem_open (t : PlainText) : '(' ∉ t.text := t.not_mem '(' (by simp)

theorem GroupText.not_mem_open (t : GroupText) : '(' ∉ t.text := t.not_mem '(' (by simp)

theorem rewrites_bracketed {o marker u v : List Char} (h : Rewrites ('(' :: o) marker u v) :
    Rewrites ('(' :: o) marker (bracketed u) (bracketed v) := by
  have hopen : Rewrites ('(' :: o) marker ['['] ['['] := rewrites_of_not_mem (by decide)
  have hclose : Rewrites ('(' :: o) marker [']', '?'] [']', '?'] :=
    rewrites_of_not_mem (by decide)
  exact hopen.append (h.append hclose)

theorem rewrites_silentSource (c : GroupText) :
    Rewrites ['(', '?', ':'] anyMarker (silentSource c) anyMarker :=
  rewrites_group (c.not_mem ')' (by simp)) (c.not_mem '\n' (by simp))

/-- A capture opens no group that captures nothing. -/
theorem afterGroup?_eq_none_of_not_prefix {body : List Char} (h : ¬ ['?', ':'] <+: body)
    (rest : List Char) : afterGroup? ['(', '?', ':'] ('(' :: (body ++ ')' :: rest)) = none := by
  rw [Option.eq_none_iff_forall_ne_some]
  intro tail hsome
  rw [afterGroup?, Option.bind_eq_some_iff] at hsome
  obtain ⟨s, hprefix, -⟩ := hsome
  have hbody : body ++ ')' :: rest = '?' :: ':' :: s :=
    (List.cons.inj (eq_append_of_afterPrefix? hprefix)).2
  -- the `)` that ends the capture is neither of the two characters
  rcases body with _ | ⟨c, _ | ⟨d, body⟩⟩
  · simp at hbody
  · simp at hbody
  · obtain ⟨rfl, htail⟩ := List.cons.inj hbody
    obtain ⟨rfl, -⟩ := List.cons.inj htail
    exact h ⟨body, rfl⟩

theorem rewrites_captureSource (b : Capture) :
    Rewrites ['(', '?', ':'] anyMarker (b.render silentSource) (b.render fun _ => anyMarker) := by
  have hparts : Rewrites ['(', '?', ':'] anyMarker
      (b.parts.flatMap (CapturePart.render silentSource))
      (b.parts.flatMap (CapturePart.render fun _ => anyMarker)) := by
    refine rewrites_flatMap (fun p => ?_) b.parts
    cases p with
    | text t => exact rewrites_of_not_mem t.not_mem_open
    | silent c => exact rewrites_silentSource c
  have hclose : Rewrites ['(', '?', ':'] anyMarker [')'] [')'] := rewrites_of_not_mem (by decide)
  intro rest
  have hnone := afterGroup?_eq_none_of_not_prefix b.not_silent rest
  rw [Capture.render, Capture.render, List.cons_append, List.append_assoc,
    List.singleton_append, replaceGroups_of_none hnone, List.cons_append]
  congr 1
  have hbody := hparts.append hclose rest
  rw [List.append_assoc] at hbody
  exact hbody

/-- The first pass writes each group that captures nothing anew. -/
theorem rewrites_source (fs : List Fragment) :
    Rewrites ['(', '?', ':'] anyMarker (source fs) (silenced fs) := by
  refine Rendering.sequence_rel ?nil ?append ?text ?silent ?capture ?optional fs
  case nil => exact fun _ => rfl
  case append => exact fun _ _ _ _ => Rewrites.append
  case text => exact fun t => rewrites_of_not_mem t.not_mem_open
  case silent => exact rewrites_silentSource
  case capture => exact rewrites_captureSource
  case optional => exact fun _ _ => rewrites_bracketed

/-- With its groups replaced, a capture encloses nothing that neither its texts nor
the marker have. -/
theorem Capture.not_mem_parts {x : Char} (htext : ∀ t : GroupText, x ∉ t.text)
    (hmarker : x ∉ anyMarker) (b : Capture) :
    x ∉ b.parts.flatMap (CapturePart.render fun _ => anyMarker) := by
  intro hmem
  obtain ⟨p, -, hp⟩ := List.mem_flatMap.mp hmem
  cases p with
  | text t => exact htext t hp
  | silent c => exact hmarker hp

theorem rewrites_captureSilenced (b : Capture) :
    Rewrites ['('] placeholder (b.render fun _ => anyMarker) placeholder := by
  have hclose : ')' ∉ b.parts.flatMap (CapturePart.render fun _ => anyMarker) :=
    b.not_mem_parts (fun t => t.not_mem ')' (by simp)) (by decide +kernel)
  have hline : '\n' ∉ b.parts.flatMap (CapturePart.render fun _ => anyMarker) :=
    b.not_mem_parts (fun t => t.not_mem '\n' (by simp)) (by decide +kernel)
  exact rewrites_group hclose hline

/-- The second pass replaces each capture. -/
theorem rewrites_silenced (fs : List Fragment) :
    Rewrites ['('] placeholder (silenced fs) (replaced fs) := by
  have hmarker : '(' ∉ anyMarker := by decide +kernel
  refine Rendering.sequence_rel ?nil ?append ?text ?silent ?capture ?optional fs
  case nil => exact fun _ => rfl
  case append => exact fun _ _ _ _ => Rewrites.append
  case text => exact fun t => rewrites_of_not_mem t.not_mem_open
  case silent => exact fun _ => rewrites_of_not_mem hmarker
  case capture => exact rewrites_captureSilenced
  case optional => exact fun _ _ => rewrites_bracketed

/-! ## Passes that tag optional groups -/

/-- A text that becomes one without brackets once its groups are tagged. -/
structure Displays (s t : List Char) : Prop where
  reaches : ReflTransGen TagStep s t
  notBracket : t.all notBracket = true

theorem Displays.refl {s : List Char} (h : s.all Phrase.notBracket = true) : Displays s s :=
  ⟨.refl, h⟩

theorem Displays.append {s t s' t' : List Char} (h : Displays s t) (h' : Displays s' t') :
    Displays (s ++ s') (t ++ t') where
  reaches := (reaches_append_right s' h.reaches).trans (reaches_append_left t h'.reaches)
  notBracket := by rw [List.all_append, h.notBracket, h'.notBracket, Bool.and_self]

/-- Once the text inside is free of brackets, an optional group can be tagged. -/
theorem Displays.optional {s t : List Char} (h : Displays s t) :
    Displays (bracketed s) (tagged t) where
  reaches := by
    -- first the groups inside, between the brackets, then the brackets themselves
    have hinside : ReflTransGen TagStep (bracketed s) (bracketed t) :=
      reaches_append_left ['['] (reaches_append_right [']', '?'] h.reaches)
    refine hinside.tail ⟨[], t, [], List.all_eq_true.mp h.notBracket, rfl, ?_⟩
    rw [List.append_nil, List.nil_append]
    rfl
  notBracket := by
    have hopen : optionalOpen.all Phrase.notBracket = true := by decide +kernel
    have hclose : optionalClose.all Phrase.notBracket = true := by decide +kernel
    rw [tagged, List.all_append, List.all_append, hopen, h.notBracket, hclose]
    rfl

theorem PlainText.all_notBracket (t : PlainText) : t.text.all notBracket = true := by
  refine List.all_eq_true.mpr fun c hc => notBracket_iff.mpr ⟨?_, ?_⟩
  · rintro rfl
    exact t.not_mem '[' (by simp) hc
  · rintro rfl
    exact t.not_mem ']' (by simp) hc

/-- Tagging groups from the inside out turns each optional group into its display. -/
theorem displays_display (fs : List Fragment) : Displays (replaced fs) (display fs) := by
  have hmarker : anyMarker.all notBracket = true := by decide +kernel
  have hplaceholder : placeholder.all notBracket = true := by decide +kernel
  refine Rendering.sequence_rel ?nil ?append ?text ?silent ?capture ?optional fs
  case nil => exact .refl rfl
  case append => exact fun _ _ _ _ => Displays.append
  case text => exact fun t => .refl t.all_notBracket
  case silent => exact fun _ => .refl hmarker
  case capture => exact fun _ => .refl hplaceholder
  case optional => exact fun _ _ => Displays.optional

/-- The phrase of an expression put together from fragments. -/
theorem ofExpression_source (fs : List Fragment) : ofExpression (source fs) = display fs := by
  have hdisplay := displays_display fs
  have hopen : '[' ∉ display fs := fun hmem =>
    (notBracket_iff.mp (List.all_eq_true.mp hdisplay.notBracket _ hmem)).1 rfl
  rw [ofExpression, (rewrites_source fs).eq, (rewrites_silenced fs).eq]
  exact tagOptional_eq_of_reaches hdisplay.reaches
    (optionalFree_iff_not_tagStep.mpr (not_tagStep_of_not_mem hopen))

/-- **The phrase of a written sequence is its display**, whatever stands in front of
the first `^` and behind the last `$`. -/
theorem extract_source (fs : List Fragment) (before after : String)
    (hbefore : '^' ∉ before.toList) (hafter : '$' ∉ after.toList) :
    extract (before ++ "^" ++ String.ofList (source fs) ++ "$" ++ after) =
      .ok (String.ofList (display fs)) := by
  rw [extract_append before after hbefore hafter, ofExpression_source]

/-- Marks and a question mark in the text, brackets and a group in a capture, and
an optional group in another. -/
def nestedGroups : List Fragment :=
  [.text ⟨"a^b$ ".toList, by simp⟩,
    .capture ⟨[.text ⟨"[x]?".toList, by simp⟩, .silent ⟨"y|[z".toList, by simp⟩],
      by decide +kernel⟩,
    .optional [.silent ⟨[], by simp⟩,
      .optional [.capture ⟨[], by decide +kernel⟩, .text ⟨"??\n".toList, by simp⟩]],
    .text ⟨"? end".toList, by simp⟩]

/-- The phrase of an expression with groups in groups. -/
theorem extract_nested :
    String.ofList (source nestedGroups) = "a^b$ ([x]?(?:y|[z))[(?:)[()??\n]?]?? end" ∧
      '^' ∉ "@When(\"".toList ∧ '$' ∉ "\")".toList ∧
      extract ("@When(\"" ++ "^" ++ String.ofList (source nestedGroups) ++ "$" ++ "\")") =
        .ok ("a^b$ XXXX<span class='opt'><span class='any'>...</span>" ++
          "<span class='opt'>XXXX??\n</span></span>? end") := by
  have hsource : String.ofList (source nestedGroups) =
      "a^b$ ([x]?(?:y|[z))[(?:)[()??\n]?]?? end" := by
    cbv
  have hdisplay : String.ofList (display nestedGroups) =
      "a^b$ XXXX<span class='opt'><span class='any'>...</span>" ++
        "<span class='opt'>XXXX??\n</span></span>? end" := by
    cbv
  refine ⟨hsource, by decide +kernel, by decide +kernel, ?_⟩
  rw [← hdisplay]
  exact extract_source nestedGroups "@When(\"" "\")" (by decide +kernel) (by decide +kernel)

end Stepbook.Phrase
