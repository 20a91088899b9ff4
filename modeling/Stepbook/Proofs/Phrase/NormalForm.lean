import Stepbook.Phrase
import Stepbook.Proofs.Phrase.Group
import Stepbook.Proofs.Phrase.Tagging
import Stepbook.Proofs.Text.Enclosed

/-!
# The display phrases

The passes leave neither a group nor an optional group, and they change nothing in
a text that has neither.  So the display phrases are exactly those texts, and a
phrase taken for an expression is its own phrase.

## Main definitions

* `Phrase.IsPhrase` — a text without groups and without optional groups.

## Main statements

* `Phrase.extract_eq_ok_iff`, `Phrase.extract_eq_error_iff` — what it takes for an
  annotation to have a phrase, or none.
* `Phrase.isPhrase_ofExpression`, `Phrase.ofExpression_eq_self` — the passes end in
  such a text and leave it alone.
* `Phrase.extract_range_and_idempotence` — both facts for annotations.

## Design notes

The passes run one after the other, so it is not enough that each pass removes
what it looks for: the last one must not bring groups back.  It moves no
parenthesis past a line feed or another parenthesis, which is all that matters to
a group (`groupFree_filter_iff`).
-/

namespace Stepbook.Phrase

open Relation Stepbook.Text

/-- A text that has neither a group nor an optional group. -/
structure IsPhrase (p : String) : Prop where
  groupFree : GroupFree p.toList
  optionalFree : OptionalFree p.toList

/-! ## Annotations and expressions -/

/-- The phrase of an annotation is the phrase of the expression it encloses. -/
theorem extract_eq_ok_iff {text p : String} :
    extract text = .ok p ↔
      ∃ e, enclosed? '^' '$' text.toList = some e ∧ String.ofList (ofExpression e) = p := by
  unfold extract expression
  cases enclosed? '^' '$' text.toList with
  | none => simp [Except.map]
  | some e => simp [Except.map]

/-- The annotations without a phrase are those that have no `$` behind a `^`. -/
theorem extract_eq_error_iff {text : String} {cause : Malformed} :
    extract text = .error cause ↔
      cause = .expression text ∧ ¬ Encloses '^' '$' text.toList := by
  rw [← enclosed?_eq_none_iff]
  unfold extract expression
  cases enclosed? '^' '$' text.toList with
  | none => simp [Except.map, eq_comm]
  | some e => simp [Except.map]

/-- An expression between the marks, whatever stands around them. -/
theorem extract_append (before after : String) (hbefore : '^' ∉ before.toList)
    (hafter : '$' ∉ after.toList) (e : List Char) :
    extract (before ++ "^" ++ String.ofList e ++ "$" ++ after) =
      .ok (String.ofList (ofExpression e)) := by
  refine extract_eq_ok_iff.mpr ⟨e, ?_, rfl⟩
  exact enclosed?_eq_some_iff.mpr ⟨_, _, hbefore, hafter, by simp⟩

/-! ## What the passes leave -/

/-- Tagging an optional group moves no parenthesis and no line feed. -/
theorem filter_of_tagStep {s t : List Char} (h : TagStep s t) :
    t.filter isGroupMark = s.filter isGroupMark := by
  obtain ⟨before, body, after, -, rfl, rfl⟩ := h
  have hopen : optionalOpen.filter isGroupMark = [] := by decide +kernel
  have hclose : optionalClose.filter isGroupMark = [] := by decide +kernel
  simp only [List.filter_append, List.filter_cons, hopen, hclose]
  simp [isGroupMark]

theorem filter_of_reaches {s t : List Char} (h : ReflTransGen TagStep s t) :
    t.filter isGroupMark = s.filter isGroupMark := by
  induction h with
  | refl => rfl
  | tail _ hstep ih => rw [filter_of_tagStep hstep, ih]

/-- Tagging brings no group back. -/
theorem groupFree_tagOptional {s : List Char} (h : GroupFree s) : GroupFree (tagOptional s) := by
  rw [← groupFree_filter_iff, filter_of_reaches (reaches_tagOptional s), groupFree_filter_iff]
  exact h

/-- The passes leave neither groups nor optional groups. -/
theorem isPhrase_ofExpression (e : List Char) : IsPhrase (String.ofList (ofExpression e)) where
  groupFree := by
    have hplaceholder : placeholder.filter isGroupMark = [] := by decide +kernel
    rw [String.toList_ofList]
    exact groupFree_tagOptional (groupFree_replaceGroups hplaceholder _)
  optionalFree := by
    rw [String.toList_ofList]
    exact optionalFree_tagOptional _

/-- The passes change nothing where there are neither. -/
theorem ofExpression_eq_self {p : String} (h : IsPhrase p) : ofExpression p.toList = p.toList := by
  have hsilent : replaceGroups ['(', '?', ':'] anyMarker p.toList = p.toList :=
    replaceGroups_eq_self (by decide) h.groupFree
  have hcapture : replaceGroups ['('] placeholder p.toList = p.toList :=
    replaceGroups_eq_self (by decide) h.groupFree
  rw [ofExpression, hsilent, hcapture]
  exact tagOptional_eq_of_reaches .refl h.optionalFree

/-- A text that has neither is the phrase of itself as an expression. -/
theorem extract_of_isPhrase {p : String} (h : IsPhrase p) : extract ("^" ++ p ++ "$") = .ok p := by
  have hextract := extract_append "" "" (by simp) (by simp) p.toList
  rw [ofExpression_eq_self h, String.ofList_toList] at hextract
  simpa using hextract

theorem isPhrase_of_extract {text p : String} (h : extract text = .ok p) : IsPhrase p := by
  obtain ⟨e, -, rfl⟩ := extract_eq_ok_iff.mp h
  exact isPhrase_ofExpression e

/-- **The display phrases are exactly the texts without groups and without optional
groups.**  Each of them is its own phrase, and so is therefore every phrase that an
annotation has. -/
theorem extract_range_and_idempotence :
    (∀ p, (∃ text, extract text = .ok p) ↔ IsPhrase p) ∧
    (∀ p, IsPhrase p → extract ("^" ++ p ++ "$") = .ok p) ∧
    (∀ text p, extract text = .ok p → extract ("^" ++ p ++ "$") = .ok p) := by
  refine ⟨fun p => ⟨?_, ?_⟩, fun p => extract_of_isPhrase, ?_⟩
  · rintro ⟨text, htext⟩
    exact isPhrase_of_extract htext
  · intro h
    exact ⟨_, extract_of_isPhrase h⟩
  · intro text p h
    exact extract_of_isPhrase (isPhrase_of_extract h)

/-- The phrase of an annotation with unbalanced brackets and parentheses, a `)` on
the next line, and marks inside the expression is its own phrase. -/
theorem extract_unbalanced :
    extract "a^b) [c (.*)]? ]? [d(\n)^$$" =
        .ok "b) <span class='opt'>c XXXX</span> ]? [d(\n)^$" ∧
      IsPhrase "b) <span class='opt'>c XXXX</span> ]? [d(\n)^$" ∧
      extract ("^" ++ "b) <span class='opt'>c XXXX</span> ]? [d(\n)^$" ++ "$") =
        .ok "b) <span class='opt'>c XXXX</span> ]? [d(\n)^$" := by
  have h : extract "a^b) [c (.*)]? ]? [d(\n)^$$" =
      .ok "b) <span class='opt'>c XXXX</span> ]? [d(\n)^$" := by
    cbv
  refine ⟨h, (extract_range_and_idempotence.1 _).mp ⟨_, h⟩, ?_⟩
  exact extract_range_and_idempotence.2.2 _ _ h

end Stepbook.Phrase
