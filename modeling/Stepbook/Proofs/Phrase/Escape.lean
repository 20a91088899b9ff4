import Stepbook.Phrase
import Stepbook.Proofs.Phrase.Group
import Stepbook.Proofs.Phrase.Tagging
import Stepbook.Proofs.Text.Literal

/-!
# Escapes in a match expression

Glue code writes a match expression as a string literal, so quotes and backslashes
in it are escaped.  A backslash never stands before one of the marks that groups are
found by.  So each mark is a unit of its own, every pass cuts the text between units,
and the display phrase is the body of a string literal too.

## Main definitions

* `Phrase.isMark` — the characters that groups and optional groups are found by.
* `Phrase.EscapeClosed` — the body of a string literal in which no mark is escaped.

## Main statements

* `Phrase.escapeClosed_replaceGroups`, `Phrase.escapeClosed_tagOptional` — what each
  pass makes of such a text.
* `Phrase.escapeClosed_ofExpression` — the phrase of such an expression.
-/

namespace Stepbook.Phrase

open Relation Stepbook.Text

/-- The characters that groups and optional groups are found by. -/
def isMark (c : Char) : Bool := ['(', ')', '[', ']', '?'].contains c

/-- The body of a string literal in which no mark stands behind a backslash. -/
abbrev EscapeClosed (s : List Char) : Prop := LiteralBody (fun c => !isMark c) s

variable {before body after marker s t : List Char}

/-- The text is taken apart at a mark. -/
theorem EscapeClosed.of_append_cons {c : Char} (hc : isMark c = true)
    (h : EscapeClosed (before ++ c :: after)) : EscapeClosed before ∧ EscapeClosed after := by
  have hescapes : (!isMark c) = false := by rw [hc]; rfl
  have hbackslash : c ≠ '\\' := by
    rintro rfl
    cases hc
  exact LiteralBody.of_append_cons hescapes hbackslash h

/-! ## Groups -/

/-- What stands around a group is made of units. -/
theorem EscapeClosed.around_group (h : EscapeClosed (before ++ '(' :: (body ++ ')' :: after))) :
    EscapeClosed before ∧ EscapeClosed after := by
  obtain ⟨hbefore, hrest⟩ := h.of_append_cons (by decide)
  obtain ⟨-, hafter⟩ := hrest.of_append_cons (by decide)
  exact ⟨hbefore, hafter⟩

/-- Groups that are replaced behind a text leave the whole made of units. -/
theorem escapeClosed_append_replaceGroups {o : List Char} (hmarker : EscapeClosed marker)
    (h : EscapeClosed (before ++ s)) :
    EscapeClosed (before ++ replaceGroups ('(' :: o) marker s) := by
  induction s using replaceGroups.induct ('(' :: o) generalizing before with
  | case1 => rwa [replaceGroups]
  | case2 c s rest hgroup ih =>
      -- the marker joins what stands before the group
      obtain ⟨body, -, -, hs⟩ := exists_body_of_afterGroup? hgroup
      rw [hs, ← List.append_assoc o] at h
      obtain ⟨hbefore, hrest⟩ := h.around_group
      have hjoined : EscapeClosed ((before ++ marker) ++ rest) :=
        (hbefore.append hmarker).append hrest
      rw [replaceGroups_of_some hgroup (by simp), ← List.append_assoc]
      exact ih hjoined
  | case3 c s hgroup ih =>
      rw [replaceGroups_of_none hgroup, List.append_cons]
      rw [List.append_cons] at h
      exact ih h

/-- Replacing groups cuts between units. -/
theorem escapeClosed_replaceGroups {o : List Char} (hmarker : EscapeClosed marker)
    (h : EscapeClosed s) : EscapeClosed (replaceGroups ('(' :: o) marker s) := by
  have hnil : EscapeClosed ([] ++ s) := h
  exact escapeClosed_append_replaceGroups hmarker hnil

/-! ## Optional groups -/

theorem escapeClosed_optionalOpen : EscapeClosed optionalOpen := by decide +kernel

theorem escapeClosed_optionalClose : EscapeClosed optionalClose := by decide +kernel

/-- Tagging an optional group cuts between units. -/
theorem escapeClosed_of_tagStep (h : TagStep s t) (hs : EscapeClosed s) : EscapeClosed t := by
  obtain ⟨before, body, after, -, rfl, rfl⟩ := h
  obtain ⟨hbefore, hrest⟩ := hs.of_append_cons (by decide)
  obtain ⟨hbody, hrest⟩ := hrest.of_append_cons (by decide)
  have hquestion : EscapeClosed ([] ++ '?' :: after) := hrest
  obtain ⟨-, hafter⟩ := hquestion.of_append_cons (by decide)
  have htagged : EscapeClosed (optionalOpen ++ body ++ optionalClose) :=
    (escapeClosed_optionalOpen.append hbody).append escapeClosed_optionalClose
  exact hbefore.append (htagged.append hafter)

/-- Tagging optional groups, one after the other, cuts between units. -/
theorem escapeClosed_tagOptional (h : EscapeClosed s) : EscapeClosed (tagOptional s) := by
  have hreaches := reaches_tagOptional s
  generalize tagOptional s = t at hreaches
  induction hreaches with
  | refl => exact h
  | tail _ hstep ih => exact escapeClosed_of_tagStep hstep ih

/-! ## Phrases -/

/-- **The phrase of an escape-closed expression is escape-closed.** -/
theorem escapeClosed_ofExpression (h : EscapeClosed s) : EscapeClosed (ofExpression s) := by
  have hmarker : EscapeClosed anyMarker := by decide +kernel
  have hplaceholder : EscapeClosed placeholder := by decide +kernel
  have hsilenced := escapeClosed_replaceGroups (o := ['?', ':']) hmarker h
  have hreplaced := escapeClosed_replaceGroups (o := []) hplaceholder hsilenced
  exact escapeClosed_tagOptional hreplaced

end Stepbook.Phrase
