import Stepbook.Phrase
import Stepbook.Proofs.Phrase.Group
import Stepbook.Proofs.Phrase.Tagging

/-!
# What a phrase is spelled with

Replacing and tagging bring in their markers and tags and nothing else.

## Main statements

* `Phrase.mem_replaceGroups`, `Phrase.mem_of_tagStep` — the characters that a pass
  leaves.
* `Phrase.mem_ofExpression` — the characters of a phrase.
-/

namespace Stepbook.Phrase

open Relation

/-- Replacing groups brings in the marker only. -/
theorem mem_replaceGroups {o marker s : List Char} {c : Char}
    (h : c ∈ replaceGroups ('(' :: o) marker s) : c ∈ marker ∨ c ∈ s := by
  induction s using replaceGroups.induct ('(' :: o) with
  | case1 =>
      rw [replaceGroups] at h
      exact Or.inr h
  | case2 d s rest hgroup ih =>
      rw [replaceGroups_of_some hgroup (by simp), List.mem_append] at h
      obtain ⟨body, -, -, hs⟩ := exists_body_of_afterGroup? hgroup
      rcases h with hmarker | hrest
      · exact Or.inl hmarker
      · refine (ih hrest).imp id fun hmem => ?_
        simp [hs, hmem]
  | case3 d s hgroup ih =>
      rw [replaceGroups_of_none hgroup, List.mem_cons] at h
      rcases h with rfl | hrest
      · exact Or.inr List.mem_cons_self
      · exact (ih hrest).imp id (List.mem_cons_of_mem d)

/-- Tagging an optional group brings in the tags only. -/
theorem mem_of_tagStep {s t : List Char} {c : Char} (h : TagStep s t) (hc : c ∈ t) :
    c ∈ optionalOpen ++ optionalClose ∨ c ∈ s := by
  obtain ⟨before, body, after, -, rfl, rfl⟩ := h
  simp only [List.mem_append, List.mem_cons] at hc ⊢
  rcases hc with hbefore | ((hopen | hbody) | hclose) | hafter
  · exact Or.inr (Or.inl hbefore)
  · exact Or.inl (Or.inl hopen)
  · exact Or.inr (Or.inr (Or.inr (Or.inl hbody)))
  · exact Or.inl (Or.inr hclose)
  · exact Or.inr (Or.inr (Or.inr (Or.inr (Or.inr (Or.inr hafter)))))

theorem mem_of_reaches {s t : List Char} {c : Char} (h : ReflTransGen TagStep s t)
    (hc : c ∈ t) : c ∈ optionalOpen ++ optionalClose ∨ c ∈ s := by
  induction h with
  | refl => exact Or.inr hc
  | tail _ hstep ih =>
      rcases mem_of_tagStep hstep hc with htag | hmem
      · exact Or.inl htag
      · exact ih hmem

/-- **A phrase is spelled with the characters of its expression**, those of the markers
and those of the tags. -/
theorem mem_ofExpression {e : List Char} {c : Char} (h : c ∈ ofExpression e) :
    c ∈ e ∨ c ∈ anyMarker ++ placeholder ++ (optionalOpen ++ optionalClose) := by
  rw [ofExpression] at h
  rcases mem_of_reaches (reaches_tagOptional _) h with htag | hreplaced
  · exact Or.inr (List.mem_append_right _ htag)
  · rcases mem_replaceGroups hreplaced with hplaceholder | hsilenced
    · exact Or.inr (List.mem_append_left _ (List.mem_append_right _ hplaceholder))
    · rcases mem_replaceGroups hsilenced with hany | he
      · exact Or.inr (List.mem_append_left _ (List.mem_append_left _ hany))
      · exact Or.inl he

end Stepbook.Phrase
