import Mathlib.Data.List.TakeWhile
import Stepbook.Text.Enclosed

/-!
# Readings of an enclosed text

## Main definitions

* `Encloses` — an opening mark with a closing mark somewhere behind it.

## Main statements

* `append_mark_inj` — the text up to a mark is read off a text that goes on.
* `enclosed_inj` — there is at most one text between a first opening mark and a last
  closing mark.
* `enclosed?_eq_some_iff` — the text found stands between a first opening mark and
  a last closing mark.
* `enclosed?_eq_none_iff` — nothing is found just when no closing mark is behind an
  opening mark.
-/

namespace Stepbook.Text

/-- Dropping up to a mark stops at the first one. -/
theorem dropWhile_ne_append {o : Char} {before : List Char} (h : o ∉ before) (rest : List Char) :
    (before ++ o :: rest).dropWhile (· != o) = o :: rest := by
  induction before with
  | nil => simp
  | cons c before ih =>
      rw [List.mem_cons, not_or] at h
      rw [List.cons_append, List.dropWhile_cons_of_pos (by simpa using Ne.symm h.1)]
      exact ih h.2

/-- Two texts up to their first mark are the same if they begin two equal texts. -/
theorem append_mark_inj {o : Char} {u v s t : List Char} (hu : o ∉ u) (hv : o ∉ v)
    (h : u ++ o :: s = v ++ o :: t) : u = v ∧ s = t := by
  have hrest : o :: s = o :: t := by
    rw [← dropWhile_ne_append hu s, ← dropWhile_ne_append hv t, h]
  refine ⟨?_, (List.cons.inj hrest).2⟩
  rw [hrest] at h
  exact List.append_cancel_right h

/-- What is left behind the first mark, if there is one. -/
theorem eq_append_of_dropWhile_ne {o c : Char} {s rest : List Char}
    (h : s.dropWhile (· != o) = c :: rest) : ∃ before, o ∉ before ∧ s = before ++ o :: rest := by
  obtain rfl : c = o := by
    have hhead := List.head?_dropWhile_not (· != o) s
    rw [h] at hhead
    simpa using hhead
  refine ⟨s.takeWhile (· != c), ?_, ?_⟩
  · intro hmem
    simpa using List.mem_takeWhile_imp hmem
  · rw [← h, List.takeWhile_append_dropWhile]

/-- The text found stands between the first opening mark and the last closing
mark. -/
theorem enclosed?_eq_some_iff {o c : Char} {s e : List Char} :
    enclosed? o c s = some e ↔
      ∃ before after, o ∉ before ∧ c ∉ after ∧ s = before ++ o :: (e ++ c :: after) := by
  constructor
  · intro h
    unfold enclosed? at h
    split at h
    · cases h
    · rename_i first rest hfirst
      obtain ⟨before, hbefore, hs⟩ := eq_append_of_dropWhile_ne hfirst
      split at h
      · cases h
      · rename_i last front hlast
        obtain ⟨after, hafter, hrest⟩ := eq_append_of_dropWhile_ne hlast
        cases h
        refine ⟨before, after.reverse, hbefore, by simpa using hafter, ?_⟩
        rw [hs, ← List.reverse_reverse rest, hrest]
        simp
  · rintro ⟨before, after, hbefore, hafter, rfl⟩
    have hlast : (e ++ c :: after).reverse.dropWhile (· != c) = c :: e.reverse := by
      have hreverse : (e ++ c :: after).reverse = after.reverse ++ c :: e.reverse := by simp
      rw [hreverse]
      exact dropWhile_ne_append (by simpa using hafter) e.reverse
    simp only [enclosed?, dropWhile_ne_append hbefore, hlast, List.reverse_reverse]

/-- There is at most one text between a first opening mark and a last closing mark,
and at most one before and behind them. -/
theorem enclosed_inj {o c : Char} {before before' e e' after after' : List Char}
    (hbefore : o ∉ before) (hbefore' : o ∉ before') (hafter : c ∉ after) (hafter' : c ∉ after')
    (h : before ++ o :: (e ++ c :: after) = before' ++ o :: (e' ++ c :: after')) :
    before = before' ∧ e = e' ∧ after = after' := by
  obtain ⟨hfront, hrest⟩ := append_mark_inj hbefore hbefore' h
  -- from the end, the last closing mark is the first one
  have hreverse : after.reverse ++ c :: e.reverse = after'.reverse ++ c :: e'.reverse := by
    simpa using congrArg List.reverse hrest
  obtain ⟨hback, hbody⟩ := append_mark_inj (by simpa using hafter) (by simpa using hafter') hreverse
  exact ⟨hfront, List.reverse_inj.mp hbody, List.reverse_inj.mp hback⟩

/-- The mark `o` stands somewhere in the text, and the mark `c` somewhere behind it. -/
def Encloses (o c : Char) (s : List Char) : Prop :=
  ∃ before inner after, s = before ++ o :: (inner ++ c :: after)

/-- A text with a closing mark behind an opening mark has a last closing mark behind
its first opening mark. -/
theorem Encloses.exists_outermost {o c : Char} {s : List Char} (h : Encloses o c s) :
    ∃ before e after, o ∉ before ∧ c ∉ after ∧ s = before ++ o :: (e ++ c :: after) := by
  obtain ⟨front, inner, back, rfl⟩ := h
  obtain ⟨before, skipped, hfront, hbefore⟩ :=
    List.eq_append_cons_of_mem (show o ∈ front ++ [o] by simp)
  obtain ⟨after, passed, hback, hafter⟩ :=
    List.eq_append_cons_of_mem (show c ∈ (c :: back).reverse by simp)
  have hrest : c :: back = passed.reverse ++ c :: after.reverse := by
    simpa using congrArg List.reverse hback
  refine ⟨before, skipped ++ inner ++ passed.reverse, after.reverse, hbefore, by simpa using hafter,
    ?_⟩
  rw [List.append_cons front, hfront, hrest]
  simp

theorem encloses_of_enclosed? {o c : Char} {s e : List Char} (h : enclosed? o c s = some e) :
    Encloses o c s := by
  obtain ⟨before, after, -, -, hs⟩ := enclosed?_eq_some_iff.mp h
  exact ⟨before, e, after, hs⟩

/-- Nothing is found just when no closing mark is behind an opening mark. -/
theorem enclosed?_eq_none_iff {o c : Char} {s : List Char} :
    enclosed? o c s = none ↔ ¬ Encloses o c s := by
  constructor
  · intro hnone hencloses
    obtain ⟨before, e, after, hbefore, hafter, hs⟩ := hencloses.exists_outermost
    rw [enclosed?_eq_some_iff.mpr ⟨before, after, hbefore, hafter, hs⟩] at hnone
    cases hnone
  · intro h
    cases he : enclosed? o c s with
    | none => rfl
    | some e => exact absurd (encloses_of_enclosed? he) h

end Stepbook.Text
