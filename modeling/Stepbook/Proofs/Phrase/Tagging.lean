import Mathlib.Logic.Relation
import Mathlib.Tactic.ByContra
import Stepbook.Phrase.Optional

/-!
# Tagging one optional group at a time

A pass tags every innermost optional group.  Here a single group is tagged in one
step, and any of the innermost groups may be chosen.  Two innermost groups never
overlap, so the steps commute and the text that is reached in the end does not
depend on the choices.  The passes of `tagOptional` are one way to make them.

## Main definitions

* `Phrase.TagStep` — one optional group without brackets inside is tagged.
* `Phrase.OptionalFree` — a text with no such group.

## Main statements

* `Phrase.optionalFree_iff_not_tagStep`, `Phrase.tagInnermost_eq_self_iff` — no
  group is left just when there is no step, and just when a pass changes nothing.
* `Phrase.tagStep_diamond` — two different steps can be joined by one more each.
* `Phrase.tagOptional_eq_of_reaches` — whatever text without groups is reached, it
  is the one that `tagOptional` computes.
-/

namespace Stepbook.Phrase

open Relation

/-- One optional group without brackets inside is tagged. -/
def TagStep (s t : List Char) : Prop :=
  ∃ before body after, (∀ c ∈ body, notBracket c = true) ∧
    s = before ++ '[' :: (body ++ ']' :: '?' :: after) ∧
    t = before ++ (optionalOpen ++ body ++ optionalClose ++ after)

/-- A text without optional groups: between a `[` and a later `]?` there is always
another bracket. -/
def OptionalFree (s : List Char) : Prop :=
  ∀ before body after, s = before ++ '[' :: (body ++ ']' :: '?' :: after) →
    '[' ∈ body ∨ ']' ∈ body

/-! ## Groups at the start of a text -/

theorem notBracket_iff {c : Char} : notBracket c = true ↔ c ≠ '[' ∧ c ≠ ']' := by
  simp [notBracket]

/-- An optional group is a text without brackets between `[` and `]?`. -/
theorem optionalGroup?_eq_some_iff {s body rest : List Char} :
    optionalGroup? s = some (body, rest) ↔
      (∀ c ∈ body, notBracket c = true) ∧ s = '[' :: (body ++ ']' :: '?' :: rest) := by
  constructor
  · intro h
    refine ⟨?_, eq_append_of_optionalGroup? h⟩
    unfold optionalGroup? at h
    split at h
    · split at h
      · cases h
        exact fun c hc => List.all_eq_true.mp List.all_takeWhile c hc
      · cases h
    · cases h
  · rintro ⟨hbody, rfl⟩
    have htake : (body ++ ']' :: '?' :: rest).takeWhile notBracket = body := by
      rw [List.takeWhile_append_of_pos hbody]
      simp [notBracket]
    have hdrop : (body ++ ']' :: '?' :: rest).dropWhile notBracket = ']' :: '?' :: rest := by
      rw [List.dropWhile_append_of_pos hbody]
      simp [notBracket]
    simp only [optionalGroup?, htake, hdrop]

theorem optionalGroup?_of_ne {c : Char} (h : c ≠ '[') (s : List Char) :
    optionalGroup? (c :: s) = none := by
  unfold optionalGroup?
  split
  · rename_i heq
    exact absurd (List.cons.inj heq).1 h
  · rfl

/-- No group begins inside of a group. -/
theorem not_mem_open_of_body {body : List Char} (h : ∀ c ∈ body, notBracket c = true) :
    '[' ∉ body ++ [']', '?'] := by
  intro hmem
  rcases List.mem_append.mp hmem with hmem | hmem
  · exact (notBracket_iff.mp (h _ hmem)).1 rfl
  · simp at hmem

/-! ## Steps -/

theorem TagStep.append_left (u : List Char) {s t : List Char} (h : TagStep s t) :
    TagStep (u ++ s) (u ++ t) := by
  obtain ⟨before, body, after, hbody, rfl, rfl⟩ := h
  exact ⟨u ++ before, body, after, hbody, by simp, by simp⟩

theorem TagStep.append_right (u : List Char) {s t : List Char} (h : TagStep s t) :
    TagStep (s ++ u) (t ++ u) := by
  obtain ⟨before, body, after, hbody, rfl, rfl⟩ := h
  exact ⟨before, body, after ++ u, hbody, by simp, by simp⟩

theorem reaches_append_left (u : List Char) {s t : List Char} (h : ReflTransGen TagStep s t) :
    ReflTransGen TagStep (u ++ s) (u ++ t) :=
  h.lift (u ++ ·) fun _ _ => TagStep.append_left u

theorem reaches_append_right (u : List Char) {s t : List Char} (h : ReflTransGen TagStep s t) :
    ReflTransGen TagStep (s ++ u) (t ++ u) :=
  h.lift (· ++ u) fun _ _ => TagStep.append_right u

/-- The group at the start of a text can be tagged. -/
theorem tagStep_of_optionalGroup? {s body rest : List Char}
    (h : optionalGroup? s = some (body, rest)) :
    TagStep s (optionalOpen ++ body ++ optionalClose ++ rest) := by
  obtain ⟨hbody, rfl⟩ := optionalGroup?_eq_some_iff.mp h
  exact ⟨[], body, rest, hbody, rfl, rfl⟩

/-- A step tags the group at the start of the text or goes on behind its first
character. -/
theorem tagStep_cons_iff {c : Char} {s t : List Char} :
    TagStep (c :: s) t ↔
      (∃ body rest, optionalGroup? (c :: s) = some (body, rest) ∧
        t = optionalOpen ++ body ++ optionalClose ++ rest) ∨
      (∃ t', t = c :: t' ∧ TagStep s t') := by
  constructor
  · rintro ⟨before, body, after, hbody, hs, rfl⟩
    cases before with
    | nil => exact Or.inl ⟨body, after, optionalGroup?_eq_some_iff.mpr ⟨hbody, hs⟩, rfl⟩
    | cons d before =>
        obtain ⟨rfl, rfl⟩ := List.cons.inj hs
        exact Or.inr ⟨_, rfl, before, body, after, hbody, rfl, rfl⟩
  · rintro (⟨body, rest, hgroup, rfl⟩ | ⟨t', rfl, hstep⟩)
    · exact tagStep_of_optionalGroup? hgroup
    · exact hstep.append_left [c]

theorem not_tagStep_nil (t : List Char) : ¬ TagStep [] t := by
  rintro ⟨before, body, after, -, hs, -⟩
  simp at hs

/-- No group begins in a text without `[`, whatever follows. -/
theorem tagStep_append_of_not_mem {u s t : List Char} (hu : '[' ∉ u) (h : TagStep (u ++ s) t) :
    ∃ t', t = u ++ t' ∧ TagStep s t' := by
  induction u generalizing t with
  | nil => exact ⟨t, rfl, h⟩
  | cons c u ih =>
      rw [List.mem_cons, not_or] at hu
      rcases tagStep_cons_iff.mp h with ⟨body, rest, hgroup, -⟩ | ⟨t', rfl, hstep⟩
      · rw [optionalGroup?_of_ne (Ne.symm hu.1)] at hgroup
        cases hgroup
      · obtain ⟨t'', rfl, hstep'⟩ := ih hu.2 hstep
        exact ⟨t'', rfl, hstep'⟩

/-- A text without `[` has no step. -/
theorem not_tagStep_of_not_mem {s : List Char} (hs : '[' ∉ s) (t : List Char) : ¬ TagStep s t := by
  intro h
  rw [← List.append_nil s] at h
  obtain ⟨t', -, hstep⟩ := tagStep_append_of_not_mem hs h
  exact not_tagStep_nil t' hstep

/-- The steps are the occurrences of optional groups. -/
theorem optionalFree_iff_not_tagStep {s : List Char} : OptionalFree s ↔ ∀ t, ¬ TagStep s t := by
  constructor
  · rintro hfree t ⟨before, body, after, hbody, hs, -⟩
    rcases hfree before body after hs with hmem | hmem
    · exact (notBracket_iff.mp (hbody _ hmem)).1 rfl
    · exact (notBracket_iff.mp (hbody _ hmem)).2 rfl
  · intro h before body after hs
    by_contra hno
    rw [not_or] at hno
    refine h _ ⟨before, body, after, fun c hc => ?_, hs, rfl⟩
    rw [notBracket_iff]
    constructor
    · rintro rfl
      exact hno.1 hc
    · rintro rfl
      exact hno.2 hc

/-! ## Steps commute -/

/-- The group at the start of a text and one behind its first character can be
tagged in either order: the second lies behind the first. -/
theorem tagStep_join {c : Char} {s t body rest : List Char}
    (hgroup : optionalGroup? (c :: s) = some (body, rest)) (hstep : TagStep s t) :
    ∃ v, TagStep (optionalOpen ++ body ++ optionalClose ++ rest) v ∧ TagStep (c :: t) v := by
  obtain ⟨hbody, hcons⟩ := optionalGroup?_eq_some_iff.mp hgroup
  obtain ⟨rfl, rfl⟩ := List.cons.inj hcons
  -- no bracket opens before `rest`, so the step tags a group there
  have hsplit : body ++ ']' :: '?' :: rest = (body ++ [']', '?']) ++ rest := by simp
  rw [hsplit] at hstep
  obtain ⟨rest', rfl, hrest⟩ := tagStep_append_of_not_mem (not_mem_open_of_body hbody) hstep
  refine ⟨optionalOpen ++ body ++ optionalClose ++ rest', hrest.append_left _, ?_⟩
  exact ⟨[], body, rest', hbody, by simp, rfl⟩

/-- **Two different steps can be joined by one more each.** -/
theorem tagStep_diamond {s t u : List Char} (ht : TagStep s t) (hu : TagStep s u) :
    t = u ∨ ∃ v, TagStep t v ∧ TagStep u v := by
  induction s generalizing t u with
  | nil => exact absurd ht (not_tagStep_nil t)
  | cons c s ih =>
      rcases tagStep_cons_iff.mp ht with ⟨body, rest, hgroup, rfl⟩ | ⟨t', rfl, ht'⟩
      · rcases tagStep_cons_iff.mp hu with ⟨body', rest', hgroup', rfl⟩ | ⟨u', rfl, hu'⟩
        · rw [hgroup] at hgroup'
          cases hgroup'
          exact Or.inl rfl
        · exact Or.inr (tagStep_join hgroup hu')
      · rcases tagStep_cons_iff.mp hu with ⟨body', rest', hgroup', rfl⟩ | ⟨u', rfl, hu'⟩
        · obtain ⟨v, hv, hv'⟩ := tagStep_join hgroup' ht'
          exact Or.inr ⟨v, hv', hv⟩
        · rcases ih ht' hu' with rfl | ⟨v, hv, hv'⟩
          · exact Or.inl rfl
          · exact Or.inr ⟨c :: v, hv.append_left [c], hv'.append_left [c]⟩

/-- A text without groups goes nowhere. -/
theorem OptionalFree.eq_of_reaches {s t : List Char} (hfree : OptionalFree s)
    (h : ReflTransGen TagStep s t) : t = s := by
  rcases h.cases_head with rfl | ⟨u, hstep, -⟩
  · rfl
  · exact absurd hstep (optionalFree_iff_not_tagStep.mp hfree u)

/-- At most one text without groups is reached, whatever the order of the steps. -/
theorem OptionalFree.unique {s t u : List Char} (ht : ReflTransGen TagStep s t)
    (hfree : OptionalFree t) (hu : ReflTransGen TagStep s u) (hfree' : OptionalFree u) :
    t = u := by
  -- nothing leaves `t` or `u`, so what joins them is both
  have hjoin : Join (ReflTransGen TagStep) t u := by
    refine church_rosser (fun a b c hb hc => ?_) ht hu
    rcases tagStep_diamond hb hc with rfl | ⟨v, hbv, hcv⟩
    · exact ⟨b, .refl, .refl⟩
    · exact ⟨v, .single hbv, .single hcv⟩
  obtain ⟨v, htv, huv⟩ := hjoin
  rw [← hfree.eq_of_reaches htv, ← hfree'.eq_of_reaches huv]

/-! ## Passes -/

theorem head?_optionalOpen : optionalOpen.head? = some '<' := by decide +kernel

theorem tagInnermost_of_some {s body rest : List Char}
    (h : optionalGroup? s = some (body, rest)) :
    tagInnermost s = optionalOpen ++ body ++ optionalClose ++ tagInnermost rest := by
  cases s with
  | nil => cases h
  | cons c s => rw [tagInnermost, h]

theorem tagInnermost_cons_of_none {c : Char} {s : List Char}
    (h : optionalGroup? (c :: s) = none) : tagInnermost (c :: s) = c :: tagInnermost s := by
  rw [tagInnermost, h]

/-- A pass tags groups one after the other. -/
theorem reaches_tagInnermost (s : List Char) : ReflTransGen TagStep s (tagInnermost s) := by
  induction s using tagInnermost.induct with
  | case1 => rw [tagInnermost]
  | case2 c s body rest hgroup ih =>
      rw [tagInnermost_of_some hgroup]
      exact (reaches_append_left _ ih).head (tagStep_of_optionalGroup? hgroup)
  | case3 c s hgroup ih =>
      rw [tagInnermost_cons_of_none hgroup]
      exact reaches_append_left [c] ih

/-- A pass changes nothing just when there is no group to tag. -/
theorem tagInnermost_eq_self_iff {s : List Char} : tagInnermost s = s ↔ OptionalFree s := by
  constructor
  · intro h
    rw [optionalFree_iff_not_tagStep]
    induction s with
    | nil => exact not_tagStep_nil
    | cons c s ih =>
        cases hgroup : optionalGroup? (c :: s) with
        | some found =>
            -- a tagged text begins with the tag, not with the bracket
            obtain ⟨body, rest⟩ := found
            have hbracket : c = '[' :=
              (List.cons.inj (optionalGroup?_eq_some_iff.mp hgroup).2).1
            have hhead := congrArg List.head? h
            rw [tagInnermost_of_some hgroup, List.append_assoc, List.append_assoc,
              List.head?_append, head?_optionalOpen, hbracket] at hhead
            cases hhead
        | none =>
            rw [tagInnermost_cons_of_none hgroup] at h
            intro t ht
            rcases tagStep_cons_iff.mp ht with ⟨body, rest, hsome, -⟩ | ⟨t', -, hstep⟩
            · rw [hgroup] at hsome
              cases hsome
            · exact ih (List.cons.inj h).2 t' hstep
  · intro h
    exact h.eq_of_reaches (reaches_tagInnermost s)

/-- Tagging ends in a text that tagging groups one by one reaches. -/
theorem reaches_tagOptional (s : List Char) : ReflTransGen TagStep s (tagOptional s) := by
  induction s using tagOptional.induct with
  | case1 s h => rw [tagOptional, dif_pos h]
  | case2 s h ih =>
      rw [tagOptional, dif_neg h]
      exact (reaches_tagInnermost s).trans ih

/-- Tagging leaves no group. -/
theorem optionalFree_tagOptional (s : List Char) : OptionalFree (tagOptional s) := by
  induction s using tagOptional.induct with
  | case1 s h =>
      rw [tagOptional, dif_pos h]
      exact tagInnermost_eq_self_iff.mp h
  | case2 s h ih =>
      rw [tagOptional, dif_neg h]
      exact ih

/-- Whatever text without groups is reached, it is the one that the passes
compute. -/
theorem tagOptional_eq_of_reaches {s t : List Char} (h : ReflTransGen TagStep s t)
    (hfree : OptionalFree t) : tagOptional s = t :=
  (optionalFree_tagOptional s).unique (reaches_tagOptional s) h hfree

end Stepbook.Phrase
