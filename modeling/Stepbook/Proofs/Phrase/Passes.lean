import Mathlib.Logic.Function.Iterate
import Stepbook.Proofs.Phrase.Tagging

/-!
# Counting the tagged groups

Tagging an optional group takes one opening bracket away and brings none, though it
makes the text longer.  So the groups of a text can be tagged one after the other as
often as it has opening brackets at most, in whatever order, and passes that each tag
all groups in sight come to an end.

## Main definitions

* `Phrase.TagSteps` — several groups tagged one after the other, and their number.
* `Phrase.innermostGroups` — how many groups without brackets inside a text has.

## Main statements

* `Phrase.TagSteps.count` — each step takes one opening bracket away.
* `Phrase.tagSteps_tagInnermost` — a pass tags every group that the text has.
* `Phrase.exists_passes` — the passes that `tagOptional` makes.
* `Phrase.tagging_order_irrelevant` — any order ends, and ends in the same text.
-/

namespace Stepbook.Phrase

open Relation

/-- Several optional groups are tagged one after the other, in any order.  The number
is how many. -/
inductive TagSteps : Nat → List Char → List Char → Prop
  | refl (s : List Char) : TagSteps 0 s s
  | head {n : Nat} {s t u : List Char} (hstep : TagStep s t) (hrest : TagSteps n t u) :
    TagSteps (n + 1) s u

/-- The number of optional groups without brackets inside, that is of the positions at
which one begins. -/
def innermostGroups : List Char → Nat
  | [] => 0
  | c :: s => (if (optionalGroup? (c :: s)).isSome then 1 else 0) + innermostGroups s

/-! ## Opening brackets -/

/-- Tagging a group takes its opening bracket away. -/
theorem TagStep.count {s t : List Char} (h : TagStep s t) : t.count '[' + 1 = s.count '[' := by
  have hopen : optionalOpen.count '[' = 0 := by decide +kernel
  have hclose : optionalClose.count '[' = 0 := by decide +kernel
  obtain ⟨before, body, after, -, rfl, rfl⟩ := h
  simp only [List.count_append, List.count_cons, hopen, hclose]
  simp
  omega

/-- **Each step takes one opening bracket away.** -/
theorem TagSteps.count {n : Nat} {s t : List Char} (h : TagSteps n s t) :
    t.count '[' + n = s.count '[' := by
  induction h with
  | refl s => rfl
  | head hstep _ ih =>
      have hfirst := hstep.count
      omega

/-! ## Steps one after the other -/

theorem TagSteps.reaches {n : Nat} {s t : List Char} (h : TagSteps n s t) :
    ReflTransGen TagStep s t := by
  induction h with
  | refl s => exact .refl
  | head hstep _ ih => exact ih.head hstep

theorem exists_tagSteps {s t : List Char} (h : ReflTransGen TagStep s t) :
    ∃ n, TagSteps n s t := by
  induction h using ReflTransGen.head_induction_on with
  | refl => exact ⟨0, .refl t⟩
  | head hstep _ ih =>
      obtain ⟨n, hrest⟩ := ih
      exact ⟨n + 1, .head hstep hrest⟩

theorem TagSteps.append_left {n : Nat} {s t : List Char} (u : List Char) (h : TagSteps n s t) :
    TagSteps n (u ++ s) (u ++ t) := by
  induction h with
  | refl s => exact .refl _
  | head hstep _ ih => exact .head (hstep.append_left u) ih

/-- However the groups are tagged, a text in which none is left is the one that the
passes compute. -/
theorem TagSteps.eq_tagOptional {n : Nat} {s t : List Char} (h : TagSteps n s t)
    (hend : ∀ u, ¬ TagStep t u) : t = tagOptional s :=
  (tagOptional_eq_of_reaches h.reaches (optionalFree_iff_not_tagStep.mpr hend)).symm

/-! ## Passes -/

/-- No group begins in a text without `[`, whatever follows. -/
theorem innermostGroups_append_of_not_mem {u : List Char} (hu : '[' ∉ u) (s : List Char) :
    innermostGroups (u ++ s) = innermostGroups s := by
  induction u with
  | nil => rfl
  | cons c u ih =>
      rw [List.mem_cons, not_or] at hu
      rw [List.cons_append, innermostGroups, optionalGroup?_of_ne (Ne.symm hu.1), ih hu.2]
      simp

/-- A group at the start of a text is one more than those behind it: none begins
inside. -/
theorem innermostGroups_of_some {s body rest : List Char}
    (h : optionalGroup? s = some (body, rest)) :
    innermostGroups s = innermostGroups rest + 1 := by
  obtain ⟨hbody, rfl⟩ := optionalGroup?_eq_some_iff.mp h
  have hinside := innermostGroups_append_of_not_mem (not_mem_open_of_body hbody) rest
  rw [List.append_assoc] at hinside
  rw [innermostGroups, h, Option.isSome_some, if_pos rfl, Nat.add_comm]
  exact congrArg (· + 1) hinside

/-- **A pass tags every group that the text has.** -/
theorem tagSteps_tagInnermost (s : List Char) :
    TagSteps (innermostGroups s) s (tagInnermost s) := by
  induction s using tagInnermost.induct with
  | case1 =>
      rw [tagInnermost]
      exact .refl []
  | case2 c s body rest hgroup ih =>
      rw [tagInnermost_of_some hgroup, innermostGroups_of_some hgroup]
      exact .head (tagStep_of_optionalGroup? hgroup) (ih.append_left _)
  | case3 c s hgroup ih =>
      rw [tagInnermost_cons_of_none hgroup, innermostGroups, hgroup, Option.isSome_none,
        if_neg Bool.false_ne_true, Nat.zero_add]
      exact ih.append_left [c]

/-- A pass that tags nothing is one that changes nothing. -/
theorem innermostGroups_eq_zero_iff {s : List Char} :
    innermostGroups s = 0 ↔ tagInnermost s = s := by
  have hcount := (tagSteps_tagInnermost s).count
  constructor
  · intro hnone
    rcases tagInnermost_eq_or_count_lt s with heq | hlt
    · exact heq
    · omega
  · intro heq
    rw [heq] at hcount
    omega

/-- **The passes that `tagOptional` makes.**  Each but the last tags a group, the last
finds none, and so there are no more of them than opening brackets. -/
theorem exists_passes (s : List Char) :
    ∃ n ≤ s.count '[', tagInnermost^[n] s = tagOptional s ∧
      innermostGroups (tagOptional s) = 0 ∧ ∀ m < n, 0 < innermostGroups (tagInnermost^[m] s) := by
  induction s using tagOptional.induct with
  | case1 s h =>
      rw [tagOptional, dif_pos h]
      exact ⟨0, Nat.zero_le _, rfl, innermostGroups_eq_zero_iff.mpr h, fun m hm => by omega⟩
  | case2 s h ih =>
      obtain ⟨n, hn, htext, hnone, hsome⟩ := ih
      have hfirst : 0 < innermostGroups s := by
        rw [Nat.pos_iff_ne_zero]
        exact fun hzero => h (innermostGroups_eq_zero_iff.mp hzero)
      have hcount := (tagSteps_tagInnermost s).count
      rw [tagOptional, dif_neg h]
      refine ⟨n + 1, by omega, htext, hnone, fun m hm => ?_⟩
      cases m with
      | zero => exact hfirst
      | succ m => exact hsome m (by omega)

/-- **The order in which optional groups are tagged does not matter.**  From any text,
balanced or not, at most as many groups are tagged as there are opening brackets.
When none is left the text is the one that `tagOptional` computes, and that text is
reached.  Its passes tag all groups in sight and stop after the first that finds
none. -/
theorem tagging_order_irrelevant (s : List Char) :
    (∀ n t, TagSteps n s t → n ≤ s.count '[') ∧
    (∀ n t, TagSteps n s t → (∀ u, ¬ TagStep t u) → t = tagOptional s) ∧
    ((∃ n, TagSteps n s (tagOptional s)) ∧ ∀ u, ¬ TagStep (tagOptional s) u) ∧
    (∀ t, TagSteps (innermostGroups t) t (tagInnermost t)) ∧
    ∃ n ≤ s.count '[', tagInnermost^[n] s = tagOptional s ∧
      innermostGroups (tagOptional s) = 0 ∧
      ∀ m < n, 0 < innermostGroups (tagInnermost^[m] s) := by
  refine ⟨fun n t h => ?_, fun n t h => h.eq_tagOptional, ⟨?_, ?_⟩, tagSteps_tagInnermost,
    exists_passes s⟩
  · have hcount := h.count
    omega
  · exact exists_tagSteps (reaches_tagOptional s)
  · exact optionalFree_iff_not_tagStep.mp (optionalFree_tagOptional s)

/-- Three groups in an unbalanced text, the last one tagged first. -/
theorem groups_tagged_from_the_right :
    let s := "[a[b]?]?".toList ++ "[c]?[".toList
    let t := "<span class='opt'>a<span class='opt'>b</span></span>".toList ++
      "<span class='opt'>c</span>[".toList
    TagSteps 3 s t ∧ (∀ u, ¬ TagStep t u) ∧ t = tagOptional s ∧ 3 ≤ s.count '[' := by
  intro s t
  have hright : TagStep "[c]?[".toList "<span class='opt'>c</span>[".toList :=
    ⟨[], ['c'], ['['], List.all_eq_true.mp (by decide +kernel), by decide +kernel,
      by decide +kernel⟩
  have hinner : TagStep "[a[b]?]?".toList "[a<span class='opt'>b</span>]?".toList :=
    ⟨['[', 'a'], ['b'], [']', '?'], List.all_eq_true.mp (by decide +kernel), by decide +kernel,
      by decide +kernel⟩
  have houter : TagStep "[a<span class='opt'>b</span>]?".toList
      "<span class='opt'>a<span class='opt'>b</span></span>".toList :=
    ⟨[], "a<span class='opt'>b</span>".toList, [], List.all_eq_true.mp (by decide +kernel),
      by decide +kernel, by decide +kernel⟩
  have hsteps : TagSteps 3 s t := .head (hright.append_left _)
    (.head (hinner.append_right _) (.head (houter.append_right _) (.refl t)))
  have hnone : innermostGroups t = 0 := by decide +kernel
  have hend : ∀ u, ¬ TagStep t u := optionalFree_iff_not_tagStep.mp
    (tagInnermost_eq_self_iff.mp (innermostGroups_eq_zero_iff.mp hnone))
  exact ⟨hsteps, hend, (tagging_order_irrelevant s).2.1 3 t hsteps hend,
    (tagging_order_irrelevant s).1 3 t hsteps⟩

end Stepbook.Phrase
