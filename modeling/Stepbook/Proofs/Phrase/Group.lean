import Stepbook.Phrase.Group

/-!
# Groups and their markers

## Main definitions

* `Phrase.GroupFree` — a text without groups: no `(` has a `)` behind it on its
  line.
* `Phrase.isGroupMark` — the three characters that decide this.
* `Phrase.Rewrites` — what replacement makes of a text wherever it stands.

## Main statements

* `Phrase.groupFree_filter_iff` — whether a text has groups depends on its
  parentheses and line feeds only.
* `Phrase.groupFree_replaceGroups` — replacing groups leaves none.
* `Phrase.replaceGroups_eq_self` — a text without groups stays as it is.
* `Phrase.rewrites_of_not_mem`, `Phrase.rewrites_group` — a text without `(` stays,
  and a group within one line gives way to the marker.
-/

namespace Stepbook.Phrase

open Stepbook.Text

/-- No opening parenthesis has a closing one behind it on its line. -/
def GroupFree (s : List Char) : Prop :=
  ∀ before body after, s = before ++ '(' :: (body ++ ')' :: after) → '\n' ∈ body

/-! ## Closing parentheses -/

/-- A group is closed by the first `)`, on the same line. -/
theorem afterClose?_append {body : List Char} (hclose : ')' ∉ body) (hline : '\n' ∉ body)
    (rest : List Char) : afterClose? (body ++ ')' :: rest) = some rest := by
  induction body with
  | nil => simp [afterClose?]
  | cons c body ih =>
      rw [List.mem_cons, not_or] at hclose hline
      rw [List.cons_append, afterClose?, if_neg (Ne.symm hclose.1), if_neg (Ne.symm hline.1)]
      exact ih hclose.2 hline.2

/-- What closes a group is the first `)`. -/
theorem afterClose?_eq_some_iff {s rest : List Char} :
    afterClose? s = some rest ↔ ∃ body, ')' ∉ body ∧ '\n' ∉ body ∧ s = body ++ ')' :: rest := by
  constructor
  · intro h
    induction s with
    | nil => cases h
    | cons c s ih =>
        rw [afterClose?] at h
        split at h
        · rename_i hc
          cases h
          exact ⟨[], by simp, by simp, by rw [hc, List.nil_append]⟩
        · rename_i hclose
          split at h
          · cases h
          · rename_i hline
            obtain ⟨body, hbody, hbodyLine, rfl⟩ := ih h
            exact ⟨c :: body, by simp [hbody, Ne.symm hclose], by simp [hbodyLine, Ne.symm hline],
              rfl⟩
  · rintro ⟨body, hclose, hline, rfl⟩
    exact afterClose?_append hclose hline rest

theorem eq_append_of_afterClose? {s rest : List Char} (h : afterClose? s = some rest) :
    ∃ body, '\n' ∉ body ∧ s = body ++ ')' :: rest := by
  obtain ⟨body, -, hline, hs⟩ := afterClose?_eq_some_iff.mp h
  exact ⟨body, hline, hs⟩

/-- Nothing is closed on this line just when every `)` is on a later one. -/
theorem afterClose?_eq_none_iff {s : List Char} :
    afterClose? s = none ↔ ∀ body rest, s = body ++ ')' :: rest → '\n' ∈ body := by
  constructor
  · intro h body rest hs
    induction body generalizing s with
    | nil =>
        rw [hs, List.nil_append, afterClose?, if_pos rfl] at h
        cases h
    | cons c body ih =>
        rw [hs, List.cons_append, afterClose?] at h
        split at h
        · cases h
        · split at h
          · rename_i hline
            rw [hline]
            exact List.mem_cons_self
          · exact List.mem_cons_of_mem c (ih h rfl)
  · intro h
    cases hclose : afterClose? s with
    | none => rfl
    | some rest =>
        obtain ⟨body, hbody, hs⟩ := eq_append_of_afterClose? hclose
        exact absurd (h body rest hs) hbody

theorem groupFree_nil : GroupFree [] := by
  intro before body after hs
  simp at hs

/-- The first character opens no group, and none is opened behind it. -/
theorem groupFree_cons_iff {c : Char} {s : List Char} :
    GroupFree (c :: s) ↔ (c = '(' → afterClose? s = none) ∧ GroupFree s := by
  constructor
  · intro h
    refine ⟨?_, fun before body after hs => h (c :: before) body after (by rw [hs]; rfl)⟩
    rintro rfl
    rw [afterClose?_eq_none_iff]
    exact fun body rest hs => h [] body rest (by rw [hs]; rfl)
  · rintro ⟨hhead, htail⟩ before body after hs
    cases before with
    | nil =>
        obtain ⟨rfl, rfl⟩ := List.cons.inj hs
        exact afterClose?_eq_none_iff.mp (hhead rfl) body after rfl
    | cons d before =>
        obtain ⟨rfl, rfl⟩ := List.cons.inj hs
        exact htail before body after rfl

/-! ## The characters that decide -/

/-- A parenthesis or a line feed. -/
def isGroupMark (c : Char) : Bool := c == '(' || c == ')' || c == '\n'

theorem afterClose?_filter_eq_none_iff {s : List Char} :
    afterClose? (s.filter isGroupMark) = none ↔ afterClose? s = none := by
  induction s with
  | nil => rfl
  | cons c s ih =>
      rw [List.filter_cons]
      by_cases hclose : c = ')'
      · simp [isGroupMark, afterClose?, hclose]
      · by_cases hline : c = '\n'
        · simp [isGroupMark, afterClose?, hline]
        · by_cases hopen : c = '('
          · simpa [isGroupMark, afterClose?, hopen] using ih
          · simpa [isGroupMark, afterClose?, hopen, hclose, hline] using ih

/-- Whether a text has groups depends on its parentheses and line feeds only. -/
theorem groupFree_filter_iff {s : List Char} : GroupFree (s.filter isGroupMark) ↔ GroupFree s := by
  induction s with
  | nil => rfl
  | cons c s ih =>
      rw [List.filter_cons, groupFree_cons_iff]
      split
      · rw [groupFree_cons_iff, afterClose?_filter_eq_none_iff, ih]
      · rename_i hmark
        have hopen : c ≠ '(' := by
          rintro rfl
          exact hmark rfl
        simp [hopen, ih]

theorem groupFree_append_iff {u s : List Char} (hu : u.filter isGroupMark = []) :
    GroupFree (u ++ s) ↔ GroupFree s := by
  rw [← groupFree_filter_iff, List.filter_append, hu, List.nil_append, groupFree_filter_iff]

/-! ## Replacing groups -/

section Replacing

variable {opener marker s rest : List Char} {c : Char}

theorem replaceGroups_of_some (h : afterGroup? opener s = some rest) (hs : s ≠ []) :
    replaceGroups opener marker s = marker ++ replaceGroups opener marker rest := by
  cases s with
  | nil => exact absurd rfl hs
  | cons c s => rw [replaceGroups, h]

theorem replaceGroups_of_none (h : afterGroup? opener (c :: s) = none) :
    replaceGroups opener marker (c :: s) = c :: replaceGroups opener marker s := by
  rw [replaceGroups, h]

/-- A group begins with a parenthesis. -/
theorem afterGroup?_of_ne (hc : c ≠ '(') (o s : List Char) :
    afterGroup? ('(' :: o) (c :: s) = none := by
  rw [afterGroup?, afterPrefix?, if_neg (Ne.symm hc)]
  rfl

/-- A group ends at the first `)` behind its opener. -/
theorem exists_body_of_afterGroup? {o : List Char} (h : afterGroup? ('(' :: o) s = some rest) :
    ∃ body, ')' ∉ body ∧ '\n' ∉ body ∧ s = '(' :: (o ++ (body ++ ')' :: rest)) := by
  rw [afterGroup?, Option.bind_eq_some_iff] at h
  obtain ⟨t, hprefix, hclose⟩ := h
  obtain ⟨body, hbody, hline, rfl⟩ := afterClose?_eq_some_iff.mp hclose
  exact ⟨body, hbody, hline, eq_append_of_afterPrefix? hprefix⟩

/-- A line without `)` keeps none when groups are replaced further on. -/
theorem afterClose?_replaceGroups (hnone : afterClose? s = none) :
    afterClose? (replaceGroups ['('] marker s) = none := by
  induction s with
  | nil => rw [replaceGroups]; rfl
  | cons c s ih =>
      rw [afterClose?] at hnone
      split at hnone
      · cases hnone
      · rename_i hclose
        split at hnone
        · rename_i hline
          subst hline
          rw [replaceGroups_of_none (afterGroup?_of_ne (by decide) [] s), afterClose?,
            if_neg hclose, if_pos rfl]
        · rename_i hline
          -- a group at `c` would be closed on this line
          have hgroup : afterGroup? ['('] (c :: s) = none := by
            by_cases hopen : c = '('
            · subst hopen
              exact hnone
            · exact afterGroup?_of_ne hopen [] s
          rw [replaceGroups_of_none hgroup, afterClose?, if_neg hclose, if_neg hline]
          exact ih hnone

/-- Replacing groups leaves none. -/
theorem groupFree_replaceGroups (hmarker : marker.filter isGroupMark = []) (s : List Char) :
    GroupFree (replaceGroups ['('] marker s) := by
  induction s using replaceGroups.induct ['('] with
  | case1 =>
      rw [replaceGroups]
      exact groupFree_nil
  | case2 c s rest hgroup ih =>
      rw [replaceGroups_of_some hgroup (by simp), groupFree_append_iff hmarker]
      exact ih
  | case3 c s hgroup ih =>
      -- if `c` opens no group, nothing behind it on its line closes one
      rw [replaceGroups_of_none hgroup, groupFree_cons_iff]
      refine ⟨?_, ih⟩
      rintro rfl
      exact afterClose?_replaceGroups hgroup

/-- A text without groups stays as it is, for every opener within one line. -/
theorem replaceGroups_eq_self {o : List Char} (ho : '\n' ∉ o) (h : GroupFree s) :
    replaceGroups ('(' :: o) marker s = s := by
  induction s with
  | nil => rw [replaceGroups]
  | cons c s ih =>
      have hgroup : afterGroup? ('(' :: o) (c :: s) = none := by
        rw [Option.eq_none_iff_forall_ne_some]
        intro rest hsome
        obtain ⟨body, -, hbody, hs⟩ := exists_body_of_afterGroup? hsome
        rw [← List.append_assoc] at hs
        rcases List.mem_append.mp (h [] _ rest hs) with hmem | hmem
        · exact ho hmem
        · exact hbody hmem
      rw [replaceGroups_of_none hgroup, ih (groupFree_cons_iff.mp h).2]

end Replacing

/-! ## Replacing groups in a larger text -/

/-- Replacing groups turns `u` into `v` whatever follows: no group that is found
straddles the end of `u`. -/
def Rewrites (opener marker u v : List Char) : Prop :=
  ∀ rest, replaceGroups opener marker (u ++ rest) = v ++ replaceGroups opener marker rest

section Rewriting

variable {opener o marker u v : List Char}

theorem Rewrites.eq (h : Rewrites opener marker u v) : replaceGroups opener marker u = v := by
  have hnil := h []
  rw [replaceGroups, List.append_nil, List.append_nil] at hnil
  exact hnil

theorem Rewrites.append {u' v' : List Char} (h : Rewrites opener marker u v)
    (h' : Rewrites opener marker u' v') : Rewrites opener marker (u ++ u') (v ++ v') := by
  intro rest
  rw [List.append_assoc, h, h', List.append_assoc]

theorem rewrites_flatMap {α : Type} {f g : α → List Char}
    (h : ∀ a, Rewrites opener marker (f a) (g a)) (l : List α) :
    Rewrites opener marker (l.flatMap f) (l.flatMap g) := by
  induction l with
  | nil => exact fun rest => rfl
  | cons a l ih =>
      rw [List.flatMap_cons, List.flatMap_cons]
      exact (h a).append ih

/-- No group begins in a text without `(`. -/
theorem rewrites_of_not_mem (hu : '(' ∉ u) : Rewrites ('(' :: o) marker u u := by
  intro rest
  induction u with
  | nil => rfl
  | cons c u ih =>
      rw [List.mem_cons, not_or] at hu
      rw [List.cons_append, replaceGroups_of_none (afterGroup?_of_ne (Ne.symm hu.1) o _), ih hu.2]
      rfl

/-- A group within one line is replaced. -/
theorem rewrites_group {body : List Char} (hclose : ')' ∉ body) (hline : '\n' ∉ body) :
    Rewrites ('(' :: o) marker ('(' :: o ++ (body ++ [')'])) marker := by
  intro rest
  refine replaceGroups_of_some ?_ (by simp)
  rw [afterGroup?, List.append_assoc, afterPrefix?_append, Option.bind_some, List.append_assoc]
  exact afterClose?_append hclose hline rest

end Rewriting

end Stepbook.Phrase
