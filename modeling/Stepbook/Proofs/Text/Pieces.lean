import Stepbook.Text.Pieces

/-!
# Cutting and joining

The pieces of a text hold all its characters but those that it was cut at.  A text
cut at one character is joined again with that character between the pieces, and
pieces without the character are read back from the text that joins them; both are
facts on `List.splitOn`, which is the same function.

## Main statements

* `not_of_mem_pieces`, `exists_mem_pieces` — what is in the pieces.
* `pieces_eq_splitOnP` — cutting into pieces is splitting the list.
* `intercalate_pieces` — the pieces joined are the text.
* `pieces_intercalate`, `pieces_append_flatMap` — the pieces of a joined text.
-/

namespace Stepbook.Text

/-! ## What is in the pieces -/

/-- No piece contains a character that the text was cut at. -/
theorem not_of_mem_pieces {p : Char → Bool} {s w : List Char} (h : w ∈ pieces p s) :
    ∀ c ∈ w, p c = false := by
  induction s generalizing w with
  | nil =>
      rw [pieces_nil, List.mem_singleton] at h
      subst h
      simp
  | cons d s ih =>
      obtain ⟨first, others, hps⟩ := List.exists_cons_of_ne_nil (pieces_ne_nil p s)
      rw [pieces_cons, hps] at h
      split at h
      · rcases List.mem_cons.mp h with rfl | hw
        · simp
        · exact ih (hps ▸ hw)
      · rename_i hd
        rcases List.mem_cons.mp h with rfl | hw
        · intro c hc
          rcases List.mem_cons.mp hc with rfl | hc
          · simpa using hd
          · exact ih (w := first) (by rw [hps]; exact List.mem_cons_self) c hc
        · exact ih (hps ▸ List.mem_cons_of_mem _ hw)

/-- A character that the text is not cut at lies in one of the pieces. -/
theorem exists_mem_pieces {p : Char → Bool} {s : List Char} {c : Char} (hc : c ∈ s)
    (hp : p c = false) : ∃ w ∈ pieces p s, c ∈ w := by
  induction s with
  | nil => cases hc
  | cons d s ih =>
      obtain ⟨first, others, hps⟩ := List.exists_cons_of_ne_nil (pieces_ne_nil p s)
      rw [pieces_cons, hps]
      rcases List.mem_cons.mp hc with rfl | hc
      · exact ⟨c :: first, by simp [hp], List.mem_cons_self⟩
      · obtain ⟨w, hw, hcw⟩ := ih hc
        rw [hps] at hw
        split
        · exact ⟨w, List.mem_cons_of_mem _ hw, hcw⟩
        · rcases List.mem_cons.mp hw with rfl | hw
          · exact ⟨d :: w, List.mem_cons_self, List.mem_cons_of_mem _ hcw⟩
          · exact ⟨w, List.mem_cons_of_mem _ hw, hcw⟩

/-! ## Joining the pieces -/

/-- Cutting into pieces is splitting the list. -/
theorem pieces_eq_splitOnP (p : Char → Bool) (s : List Char) : pieces p s = s.splitOnP p := by
  induction s with
  | nil => rfl
  | cons c s ih =>
      obtain ⟨first, others, hcut⟩ := List.exists_cons_of_ne_nil (pieces_ne_nil p s)
      rw [pieces_cons, List.splitOnP_cons_eq_if_modifyHead, ← ih, hcut]
      rfl

theorem pieces_eq_splitOn (c : Char) (s : List Char) : pieces (· == c) s = s.splitOn c :=
  pieces_eq_splitOnP _ s

/-- The pieces joined by the character that the text was cut at are the text. -/
theorem intercalate_pieces (c : Char) (s : List Char) :
    [c].intercalate (pieces (· == c) s) = s := by
  rw [pieces_eq_splitOn, List.intercalate_splitOn]

/-- Texts without a character are the pieces of the text that joins them by it. -/
theorem pieces_intercalate {c : Char} {texts : List (List Char)} (h : ∀ s ∈ texts, c ∉ s)
    (hne : texts ≠ []) : pieces (· == c) ([c].intercalate texts) = texts := by
  rw [pieces_eq_splitOn, List.splitOn_intercalate c h hne]

/-- Texts that are not cut are the pieces of the text that sets each but the first
behind a separator. -/
theorem pieces_append_flatMap {p : Char → Bool} {c : Char} (hc : p c = true) {first : List Char}
    {others : List (List Char)} (h : ∀ s ∈ first :: others, ∀ d ∈ s, p d = false) :
    pieces p (first ++ others.flatMap fun s => c :: s) = first :: others := by
  induction others generalizing first with
  | nil =>
      rw [List.flatMap_nil, List.append_nil]
      exact pieces_of_forall_not (h first List.mem_cons_self)
  | cons second others ih =>
      obtain ⟨hfirst, hrest⟩ := List.forall_mem_cons.mp h
      rw [List.flatMap_cons, List.cons_append, pieces_eq_splitOnP,
        List.splitOnP_append_cons _ _ hc, ← pieces_eq_splitOnP, ← pieces_eq_splitOnP, ih hrest,
        pieces_of_forall_not hfirst, List.singleton_append]

end Stepbook.Text
