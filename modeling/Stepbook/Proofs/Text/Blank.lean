import Mathlib.Data.List.DropRight
import Stepbook.Proofs.Text.Pieces
import Stepbook.Text.Blank

/-!
# Trimmed texts and words

What trimming leaves, and what the words of a text are made of.  Whether a text
holds anything but blanks is stated as `∃ c ∈ s, isBlank c = false` throughout;
trimming and cutting into words both keep that property.

## Main statements

* `trim_eq_nil_iff`, `trim_trim` — trimming removes all of a blank text, and
  nothing the second time.
* `trim_of_forall_not` — a text without blanks is its own trimmed form.
* `trimEnd_append_blank` — blanks at the end make no difference to trimming there.
* `mem_words` — a word is non-empty and has no blanks.
* `words_ne_nil` — a text with a character that is no blank has a word.
* `words_append_cons` — the words of a text that is cut at a blank.
* `words_trim` — trimming keeps the words.
-/

namespace Stepbook.Text

/-! ## Trimming -/

theorem trimEnd_eq_rdropWhile (s : List Char) : trimEnd s = s.rdropWhile isBlank := rfl

/-- Trimming leaves nothing just of the texts that are blank. -/
theorem trim_eq_nil_iff {s : List Char} : trim s = [] ↔ ∀ c ∈ s, isBlank c = true := by
  rw [trim, trimEnd_eq_rdropWhile, List.rdropWhile_eq_nil_iff, trimStart]
  constructor
  · intro h
    rw [← List.dropWhile_eq_nil_iff]
    by_contra hne
    have hhead := List.head_dropWhile_not isBlank hne
    rw [h _ (List.head_mem hne)] at hhead
    cases hhead
  · intro h c hc
    exact h c (List.dropWhile_sublist _ |>.subset hc)

/-- A text that is not blank is trimmed to something. -/
theorem trim_ne_nil {s : List Char} (h : ∃ c ∈ s, isBlank c = false) : trim s ≠ [] := by
  obtain ⟨c, hc, hblank⟩ := h
  intro hnil
  rw [trim_eq_nil_iff.mp hnil c hc] at hblank
  cases hblank

/-- A trimmed text does not end with a blank. -/
theorem getLast_trim {s : List Char} (h : trim s ≠ []) : isBlank ((trim s).getLast h) = false := by
  rw [← Bool.not_eq_true]
  exact List.rdropWhile_last_not isBlank (trimStart s) h

/-- A trimmed text does not begin with a blank. -/
theorem head_trim {s : List Char} (h : trim s ≠ []) : isBlank ((trim s).head h) = false := by
  obtain ⟨tail, happend⟩ : trim s <+: trimStart s := List.rdropWhile_prefix isBlank _
  have hne : trim s ++ tail ≠ [] := List.append_ne_nil_of_left_ne_nil h tail
  have hhead : isBlank ((trim s ++ tail).head hne) = false := by
    simp only [happend]
    exact List.head_dropWhile_not isBlank _
  rwa [List.head_append_of_ne_nil] at hhead

/-- A text that neither begins nor ends with a blank is its own trimmed form. -/
theorem trim_eq_self {s : List Char} (hhead : ∀ h : s ≠ [], isBlank (s.head h) = false)
    (hlast : ∀ h : s ≠ [], isBlank (s.getLast h) = false) : trim s = s := by
  have hstart : trimStart s = s := by
    cases s with
    | nil => rfl
    | cons c s => simpa [trimStart] using hhead (by simp)
  rw [trim, hstart, trimEnd_eq_rdropWhile, List.rdropWhile_eq_self_iff]
  intro h
  simpa using hlast h

/-- A text that is its own trimmed form neither begins nor ends with a blank. -/
theorem not_blank_of_trim_eq_self {s : List Char} (h : trim s = s) {c : Char}
    (hc : s.head? = some c ∨ s.getLast? = some c) : isBlank c = false := by
  rw [← h] at hc
  have hne : trim s ≠ [] := by
    intro hnil
    rw [hnil] at hc
    simp at hc
  rcases hc with hhead | hlast
  · rw [← (List.head_eq_iff_head?_eq_some hne).mpr hhead]
    exact head_trim hne
  · rw [← (List.getLast_eq_iff_getLast?_eq_some hne).mpr hlast]
    exact getLast_trim hne

@[simp] theorem trim_trim (s : List Char) : trim (trim s) = trim s :=
  trim_eq_self head_trim getLast_trim

@[simp] theorem trimmed_trimmed (s : String) : trimmed (trimmed s) = trimmed s := by
  rw [trimmed, toList_trimmed, trim_trim]
  rfl

/-- A text without blanks is its own trimmed form. -/
theorem trim_of_forall_not {s : List Char} (h : ∀ c ∈ s, isBlank c = false) : trim s = s :=
  trim_eq_self (fun _ => h _ (List.head_mem _)) (fun _ => h _ (List.getLast_mem _))

/-- Trimming keeps every character that is no blank. -/
theorem exists_not_blank_trim {s : List Char} (h : ∃ c ∈ s, isBlank c = false) :
    ∃ c ∈ trim s, isBlank c = false :=
  ⟨_, List.getLast_mem (trim_ne_nil h), getLast_trim (trim_ne_nil h)⟩

/-- A text is its trimmed form between blanks. -/
theorem exists_eq_append_trim (s : List Char) : ∃ before behind, s = before ++ (trim s ++ behind) ∧
    (∀ c ∈ before, isBlank c = true) ∧ ∀ c ∈ behind, isBlank c = true := by
  obtain ⟨behind, hbehind⟩ : trim s <+: trimStart s := List.rdropWhile_prefix isBlank _
  refine ⟨s.takeWhile isBlank, (trimStart s).rtakeWhile isBlank, ?_,
    fun c hc => List.mem_takeWhile_imp hc, fun c hc => List.mem_rtakeWhile_imp hc⟩
  rw [trim, trimEnd_eq_rdropWhile, List.rdropWhile_append_rtakeWhile]
  exact List.takeWhile_append_dropWhile.symm

/-- A text that does not end with a blank is left alone at its end. -/
theorem trimEnd_eq_self {s : List Char} (h : ∀ hne : s ≠ [], isBlank (s.getLast hne) = false) :
    trimEnd s = s := by
  rw [trimEnd_eq_rdropWhile, List.rdropWhile_eq_self_iff]
  intro hne
  simpa using h hne

/-- Blanks behind a text are trimmed away at its end. -/
theorem trimEnd_append_blank {behind : List Char} (h : ∀ c ∈ behind, isBlank c = true)
    (s : List Char) : trimEnd (s ++ behind) = trimEnd s := by
  have hreverse : ∀ c ∈ behind.reverse, isBlank c = true := fun c hc =>
    h c (List.mem_reverse.mp hc)
  rw [trimEnd, List.reverse_append, List.dropWhile_append_of_pos hreverse]
  rfl

/-- Blanks before a text are trimmed away. -/
theorem trim_append_of_blank {before : List Char} (h : ∀ c ∈ before, isBlank c = true)
    (s : List Char) : trim (before ++ s) = trim s := by
  rw [trim, trimStart, List.dropWhile_append_of_pos h]
  rfl

/-- A text that does not begin with a blank is trimmed at its end only. -/
theorem trim_cons_prefix {c : Char} (hc : isBlank c = false) (s : List Char) :
    trim (c :: s) <+: c :: s := by
  have hstart : trimStart (c :: s) = c :: s := List.dropWhile_cons_of_neg (by simp [hc])
  rw [trim, hstart]
  exact List.rdropWhile_prefix isBlank _

/-- Trimming at the end goes no further than the last character that is no blank. -/
theorem trim_cons_append {c : Char} {u v : List Char} (hc : isBlank c = false)
    (hv : ∃ d ∈ v, isBlank d = false) : trim (c :: u ++ v) = c :: u ++ trimEnd v := by
  have hne : v.reverse.dropWhile isBlank ≠ [] := by
    obtain ⟨d, hd, hblank⟩ := hv
    intro hnil
    rw [List.dropWhile_eq_nil_iff.mp hnil d (List.mem_reverse.mpr hd)] at hblank
    cases hblank
  have hstart : trimStart (c :: u ++ v) = c :: u ++ v :=
    List.dropWhile_cons_of_neg (by simp [hc])
  rw [trim, hstart, trimEnd, List.reverse_append, List.dropWhile_append,
    if_neg (by simpa using hne), List.reverse_append, List.reverse_reverse]
  rfl

/-! ## Words -/

/-- A word is non-empty and has no blanks. -/
theorem mem_words {s w : List Char} (h : w ∈ words s) : w ≠ [] ∧ ∀ c ∈ w, isBlank c = false := by
  obtain ⟨hw, hne⟩ := List.mem_filter.mp h
  exact ⟨by simpa using hne, not_of_mem_pieces hw⟩

/-- A text that is not blank has a word. -/
theorem words_ne_nil {s : List Char} (h : ∃ c ∈ s, isBlank c = false) : words s ≠ [] := by
  obtain ⟨c, hc, hblank⟩ := h
  obtain ⟨w, hw, hcw⟩ := exists_mem_pieces hc hblank
  exact List.ne_nil_of_mem (List.mem_filter.mpr ⟨hw, by simpa using List.ne_nil_of_mem hcw⟩)

/-- A text without blanks is one word. -/
theorem words_of_forall_not {s : List Char} (hne : s ≠ []) (h : ∀ c ∈ s, isBlank c = false) :
    words s = [s] := by
  rw [words, pieces_of_forall_not h, List.filter_eq_self]
  simpa using hne

/-- Cutting at a blank cuts between words. -/
theorem words_append_cons {c : Char} (h : isBlank c = true) (s t : List Char) :
    words (s ++ c :: t) = words s ++ words t := by
  simp only [words, pieces_eq_splitOnP, List.splitOnP_append_cons s t h, List.filter_append]

/-- Blanks before a text are in none of its words. -/
theorem words_blank_append {before : List Char} (h : ∀ c ∈ before, isBlank c = true)
    (s : List Char) : words (before ++ s) = words s := by
  induction before with
  | nil => rfl
  | cons c before ih =>
      have hfirst := words_append_cons (h c List.mem_cons_self) [] (before ++ s)
      rw [List.nil_append] at hfirst
      rw [List.cons_append, hfirst, ih fun d hd => h d (List.mem_cons_of_mem c hd)]
      rfl

/-- A text of blanks has no word. -/
theorem words_of_blank {s : List Char} (h : ∀ c ∈ s, isBlank c = true) : words s = [] := by
  have hwords := words_blank_append h []
  rwa [List.append_nil] at hwords

/-- Blanks behind a text are in none of its words. -/
theorem words_append_blank {behind : List Char} (h : ∀ c ∈ behind, isBlank c = true)
    (s : List Char) : words (s ++ behind) = words s := by
  cases behind with
  | nil => rw [List.append_nil]
  | cons c behind =>
      rw [words_append_cons (h c List.mem_cons_self),
        words_of_blank fun d hd => h d (List.mem_cons_of_mem c hd), List.append_nil]

/-- Trimming keeps the words. -/
theorem words_trim (s : List Char) : words (trim s) = words s := by
  obtain ⟨before, behind, hs, hbefore, hbehind⟩ := exists_eq_append_trim s
  rw [hs, words_blank_append hbefore, words_append_blank hbehind, ← hs]

theorem words_trimEnd (s : List Char) : words (trimEnd s) = words s := by
  have hend : ∀ c ∈ s.rtakeWhile isBlank, isBlank c = true := fun c hc =>
    List.mem_rtakeWhile_imp hc
  rw [trimEnd_eq_rdropWhile, ← words_append_blank hend, List.rdropWhile_append_rtakeWhile]

end Stepbook.Text
