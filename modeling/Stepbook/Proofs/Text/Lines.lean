import Stepbook.Proofs.Text.Pieces
import Stepbook.Text.Blank
import Stepbook.Text.Lines

/-!
# Texts on one line

Lines are cut at a class of characters that is wider than the line feed.  All of
them are blanks, so that a word stands on one line, and none is in a line.

Texts are written with one of three line endings.  Once the newlines are made uniform,
it cannot be told any more which one it was.

## Main definitions

* `OneLine` — a text in which no line ends.
* `LineEnding` — the ways to end a line.
* `Written` — a text with some lines, each of them ended.

## Main statements

* `OneLine.of_not_blank` — a text without blanks is on one line.
* `oneLine_of_mem_lines` — so is each line of a text.
* `lines_append_flatMap` — the lines of a text that is made of lines.
* `lines_unifyNewlines_of_written` — the lines of a text are those that it was written
  with, whatever ends them.
-/

namespace Stepbook.Text

/-- A text in which no line ends. -/
def OneLine (s : List Char) : Prop := ∀ c ∈ s, isLineEnd c = false

instance (s : List Char) : Decidable (OneLine s) :=
  decidable_of_iff ((s.all fun c => !isLineEnd c) = true) (by simp [OneLine])

/-- What ends a line is a blank. -/
theorem isBlank_of_isLineEnd {c : Char} (h : isLineEnd c = true) : isBlank c = true := by
  simp only [isLineEnd, Bool.or_eq_true, Bool.and_eq_true, decide_eq_true_eq, beq_iff_eq] at h
  simp only [isBlank, blankRanges, List.any_cons, List.any_nil, Bool.or_false, Bool.or_eq_true,
    Bool.and_eq_true, decide_eq_true_eq]
  omega

/-- A text without blanks is on one line. -/
theorem OneLine.of_not_blank {s : List Char} (h : ∀ c ∈ s, isBlank c = false) : OneLine s := by
  intro c hc
  cases hend : isLineEnd c with
  | false => rfl
  | true => exact absurd (isBlank_of_isLineEnd hend) (by simp [h c hc])

theorem oneLine_append_iff {s t : List Char} : OneLine (s ++ t) ↔ OneLine s ∧ OneLine t :=
  List.forall_mem_append

theorem oneLine_cons_iff {c : Char} {s : List Char} :
    OneLine (c :: s) ↔ isLineEnd c = false ∧ OneLine s :=
  List.forall_mem_cons

/-- The lines of a text are on one line each. -/
theorem oneLine_of_mem_lines {s line : List Char} (h : line ∈ lines s) : OneLine line := by
  have hpiece : line ∈ pieces isLineEnd s := by
    rw [lines] at h
    split at h
    · exact List.dropLast_subset _ h
    · exact h
  exact not_of_mem_pieces hpiece

/-- Texts on one line that are not empty are the lines of the text that ends a line
between them. -/
theorem lines_append_flatMap {c : Char} (hc : isLineEnd c = true) {first : List Char}
    {others : List (List Char)} (hline : ∀ s ∈ first :: others, OneLine s)
    (hne : ∀ s ∈ first :: others, s ≠ []) :
    lines (first ++ others.flatMap fun s => c :: s) = first :: others := by
  have hlast : ¬ (first :: others).getLast? = some [] := fun h =>
    hne [] (List.mem_of_getLast? h) rfl
  simp only [lines, pieces_append_flatMap hc hline, if_neg hlast]

@[simp] theorem lines_nil : lines [] = [] := rfl

/-- A text on one line that is not empty is its only line. -/
theorem lines_of_oneLine {s : List Char} (h : OneLine s) (hne : s ≠ []) : lines s = [s] := by
  have hcut : pieces isLineEnd s = [s] := pieces_of_forall_not h
  simp [lines, hcut, hne]

/-- A line that is ended comes before the lines behind it. -/
theorem lines_append_cons {c : Char} (hc : isLineEnd c = true) {s : List Char} (h : OneLine s)
    (rest : List Char) : lines (s ++ c :: rest) = s :: lines rest := by
  have hcut : pieces isLineEnd (s ++ c :: rest) = s :: pieces isLineEnd rest := by
    rw [pieces_eq_splitOnP, List.splitOnP_append_cons _ _ hc, ← pieces_eq_splitOnP,
      ← pieces_eq_splitOnP, pieces_of_forall_not h, List.singleton_append]
  obtain ⟨first, others, hrest⟩ := List.exists_cons_of_ne_nil (pieces_ne_nil isLineEnd rest)
  -- the last piece is one of the pieces behind the line
  simp only [lines, hcut, hrest, List.getLast?_cons_cons, List.dropLast_cons_cons]
  split <;> rfl

/-! ## Line endings -/

/-- The ways to end a line. -/
inductive LineEnding where
  | lineFeed
  | carriageReturn
  /-- A carriage return and a line feed. -/
  | pair

/-- The characters of a line ending. -/
def LineEnding.chars : LineEnding → List Char
  | lineFeed => ['\n']
  | carriageReturn => ['\r']
  | pair => ['\r', '\n']

/-- A text with some lines, each of them ended.  The end of the last one may be left out,
unless that line is empty. -/
inductive Written (ending : LineEnding) : List (List Char) → List Char → Prop
  | nil : Written ending [] []
  | last {line : List Char} (hne : line ≠ []) : Written ending [line] line
  | cons (line : List Char) {others : List (List Char)} {text : List Char}
      (hothers : Written ending others text) :
      Written ending (line :: others) (line ++ ending.chars ++ text)

/-! ### Uniform newlines -/

/-- Whether a line feed comes next is what the fold over a text remembers. -/
theorem unifyNewlines_return (s : List Char) :
    unifyNewlines ('\r' :: s) =
      if s.head? = some '\n' then unifyNewlines s else '\n' :: unifyNewlines s := by
  cases s with
  | nil => rfl
  | cons c s =>
      by_cases hreturn : c = '\r'
      · simp [unifyNewlines, hreturn]
      · simp [unifyNewlines, hreturn]

theorem unifyNewlines_cons_of_ne {c : Char} (h : c ≠ '\r') (s : List Char) :
    unifyNewlines (c :: s) = c :: unifyNewlines s := by
  simp [unifyNewlines, h]

/-- A text on one line has no newlines to be made uniform. -/
theorem unifyNewlines_append {s : List Char} (h : OneLine s) (rest : List Char) :
    unifyNewlines (s ++ rest) = s ++ unifyNewlines rest := by
  induction s with
  | nil => rfl
  | cons c s ih =>
      obtain ⟨hc, hs⟩ := oneLine_cons_iff.mp h
      have hne : c ≠ '\r' := by
        rintro rfl
        cases hc
      rw [List.cons_append, unifyNewlines_cons_of_ne hne, ih hs, List.cons_append]

/-- A line ending becomes a line feed.  A carriage return must not stand before a line
feed of its own. -/
theorem unifyNewlines_ending {ending : LineEnding} {rest : List Char}
    (h : ending = .carriageReturn → rest.head? ≠ some '\n') :
    unifyNewlines (ending.chars ++ rest) = '\n' :: unifyNewlines rest := by
  have hfeed : unifyNewlines ('\n' :: rest) = '\n' :: unifyNewlines rest :=
    unifyNewlines_cons_of_ne (by decide) rest
  cases ending with
  | lineFeed => exact hfeed
  | carriageReturn =>
      change unifyNewlines ('\r' :: rest) = _
      rw [unifyNewlines_return, if_neg (h rfl)]
  | pair =>
      change unifyNewlines ('\r' :: '\n' :: rest) = _
      rw [unifyNewlines_return, List.head?_cons, if_pos rfl, hfeed]

/-- Lines that end in carriage returns do not start with a line feed. -/
theorem Written.head?_ne {lines : List (List Char)} {text : List Char}
    (h : Written .carriageReturn lines text) (hlines : ∀ line ∈ lines, OneLine line) :
    text.head? ≠ some '\n' := by
  have hhead : ∀ line ∈ lines, line.head? ≠ some '\n' := by
    intro line hline hfeed
    have hend := hlines line hline '\n' (List.mem_of_head? hfeed)
    cases hend
  cases h with
  | nil => simp
  | last hne => exact hhead _ (by simp)
  | cons line hothers =>
      cases line with
      | nil => simp [LineEnding.chars]
      | cons c line => exact hhead (c :: line) (by simp)

/-- **The lines of a text** with uniform newlines are those that it was written with,
whatever ends them. -/
theorem lines_unifyNewlines_of_written {ending : LineEnding} {ls : List (List Char)}
    {text : List Char} (h : Written ending ls text) (hls : ∀ line ∈ ls, OneLine line) :
    lines (unifyNewlines text) = ls := by
  induction h with
  | nil => rfl
  | @last line hne =>
      have hline : OneLine line := hls line (by simp)
      have hsame : unifyNewlines line = line := by
        have happend := unifyNewlines_append hline []
        rwa [List.append_nil, show unifyNewlines [] = [] from rfl, List.append_nil] at happend
      rw [hsame, lines_of_oneLine hline hne]
  | @cons line others text hothers ih =>
      obtain ⟨hline, hrest⟩ := List.forall_mem_cons.mp hls
      have hnext : ending = .carriageReturn → text.head? ≠ some '\n' := by
        rintro rfl
        exact hothers.head?_ne hrest
      rw [List.append_assoc, unifyNewlines_append hline, unifyNewlines_ending hnext,
        lines_append_cons (by decide) hline, ih hrest]

end Stepbook.Text
