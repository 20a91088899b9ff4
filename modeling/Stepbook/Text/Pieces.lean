/-!
# Cutting text into pieces

Text is cut at every character of a class: at the commas of a parameter list,
at the blanks between two words, at the slashes of a path, at the ends of
lines.  All of these are one function, `pieces`, followed by a rule that says
which of the pieces count.

## Main definitions

* `pieces p s` — the runs of `s` between the characters that satisfy `p`, the
  empty ones included.

## Design notes

`pieces` never returns the empty list, and it folds from the right, so that its
two equations (`pieces_nil`, `pieces_cons`) are the recursion a proof wants and
long texts are still cut in constant stack space.
-/

namespace Stepbook.Text

/-- The runs of `s` between characters that satisfy `p`, empty runs included. -/
def pieces (p : Char → Bool) (s : List Char) : List (List Char) :=
  s.foldr
    (fun c ps => if p c then [] :: ps else (c :: ps.headD []) :: ps.tail)
    [[]]

@[simp] theorem pieces_nil (p : Char → Bool) : pieces p [] = [[]] := rfl

theorem pieces_cons (p : Char → Bool) (c : Char) (s : List Char) :
    pieces p (c :: s) =
      if p c then [] :: pieces p s
      else (c :: (pieces p s).headD []) :: (pieces p s).tail := rfl

/-- There is always a piece, if only an empty one. -/
theorem pieces_ne_nil (p : Char → Bool) (s : List Char) : pieces p s ≠ [] := by
  cases s with
  | nil => simp
  | cons c s => rw [pieces_cons]; split <;> simp

/-- A text without separators is one piece. -/
theorem pieces_of_forall_not {p : Char → Bool} {s : List Char}
    (h : ∀ c ∈ s, p c = false) : pieces p s = [s] := by
  induction s with
  | nil => rfl
  | cons c s ih =>
    have hs : pieces p s = [s] := ih fun d hd => h d (List.mem_cons_of_mem c hd)
    rw [pieces_cons, h c List.mem_cons_self, hs]
    rfl

end Stepbook.Text
