import Stepbook.Text.Enclosed

/-!
# Groups of a match expression

A group opens with `(` or `(?:` and is closed by the first `)` on the same line
of text; groups do not nest, so the parentheses of an inner group end the outer
one.  In a display phrase each group gives way to a marker.

## Main definitions

* `afterGroup? opener s` — what follows the group at the start of `s`.
* `replaceGroups opener marker s` — the text with every group, read from the
  left, replaced by the marker.
-/

namespace Stepbook.Phrase

open Stepbook.Text

/-- What follows the first closing parenthesis, if no line feed comes before
it. -/
def afterClose? : List Char → Option (List Char)
  | [] => none
  | c :: s => if c = ')' then some s else if c = '\n' then none else afterClose? s

/-- What follows the group at the start of the text, if there is one. -/
def afterGroup? (opener s : List Char) : Option (List Char) :=
  (afterPrefix? opener s).bind afterClose?

theorem length_lt_of_afterClose? {s r : List Char} (h : afterClose? s = some r) :
    r.length < s.length := by
  induction s with
  | nil => simp [afterClose?] at h
  | cons c s ih =>
    rw [afterClose?] at h
    split at h
    · cases h; simp
    · split at h
      · cases h
      · have := ih h; simp; omega

/-- A group takes up at least one character. -/
theorem length_lt_of_afterGroup? {opener s r : List Char}
    (h : afterGroup? opener s = some r) : r.length < s.length := by
  rw [afterGroup?, Option.bind_eq_some_iff] at h
  obtain ⟨t, ht, hr⟩ := h
  have hlt := length_lt_of_afterClose? hr
  rw [eq_append_of_afterPrefix? ht, List.length_append]
  omega

/-- The text with each group replaced by the marker.  Groups are found from the
left and the search goes on behind the one just replaced. -/
def replaceGroups (opener marker : List Char) : List Char → List Char
  | [] => []
  | c :: s =>
    match _h : afterGroup? opener (c :: s) with
    | some rest => marker ++ replaceGroups opener marker rest
    | none => c :: replaceGroups opener marker s
termination_by s => s.length
decreasing_by
  · exact length_lt_of_afterGroup? ‹_›
  · simp

end Stepbook.Phrase
