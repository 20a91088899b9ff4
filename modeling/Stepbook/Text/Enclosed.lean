/-!
# Text between two marks

A match expression stands between the first `^` and the last `$` of its
annotation, a parameter list between the first `(` and the last `)` of its
declaration.  Both are read by `enclosed?`.

## Main definitions

* `enclosed? o c s` — the text strictly between the first `o` and the last `c`
  of `s`, or `none` when no `c` comes after the first `o`.
* `afterPrefix? p s` — what follows the text `p` at the start of `s`.
-/

namespace Stepbook.Text

/-- The text strictly between the first `o` and the last `c` of `s`.  The marks
are meant to be two different characters. -/
def enclosed? (o c : Char) (s : List Char) : Option (List Char) :=
  match s.dropWhile (· != o) with
  | [] => none
  | _ :: rest =>
    match rest.reverse.dropWhile (· != c) with
    | [] => none
    | _ :: before => some before.reverse

/-- What follows `p` at the start of `s`, or `none` when `s` does not start with
`p`. -/
def afterPrefix? : List Char → List Char → Option (List Char)
  | [], s => some s
  | _ :: _, [] => none
  | a :: p, b :: s => if a = b then afterPrefix? p s else none

@[simp] theorem afterPrefix?_append (p s : List Char) :
    afterPrefix? p (p ++ s) = some s := by
  induction p with
  | nil => rfl
  | cons a p ih => simp [afterPrefix?, ih]

/-- The rest is what is left once the start is taken away. -/
theorem eq_append_of_afterPrefix? {p s r : List Char} (h : afterPrefix? p s = some r) :
    s = p ++ r := by
  induction p generalizing s with
  | nil => simpa [afterPrefix?] using h
  | cons a p ih =>
    cases s with
    | nil => simp [afterPrefix?] at h
    | cons b s =>
      by_cases hab : a = b
      · simp only [afterPrefix?, hab, if_true] at h
        rw [ih h, hab, List.cons_append]
      · simp [afterPrefix?, hab] at h

end Stepbook.Text
