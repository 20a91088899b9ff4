/-!
# Bodies of string literals

What stands between the quotes of a string literal is read in units: a character
other than a quote or a backslash, or a backslash and the character behind it.  The
first quote that belongs to no unit ends the literal.

## Main definitions

* `Text.LiteralBody` — a text made of units.
* `Text.untilQuote?` — the reading of a literal from behind its opening quote.

## Main statements

* `Text.LiteralBody.append`, `Text.LiteralBody.of_append_cons` — bodies are put
  together, and taken apart at a character that no backslash stands before.
* `Text.untilQuote?_append` — a body is read to its end and no further.
-/

namespace Stepbook.Text

/-- A text made of units.  The characters that may stand behind a backslash are
given by `escapes`. -/
inductive LiteralBody (escapes : Char → Bool) : List Char → Prop
  | nil : LiteralBody escapes []
  | plain {c : Char} {s : List Char} (hquote : c ≠ '"') (hbackslash : c ≠ '\\')
      (hs : LiteralBody escapes s) : LiteralBody escapes (c :: s)
  | escape {c : Char} {s : List Char} (hc : escapes c = true) (hs : LiteralBody escapes s) :
      LiteralBody escapes ('\\' :: c :: s)

/-- The body of a literal in which every character may stand behind a backslash. -/
abbrev IsLiteralBody (s : List Char) : Prop := LiteralBody (fun _ => true) s

/-- The body of the literal whose opening quote stands right before the text, and
the text behind its closing quote. -/
def untilQuote? : List Char → Option (List Char × List Char)
  | [] => none
  | '\\' :: c :: s => (untilQuote? s).map fun r => ('\\' :: c :: r.1, r.2)
  | c :: s => if c = '"' then some ([], s) else (untilQuote? s).map fun r => (c :: r.1, r.2)

namespace LiteralBody

variable {escapes : Char → Bool}

/-! ## Units -/

theorem singleton_iff {c : Char} : LiteralBody escapes [c] ↔ c ≠ '"' ∧ c ≠ '\\' := by
  constructor
  · intro h
    cases h with
    | plain hquote hbackslash _ => exact ⟨hquote, hbackslash⟩
  · rintro ⟨hquote, hbackslash⟩
    exact .plain hquote hbackslash .nil

theorem cons_cons_iff {c d : Char} {s : List Char} :
    LiteralBody escapes (c :: d :: s) ↔
      (c ≠ '"' ∧ c ≠ '\\' ∧ LiteralBody escapes (d :: s)) ∨
      (c = '\\' ∧ escapes d = true ∧ LiteralBody escapes s) := by
  constructor
  · intro h
    cases h with
    | plain hquote hbackslash hs => exact Or.inl ⟨hquote, hbackslash, hs⟩
    | escape hd hs => exact Or.inr ⟨rfl, hd, hs⟩
  · rintro (⟨hquote, hbackslash, hs⟩ | ⟨rfl, hd, hs⟩)
    · exact .plain hquote hbackslash hs
    · exact .escape hd hs

/-- The units of a text are found from the left. -/
instance decidable (escapes : Char → Bool) : (s : List Char) → Decidable (LiteralBody escapes s)
  | [] => .isTrue .nil
  | [_] => decidable_of_iff _ singleton_iff.symm
  | _ :: d :: s =>
    have := decidable escapes s
    have := decidable escapes (d :: s)
    decidable_of_iff _ cons_cons_iff.symm

/-- More characters behind a backslash do no harm. -/
theorem isLiteralBody {s : List Char} (h : LiteralBody escapes s) : IsLiteralBody s := by
  induction h with
  | nil => exact .nil
  | plain hquote hbackslash _ ih => exact .plain hquote hbackslash ih
  | escape _ _ ih => exact .escape rfl ih

theorem append {u v : List Char} (hu : LiteralBody escapes u) (hv : LiteralBody escapes v) :
    LiteralBody escapes (u ++ v) := by
  induction hu with
  | nil => exact hv
  | plain hquote hbackslash _ ih => exact .plain hquote hbackslash ih
  | escape hc _ ih => exact .escape hc ih

/-- A character that may not stand behind a backslash is a unit of its own, so the
text on either side of it is made of units. -/
theorem of_append_cons {c : Char} (hescapes : escapes c = false) (hbackslash : c ≠ '\\')
    {u v : List Char} (h : LiteralBody escapes (u ++ c :: v)) :
    LiteralBody escapes u ∧ LiteralBody escapes v := by
  generalize hs : u ++ c :: v = s at h
  induction h generalizing u with
  | nil => simp at hs
  | @plain d s hquote hplain hrest ih =>
      cases u with
      | nil =>
          obtain ⟨-, rfl⟩ := List.cons.inj hs
          exact ⟨.nil, hrest⟩
      | cons b u =>
          obtain ⟨rfl, htail⟩ := List.cons.inj hs
          obtain ⟨hu, hv⟩ := ih htail
          exact ⟨.plain hquote hplain hu, hv⟩
  | @escape d s hd hrest ih =>
      -- `c` is neither of the two characters of this unit
      rcases u with _ | ⟨b, _ | ⟨e, u⟩⟩
      · exact absurd (List.cons.inj hs).1 hbackslash
      · obtain ⟨rfl, -⟩ := List.cons.inj (List.cons.inj hs).2
        rw [hescapes] at hd
        cases hd
      · obtain ⟨rfl, hunit⟩ := List.cons.inj hs
        obtain ⟨rfl, htail⟩ := List.cons.inj hunit
        obtain ⟨hu, hv⟩ := ih htail
        exact ⟨.escape hd hu, hv⟩

end LiteralBody

/-! ## Reading -/

/-- **The first quote that belongs to no unit is the one behind the body.** -/
theorem untilQuote?_append {u : List Char} (h : IsLiteralBody u) (s : List Char) :
    untilQuote? (u ++ '"' :: s) = some (u, s) := by
  induction h with
  | nil => rfl
  | @plain c u hquote hbackslash _ ih =>
      rw [List.cons_append, untilQuote?, if_neg hquote, ih]
      · rfl
      · intro d rest hc
        exact absurd hc hbackslash
  | escape _ _ ih =>
      rw [List.cons_append, List.cons_append, untilQuote?, ih]
      rfl

/-- Two literals that begin two equal texts are the same. -/
theorem quote_append_inj {u v s t : List Char} (hu : IsLiteralBody u) (hv : IsLiteralBody v)
    (h : u ++ '"' :: s = v ++ '"' :: t) : u = v ∧ s = t := by
  have hread : some (u, s) = some (v, t) := by
    rw [← untilQuote?_append hu, ← untilQuote?_append hv, h]
  exact Prod.mk.inj (Option.some.inj hread)

end Stepbook.Text
