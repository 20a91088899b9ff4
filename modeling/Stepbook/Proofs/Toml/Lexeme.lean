import Mathlib.Data.List.Infix
import Stepbook.Toml

/-!
# Readers keep to their text

Each reader of a configuration text leaves an end of the text that it is handed, or
meets a fault.  Two faults are about the size of a text and not about its form: a whole
number with too many digits, and values that nest too deep.  The readers of blanks,
strings and keys meet faults of form only.

## Main definitions

* `Toml.Fault.Cause.isForm` — a fault that is about the form of a text.
* `Toml.Within` — what reading comes to: a result with a property, or a fault of some
  kind.
* `Toml.Reads` — a reader that leaves an end of its text, or meets a fault of form.

## Main statements

* `Toml.Within.bind`, `Toml.Within.mono` — one reader behind another, and a property that
  follows from another one.
* `Toml.within_skipBlank`, `Toml.reads_of_string?`, `Toml.reads_key` — blanks, strings and
  keys.
-/

namespace Stepbook.Toml

open Stepbook.Text

/-- Whether a fault is one in the form of a text, not in its size. -/
def Fault.Cause.isForm : Fault.Cause → Bool
  | tooManyDigits _ | tooDeep => false
  | _ => true

/-- What reading comes to: a result with a property, or a fault of some kind. -/
inductive Within {α : Type} (kind : Fault.Cause → Bool) (P : α → Prop) : Except Fault α → Prop
  | ok {a : α} (h : P a) : Within kind P (.ok a)
  | error {f : Fault} (h : kind f.cause = true) : Within kind P (.error f)

/-- A reader leaves an end of its text, or meets a fault of form. -/
abbrev Reads {α : Type} (s : List Char) (r : Parse α) : Prop :=
  Within Fault.Cause.isForm (fun p => p.2 <:+ s) r

/-! ## Readers in general -/

section Combine

variable {α β : Type} {kind : Fault.Cause → Bool} {s s' : List Char}
variable {P Q : α → Prop} {R : β → Prop}

theorem within_fault {cause : Fault.Cause} (h : kind cause = true) (left : List Char) :
    Within kind P (fault cause left) := .error h

/-- **One reader behind another.** -/
theorem Within.bind {r : Except Fault α} {f : α → Except Fault β} (h : Within kind P r)
    (hf : ∀ a, P a → Within kind R (f a)) : Within kind R (r >>= f) := by
  cases h with
  | ok h => exact hf _ h
  | error h => exact .error h

/-- **A property that follows** from the one that is known. -/
theorem Within.mono {r : Except Fault α} (h : Within kind P r) (hP : ∀ a, P a → Q a) :
    Within kind Q r := by
  cases h with
  | ok h => exact .ok (hP _ h)
  | error h => exact .error h

/-- Faults of form are faults. -/
theorem Within.anyFault {r : Except Fault α} (h : Within kind P r) :
    Within (fun _ => true) P r := by
  cases h with
  | ok h => exact .ok h
  | error _ => exact .error rfl

theorem Within.of_eq_ok {r : Except Fault α} (h : Within kind P r) {a : α} (hr : r = .ok a) :
    P a := by
  subst hr
  cases h with
  | ok h => exact h

/-- A reader that meets faults of form only is not refused for another one. -/
theorem Within.isForm_of_eq_error {r : Except Fault α} (h : Within kind P r) {f : Fault}
    (hr : r = .error f) : kind f.cause = true := by
  subst hr
  cases h with
  | error h => exact h

theorem Within.suffix {r : Parse α} (h : Within kind (fun p => p.2 <:+ s') r) (hs : s' <:+ s) :
    Within kind (fun p => p.2 <:+ s) r :=
  h.mono fun _ hrest => hrest.trans hs

theorem Within.cons {r : Parse α} (h : Reads s r) (c : Char) : Reads (c :: s) r :=
  h.suffix (List.suffix_cons c s)

/-- What is done with the value that was read does not matter. -/
theorem Within.mapValue {r : Parse α} (h : Reads s r) (f : α → β) :
    Reads s (r.map fun p => (f p.1, p.2)) := by
  cases h with
  | ok h => exact .ok h
  | error h => exact .error h

end Combine

/-- The rest behind what may stand there, or else the text. -/
theorem getD_suffix {s : List Char} {rest? : Option (List Char)}
    (h : ∀ rest, rest? = some rest → rest <:+ s) : rest?.getD s <:+ s := by
  cases rest? with
  | none => exact List.suffix_refl s
  | some rest => exact h rest rfl

theorem suffix_of_afterPrefix? {p s rest : List Char} (h : afterPrefix? p s = some rest) :
    rest <:+ s := ⟨p, (eq_append_of_afterPrefix? h).symm⟩

/-! ## Blanks -/

theorem skipSpace_suffix (s : List Char) : skipSpace s <:+ s := List.dropWhile_suffix _

theorem within_skipComment (s : List Char) : Within Fault.Cause.isForm (· <:+ s) (skipComment s) := by
  unfold skipComment
  split
  · split
    · exact within_fault rfl _
    · exact .ok ((List.dropWhile_suffix _).trans (List.suffix_cons _ _))
  · exact .ok (List.suffix_refl _)

theorem within_skipBlankUpTo (fuel : Nat) (s : List Char) :
    Within Fault.Cause.isForm (· <:+ s) (skipBlankUpTo fuel s) := by
  induction fuel generalizing s with
  | zero => exact .ok (List.suffix_refl s)
  | succ fuel ih =>
      have hbehind : (s.dropWhile fun c => isSpace c || c == '\n') <:+ s :=
        List.dropWhile_suffix _
      rw [skipBlankUpTo]
      split
      · rename_i rest hrest
        rw [hrest] at hbehind
        refine ((within_skipComment _).mono fun _ ht => ht.trans hbehind).bind ?_
        intro t ht
        exact (ih t).mono fun _ hu => hu.trans ht
      · exact .ok hbehind

theorem within_skipBlank (s : List Char) : Within Fault.Cause.isForm (· <:+ s) (skipBlank s) :=
  within_skipBlankUpTo _ s

/-! ## Strings -/

theorem withQuotes_suffix (mark : Char) (text s : List Char) :
    (withQuotes mark text s).2 <:+ s := by
  unfold withQuotes
  split
  · split
    · split
      · exact ⟨[_, _], rfl⟩
      · exact List.suffix_cons _ _
    · exact List.suffix_refl _
  · split
    · exact List.suffix_cons _ _
    · exact List.suffix_refl _
  · exact List.suffix_refl _

theorem reads_literalString (s : List Char) : Reads s (literalString s) := by
  have hbehind : s.dropWhile (· != '\'') <:+ s := List.dropWhile_suffix _
  unfold literalString
  dsimp only
  split
  · exact within_fault rfl _
  · rename_i rest hrest
    rw [hrest] at hbehind
    split
    · exact within_fault rfl _
    · exact .ok ((List.suffix_cons _ rest).trans hbehind)

theorem reads_literalLines (acc s : List Char) : Reads s (literalLines acc s) := by
  fun_induction literalLines acc s with
  | case1 => exact .ok ((withQuotes_suffix _ _ _).trans ⟨[_, _, _], rfl⟩)
  | case2 | case3 => exact within_fault rfl _
  | case4 _ _ _ _ _ ih => exact ih.cons _

theorem reads_basicString (multiline : Bool) (mode : StringMode) (acc s : List Char) :
    Reads s (basicString multiline mode acc s) := by
  -- an escape is read in one go, so the induction is on the length
  induction hlength : s.length using Nat.strong_induction_on generalizing mode acc s with
  | _ n ih =>
      cases s with
      | nil => exact within_fault rfl _
      | cons c s =>
          have hrest : ∀ mode acc rest, rest <:+ s →
              Reads (c :: s) (basicString multiline mode acc rest) := by
            intro mode acc rest hsuffix
            have hshorter : rest.length < n := by
              have hle := hsuffix.length_le
              rw [List.length_cons] at hlength
              omega
            exact ((ih _ hshorter mode acc rest rfl).suffix hsuffix).cons c
          unfold basicString
          split
          · exact hrest _ _ _ (List.suffix_refl s)
          · exact hrest _ _ _ (List.suffix_refl s)
          · exact within_fault rfl _
          · split
            · split
              · split
                · exact .ok ((withQuotes_suffix _ _ _).trans ⟨[_, _, _], rfl⟩)
                · exact hrest _ _ _ (List.suffix_refl s)
              · exact .ok (List.suffix_cons c s)
            · split
              · split
                · split
                  · exact hrest _ _ _ ⟨[_, _, _, _, _], rfl⟩
                  · exact within_fault rfl _
                · split
                  · exact hrest _ _ _ ⟨[_, _, _, _, _, _, _, _, _], rfl⟩
                  · exact within_fault rfl _
                · split
                  · exact hrest _ _ _ (List.suffix_cons _ _)
                  · split
                    · exact hrest _ _ _ (List.suffix_cons _ _)
                    · exact within_fault rfl _
                · exact within_fault rfl _
              · split
                · exact within_fault rfl _
                · exact hrest _ _ _ (List.suffix_refl s)

/-- **A string** is read from the text that it starts. -/
theorem reads_of_string? {s : List Char} {r : Parse (List Char)} (h : string? s = some r) :
    Reads s r := by
  have hbehind : ∀ t : List Char, (afterPrefix? ['\n'] t).getD t <:+ t :=
    fun t => getD_suffix fun _ => suffix_of_afterPrefix?
  unfold string? at h
  dsimp only at h
  split at h
  · cases h
    exact (reads_basicString _ _ _ _).suffix ((hbehind _).trans ⟨[_, _, _], rfl⟩)
  · cases h
    exact (reads_basicString _ _ _ _).cons _
  · cases h
    exact (reads_literalLines _ _).suffix ((hbehind _).trans ⟨[_, _, _], rfl⟩)
  · cases h
    exact (reads_literalString _).cons _
  · cases h

/-! ## Keys -/

theorem reads_keyPart (s : List Char) : Reads s (keyPart s) := by
  unfold keyPart
  split
  · exact ((reads_basicString _ _ _ _).mapValue String.ofList).cons _
  · exact ((reads_literalString _).mapValue String.ofList).cons _
  · split
    · exact within_fault rfl _
    · exact .ok (List.dropWhile_suffix _)

theorem reads_keyUpTo (fuel : Nat) (s : List Char) : Reads s (keyUpTo fuel s) := by
  induction fuel generalizing s with
  | zero => exact within_fault rfl s
  | succ fuel ih =>
      rw [keyUpTo]
      refine (reads_keyPart s).bind ?_
      rintro ⟨part, rest⟩ hrest
      have hspace : skipSpace rest <:+ s := (skipSpace_suffix rest).trans hrest
      dsimp only
      split
      · rename_i more hmore
        rw [hmore] at hspace
        have hnext : skipSpace more <:+ s :=
          (skipSpace_suffix more).trans ((List.suffix_cons _ _).trans hspace)
        refine ((ih _).suffix hnext).bind ?_
        rintro ⟨parts, last⟩ hlast
        exact .ok hlast
      · exact .ok hspace

/-- **A key** is read from the text that it starts. -/
theorem reads_key (s : List Char) : Reads s (key s) := reads_keyUpTo _ s

end Stepbook.Toml
