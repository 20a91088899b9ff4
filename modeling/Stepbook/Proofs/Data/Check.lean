import Mathlib.Data.List.Forall2
import Stepbook.Data.Problem

/-!
# Checks that give a value

A check gives a value or a list of problems.  For each way to build a check there is one
statement that says when it gives which value, so that what a record must look like to
be accepted is read off its check.

## Main statements

* `Check.bind_eq_ok_iff`, `Check.both_eq_ok_iff` — checks one after the other, and side by
  side.
* `Check.required_eq_ok_iff`, `Check.optional_eq_ok_iff` — the entries of a table.
* `Check.items_eq_ok_iff`, `Check.tuple_eq_ok_iff` — the items of a list.
* `Check.oneOf_eq_ok_iff` — a word out of several.
-/

namespace Stepbook.Check

variable {α β γ : Type} {check : Data → Check α} {a : α} {d : Data}

theorem bind_eq_ok_iff {c : Check α} {next : α → Check β} {b : β} :
    c.bind next = .ok b ↔ ∃ a, c = .ok a ∧ next a = .ok b := by
  cases c with
  | error problems => simp [Except.bind]
  | ok a => simp [Except.bind]

theorem behind_eq_ok_iff {part : Location.Part} {c : Check α} :
    behind part c = .ok a ↔ c = .ok a := by
  cases c with
  | error problems => simp [behind, Except.mapError]
  | ok a => rfl

theorem both_eq_ok_iff {f : α → β → γ} {c : Check α} {c' : Check β} {z : γ} :
    both f c c' = .ok z ↔ ∃ a b, c = .ok a ∧ c' = .ok b ∧ f a b = z := by
  cases c with
  | error problems => cases c' <;> simp [both]
  | ok a => cases c' <;> simp [both]

/-! ## Data -/

theorem text_eq_ok_iff {s : String} : text d = .ok s ↔ d = .text s := by
  cases d <;> simp [text, fail]

theorem textOrNull_eq_ok_iff {s? : Option String} :
    textOrNull d = .ok s? ↔ (d = .null ∧ s? = none) ∨ ∃ s, d = .text s ∧ s? = some s := by
  cases d <;> simp [textOrNull, fail, eq_comm]

theorem record_eq_ok_iff {name : String} {entries : Entries} :
    record name d = .ok entries ↔ d = .table entries := by
  cases d <;> simp [record, fail]

/-- **A list is accepted if each of its items is**, and then item by item. -/
theorem items_eq_ok_iff {ds : List Data} {as : List α} {i : Nat} :
    items check i ds = .ok as ↔ List.Forall₂ (fun d a => check d = .ok a) ds as := by
  induction ds generalizing as i with
  | nil => simp [items, eq_comm]
  | cons d ds ih =>
      simp only [items, both_eq_ok_iff, behind_eq_ok_iff, ih, List.forall₂_cons_left_iff]
      constructor
      · rintro ⟨a, others, hd, hothers, rfl⟩
        exact ⟨a, others, hd, hothers, rfl⟩
      · rintro ⟨a, others, hd, hothers, rfl⟩
        exact ⟨a, others, hd, hothers, rfl⟩

theorem tuple_eq_ok_iff {as : List α} :
    tuple check d = .ok as ↔
      ∃ ds, d = .array ds ∧ List.Forall₂ (fun d a => check d = .ok a) ds as := by
  cases d <;> simp [tuple, fail, items_eq_ok_iff]

theorem oneOf_eq_ok_iff {choices : List (String × α)} :
    oneOf choices d = .ok a ↔
      ∃ s word, d = .text s ∧ choices.find? (fun c => c.1 == s) = some (word, a) := by
  cases d with
  | text s =>
      cases hfound : choices.find? (fun c => c.1 == s) with
      | none => simp [oneOf, hfound, fail]
      | some choice => simp [oneOf, hfound, Prod.ext_iff]
  | _ => simp [oneOf, fail]

/-! ## Entries -/

variable {entries : Entries} {key : String}

theorem required_eq_ok_iff :
    required entries key check = .ok a ↔
      ∃ d, Data.find? entries key = some d ∧ check d = .ok a := by
  rw [required, behind_eq_ok_iff]
  cases Data.find? entries key with
  | none => simp [fail]
  | some d => simp

/-- An entry that may be left out has its value, or else the default. -/
theorem optional_eq_ok_iff {default : α} :
    optional entries key default check = .ok a ↔
      (Data.find? entries key = none ∧ a = default) ∨
        ∃ d, Data.find? entries key = some d ∧ check d = .ok a := by
  rw [optional, behind_eq_ok_iff]
  cases Data.find? entries key with
  | none => simp [eq_comm]
  | some d => simp

end Stepbook.Check
