import Stepbook.Proofs.Toml.Lexeme

/-!
# Tables are refused for the form of a text

The tables that a text describes are changed statement by statement.  A change that is
refused is refused for the form of the text: a table is opened twice, or a key is given a
second value.

## Main definitions

* `Toml.Draft.FormOnly` — a change that is refused for the form of the text only.

## Main statements

* `Toml.Draft.formOnly_openTable`, `Toml.Draft.formOnly_openItem`,
  `Toml.Draft.formOnly_assign`, `Toml.Draft.formOnly_assignInline` — the changes.
-/

namespace Stepbook.Toml

namespace Draft

/-- A change of the tables is refused for the form of the text only. -/
def FormOnly {α : Type} (r : Except Fault.Cause α) : Prop :=
  ∀ cause, r = .error cause → cause.isForm = true

variable {α β : Type}

theorem formOnly_ok (a : α) : FormOnly (.ok a) := by
  intro cause h
  cases h

theorem formOnly_error {cause : Fault.Cause} (h : cause.isForm = true) :
    FormOnly (.error cause : Except Fault.Cause α) := by
  rintro _ ⟨⟩
  exact h

theorem FormOnly.bind {r : Except Fault.Cause α} {f : α → Except Fault.Cause β} (h : FormOnly r)
    (hf : ∀ a, FormOnly (f a)) : FormOnly (r >>= f) := by
  cases r with
  | ok a => exact hf a
  | error cause => exact formOnly_error (h cause rfl)

theorem FormOnly.map {r : Except Fault.Cause α} (h : FormOnly r) (f : α → β) :
    FormOnly (r.map f) := by
  cases r with
  | ok a => exact formOnly_ok _
  | error cause => exact formOnly_error (h cause rfl)

theorem formOnly_under (throughArrays : Bool) {change : Change}
    (h : ∀ entries, FormOnly (change entries)) (key : Key) (entries : Entries) :
    FormOnly (under throughArrays key change entries) := by
  induction key generalizing entries with
  | nil => exact h entries
  | cons k key ih =>
      rw [under]
      split
      · exact (ih _).map _
      · exact (ih _).map _
      · split
        · exact (ih _).map _
        · exact formOnly_error rfl
      · exact formOnly_error rfl

theorem formOnly_addNew (name : String) (value : Data) (entries : Entries) :
    FormOnly (addNew name value entries) := by
  unfold addNew
  split
  · exact formOnly_error rfl
  · exact formOnly_ok _

theorem formOnly_addItem (name : String) (entries : Entries) :
    FormOnly (addItem name entries) := by
  unfold addItem
  split
  · exact formOnly_ok _
  · exact formOnly_ok _
  · exact formOnly_error rfl

theorem formOnly_openTable (d : Draft) (key : Key) : FormOnly (d.openTable key) := by
  unfold openTable
  dsimp only
  split
  · exact formOnly_error rfl
  · split
    · exact formOnly_error rfl
    · exact (formOnly_under true formOnly_ok key _).bind fun _ => formOnly_ok _

theorem formOnly_openItem (d : Draft) (key : Key) : FormOnly (d.openItem key) := by
  unfold openItem
  dsimp only
  split
  · exact formOnly_error rfl
  · exact (formOnly_under true (formOnly_addItem _) _ _).bind fun _ => formOnly_ok _

theorem formOnly_assign (d : Draft) (key : Key) (value : Data) : FormOnly (d.assign key value) := by
  unfold assign
  dsimp only
  split
  · exact formOnly_error rfl
  · split
    · exact formOnly_error rfl
    · exact (formOnly_under true (formOnly_addNew _ value) _ _).bind fun _ => formOnly_ok _

theorem formOnly_assignInline (d : Draft) (key : Key) (value : Data) :
    FormOnly (d.assignInline key value) := by
  unfold assignInline
  dsimp only
  split
  · exact formOnly_error rfl
  · exact (formOnly_under false (formOnly_addNew _ value) _ _).bind fun _ => formOnly_ok _

end Draft

theorem Draft.FormOnly.orFault {α : Type} {r : Except Fault.Cause α} (h : FormOnly r)
    (left : List Char) : Within Fault.Cause.isForm (fun _ => True) (orFault left r) := by
  cases r with
  | ok a => exact .ok trivial
  | error cause => exact .error (h cause rfl)

end Stepbook.Toml
