import Mathlib.Data.List.Forall2
import Mathlib.Data.Option.Basic
import Stepbook.Data

/-!
# The entries of a table

A table is what its keys lead to.  The order of its entries does not matter, and neither
does an entry behind another one with the same key.

## Main definitions

* `Data.Alike` — data that differ in no value of a key.
* `Data.restrict`, `Data.withoutNull`, `Data.withDefault`, `Data.mapValue` — changes of
  entries.
* `Data.mapItems` — the items of a list, each changed.

## Main statements

* `Data.find?_restrict`, `Data.find?_withoutNull`, `Data.find?_withDefault`,
  `Data.find?_mapValue` — what the keys lead to after a change.
-/

namespace Stepbook.Data

variable {entries : Entries} {key : String}

/-- The same data, but for the order of the entries in tables. -/
inductive Alike : Data → Data → Prop
  | refl (d : Data) : Alike d d
  | array {ds es : List Data} (h : List.Forall₂ Alike ds es) : Alike (.array ds) (.array es)
  | table {before after : Entries}
      (h : ∀ key, Option.Rel Alike (find? before key) (find? after key)) :
      Alike (.table before) (.table after)

/-- Tables whose keys lead to the same values. -/
theorem Alike.of_find?_eq {before after : Entries}
    (h : ∀ key, find? before key = find? after key) : Alike (.table before) (.table after) := by
  refine .table fun key => ?_
  rw [h key]
  cases find? after key with
  | none => exact .none
  | some d => exact .some (.refl d)

/-! ## Values of keys -/

@[simp] theorem find?_nil : find? [] key = none := rfl

theorem find?_cons (e : String × Data) :
    find? (e :: entries) key = if e.1 = key then some e.2 else find? entries key := by
  by_cases h : e.1 = key <;> simp [find?, h]

/-- Entries that are left out by their keys. -/
theorem find?_filter (p : String → Bool) (entries : Entries) (key : String) :
    find? (entries.filter fun e => p e.1) key = if p key then find? entries key else none := by
  induction entries with
  | nil => simp
  | cons e entries ih =>
      by_cases hkey : e.1 = key
      · subst hkey
        by_cases hp : p e.1 = true <;> simp [hp, ih, find?_cons]
      · by_cases hp : p e.1 = true <;> simp [hp, ih, find?_cons, hkey]

/-! ## Changes -/

/-- The entries with one of the given keys. -/
def restrict (keys : List String) (entries : Entries) : Entries :=
  entries.filter fun e => decide (e.1 ∈ keys)

theorem find?_restrict (keys : List String) (entries : Entries) (key : String) :
    find? (restrict keys entries) key = if key ∈ keys then find? entries key else none := by
  have hfilter := find?_filter (fun k => decide (k ∈ keys)) entries key
  simp only [decide_eq_true_eq] at hfilter
  exact hfilter

/-- Whether data are nothing. -/
def isNull : Data → Bool
  | .null => true
  | _ => false

/-- The entries without a key, if it leads to nothing. -/
def withoutNull (key : String) (entries : Entries) : Entries :=
  if (find? entries key).any isNull then entries.filter fun e => e.1 != key else entries

theorem find?_withoutNull (key : String) (entries : Entries) (other : String) :
    find? (withoutNull key entries) other =
      if other = key then (find? entries key).filter (fun d => !d.isNull)
      else find? entries other := by
  have hfilter := find?_filter (fun k => k != key) entries other
  rw [withoutNull]
  by_cases hother : other = key
  · subst hother
    cases hfound : find? entries other with
    | none => simp [hfound]
    | some d => cases hnull : d.isNull <;> simp [hfound, hfilter, hnull, Option.filter]
  · rw [if_neg hother]
    split
    · simpa [hother] using hfilter
    · rfl

/-- The entries with a value for a key that had none. -/
def withDefault (key : String) (value : Data) (entries : Entries) : Entries :=
  if (find? entries key).isSome then entries else entries ++ [(key, value)]

theorem find?_withDefault (key : String) (value : Data) (entries : Entries) (other : String) :
    find? (withDefault key value entries) other =
      if other = key then some ((find? entries key).getD value) else find? entries other := by
  have hbehind : find? (entries ++ [(key, value)]) other =
      (find? entries other).or (if key = other then some value else none) := by
    rw [find?, List.find?_append, Option.map_or]
    by_cases hkey : key = other <;> simp [find?, hkey]
  rw [withDefault]
  by_cases hother : other = key
  · subst hother
    cases hfound : find? entries other <;> simp [hfound, hbehind]
  · rw [if_neg hother]
    split
    · rfl
    · rw [hbehind, if_neg (Ne.symm hother), Option.or_none]

/-- The entries with the value of a key changed. -/
def mapValue (key : String) (f : Data → Data) (entries : Entries) : Entries :=
  entries.map fun e => if e.1 = key then (e.1, f e.2) else e

theorem find?_mapValue (key : String) (f : Data → Data) (entries : Entries) (other : String) :
    find? (mapValue key f entries) other =
      if other = key then (find? entries key).map f else find? entries other := by
  induction entries with
  | nil => simp [mapValue]
  | cons e entries ih =>
      have hcons : mapValue key f (e :: entries) =
          (if e.1 = key then (e.1, f e.2) else e) :: mapValue key f entries := rfl
      rw [hcons, find?_cons, find?_cons, find?_cons, ih]
      by_cases hkey : e.1 = key
      · by_cases hother : other = key
        · simp [hkey, hother]
        · simp [hkey, hother, Ne.symm hother]
      · by_cases hother : other = key
        · simp [hkey, hother]
        · simp [hkey, hother]

/-- A list with each item changed. -/
def mapItems (f : Data → Data) : Data → Data
  | .array items => .array (items.map f)
  | d => d

end Stepbook.Data
