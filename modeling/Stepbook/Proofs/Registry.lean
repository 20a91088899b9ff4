import Stepbook.Proofs.Text.Blank
import Stepbook.Registry

/-!
# Name lists of the registry

A name list holds the first occurrences of the names noted, in order.  The names
that reading glue code notes are trimmed and not empty, so that each is recorded
as it is.

## Main definitions

* `IsName` — a name that is recorded as it is.
* `Registry.Recorded` — a registry of such names.

## Main statements

* `Registry.note_eraseDups`, `Registry.foldl_note_eraseDups` — noting names after
  others.
* `Registry.foldl_note_note` — noting a name behind names that are noted again.
-/

namespace Stepbook

open Stepbook.Text

/-- A name that is recorded as it is: trimmed and not empty. -/
structure IsName (name : String) : Prop where
  trimmed_eq : trimmed name = name
  ne_empty : name ≠ ""

/-- A text that is not empty and its own trimmed form is a name. -/
theorem isName_ofList {s : List Char} (htrim : trim s = s) (hne : s ≠ []) :
    IsName (String.ofList s) where
  trimmed_eq := by rw [trimmed, String.toList_ofList, htrim]
  ne_empty := by
    intro hempty
    exact hne (by simpa using congrArg String.toList hempty)

/-- A text that is not empty and has no blanks is a name. -/
theorem isName_of_not_blank {name : String} (h : ∀ c ∈ name.toList, isBlank c = false)
    (hne : name ≠ "") : IsName name := by
  refine ⟨?_, hne⟩
  rw [trimmed, trim_of_forall_not h, String.ofList_toList]

namespace Registry

/-- Noting a name adds it behind the others if it is not among them. -/
theorem note_eq_append {name : String} (h : IsName name) (names : List String) :
    note names name = names ++ [name].filter (· ∉ names) := by
  rw [note, h.trimmed_eq]
  by_cases hmem : name ∈ names
  · simp [hmem]
  · simp [hmem, h.ne_empty]

/-- Noting a name after others keeps the first occurrences. -/
theorem note_eraseDups {name : String} (h : IsName name) (names : List String) :
    note names.eraseDups name = (names ++ [name]).eraseDups := by
  rw [note, h.trimmed_eq, List.eraseDups_append]
  by_cases hmem : name ∈ names
  · rw [if_pos (Or.inr (List.mem_eraseDups.mpr hmem))]
    simp [List.removeAll, hmem]
  · rw [if_neg]
    · simp [List.removeAll, hmem, List.eraseDups_cons]
    · rintro (hempty | hdup)
      · exact h.ne_empty hempty
      · exact hmem (List.mem_eraseDups.mp hdup)

/-- Noting several names after others keeps the first occurrences. -/
theorem foldl_note_eraseDups {added : List String} (h : ∀ name ∈ added, IsName name)
    (names : List String) : added.foldl note names.eraseDups = (names ++ added).eraseDups := by
  induction added generalizing names with
  | nil => simp
  | cons name added ih =>
      rw [List.foldl_cons, note_eraseDups (h name List.mem_cons_self),
        ih (fun n hn => h n (List.mem_cons_of_mem name hn)), List.append_assoc,
        List.singleton_append]

theorem mem_note_iff {names : List String} {name n : String} :
    n ∈ note names name ↔ n ∈ names ∨ n = trimmed name ∧ n ≠ "" := by
  by_cases hor : trimmed name = "" ∨ trimmed name ∈ names
  · rw [note, if_pos hor]
    constructor
    · exact Or.inl
    · rintro (hmem | ⟨rfl, hne⟩)
      · exact hmem
      · exact hor.resolve_left hne
  · rw [note, if_neg hor, List.mem_append, List.mem_singleton]
    rw [not_or] at hor
    constructor
    · rintro (hmem | rfl)
      · exact Or.inl hmem
      · exact Or.inr ⟨rfl, hor.1⟩
    · rintro (hmem | ⟨hn, -⟩)
      · exact Or.inl hmem
      · exact Or.inr hn

theorem mem_foldl_note_iff {names added : List String} {n : String} :
    n ∈ added.foldl note names ↔ n ∈ names ∨ ∃ name ∈ added, n = trimmed name ∧ n ≠ "" := by
  induction added generalizing names with
  | nil => simp
  | cons first added ih =>
      rw [List.foldl_cons, ih, mem_note_iff, List.exists_mem_cons_iff, or_assoc]

/-- What is noted last can be noted before the names are joined. -/
theorem foldl_note_note (names added : List String) (name : String) :
    (note added name).foldl note names = note (added.foldl note names) name := by
  by_cases hname : trimmed name = "" ∨ trimmed name ∈ added
  · have hjoined : trimmed name = "" ∨ trimmed name ∈ added.foldl note names := by
      rcases hname with hempty | hmem
      · exact Or.inl hempty
      · by_cases hempty : trimmed name = ""
        · exact Or.inl hempty
        · -- a recorded name is trimmed, so that it is recorded again as it is
          have htrim : trimmed name = trimmed (trimmed name) :=
            (trimmed_trimmed name).symm
          exact Or.inr (mem_foldl_note_iff.mpr (Or.inr ⟨_, hmem, htrim, hempty⟩))
    rw [note, if_pos hname, note, if_pos hjoined]
  · rw [note, if_neg hname, List.foldl_append, List.foldl_cons, List.foldl_nil, note, note,
      trimmed_trimmed]

/-! ## What is recorded -/

/-- All that a registry has recorded are names. -/
structure Recorded (g : Registry) : Prop where
  classIncludes : ∀ name ∈ g.classIncludes, IsName name
  enumerations : ∀ name ∈ g.enumerations, IsName name

/-- Whatever is noted, what it leaves in a list of names is a name. -/
theorem isName_of_mem_note {names : List String} (h : ∀ n ∈ names, IsName n) (name : String) :
    ∀ n ∈ note names name, IsName n := by
  intro n hn
  rcases mem_note_iff.mp hn with hmem | ⟨rfl, hne⟩
  · exact h n hmem
  · exact ⟨trimmed_trimmed name, hne⟩

-- Comparing a name list with one that a name is noted in would run the trimming.
attribute [local irreducible] note

theorem Recorded.addInclude {g : Registry} (h : g.Recorded) (name : String) :
    (g.addInclude name).Recorded :=
  ⟨isName_of_mem_note h.classIncludes name, h.enumerations⟩

theorem Recorded.addEnumeration {g : Registry} (h : g.Recorded) (name : String) :
    (g.addEnumeration name).Recorded :=
  ⟨h.classIncludes, isName_of_mem_note h.enumerations name⟩

end Registry

end Stepbook
