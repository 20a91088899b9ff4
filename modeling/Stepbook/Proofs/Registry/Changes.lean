import Mathlib.Data.List.Nodup
import Stepbook.Proofs.Registry.Lookup

/-!
# Changes of a registry

The source roots are replaced, an imported name is recorded, or an enumeration type.
Whatever is done in whatever order, a name list holds the first occurrences of the names
it was given, trimmed and without the empty ones, and only ever grows at its end.  So a
look-up that has found something goes on finding it.

## Main definitions

* `Registry.Change`, `Registry.change`, `Registry.run` — the changes, one change, and a
  run.
* `Registry.Noted` — a name list that holds what it was given.

## Main statements

* `Registry.foldl_note_eq`, `Registry.prefix_foldl_note` — what a name list holds, and how
  it grows.
* `Registry.classIncludes_run`, `Registry.enumerations_run`,
  `Registry.baseDirectories_run` — what a run leaves in each of the three lists.
* `Registry.names_noted_and_look_ups_kept` — the registry after a run from the start.
-/

namespace Stepbook.Registry

open Stepbook.Text

/-- A change of a registry. -/
inductive Change where
  | configure (directories : List Path)
  | addInclude (name : String)
  | addEnumeration (name : String)

namespace Change

/-- The source roots that a change brings. -/
def directories? : Change → Option (List Path)
  | configure directories => some directories
  | addInclude _ => none
  | addEnumeration _ => none

/-- The imported name that a change brings. -/
def imported? : Change → Option String
  | configure _ => none
  | addInclude name => some name
  | addEnumeration _ => none

/-- The enumeration type that a change brings. -/
def enumeration? : Change → Option String
  | configure _ => none
  | addInclude _ => none
  | addEnumeration name => some name

end Change

/-- A registry after a change. -/
def change (g : Registry) : Change → Registry
  | .configure directories => g.configure directories
  | .addInclude name => g.addInclude name
  | .addEnumeration name => g.addEnumeration name

/-- A registry after several changes, one after the other. -/
def run (g : Registry) (changes : List Change) : Registry := changes.foldl change g

/-- A name list that was given some names: it holds the first occurrence of each, trimmed,
but none that is empty then. -/
structure Noted (given names : List String) : Prop where
  nodup : names.Nodup
  ne_empty : "" ∉ names
  bare : ∀ name ∈ names, ∀ c, name.toList.head? = some c ∨ name.toList.getLast? = some c →
    isBlank c = false
  firsts : names = ((given.map trimmed).filter (· ≠ "")).eraseDups

/-! ## Name lists -/

theorem prefix_note (names : List String) (name : String) : names <+: note names name := by
  rw [note]
  split
  · exact List.prefix_refl names
  · exact List.prefix_append names _

/-- Noting names adds behind those there are. -/
theorem prefix_foldl_note (names given : List String) : names <+: given.foldl note names := by
  induction given generalizing names with
  | nil => exact List.prefix_refl names
  | cons name given ih =>
      rw [List.foldl_cons]
      exact (prefix_note names name).trans (ih _)

theorem nodup_note {names : List String} (h : names.Nodup) (name : String) :
    (note names name).Nodup := by
  rw [note]
  split
  · exact h
  · rename_i hnew
    rw [not_or] at hnew
    exact List.nodup_append'.mpr ⟨h, List.nodup_singleton _, by simpa using hnew.2⟩

theorem nodup_foldl_note {names : List String} (h : names.Nodup) (given : List String) :
    (given.foldl note names).Nodup := by
  induction given generalizing names with
  | nil => exact h
  | cons name given ih =>
      rw [List.foldl_cons]
      exact ih (nodup_note h name)

/-- Noting names is noting what trimming leaves of them. -/
theorem foldl_note_trimmed (names given : List String) :
    given.foldl note names = ((given.map trimmed).filter (· ≠ "")).foldl note names := by
  induction given generalizing names with
  | nil => rfl
  | cons name given ih =>
      rw [List.foldl_cons, ih, List.map_cons]
      by_cases hempty : trimmed name = ""
      · rw [List.filter_cons_of_neg (by simpa using hempty), note, if_pos (Or.inl hempty)]
      · rw [List.filter_cons_of_pos (by simpa using hempty), List.foldl_cons, note, note,
          trimmed_trimmed]

/-- **A name list holds first occurrences**, behind those it held already. -/
theorem foldl_note_eq (names given : List String) :
    given.foldl note names.eraseDups =
      (names ++ (given.map trimmed).filter (· ≠ "")).eraseDups := by
  rw [foldl_note_trimmed, foldl_note_eraseDups]
  intro name hname
  obtain ⟨hmem, hne⟩ := List.mem_filter.mp hname
  obtain ⟨original, -, rfl⟩ := List.mem_map.mp hmem
  exact ⟨trimmed_trimmed original, by simpa using hne⟩

theorem noted_foldl_note (given : List String) : Noted given (given.foldl note []) := by
  have hfirsts := foldl_note_eq [] given
  have hname : ∀ name ∈ given.foldl note [], IsName name := by
    intro name hname
    rcases mem_foldl_note_iff.mp hname with hmem | ⟨original, -, rfl, hne⟩
    · cases hmem
    · exact ⟨trimmed_trimmed original, hne⟩
  refine ⟨nodup_foldl_note List.nodup_nil given, fun h => (hname _ h).ne_empty rfl, ?_, hfirsts⟩
  exact fun name hmem c hend => not_blank_of_trim_eq_self
    (by simpa using congrArg String.toList (hname name hmem).trimmed_eq) hend

/-! ## Runs -/

section Runs

-- Comparing a name list with one that a name is noted in would run the trimming.
attribute [local irreducible] note

theorem classIncludes_run (g : Registry) (changes : List Change) :
    (g.run changes).classIncludes = (changes.filterMap Change.imported?).foldl note
      g.classIncludes := by
  induction changes generalizing g with
  | nil => rfl
  | cons c changes ih =>
      rw [run, List.foldl_cons, ← run, ih]
      cases c <;> rfl

theorem enumerations_run (g : Registry) (changes : List Change) :
    (g.run changes).enumerations = (changes.filterMap Change.enumeration?).foldl note
      g.enumerations := by
  induction changes generalizing g with
  | nil => rfl
  | cons c changes ih =>
      rw [run, List.foldl_cons, ← run, ih]
      cases c <;> rfl

/-- The source roots are those that were brought last. -/
theorem baseDirectories_run (g : Registry) (changes : List Change) :
    (g.run changes).baseDirectories = (changes.filterMap Change.directories?).getLastD
      g.baseDirectories := by
  induction changes generalizing g with
  | nil => rfl
  | cons c changes ih =>
      rw [run, List.foldl_cons, ← run, ih]
      cases c with
      | configure directories => exact List.getLastD_cons.symm
      | addInclude name => rfl
      | addEnumeration name => rfl

/-- **The name lists only grow**, and only at their ends. -/
theorem prefix_run (g : Registry) (changes : List Change) :
    g.classIncludes <+: (g.run changes).classIncludes ∧
      g.enumerations <+: (g.run changes).enumerations := by
  rw [classIncludes_run, enumerations_run]
  exact ⟨prefix_foldl_note _ _, prefix_foldl_note _ _⟩

/-- **A registry after a run from the start.**  Each of the two name lists holds the first
occurrences of the names that it was given, trimmed, and none that is empty then.  The
source roots are those of the last change that brings some: that changes nothing else, and
the other changes leave them alone.  Whatever is done later, the name lists go on as they
are.  A type is found by the earliest imported name that declares it, and if there is none
it is not found; what is found once is found for good. -/
theorem names_noted_and_look_ups_kept (directories : List Path) (changes : List Change) :
    let g := run { baseDirectories := directories } changes
    Noted (changes.filterMap Change.imported?) g.classIncludes ∧
      Noted (changes.filterMap Change.enumeration?) g.enumerations ∧
      g.baseDirectories = (changes.filterMap Change.directories?).getLastD directories ∧
      (∀ roots, g.change (.configure roots) = { g with baseDirectories := roots }) ∧
      (∀ name, (g.change (.addInclude name)).baseDirectories = g.baseDirectories ∧
        (g.change (.addEnumeration name)).baseDirectories = g.baseDirectories) ∧
      (∀ later, g.classIncludes <+: (g.run later).classIncludes ∧
        g.enumerations <+: (g.run later).enumerations) ∧
      (∀ type name, g.qualifiedName? type = some name ↔
        ∃ before after, g.classIncludes = before ++ name :: after ∧ Declares name type ∧
          ∀ earlier ∈ before, ¬ Declares earlier type) ∧
      (∀ type, g.qualifiedName? type = none ↔ ∀ name ∈ g.classIncludes, ¬ Declares name type) ∧
      ∀ type, g.qualifiedName? type ≠ none → ∀ later,
        (g.run later).qualifiedName? type = g.qualifiedName? type := by
  intro g
  have hincludes : g.classIncludes = (changes.filterMap Change.imported?).foldl note [] :=
    classIncludes_run _ _
  have henumerations : g.enumerations = (changes.filterMap Change.enumeration?).foldl note [] :=
    enumerations_run _ _
  refine ⟨?_, ?_, baseDirectories_run _ _, fun _ => rfl, fun _ => ⟨rfl, rfl⟩,
    fun later => prefix_run g later, fun _ _ => qualifiedName?_eq_some_iff,
    fun _ => qualifiedName?_eq_none_iff, ?_⟩
  · rw [hincludes]
    exact noted_foldl_note _
  · rw [henumerations]
    exact noted_foldl_note _
  · intro type hfound later
    obtain ⟨name, hname⟩ := Option.ne_none_iff_exists'.mp hfound
    rw [hname]
    exact qualifiedName?_of_prefix (prefix_run g later).1 hname

end Runs

/-- A name that is given again with blanks around it, and three that declare one type.  The
last of these comes when the type has been found. -/
theorem earliest_import_kept :
    let changes : List Change :=
      [.addInclude " a.Role\t", .addEnumeration "Role", .addInclude " ", .addInclude "b.Role",
        .configure [{ segments := ["g"] }], .addInclude "a.Role"]
    let g := run {} changes
    g.classIncludes = ["a.Role", "b.Role"] ∧ g.enumerations = ["Role"] ∧
      g.qualifiedName? "Role" ≠ none ∧
      (g.run [.configure [], .addInclude "c.Role"]).qualifiedName? "Role" = some "a.Role" := by
  intro changes g
  have hincludes : g.classIncludes = ["a.Role", "b.Role"] := by decide +kernel
  have hfound : g.qualifiedName? "Role" = some "a.Role" := by decide +kernel
  have hsome : g.qualifiedName? "Role" ≠ none := by simp [hfound]
  obtain ⟨-, -, -, -, -, -, -, -, hkept⟩ := names_noted_and_look_ups_kept [] changes
  exact ⟨hincludes, by decide +kernel, hsome, (hkept "Role" hsome _).trans hfound⟩

end Stepbook.Registry
