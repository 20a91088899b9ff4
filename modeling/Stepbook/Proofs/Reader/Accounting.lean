import Stepbook.Proofs.Reader.Move
import Stepbook.Proofs.Registry

/-!
# The registry of a run

After any run from the start the registry is determined by the moves made and the
steps found.  Its enumeration types are those of the steps' parameters, its
imported names are those of all lines fed, refused lines included, and its source
roots are those added.

## Main definitions

* `Reader.Move.line?`, `Reader.Move.directory?` — the line fed and the source root
  added by a move.
* `Step.typeNames` — the type names of a step's parameters.
* `Reader.Accounted` — the invariant: what the registry holds after some moves.

## Main statements

* `Reader.accounted_move` — a move keeps the invariant.
* `Reader.registry_run` — the registry after a run from the start.
-/

namespace Stepbook

open Stepbook.Text

/-- An import declaration imports a name. -/
theorem Import.isName_of_name? {line name : String} (h : name? line = some name) :
    IsName name := by
  unfold name? at h
  cases hrest : afterPrefix? "import ".toList (trim line.toList) with
  | none =>
      rw [hrest] at h
      cases h
  | some rest =>
      rw [hrest, Option.map_some] at h
      -- the last thing done to an imported name is to trim it
      have htrim : trim (nameOf rest) = nameOf rest := by
        simp only [nameOf]
        cases afterPrefix? "static ".toList (trim (withoutSemicolons rest)) with
        | none => exact trim_trim _
        | some member => exact trim_trim member
      cases hname : nameOf rest with
      | nil =>
          rw [hname] at h
          cases h
      | cons c s =>
          rw [hname] at h htrim
          cases h
          exact isName_ofList htrim (by simp)

/-- The type names of a step's parameters, in order. -/
def Step.typeNames (s : Step) : List String := s.parameters.filterMap (·.kind.typeName?)

namespace Reader

/-- The line that a move feeds. -/
def Move.line? : Move → Option String
  | .line text => some text
  | .discard => none
  | .addDirectory _ => none

/-- The source root that a move adds. -/
def Move.directory? : Move → Option Path
  | .line _ => none
  | .discard => none
  | .addDirectory directory => some directory

/-- What the registry of a reader holds after some moves from the start. -/
structure Accounted (r : Reader) (moves : List Move) : Prop where
  baseDirectories : r.registry.baseDirectories = moves.filterMap Move.directory?
  classIncludes :
    r.registry.classIncludes = ((moves.filterMap Move.line?).filterMap Import.name?).eraseDups
  enumerations : r.registry.enumerations = (r.steps.flatMap Step.typeNames).eraseDups

/-! ## What a move does to the registry -/

theorem noteImport_classIncludes {r : Reader} {names : List String}
    (h : r.registry.classIncludes = names.eraseDups) (line : String) :
    (r.noteImport line).registry.classIncludes =
      (names ++ (Import.name? line).toList).eraseDups := by
  unfold noteImport
  cases hname : Import.name? line with
  | none => simpa using h
  | some name =>
      rw [Option.toList_some, ← Registry.note_eraseDups (Import.isName_of_name? hname), ← h]
      rfl

theorem noteType_fst (registry : Registry) (p : Parameter) :
    (noteType registry p).1 =
      (p.kind.typeName?.map registry.addEnumeration).getD registry := by
  unfold noteType
  cases p.kind.typeName? <;> rfl

@[simp] theorem noteTypes_baseDirectories (registry : Registry) (parameters : List Parameter) :
    (noteTypes registry parameters).baseDirectories = registry.baseDirectories := by
  induction parameters generalizing registry with
  | nil => rfl
  | cons p parameters ih =>
      rw [noteTypes_cons, ih, noteType_fst]
      cases p.kind.typeName? <;> rfl

@[simp] theorem noteTypes_classIncludes (registry : Registry) (parameters : List Parameter) :
    (noteTypes registry parameters).classIncludes = registry.classIncludes := by
  induction parameters generalizing registry with
  | nil => rfl
  | cons p parameters ih =>
      rw [noteTypes_cons, ih, noteType_fst]
      cases p.kind.typeName? <;> rfl

/-- Reading a line leaves the source roots alone. -/
@[simp] theorem readLine_baseDirectories (r : Reader) (line : String) :
    (r.readLine line).reader.registry.baseDirectories = r.registry.baseDirectories := by
  cases r.reading line with
  | refused cause _ hread => rw [hread, noteImport_baseDirectories]
  | idle phrase _ _ hread =>
      rw [hread]
      exact noteImport_baseDirectories r line
  | completing awaited segments parameters phrase events _ _ _ _ hread =>
      rw [hread, noteTypes_baseDirectories, noteImport_baseDirectories]

/-- Recording the types of declared parameters records their names as they are. -/
theorem noteTypes_enumerations {segments : List String} {parameters : List Parameter}
    (hdeclare : ParameterList.Declare segments parameters) {registry : Registry}
    {names : List String} (h : registry.enumerations = names.eraseDups) :
    (noteTypes registry parameters).enumerations =
      (names ++ parameters.filterMap (·.kind.typeName?)).eraseDups := by
  induction hdeclare generalizing registry names with
  | nil => simpa using h
  | @cons s p segments parameters hp _ ih =>
      rw [noteTypes_cons, noteType_fst]
      cases hname : p.kind.typeName? with
      | none =>
          rw [List.filterMap_cons_none (f := fun q : Parameter => q.kind.typeName?) hname]
          exact ih h
      | some name =>
          have hisName : IsName name := isName_of_not_blank
            (Parameter.typeName_not_blank hp hname) (Parameter.typeName_ne_empty hname)
          rw [List.filterMap_cons_some (f := fun q : Parameter => q.kind.typeName?) hname,
            List.append_cons]
          refine ih ?_
          rw [← Registry.note_eraseDups hisName, ← h]
          rfl

/-! ## Runs -/

/-- A line that adds no step is accounted for once its import is recorded. -/
theorem accounted_noteImport {r r' : Reader} {moves : List Move} (h : Accounted r moves)
    (text : String) (hregistry : r'.registry = (r.noteImport text).registry)
    (hsteps : r'.steps = r.steps) : Accounted r' (moves ++ [.line text]) := by
  refine ⟨?_, ?_, ?_⟩
  · rw [hregistry, noteImport_baseDirectories, h.baseDirectories, List.filterMap_append]
    simp [Move.directory?]
  · rw [hregistry, noteImport_classIncludes h.classIncludes, List.filterMap_append,
      List.filterMap_append]
    cases hname : Import.name? text <;> simp [Move.line?, hname]
  · rw [hregistry, noteImport_enumerations, h.enumerations, hsteps]

/-- **A move keeps the accounts of the registry.** -/
theorem accounted_move {r : Reader} {moves : List Move} (h : Accounted r moves) (m : Move) :
    Accounted (r.move m) (moves ++ [m]) := by
  cases m with
  | discard =>
      exact ⟨by simpa [move, List.filterMap_cons, Move.directory?] using h.baseDirectories,
        by simpa [move, List.filterMap_cons, Move.line?] using h.classIncludes,
        by simpa [move] using h.enumerations⟩
  | addDirectory directory =>
      refine ⟨?_, ?_, h.enumerations⟩
      · simp [move, addBaseDirectory, Registry.configure, Move.directory?, h.baseDirectories]
      · simpa [move, addBaseDirectory, Registry.configure, List.filterMap_cons, Move.line?]
          using h.classIncludes
  | line text =>
      cases r.reading text with
      | refused cause _ hread =>
          exact accounted_noteImport h text (by rw [move, hread])
            (by rw [move, hread, noteImport_steps])
      | idle phrase _ _ hread =>
          exact accounted_noteImport h text (by rw [move, hread])
            (by rw [move, hread, noteImport_steps])
      | completing awaited segments parameters phrase events _ _ hdeclare _ hread =>
          have hnoted := accounted_noteImport h text rfl (noteImport_steps r text)
          refine ⟨?_, ?_, ?_⟩
          · simpa [move, hread] using hnoted.baseDirectories
          · simpa [move, hread] using hnoted.classIncludes
          · -- the types recorded are those of the step that is added
            have henumerations := hnoted.enumerations
            rw [noteImport_steps] at henumerations
            simpa [move, hread, Step.typeNames] using
              noteTypes_enumerations hdeclare henumerations

theorem accounted_run (moves : List Move) : Accounted (run {} moves) moves := by
  induction moves using List.reverseRecOn with
  | nil => exact ⟨rfl, rfl, rfl⟩
  | append_singleton moves m ih =>
      rw [run_append]
      exact accounted_move ih m

/-- **The registry after a run from the start.**  The source roots are all that
were added, in order.  The imported names are the first occurrences among the
imports of all lines fed, and the enumeration types are the first occurrences
among the type names of the steps' parameters. -/
theorem registry_run (moves : List Move) :
    (run {} moves).registry =
      { baseDirectories := moves.filterMap Move.directory?
        classIncludes := ((moves.filterMap Move.line?).filterMap Import.name?).eraseDups
        enumerations := ((run {} moves).steps.flatMap Step.typeNames).eraseDups } := by
  obtain ⟨hdirectories, hincludes, henumerations⟩ := accounted_run moves
  rw [← hdirectories, ← hincludes, ← henumerations]

end Reader

end Stepbook
