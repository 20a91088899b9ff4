import Stepbook.Proofs.Reader.Move
import Stepbook.Proofs.Registry

/-!
# A reader behind another

What a line does to a reader depends on the pending phrase only.  The steps found
before and the names recorded before stay in front, untouched.  So a run from any
reader is a run from a reader that holds nothing but the pending phrase, behind
what was held before.

## Main definitions

* `Registry.join` — a registry with the names of another one recorded behind its
  own.
* `Reader.join` — a reader with what another one holds behind its own.

## Main statements

* `Reader.join_readLine` — reading a line behind what another reader holds.
* `Reader.join_waiting` — every reader is one that holds nothing but the pending
  phrase, behind what it holds.

## Design notes

Only the events of a line look at what was held before: a type is an event when it
is recorded for the first time.  They are left out of both statements.
-/

namespace Stepbook

namespace Registry

/-! ## Registries -/

/-- A registry with the names of another one recorded behind its own. -/
def join (before after : Registry) : Registry where
  baseDirectories := before.baseDirectories ++ after.baseDirectories
  classIncludes := after.classIncludes.foldl note before.classIncludes
  enumerations := after.enumerations.foldl note before.enumerations

@[simp] theorem join_empty (g : Registry) : g.join {} = g := by
  simp [join]

theorem join_addInclude (before after : Registry) (name : String) :
    before.join (after.addInclude name) = (before.join after).addInclude name := by
  simp only [join, addInclude, foldl_note_note]

theorem join_addEnumeration (before after : Registry) (name : String) :
    before.join (after.addEnumeration name) = (before.join after).addEnumeration name := by
  simp only [join, addEnumeration, foldl_note_note]

end Registry

namespace Reader

/-! ## Readers -/

/-- A reader with what another one holds behind its own.  It awaits what the other
one awaits. -/
def join (before after : Reader) : Reader where
  registry := before.registry.join after.registry
  pending := after.pending
  steps := before.steps ++ after.steps

@[simp] theorem join_pending (before after : Reader) :
    (before.join after).pending = after.pending := rfl

@[simp] theorem join_steps (before after : Reader) :
    (before.join after).steps = before.steps ++ after.steps := rfl

@[simp] theorem join_registry (before after : Reader) :
    (before.join after).registry = before.registry.join after.registry := rfl

theorem join_discard (before after : Reader) :
    before.join after.discard = (before.join after).discard := rfl

/-- **Every reader is one that holds nothing but the pending phrase, behind what it
holds.** -/
theorem join_waiting (r : Reader) : r.join { pending := r.pending } = r := by
  simp [join]

/-- An idle reader is one that holds nothing, behind what it holds. -/
theorem join_empty_of_idle {r : Reader} (h : r.pending = none) : r.join {} = r := by
  have hwaiting := r.join_waiting
  rwa [h] at hwaiting

theorem join_noteImport (before after : Reader) (line : String) :
    before.join (after.noteImport line) = (before.join after).noteImport line := by
  unfold noteImport
  cases Import.name? line with
  | none => rfl
  | some name => simp only [join, Registry.join_addInclude]

theorem join_noteTypes (before after : Registry) (parameters : List Parameter) :
    before.join (noteTypes after parameters) = noteTypes (before.join after) parameters := by
  induction parameters generalizing after with
  | nil => rfl
  | cons p parameters ih =>
      rw [noteTypes_cons, noteTypes_cons, ih]
      unfold noteType
      cases p.kind.typeName? with
      | none => rfl
      | some name => simp only [Registry.join_addEnumeration]

/-- **A line is read behind what another reader holds** as it is read without it:
it is refused or not for the same reason, and what it adds comes behind. -/
theorem join_readLine (before after : Reader) (line : String) :
    ((before.join after).readLine line).reader = before.join (after.readLine line).reader ∧
      ((before.join after).readLine line).failure = (after.readLine line).failure := by
  cases after.reading line with
  | refused cause hrefuses hread =>
      have hjoined : (before.join after).Refuses line cause := hrefuses
      rw [readLine_of_refuses hjoined, hread]
      exact ⟨(join_noteImport before after line).symm, rfl⟩
  | idle phrase hpending hopening hread =>
      have hjoined : (before.join after).pending = none := hpending
      rw [readLine_of_not_pending hjoined hopening, hread]
      refine ⟨?_, rfl⟩
      rw [← join_noteImport]
      rfl
  | completing awaited segments parameters phrase events hpending hsegments hdeclare hopening
      hread =>
      have hjoined : (before.join after).pending = some awaited := hpending
      obtain ⟨events', hread'⟩ := readLine_of_pending hjoined hsegments hdeclare hopening
      rw [hread', hread]
      refine ⟨?_, rfl⟩
      rw [← join_noteImport, join_registry, ← join_noteTypes, join_steps, List.append_assoc]
      rfl

/-! ## Several readers -/

section Foldl

variable (r : Reader) (others : List Reader)

/-- What several readers hold, one behind the other. -/
theorem foldl_join_steps :
    (others.foldl join r).steps = r.steps ++ others.flatMap Reader.steps := by
  induction others generalizing r with
  | nil => simp
  | cons other others ih =>
      rw [List.foldl_cons, ih, join_steps, List.flatMap_cons, List.append_assoc]

theorem foldl_join_enumerations :
    (others.foldl join r).registry.enumerations =
      (others.flatMap (·.registry.enumerations)).foldl Registry.note r.registry.enumerations := by
  induction others generalizing r with
  | nil => rfl
  | cons other others ih =>
      rw [List.foldl_cons, ih, List.flatMap_cons, List.foldl_append]
      rfl

theorem foldl_join_classIncludes :
    (others.foldl join r).registry.classIncludes =
      (others.flatMap (·.registry.classIncludes)).foldl Registry.note r.registry.classIncludes := by
  induction others generalizing r with
  | nil => rfl
  | cons other others ih =>
      rw [List.foldl_cons, ih, List.flatMap_cons, List.foldl_append]
      rfl

end Foldl

/-- Recording what readers have recorded, one behind the other, keeps the first
occurrences. -/
theorem foldl_join_eraseDups {r : Reader} {others : List Reader}
    (henumerations : r.registry.enumerations = []) (hincludes : r.registry.classIncludes = [])
    (hothers : ∀ other ∈ others, other.registry.Recorded) :
    (others.foldl join r).registry.enumerations =
        (others.flatMap (·.registry.enumerations)).eraseDups ∧
      (others.foldl join r).registry.classIncludes =
        (others.flatMap (·.registry.classIncludes)).eraseDups := by
  have hstart : ([] : List String) = [].eraseDups := rfl
  constructor
  · rw [foldl_join_enumerations, henumerations, hstart, Registry.foldl_note_eraseDups,
      List.nil_append]
    intro name hname
    obtain ⟨other, hother, hname⟩ := List.mem_flatMap.mp hname
    exact (hothers other hother).enumerations name hname
  · rw [foldl_join_classIncludes, hincludes, hstart, Registry.foldl_note_eraseDups,
      List.nil_append]
    intro name hname
    obtain ⟨other, hother, hname⟩ := List.mem_flatMap.mp hname
    exact (hothers other hother).classIncludes name hname

end Reader

end Stepbook
