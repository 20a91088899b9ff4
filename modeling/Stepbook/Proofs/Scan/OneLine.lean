import Stepbook.Proofs.Phrase.Letters
import Stepbook.Proofs.Phrase.NormalForm
import Stepbook.Proofs.Scan.Boundary
import Stepbook.Proofs.Step.Script

/-!
# One statement a line

A file is cut wherever a line can end, so that no line end gets into a phrase, and
names and types are words between blanks.  The statement of a step that was scanned
stands on one line, though nothing in it is escaped, and the lines of the script are
its statements.

## Main definitions

* `Step.OnOneLine`, `Reader.OnOneLine` — a step whose statement stands on one line,
  and a reader of such steps.
* `Scan.Task`, `Scan.afterTasks` — a reader that is handed from scan to scan.

## Main statements

* `Step.oneLine_script`, `Step.lines_scriptOf` — statements and scripts of such steps.
* `Scan.invariant_onOneLine` — reading lines gives such steps only.
* `Scan.statements_are_lines` — the script of everything that was scanned.
-/

namespace Stepbook

open Stepbook.Text

/-! ## Statements -/

/-- A parameter whose name and type have no blanks. -/
structure Parameter.BlankFree (p : Parameter) : Prop where
  name : ∀ c ∈ p.name.toList, isBlank c = false
  typeName : ∀ type, p.kind.typeName? = some type → ∀ c ∈ type.toList, isBlank c = false

/-- What a key pair shows for a kind is on one line. -/
theorem ParameterKind.oneLine_script {kind : ParameterKind}
    (h : ∀ type, kind.typeName? = some type → ∀ c ∈ type.toList, isBlank c = false) :
    OneLine kind.script := by
  have hplain : ∀ k ∈ plain, OneLine k.script := by decide +kernel
  cases htype : kind.typeName? with
  | none => exact hplain kind (mem_plain htype)
  | some type =>
      rw [script_of_typeName htype]
      exact .of_not_blank (h type htype)

theorem Parameter.BlankFree.oneLine_script {p : Parameter} (h : p.BlankFree) :
    OneLine p.script.toList := by
  have hfixed : OneLine ("new keypair( \"".toList ++ '"' :: (", ".toList ++ ' ' :: [')'])) := by
    decide +kernel
  simp only [oneLine_append_iff, oneLine_cons_iff] at hfixed
  obtain ⟨hopen, hquote, hcomma, hclose⟩ := hfixed
  rw [Parameter.toList_script]
  simp only [oneLine_append_iff, oneLine_cons_iff]
  exact ⟨hopen, .of_not_blank h.name, hquote, hcomma,
    ParameterKind.oneLine_script h.typeName, hclose⟩

namespace Step

/-- A step with a phrase on one line, whose names and types have no blanks. -/
structure OnOneLine (s : Step) : Prop where
  phrase : OneLine s.phrase.toList
  parameters : ∀ p ∈ s.parameters, p.BlankFree

/-- **The statement of such a step stands on one line.** -/
theorem oneLine_script {s : Step} (h : s.OnOneLine) : OneLine s.script.toList := by
  have hfixed : OneLine (scriptStart ++ '"' :: (", ".toList ++ " ) );".toList)) := by
    decide +kernel
  simp only [oneLine_append_iff, oneLine_cons_iff] at hfixed
  obtain ⟨hstart, hquote, hcomma, hend⟩ := hfixed
  have hpairs : OneLine (s.parameters.flatMap fun p => ", ".toList ++ p.script.toList) := by
    intro c hc
    obtain ⟨p, hp, hmem⟩ := List.mem_flatMap.mp hc
    exact (oneLine_append_iff.mpr ⟨hcomma, (h.parameters p hp).oneLine_script⟩) c hmem
  rw [toList_script, scriptTail]
  simp only [oneLine_append_iff, oneLine_cons_iff]
  exact ⟨hstart, hquote, h.phrase, hquote, hpairs, hend⟩

/-- The lines of a script of such steps are the statements. -/
theorem lines_scriptOf {steps : List Step} (h : ∀ s ∈ steps, s.OnOneLine) :
    lines (scriptOf steps).toList = steps.map fun s => s.script.toList := by
  cases steps with
  | nil => rfl
  | cons first others =>
      have hline : ∀ w ∈ (first :: others).map (fun s => s.script.toList), OneLine w := by
        rw [List.forall_mem_map]
        exact fun s hs => oneLine_script (h s hs)
      have hne : ∀ w ∈ (first :: others).map (fun s => s.script.toList), w ≠ [] := by
        rw [List.forall_mem_map]
        intro s _
        rw [toList_script]
        exact List.append_ne_nil_of_right_ne_nil _ (List.cons_ne_nil _ _)
      have hlines := lines_append_flatMap (c := '\n') (by decide) hline hne
      rw [List.flatMap_map] at hlines
      rw [toList_scriptOf_cons]
      exact hlines

end Step

/-! ## Reading lines -/

namespace Reader

/-- A reader of steps on one line each. -/
structure OnOneLine (r : Reader) : Prop where
  steps : ∀ s ∈ r.steps, s.OnOneLine
  pending : ∀ phrase ∈ r.pending, OneLine phrase.toList

/-- A phrase is on one line as its annotation is. -/
theorem oneLine_of_extract {text phrase : String} (h : Phrase.extract text = .ok phrase)
    (htext : OneLine text.toList) : OneLine phrase.toList := by
  obtain ⟨e, he, rfl⟩ := Phrase.extract_eq_ok_iff.mp h
  obtain ⟨before, after, -, -, htoList⟩ := enclosed?_eq_some_iff.mp he
  have hmarks : OneLine (Phrase.anyMarker ++ Phrase.placeholder ++
      (Phrase.optionalOpen ++ Phrase.optionalClose)) := by decide +kernel
  rw [String.toList_ofList]
  intro c hc
  rcases Phrase.mem_ofExpression hc with hmem | hmark
  · exact htext c (by simp [htoList, hmem])
  · exact hmarks c hmark

/-- So is the phrase that a line opens a step with. -/
theorem oneLine_of_opening {line phrase : String} (h : opening line = .ok (some phrase))
    (hline : OneLine line.toList) : OneLine phrase.toList := by
  have htrim : OneLine (trimmed line).toList := by
    obtain ⟨before, behind, hs, -, -⟩ := exists_eq_append_trim line.toList
    rw [hs, oneLine_append_iff, oneLine_append_iff] at hline
    rw [toList_trimmed]
    exact hline.2.1
  unfold opening at h
  split at h
  · cases hextract : Phrase.extract (trimmed line) with
    | error cause =>
        rw [hextract] at h
        cases h
    | ok p =>
        rw [hextract] at h
        cases h
        exact oneLine_of_extract hextract htrim
  · cases h

/-- The parameters that segments declare have no blanks in them. -/
theorem blankFree_of_declare {segments : List String} {parameters : List Parameter}
    (h : ParameterList.Declare segments parameters) : ∀ p ∈ parameters, p.BlankFree := by
  induction h with
  | nil => simp
  | cons hsegment _ ih =>
      rw [List.forall_mem_cons]
      exact ⟨⟨Parameter.name_not_blank hsegment,
        fun _ => Parameter.typeName_not_blank hsegment⟩, ih⟩

theorem OnOneLine.noteImport {r : Reader} (h : r.OnOneLine) (line : String) :
    (r.noteImport line).OnOneLine := by
  refine ⟨?_, ?_⟩
  · rw [noteImport_steps]
    exact h.steps
  · rw [noteImport_pending]
    exact h.pending

/-- **A line on one line gives a phrase on one line and words for the parameters.** -/
theorem OnOneLine.readLine {r : Reader} (h : r.OnOneLine) {line : String}
    (hline : OneLine line.toList) : (r.readLine line).reader.OnOneLine := by
  have hnoted := h.noteImport line
  cases r.reading line with
  | refused cause _ hread =>
      rw [hread]
      exact hnoted
  | idle phrase _ hopening hread =>
      rw [hread]
      refine ⟨hnoted.steps, ?_⟩
      rintro p ⟨rfl⟩
      exact oneLine_of_opening hopening hline
  | completing awaited segments parameters phrase events hpending _ hdeclare hopening hread =>
      rw [hread]
      refine ⟨?_, ?_⟩
      · intro s hs
        rcases List.mem_append.mp hs with hold | hnew
        · exact h.steps s hold
        · obtain rfl := List.mem_singleton.mp hnew
          exact ⟨h.pending awaited hpending, blankFree_of_declare hdeclare⟩
      · rintro p ⟨rfl⟩
        exact oneLine_of_opening hopening hline

end Reader

namespace Scan

/-- **Scans keep all steps on one line each**, and the pending phrase. -/
theorem invariant_onOneLine : Invariant Reader.OnOneLine where
  readLine _ _ hline h := h.readLine hline
  discard _ h := ⟨h.steps, by simp [Reader.discard]⟩

/-! ## Several scans -/

/-- A scan of one file or of several roots, with all that it is given but the
reader. -/
inductive Task where
  | file (call : Call)
  | directories (tree : FileTree) (suffixes : List String) (policy : ScanPolicy)
      (encoding : String) (roots : List Path)

/-- The scan, by a given reader. -/
def Task.scan (r : Reader) : Task → Scan Report
  | .file call => call.scan r
  | .directories tree suffixes policy encoding roots =>
    Scan.directories tree suffixes policy encoding r roots

/-- A reader that is handed from scan to scan, whether or not a scan fails. -/
def afterTasks (r : Reader) (tasks : List Task) : Reader :=
  tasks.foldl (fun r task => (task.scan r).reader) r

theorem onOneLine_afterTasks {r : Reader} (h : r.OnOneLine) (tasks : List Task) :
    (afterTasks r tasks).OnOneLine := by
  induction tasks generalizing r with
  | nil => exact h
  | cons task tasks ih =>
      refine ih ?_
      cases task with
      | file call => exact invariant_onOneLine.file h call.path
      | directories tree suffixes policy encoding roots =>
          exact invariant_onOneLine.directories (fun _ _ hr => ⟨hr.steps, hr.pending⟩) h suffixes
            roots

/-- **Each statement of a script stands on one line.**  Whatever a fresh reader is
handed through, the lines of its script are the statements of its steps, and all
names and types in it are free of blanks, and no type is empty.  There is no carriage
return in the script, so that no line end takes up two characters. -/
theorem statements_are_lines (tasks : List Task) :
    let steps := (afterTasks {} tasks).steps
    (∀ s ∈ steps, OneLine s.script.toList) ∧
      lines (Step.scriptOf steps).toList = steps.map (fun s => s.script.toList) ∧
      ∀ s ∈ steps, ∀ p ∈ s.parameters, (∀ c ∈ p.name.toList, isBlank c = false) ∧
        ∀ type, p.kind.typeName? = some type →
          type ≠ "" ∧ ∀ c ∈ type.toList, isBlank c = false := by
  intro steps
  have hstart : ({} : Reader).OnOneLine := ⟨by simp, by simp⟩
  have hsteps : ∀ s ∈ steps, s.OnOneLine := (onOneLine_afterTasks hstart tasks).steps
  refine ⟨fun s hs => Step.oneLine_script (hsteps s hs), Step.lines_scriptOf hsteps, ?_⟩
  intro s hs p hp
  have hfree := (hsteps s hs).parameters p hp
  exact ⟨hfree.name, fun type htype =>
    ⟨Parameter.typeName_ne_empty htype, hfree.typeName type htype⟩⟩

/-- Lines that end with a line tabulation, a next line and a carriage return, an annotation
that a form feed cuts in two, and a wide blank before a name. -/
theorem odd_line_ends_scanned :
    let t : FileTree :=
      { nodes := [(["a.java"], .file ("@Given(\"^a b$\")\x0bvoid f(List<Color>\u2003c)\u0085" ++
            "@Then(\"^x\x0cy$\")").toUTF8.toList),
          (["b.java"], .file "@When(\"^(b)$\")\r\nvoid g(int n)".toUTF8.toList)] }
    let tasks : List Task :=
      [.file { tree := t, policy := .skip, path := { segments := ["a.java"] } },
        .file { tree := t, policy := .abort, path := { segments := ["b.java"] } }]
    let steps := (afterTasks {} tasks).steps
    steps.map (·.phrase) = ["a b", "XXXX"] ∧
      steps.flatMap (·.parameters.map (·.name)) = ["cList", "n"] ∧
      (∀ s ∈ steps, OneLine s.script.toList) ∧
      lines (Step.scriptOf steps).toList = steps.map fun s => s.script.toList := by
  intro t tasks steps
  obtain ⟨hline, hlines, -⟩ := statements_are_lines tasks
  exact ⟨by decide +kernel, by decide +kernel, hline, hlines⟩

end Scan

end Stepbook
