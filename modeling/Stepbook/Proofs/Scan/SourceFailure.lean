import Stepbook.Proofs.Reader.Accounting
import Stepbook.Proofs.Scan.Discovery
import Stepbook.Proofs.Scan.Independence

/-!
# Sources that cannot be read

All roots are added before any is searched, all are searched before any file is read,
and a file is decoded before its first line is read.  So a scan that fails at a source
has read all files before that one, and nothing of it: no line of any file if it fails
at a root.  The roots make no difference to what the files leave in the reader.

## Main definitions

* `ScanFailure.IsSource` — a root that is no directory, or a file that is not read.
* `Reader.AgreesButRoots` — readers that differ in their source roots only.
* `FileTree.Searchable` — a root that is searched to its end.

## Main statements

* `Scan.discover_eq_error_iff`, `Scan.exists_discover_iff` — the root that a search fails
  at, and the searches that go through.
* `Scan.files_addRoots` — files read by a reader with more roots.
* `Scan.source_failure_leaves_files_before` — what a scan that fails at a source leaves.
-/

namespace Stepbook

/-- A failure that names a source: a root that is no directory, or a file that cannot be
read or decoded. -/
inductive ScanFailure.IsSource : ScanFailure → Prop
  | root (root : Path) : IsSource (.rootNotFound root)
  | file (path : Path) (reason : ReadFailure) : IsSource (.unreadable path reason)

/-- Readers that differ at most in their source roots. -/
structure Reader.AgreesButRoots (r s : Reader) : Prop where
  steps : r.steps = s.steps
  pending : r.pending = s.pending
  classIncludes : r.registry.classIncludes = s.registry.classIncludes
  enumerations : r.registry.enumerations = s.registry.enumerations

/-- A root that is searched to its end: it leads to a directory, and nothing below it stops
the search. -/
def FileTree.Searchable (t : FileTree) (root : Path) : Prop :=
  ∃ base, t.locate root = .ok base ∧ t.node? base = some .directory ∧
    t.obstacle? root base = none

namespace Scan

variable {t : FileTree} {suffixes : List String} {policy : ScanPolicy} {encoding : String}
variable {r : Reader} {failure : ScanFailure}

/-! ## Roots -/

/-- What can be searched is a directory. -/
theorem isDirectory_of_searchable {root : Path} (h : t.Searchable root) :
    t.isDirectory root = true := by
  obtain ⟨base, hroot, hbase, -⟩ := h
  simp [FileTree.isDirectory, FileTree.find?, hroot, Except.toOption, hbase]

/-- Files are found below the roots that are searched to their end. -/
theorem exists_glueFiles_iff (suffixes : List String) {root : Path} :
    (∃ found, t.glueFiles suffixes root = .ok found) ↔ t.Searchable root := by
  unfold FileTree.Searchable FileTree.glueFiles
  cases hroot : t.locate root with
  | error kind => simp
  | ok base =>
      by_cases hbase : t.node? base = some .directory
      · cases hstopped : t.obstacle? root base <;> simp [hbase, hstopped]
      · simp [hbase]

/-- A search that fails at a source names a root that is no directory. -/
theorem glueFiles_eq_error {root : Path} (h : t.glueFiles suffixes root = .error failure)
    (hsource : failure.IsSource) :
    failure = .rootNotFound root ∧ t.isDirectory root = false := by
  cases hplace : t.locate root with
  | error kind =>
      have hnone : t.isDirectory root = false := by
        simp [FileTree.isDirectory, FileTree.find?, hplace, Except.toOption]
      simp only [FileTree.glueFiles, hplace, Except.error.injEq] at h
      split at h
      · exact ⟨h.symm, hnone⟩
      · subst h
        cases hsource
  | ok place =>
      by_cases hnode : t.node? place = some .directory
      · simp only [FileTree.glueFiles, hplace, if_pos hnode] at h
        split at h
        · rename_i cause hstopped
          obtain rfl := Except.error.inj h
          rcases FileTree.cases_of_obstacle? hstopped with ⟨p, rfl⟩ | rfl <;> cases hsource
        · cases h
      · simp only [FileTree.glueFiles, hplace, if_neg hnode, Except.error.injEq] at h
        refine ⟨h.symm, ?_⟩
        simpa [FileTree.isDirectory, FileTree.find?, hplace, Except.toOption] using hnode

/-- Behind a root that is searched to its end, the search fails if that of the others
does. -/
theorem discover_cons_eq_error_iff {seen : List Place} {root : Path} {roots found : List Path}
    (hfound : t.glueFiles suffixes root = .ok found) :
    (discover t suffixes seen (root :: roots)).result = .error failure ↔
      (discover t suffixes (seen ++ placesOf t (fresh t seen found)) roots).result =
        .error failure := by
  rw [discover_cons_of_ok hfound]
  cases hothers : (discover t suffixes (seen ++ placesOf t (fresh t seen found)) roots).result <;>
    simp [hothers, Except.map]

/-- **A search of several roots fails** at the first one that is not searched to its
end. -/
theorem discover_eq_error_iff {seen : List Place} {roots : List Path} :
    (discover t suffixes seen roots).result = .error failure ↔
      ∃ before root after, roots = before ++ root :: after ∧
        (∀ other ∈ before, t.Searchable other) ∧
        t.glueFiles suffixes root = .error failure := by
  constructor
  · intro h
    induction roots generalizing seen with
    | nil => cases h
    | cons root roots ih =>
        cases hfound : t.glueFiles suffixes root with
        | error cause =>
            obtain rfl : cause = failure := by
              simpa only [discover, hfound, Except.error.injEq] using h
            exact ⟨[], root, roots, rfl, by simp, hfound⟩
        | ok found =>
            obtain ⟨before, other, after, rfl, hbefore, hfailed⟩ :=
              ih ((discover_cons_eq_error_iff hfound).mp h)
            have hroot : t.Searchable root := (exists_glueFiles_iff suffixes).mp ⟨found, hfound⟩
            exact ⟨root :: before, other, after, rfl,
              List.forall_mem_cons.mpr ⟨hroot, hbefore⟩, hfailed⟩
  · rintro ⟨before, root, after, rfl, hbefore, hfailed⟩
    induction before generalizing seen with
    | nil => simp only [List.nil_append, discover, hfailed]
    | cons other before ih =>
        obtain ⟨hother, hrest⟩ := List.forall_mem_cons.mp hbefore
        obtain ⟨found, hfound⟩ := (exists_glueFiles_iff suffixes).mpr hother
        exact (discover_cons_eq_error_iff hfound).mpr (ih hrest)

/-- **A search of several roots goes through** if each of them is searched to its end. -/
theorem exists_discover_iff {seen : List Place} {roots : List Path} :
    (∃ paths, (discover t suffixes seen roots).result = .ok paths) ↔
      ∀ root ∈ roots, t.Searchable root := by
  constructor
  · rintro ⟨paths, h⟩
    induction roots generalizing seen paths with
    | nil => simp
    | cons root roots ih =>
        obtain ⟨found, others, hfound, hothers, -⟩ := discover_cons_eq_ok h
        rw [List.forall_mem_cons]
        exact ⟨(exists_glueFiles_iff suffixes).mp ⟨found, hfound⟩, ih _ hothers⟩
  · intro hroots
    cases hresult : (discover t suffixes seen roots).result with
    | ok paths => exact ⟨paths, rfl⟩
    | error failure =>
        obtain ⟨before, root, after, rfl, -, hroot⟩ := discover_eq_error_iff.mp hresult
        obtain ⟨found, hfound⟩ := (exists_glueFiles_iff suffixes).mpr
          (hroots root (List.mem_append_right before List.mem_cons_self))
        cases hroot.symm.trans hfound

/-! ## Files -/

/-- A file that fails as a source is not read, and leaves the reader alone. -/
theorem file_eq_source_error {path : Path}
    (h : (file t policy encoding r path).result = .error failure) (hsource : failure.IsSource) :
    t.readLines encoding path = .error failure ∧ (file t policy encoding r path).reader = r := by
  cases hlines : t.readLines encoding path with
  | error cause =>
      obtain rfl : cause = failure := by simpa only [file, hlines, Except.error.injEq] using h
      exact ⟨rfl, by simp only [file, hlines]⟩
  | ok lines =>
      -- lines that are read are refused at most
      rw [file_of_readLines hlines] at h
      cases hend : (feed policy path r 1 lines).failure with
      | none =>
          rw [ofLines_of_finished hend] at h
          cases h
      | some refusal =>
          rw [ofLines_of_failure hend] at h
          cases h
          cases hsource

/-- A file that is not read is named by the failure. -/
theorem readLines_eq_source_error {path : Path}
    (h : t.readLines encoding path = .error failure) (hsource : failure.IsSource) :
    ∃ reason, failure = .unreadable path reason := by
  unfold FileTree.readLines at h
  split at h
  · cases h
    cases hsource
  · split at h
    · split at h
      · cases h
        cases hsource
      · cases h
        exact ⟨_, rfl⟩
    · split at h
      · cases h
        cases hsource
      · split at h
        · cases h
          exact ⟨_, rfl⟩
        · cases h
          cases hsource
        · cases h

/-- Files leave the source roots alone. -/
theorem baseDirectories_files (r : Reader) (paths : List Path) :
    (files t policy encoding r paths).reader.registry.baseDirectories =
      r.registry.baseDirectories := by
  have hinvariant : Invariant fun s => s.registry.baseDirectories = r.registry.baseDirectories :=
    ⟨fun s line _ hs => (s.readLine_baseDirectories line).trans hs, fun _ hs => hs⟩
  exact hinvariant.files rfl paths

/-- **More roots make no difference to what files leave** but in the roots. -/
theorem files_addRoots (t : FileTree) (policy : ScanPolicy) (encoding : String) (r : Reader)
    (roots paths : List Path) :
    let rooted := files t policy encoding (addRoots r roots).1 paths
    let plain := files t policy encoding r paths
    rooted.result = plain.result ∧ rooted.reader.AgreesButRoots plain.reader ∧
      rooted.reader.registry.baseDirectories = r.registry.baseDirectories ++ roots := by
  intro rooted plain
  -- both readers are one that holds nothing, behind the same steps and names
  let waiting : Reader := { pending := r.pending }
  have hplain : r.join waiting = r := r.join_waiting
  have hrooted : (addRoots r roots).1.join waiting = (addRoots r roots).1 := by
    have hpending : (addRoots r roots).1.pending = r.pending := by rw [addRoots_fst]
    have hjoin := (addRoots r roots).1.join_waiting
    rwa [hpending] at hjoin
  have hrootedFiles := join_files t policy encoding (addRoots r roots).1 waiting paths
  have hplainFiles := join_files t policy encoding r waiting paths
  rw [hrooted] at hrootedFiles
  rw [hplain] at hplainFiles
  refine ⟨hrootedFiles.2.trans hplainFiles.2.symm, ?_, ?_⟩
  · simp only [rooted, plain, hrootedFiles.1, hplainFiles.1]
    rw [addRoots_fst]
    exact ⟨rfl, rfl, rfl, rfl⟩
  · rw [baseDirectories_files, addRoots_fst]

/-! ## Scans that fail -/

/-- **A scan that fails at a source leaves what the files before it leave.**  All roots
are added.  If one of them is no directory, the failure names the first of these and
nothing else changes.  Otherwise it names the first file found that cannot be read or
decoded, and but for the roots the reader is as if it had been handed the files before
that one and no other. -/
theorem source_failure_leaves_files_before {roots : List Path}
    (h : (directories t suffixes policy encoding r roots).result = .error failure)
    (hsource : failure.IsSource) :
    let final := (directories t suffixes policy encoding r roots).reader
    final.registry.baseDirectories = r.registry.baseDirectories ++ roots ∧
      ((∃ root ∈ roots, t.isDirectory root = false) →
        final.AgreesButRoots r ∧
        ∃ before root after, roots = before ++ root :: after ∧
          (∀ other ∈ before, t.isDirectory other = true) ∧ t.isDirectory root = false ∧
          failure = .rootNotFound root) ∧
      ((∀ root ∈ roots, t.isDirectory root = true) →
        ∃ before path after reason,
          (discover t suffixes [] roots).result = .ok (before ++ path :: after) ∧
          (∀ other ∈ before, ∃ lines, t.readLines encoding other = .ok lines) ∧
          t.readLines encoding path = .error failure ∧ failure = .unreadable path reason ∧
          (∃ report, (files t policy encoding r before).result = .ok report) ∧
          final.AgreesButRoots (files t policy encoding r before).reader) := by
  intro final
  cases hfound : (discover t suffixes [] roots).result with
  | error cause =>
      -- no file is read
      have hfinal : final = (addRoots r roots).1 := by simp only [final, directories, hfound]
      obtain rfl : cause = failure := by
        simpa only [directories, hfound, Except.error.injEq] using h
      obtain ⟨before, root, after, rfl, hsearchable, hroot⟩ := discover_eq_error_iff.mp hfound
      obtain ⟨rfl, hnone⟩ := glueFiles_eq_error hroot hsource
      have hbefore : ∀ other ∈ before, t.isDirectory other = true :=
        fun other hother => isDirectory_of_searchable (hsearchable other hother)
      rw [hfinal, addRoots_fst]
      refine ⟨rfl, fun _ => ⟨⟨rfl, rfl, rfl, rfl⟩, before, root, after, rfl, hbefore, hnone, rfl⟩,
        fun hall => ?_⟩
      have hroot := hall root (List.mem_append_right before List.mem_cons_self)
      rw [hnone] at hroot
      cases hroot
  | ok paths =>
      have hall : ∀ root ∈ roots, t.isDirectory root = true := fun root hroot =>
        isDirectory_of_searchable (exists_discover_iff.mp ⟨paths, hfound⟩ root hroot)
      have hfinal : final = (files t policy encoding (addRoots r roots).1 paths).reader := by
        simp only [final, directories, hfound]
      rw [directories_result_of_ok hfound] at h
      rw [hfinal]
      obtain ⟨-, -, hroots⟩ := files_addRoots t policy encoding r roots paths
      refine ⟨hroots, ?_, fun _ => ?_⟩
      · rintro ⟨root, hmem, hnone⟩
        rw [hall root hmem] at hnone
        cases hnone
      · obtain ⟨before, path, after, rfl, ⟨report, hreport⟩, hfailed, hreader⟩ := files_eq_error h
        obtain ⟨hunread, hleft⟩ := file_eq_source_error hfailed hsource
        obtain ⟨reason, hreason⟩ := readLines_eq_source_error hunread hsource
        obtain ⟨hresult, hagrees, -⟩ := files_addRoots t policy encoding r roots before
        refine ⟨before, path, after, reason, rfl, (files_eq_ok hreport).2, hunread, hreason,
          ⟨report, hresult.symm.trans hreport⟩, ?_⟩
        rw [hreader, hleft]
        exact hagrees

/-- A file that cannot be decoded behind its first line, between two others.  The first
one completes the step that was pending and leaves one without a declaration, which the
line that can be decoded does not complete. -/
theorem undecodable_file_leaves_file_before :
    let t : FileTree :=
      { nodes := [(["g"], .directory),
          (["g", "a.java"], .file "void p(Color c)\n@Given(\"^a$\")".toUTF8.toList),
          (["g", "b.java"], .file ("void b()\n".toUTF8.toList ++ [0xFF])),
          (["g", "c.java"], .file "import x.Color;".toUTF8.toList)] }
    let r : Reader :=
      { registry := { baseDirectories := [{ segments := ["old"] }] }, pending := some "p" }
    let root : Path := { segments := ["g"] }
    let broken : Path := { segments := ["g", "b.java"] }
    let failure : ScanFailure :=
      .unreadable broken (.decoding ⟨"utf-8", 0xFF, 9, 1, .invalidStart⟩)
    let final := (directories t [".java"] .abort "utf-8" r [root]).reader
    (directories t [".java"] .abort "utf-8" r [root]).result = .error failure ∧
      final.registry.baseDirectories = [{ segments := ["old"] }, root] ∧
      final.registry.classIncludes = [] ∧ final.registry.enumerations = ["Color"] ∧
      final.steps.map (·.phrase) = ["p"] ∧ final.pending = none := by
  intro t r root broken failure final
  have hroot : t.glueFiles [".java"] root = _ :=
    glueFiles_of_sorted ["g"] [["a.java"], ["b.java"], ["c.java"]]
      (by decide +kernel) (by decide +kernel) (by decide +kernel) (by decide +kernel)
      (by decide +kernel)
  have hfound : (discover t [".java"] [] [root]).result = _ := discover_singleton hroot
  have hfailure : (directories t [".java"] .abort "utf-8" r [root]).result = .error failure := by
    rw [directories_result_of_ok hfound]
    decide +kernel
  have hsource : failure.IsSource := .file broken _
  obtain ⟨hroots, -, hfiles⟩ := source_failure_leaves_files_before hfailure hsource
  obtain ⟨before, path, after, reason, hlist, -, -, hnamed, -, hagrees⟩ :=
    hfiles (by decide +kernel)
  obtain rfl : broken = path := (ScanFailure.unreadable.inj hnamed).1
  -- only the first file stands before the broken one
  obtain rfl : before = [{ segments := ["g", "a.java"] }] := by
    have hpaths := Except.ok.inj (hfound.symm.trans hlist)
    simp only [List.map_cons, List.map_nil] at hpaths
    rcases before with _ | ⟨first, _ | ⟨second, before⟩⟩
    · exact absurd (List.cons.inj hpaths).1 (by decide +kernel)
    · rw [← (List.cons.inj hpaths).1]
      decide +kernel
    · have hrest := (List.cons.inj (List.cons.inj hpaths).2).2
      rcases before with _ | ⟨third, before⟩
      · exact absurd (List.cons.inj hrest).1 (by decide +kernel)
      · exact absurd (List.cons.inj hrest).2 (by simp)
  refine ⟨hfailure, hroots, hagrees.classIncludes.trans ?_, hagrees.enumerations.trans ?_, ?_,
    hagrees.pending.trans ?_⟩
  · decide +kernel
  · decide +kernel
  · rw [hagrees.steps]
    decide +kernel
  · decide +kernel

end Scan

end Stepbook
