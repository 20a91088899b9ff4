import Mathlib.Data.List.Forall2
import Stepbook.Proofs.Scan.Files

/-!
# Files that are scanned one after the other

One reader goes through all files, but no file is read with anything of another one
pending: a scan that goes on leaves the reader idle.  So each file is read as by a
fresh reader, and what it adds comes behind what the files before it added.

## Main statements

* `Scan.join_file`, `Scan.join_files` — files scanned behind what another reader holds.
* `Scan.file_of_idle` — a file scanned by an idle reader.
* `Scan.files_eq_foldl` — files scanned by an idle reader, from the scans of each file
  alone.
* `Scan.files_read_as_alone` — the steps, names and report of a scan of several
  roots, from the scans of each file alone.

## Design notes

The files are decoded by the host of the tree, on their own and one after the other
alike, so nothing here depends on which codecs there are.  Only the text that a codec
makes has to consist of Unicode scalar values (see `Codec`).
-/

namespace Stepbook

/-! ## Reports -/

namespace Report

theorem append_def (a b : Report) :
    a ++ b =
      ⟨a.files ++ b.files, a.lines + b.lines, a.errors ++ b.errors, a.discarded ++ b.discarded⟩ :=
  rfl

instance : Std.Associative (α := Report) (· ++ ·) where
  assoc a b c := by simp only [append_def, List.append_assoc, Nat.add_assoc]

/-- The first report stays in front. -/
theorem append_foldl (a b : Report) (reports : List Report) :
    reports.foldl (· ++ ·) (a ++ b) = a ++ reports.foldl (· ++ ·) b := List.foldl_assoc

theorem empty_append (a : Report) : {} ++ a = a := by
  simp only [append_def, List.nil_append, Nat.zero_add]

theorem append_empty (a : Report) : a ++ {} = a := by
  simp only [append_def, List.append_nil, Nat.add_zero]

end Report

namespace Scan

variable (t : FileTree) (policy : ScanPolicy) (encoding : String) (path : Path)

/-! ## One file -/

/-- Lines are fed to a reader behind what another one holds as they are fed without
it, but for the events. -/
theorem join_feed (before after : Reader) (number : Nat) (lines : List String) :
    let joined := feed policy path (before.join after) number lines
    let alone := feed policy path after number lines
    joined.reader = before.join alone.reader ∧ joined.count = alone.count ∧
      joined.errors = alone.errors ∧ joined.failure = alone.failure := by
  induction lines generalizing after number with
  | nil => exact ⟨rfl, rfl, rfl, rfl⟩
  | cons line lines ih =>
      obtain ⟨hreader, hfailure⟩ := Reader.join_readLine before after line
      by_cases hline : after.Accepts line
      · have hjoined : (before.join after).Accepts line := hfailure.trans hline
        obtain ⟨hread, hcount, herrors, hend⟩ := ih (after.readLine line).reader (number + 1)
        simp only [feed_cons_of_accepts hline, feed_cons_of_accepts hjoined, Feed.after, hreader]
        exact ⟨hread, by rw [hcount], by rw [herrors], hend⟩
      · obtain ⟨cause, hrefuses⟩ := Reader.exists_refuses hline
        -- whether and why a line is refused hangs on the pending phrase
        have hjoined : (before.join after).Refuses line cause := hrefuses
        have hnoted := Reader.join_noteImport before after line
        cases policy with
        | abort =>
            simp only [feed_abort_of_refused hrefuses, feed_abort_of_refused hjoined]
            exact ⟨hnoted.symm, trivial, trivial, trivial⟩
        | strict =>
            simp only [feed_strict_of_refused hrefuses, feed_strict_of_refused hjoined]
            exact ⟨hnoted.symm, trivial, trivial, trivial⟩
        | skip =>
            obtain ⟨hrest, hcount, herrors, hend⟩ := ih (after.noteImport line) (number + 1)
            simp only [feed_skip_of_refused hrefuses, feed_skip_of_refused hjoined, Feed.after,
              ← hnoted]
            exact ⟨hrest, by rw [hcount], by rw [herrors], hend⟩

/-- **A file is scanned behind what another reader holds** as it is scanned without
it: the result is the same, and what the file adds comes behind. -/
theorem join_file (before after : Reader) :
    (file t policy encoding (before.join after) path).reader =
        before.join (file t policy encoding after path).reader ∧
      (file t policy encoding (before.join after) path).result =
        (file t policy encoding after path).result := by
  cases hlines : t.readLines encoding path with
  | error failure => simp only [file, hlines, and_self]
  | ok lines =>
      obtain ⟨hreader, hcount, herrors, hfailure⟩ := join_feed policy path before after 1 lines
      rw [file_of_readLines hlines, file_of_readLines hlines]
      cases hend : (feed policy path after 1 lines).failure with
      | none =>
          rw [ofLines_of_finished hend, ofLines_of_finished (hfailure.trans hend)]
          simp only [hreader, hcount, herrors, Reader.join_pending, Reader.join_discard, and_self]
      | some failure =>
          rw [ofLines_of_failure hend, ofLines_of_failure (hfailure.trans hend)]
          simp only [hreader, and_self]

/-- An idle reader gets from a file what a fresh one gets from it, behind what it
holds. -/
theorem file_of_idle {r : Reader} (hidle : r.pending = none) :
    (file t policy encoding r path).reader = r.join (file t policy encoding {} path).reader ∧
      (file t policy encoding r path).result = (file t policy encoding {} path).result := by
  have hjoined := join_file t policy encoding path r {}
  rwa [Reader.join_empty_of_idle hidle] at hjoined

/-- A file adds names to the registry. -/
theorem recorded_file {r : Reader} (h : r.registry.Recorded) :
    (file t policy encoding r path).reader.registry.Recorded := by
  have hinvariant : Invariant fun r => r.registry.Recorded :=
    ⟨fun r line _ hr => Reader.recorded_readLine hr line, fun r hr => hr⟩
  exact hinvariant.file h path

/-! ## Several files -/

/-- Several files are scanned behind what another reader holds as they are scanned
without it. -/
theorem join_files (before after : Reader) (paths : List Path) :
    (files t policy encoding (before.join after) paths).reader =
        before.join (files t policy encoding after paths).reader ∧
      (files t policy encoding (before.join after) paths).result =
        (files t policy encoding after paths).result := by
  induction paths generalizing after with
  | nil => exact ⟨rfl, rfl⟩
  | cons path paths ih =>
      obtain ⟨hreader, hresult⟩ := join_file t policy encoding path before after
      cases hown : (file t policy encoding after path).result with
      | error failure => simp only [files, hresult, hown, hreader, and_self]
      | ok own =>
          obtain ⟨hrest, hreport⟩ := ih (file t policy encoding after path).reader
          rw [files_cons_of_ok hown, files_cons_of_ok (hresult.trans hown)]
          simp only [hreader, hrest, hreport, and_self]

variable {t policy encoding}

/-- **Files scanned by an idle reader**, from the scans of each file alone: all of
them go on, the reports come one after the other, and so does what the files add. -/
theorem files_eq_foldl {r : Reader} {paths : List Path} {report : Report}
    (hidle : r.pending = none) (h : (files t policy encoding r paths).result = .ok report) :
    let alone := file t policy encoding {}
    (files t policy encoding r paths).reader =
        (paths.map fun p => (alone p).reader).foldl Reader.join r ∧
      (files t policy encoding r paths).reader.pending = none ∧
      ∃ reports, List.Forall₂ (fun p own => (alone p).result = .ok own) paths reports ∧
        report = reports.foldl (· ++ ·) {} := by
  induction paths generalizing r report with
  | nil =>
      cases h
      exact ⟨rfl, hidle, [], .nil, rfl⟩
  | cons path paths ih =>
      obtain ⟨own, others, hown, hothers, rfl⟩ := files_cons_eq_ok h
      obtain ⟨-, -, hpending⟩ := file_eq_ok hown
      obtain ⟨hend, hlast, reports, hreports, rfl⟩ := ih hpending hothers
      obtain ⟨hreader, hresult⟩ := file_of_idle t policy encoding path hidle
      rw [files_cons_of_ok hown]
      refine ⟨?_, hlast, own :: reports, .cons (hresult.symm.trans hown) hreports, ?_⟩
      · rw [List.map_cons, List.foldl_cons, ← hreader]
        exact hend
      · rw [List.foldl_cons, Report.empty_append, ← Report.append_foldl, Report.append_empty]

/-- **Every file is read as if it were the only one.**  Take a scan of several roots
by a fresh reader that gives a report.  Its steps are those that a fresh reader finds
in each file alone, one file after the other; the enumeration types and the imported
names are the first occurrences among those of each file alone; the report is that on
each file alone, one after the other; and nothing is pending at the end. -/
theorem files_read_as_alone {suffixes : List String} {roots : List Path} {report : Report}
    (h : (directories t suffixes policy encoding {} roots).result = .ok report) :
    let final := (directories t suffixes policy encoding {} roots).reader
    let alone := file t policy encoding {}
    final.steps = report.files.flatMap (fun p => (alone p).reader.steps) ∧
      final.registry.enumerations =
        (report.files.flatMap fun p => (alone p).reader.registry.enumerations).eraseDups ∧
      final.registry.classIncludes =
        (report.files.flatMap fun p => (alone p).reader.registry.classIncludes).eraseDups ∧
      final.pending = none ∧
      ∃ reports, List.Forall₂ (fun p own => (alone p).result = .ok own) report.files reports ∧
        report = reports.foldl (· ++ ·) {} := by
  obtain ⟨-, hscanned, hdirectories⟩ := directories_eq_ok h
  rw [addRoots_fst] at hscanned hdirectories
  obtain ⟨hreader, hpending, hreports⟩ := files_eq_foldl rfl hscanned
  have hrecorded : ∀ other ∈ report.files.map fun p => (file t policy encoding {} p).reader,
      other.registry.Recorded := by
    intro other hother
    obtain ⟨p, -, rfl⟩ := List.mem_map.mp hother
    exact recorded_file t policy encoding p ⟨by simp, by simp⟩
  obtain ⟨henumerations, hincludes⟩ := Reader.foldl_join_eraseDups
    (r := { registry := { baseDirectories := roots } }) rfl rfl hrecorded
  rw [List.flatMap_map] at henumerations hincludes
  rw [hdirectories]
  refine ⟨?_, ?_, ?_, hpending, hreports⟩
  · exact (congrArg Reader.steps hreader).trans
      ((Reader.foldl_join_steps _ _).trans (by rw [List.flatMap_map, List.nil_append]))
  · exact (congrArg (·.registry.enumerations) hreader).trans henumerations
  · exact (congrArg (·.registry.classIncludes) hreader).trans hincludes

/-- A file that ends with an annotation, before a file that starts with a declaration
and has a line that is passed over. -/
theorem dangling_annotation_read_as_alone :
    let t : FileTree :=
      { nodes := [(["g"], .directory),
          (["g", "a.java"], .file "import x.Color;\n@Given(\"^a$\")".toUTF8.toList),
          (["g", "b.java"],
            .file "void a(Color c)\n@Given(\"^b$\")\nbroken\nvoid b(Color c)".toUTF8.toList)] }
    let roots : List Path := [{ segments := ["g"] }]
    let first : Path := { segments := ["g", "a.java"] }
    let second : Path := { segments := ["g", "b.java"] }
    let report : Report :=
      { files := [first, second]
        lines := 6
        errors := [⟨second, 3, .parameterList "broken"⟩]
        discarded := ["a"] }
    let final := (directories t [".java"] .skip "utf-8" {} roots).reader
    let alone := file t .skip "utf-8" {}
    (directories t [".java"] .skip "utf-8" {} roots).result = .ok report ∧
      final.steps = (alone first).reader.steps ++ (alone second).reader.steps ∧
      final.registry.classIncludes = ((alone first).reader.registry.classIncludes ++
        (alone second).reader.registry.classIncludes).eraseDups ∧
      final.pending = none := by
  intro t roots first second report final alone
  have hroot : t.glueFiles [".java"] { segments := ["g"] } = _ :=
    glueFiles_of_sorted ["g"] [["a.java"], ["b.java"]]
      (by decide +kernel) (by decide +kernel) (by decide +kernel) (by decide +kernel)
      (by decide +kernel)
  have hfound : (discover t [".java"] [] roots).result = .ok report.files := by
    simp only [roots, discover, hroot]
    decide +kernel
  have hreport : (directories t [".java"] .skip "utf-8" {} roots).result = .ok report := by
    rw [directories_result_of_ok hfound]
    decide +kernel
  obtain ⟨hsteps, -, hincludes, hpending, -⟩ := files_read_as_alone hreport
  refine ⟨hreport, ?_, ?_, hpending⟩
  · simpa only [report, List.flatMap_cons, List.flatMap_nil, List.append_nil] using hsteps
  · simpa only [report, List.flatMap_cons, List.flatMap_nil, List.append_nil] using hincludes

end Scan

end Stepbook
