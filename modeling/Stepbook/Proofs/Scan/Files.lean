import Stepbook.Proofs.Scan.Feed
import Stepbook.Proofs.Text.Lines
import Stepbook.Scan.Directories

/-!
# Scans that go through

A scan of several roots fails at the first root, file or line that it cannot pass.
So if it gives a report, all roots were searched and all files were read, and the
report lists the files found.  Whether it fails or not, it does nothing to its reader
but add roots, feed lines and drop what is pending.

## Main definitions

* `Scan.HasText` — a file that can be decoded.
* `Scan.Invariant` — what lines and dropping keep of a reader.

## Main statements

* `Scan.readLines_eq_ok_iff` — the lines of a file that can be decoded.
* `Scan.file_eq_ok`, `Scan.files_eq_ok` — files that are reported on.
* `Scan.files_eq_error` — the file that a scan of several files fails at.
* `Scan.Invariant.file`, `Scan.Invariant.files`, `Scan.Invariant.directories` — what
  holds of the reader that a scan leaves.
* `Scan.addRoots_fst` — the reader that the files are read with.
* `Scan.directories_eq_ok` — a scan of several roots that gives a report.
* `Scan.level_of_mem_files` — what happens while files are read.
-/

namespace Stepbook.Scan

variable {t : FileTree} {policy : ScanPolicy} {encoding : String} {path : Path}
variable {reader : Reader} {report : Report}

/-! ## Lines that are read -/

/-- A path leads to a file, and the host has a codec of the named encoding that makes a text
of its bytes. -/
def HasText (t : FileTree) (encoding : String) (path : Path) (text : List Char) : Prop :=
  '\x00' ∉ encoding.toList ∧ ∃ bytes codec, t.read path = .ok bytes ∧
    t.host.codec? encoding = some codec ∧ codec bytes = .ok text

/-- **A file is read** if it holds a text, and then in the lines of that text. -/
theorem readLines_eq_ok_iff {lines : List String} :
    t.readLines encoding path = .ok lines ↔
      ∃ text, HasText t encoding path text ∧
        lines = (Text.lines (Text.unifyNewlines text)).map String.ofList := by
  constructor
  · intro h
    rw [FileTree.readLines] at h
    split at h
    · cases h
    · rename_i hnull
      split at h
      · cases h
      · rename_i bytes hbytes
        split at h
        · cases h
        · rename_i codec hcodec
          split at h
          · cases h
          · cases h
          · rename_i text htext
            cases h
            exact ⟨text, ⟨by simpa using hnull, bytes, codec, hbytes, hcodec, htext⟩, rfl⟩
  · rintro ⟨text, ⟨hnull, bytes, codec, hbytes, hcodec, htext⟩, rfl⟩
    have hallowed : ¬ encoding.toList.contains '\x00' = true := by simpa using hnull
    simp only [FileTree.readLines, if_neg hallowed, hbytes, hcodec, htext]

/-- The lines that a file is read in. -/
theorem oneLine_of_readLines {lines : List String} (h : t.readLines encoding path = .ok lines) :
    ∀ line ∈ lines, Text.OneLine line.toList := by
  obtain ⟨text, -, rfl⟩ := readLines_eq_ok_iff.mp h
  intro line hline
  obtain ⟨characters, hcharacters, rfl⟩ := List.mem_map.mp hline
  rw [String.toList_ofList]
  exact Text.oneLine_of_mem_lines hcharacters

/-! ## Invariants -/

/-- A property of readers that reading a line keeps, and dropping what is pending.  No
line ends within a line that is read. -/
structure Invariant (P : Reader → Prop) : Prop where
  readLine : ∀ (r : Reader) (line : String), Text.OneLine line.toList → P r →
    P (r.readLine line).reader
  discard : ∀ r : Reader, P r → P r.discard

namespace Invariant

variable {P : Reader → Prop} (h : Invariant P)
include h

theorem readLines {lines : List String} (hlines : ∀ line ∈ lines, Text.OneLine line.toList)
    (hr : P reader) : P (reader.readLines lines) := by
  induction lines generalizing reader with
  | nil => exact hr
  | cons line lines ih =>
      obtain ⟨hline, hrest⟩ := List.forall_mem_cons.mp hlines
      exact ih hrest (h.readLine reader line hline hr)

/-- A file is read up to some line, and then what is pending is dropped or not. -/
theorem file (hr : P reader) (path : Path) : P (file t policy encoding reader path).reader := by
  cases hlines : t.readLines encoding path with
  | error failure => simpa only [Scan.file, hlines] using hr
  | ok lines =>
      have hfed : P (feed policy path reader 1 lines).reader := by
        rw [(fed_feed _ _ _ _ _).reader_eq]
        exact h.readLines
          (fun line hline => oneLine_of_readLines hlines line (List.mem_of_mem_take hline)) hr
      rw [file_of_readLines hlines]
      cases hend : (feed policy path reader 1 lines).failure with
      | none =>
          rw [ofLines_of_finished hend]
          exact h.discard _ hfed
      | some failure =>
          rw [ofLines_of_failure hend]
          exact hfed

theorem files (hr : P reader) (paths : List Path) :
    P (files t policy encoding reader paths).reader := by
  induction paths generalizing reader with
  | nil => exact hr
  | cons path paths ih =>
      have hfirst : P (Scan.file t policy encoding reader path).reader := h.file hr path
      cases hown : (Scan.file t policy encoding reader path).result with
      | error failure => simpa only [Scan.files, hown] using hfirst
      | ok own =>
          simp only [Scan.files, hown]
          exact ih hfirst

/-- **What lines, dropping and adding roots keep, a scan of several roots keeps**,
whether or not it fails. -/
theorem directories (hroot : ∀ (r : Reader) (root : Path), P r → P (r.addBaseDirectory root))
    (hr : P reader) (suffixes : List String) (roots : List Path) :
    P (directories t suffixes policy encoding reader roots).reader := by
  have hadded : P (addRoots reader roots).1 := by
    induction roots generalizing reader with
    | nil => exact hr
    | cons root roots ih => exact ih (hroot reader root hr)
  cases hfound : (discover t suffixes [] roots).result with
  | error failure => simpa only [Scan.directories, hfound] using hadded
  | ok paths =>
      simp only [Scan.directories, hfound]
      exact h.files hadded paths

end Invariant

/-! ## One file -/

/-- A file that is reported on was read, and nothing of it is pending. -/
theorem file_eq_ok (h : (file t policy encoding reader path).result = .ok report) :
    (∃ lines, t.readLines encoding path = .ok lines) ∧ report.files = [path] ∧
      (file t policy encoding reader path).reader.pending = none := by
  cases hlines : t.readLines encoding path with
  | error failure => simp [file, hlines] at h
  | ok lines =>
      rw [file_of_readLines hlines] at h ⊢
      cases hend : (feed policy path reader 1 lines).failure with
      | none =>
          rw [ofLines_of_finished hend] at h ⊢
          cases h
          exact ⟨⟨lines, rfl⟩, rfl, rfl⟩
      | some failure =>
          rw [ofLines_of_failure hend] at h
          cases h

/-- Where all events are of other levels there is none of this one. -/
theorem filter_level_eq_nil {log : List Event} {level : Event.Level}
    (h : ∀ e ∈ log, e.level ≠ level) : log.filter (fun e => e.level = level) = [] := by
  simpa [List.filter_eq_nil_iff] using h

theorem level_of_mem_feed {r : Reader} {number : Nat} {lines : List String} {e : Event}
    (h : e ∈ (feed policy path r number lines).log) : e.level = .debug ∨ e.level = .warning := by
  have hfed := fed_feed policy path r number lines
  generalize feed policy path r number lines = f at hfed h
  induction hfed with
  | done | stopped => cases h
  | accepted _ _ ih =>
      rcases List.mem_append.mp h with hevents | hrest
      · exact Or.inl (Reader.level_of_mem_events hevents)
      · exact ih hrest
  | passed _ _ _ ih =>
      rcases List.mem_cons.mp h with rfl | hrest
      · exact Or.inr rfl
      · exact ih hrest
  | ended =>
      rw [List.mem_singleton.mp h]
      exact Or.inr rfl

/-- What happens while a file is read is of the lowest level or a warning. -/
theorem level_of_mem_file {e : Event} (h : e ∈ (file t policy encoding reader path).log) :
    e.level = .debug ∨ e.level = .warning := by
  cases hlines : t.readLines encoding path with
  | error failure => simp [file, hlines] at h
  | ok lines =>
      rw [file_of_readLines hlines] at h
      cases hend : (feed policy path reader 1 lines).failure with
      | none =>
          rw [ofLines_of_finished hend] at h
          rcases List.mem_append.mp h with hfed | hdropped
          · exact level_of_mem_feed hfed
          · obtain ⟨phrase, -, rfl⟩ := List.mem_map.mp hdropped
            exact Or.inr rfl
      | some failure =>
          rw [ofLines_of_failure hend] at h
          exact level_of_mem_feed h

/-! ## Several files -/

/-- The scan of one file more, if it goes on behind that file. -/
theorem files_cons_of_ok {paths : List Path}
    (h : (file t policy encoding reader path).result = .ok report) :
    files t policy encoding reader (path :: paths) =
      let first := file t policy encoding reader path
      let others := files t policy encoding first.reader paths
      { reader := others.reader
        log := first.log ++ others.log
        result := others.result.map (report ++ ·) } := by
  rw [files, h]

/-- A scan of one file more gives a report if it goes on behind that file, and if
the scan of the others gives one. -/
theorem files_cons_eq_ok {paths : List Path}
    (h : (files t policy encoding reader (path :: paths)).result = .ok report) :
    ∃ own others, (file t policy encoding reader path).result = .ok own ∧
      (files t policy encoding (file t policy encoding reader path).reader paths).result =
        .ok others ∧ report = own ++ others := by
  cases hown : (file t policy encoding reader path).result with
  | error failure => simp [files, hown] at h
  | ok own =>
      rw [files_cons_of_ok hown] at h
      cases hothers : (files t policy encoding (file t policy encoding reader path).reader
          paths).result with
      | error failure => simp [hothers, Except.map] at h
      | ok others =>
          simp only [hothers, Except.map, Except.ok.injEq] at h
          exact ⟨own, others, rfl, rfl, h.symm⟩

/-- **The report on several files** lists them all, and all were read. -/
theorem files_eq_ok {paths : List Path}
    (h : (files t policy encoding reader paths).result = .ok report) :
    report.files = paths ∧ ∀ p ∈ paths, ∃ lines, t.readLines encoding p = .ok lines := by
  induction paths generalizing reader report with
  | nil =>
      cases h
      exact ⟨rfl, by simp⟩
  | cons path paths ih =>
      obtain ⟨own, others, hown, hothers, rfl⟩ := files_cons_eq_ok h
      obtain ⟨hread, hfiles, -⟩ := file_eq_ok hown
      obtain ⟨hrest, hreadRest⟩ := ih hothers
      refine ⟨?_, ?_⟩
      · change own.files ++ others.files = path :: paths
        rw [hfiles, hrest, List.singleton_append]
      · intro p hp
        rcases List.mem_cons.mp hp with rfl | hp
        · exact hread
        · exact hreadRest p hp

/-- **A scan of several files fails at one of them**: those before it go through, and the
reader is left as that file leaves it. -/
theorem files_eq_error {paths : List Path} {failure : ScanFailure}
    (h : (files t policy encoding reader paths).result = .error failure) :
    ∃ before path after, paths = before ++ path :: after ∧
      (∃ report, (files t policy encoding reader before).result = .ok report) ∧
      (file t policy encoding (files t policy encoding reader before).reader path).result =
        .error failure ∧
      (files t policy encoding reader paths).reader =
        (file t policy encoding (files t policy encoding reader before).reader path).reader := by
  induction paths generalizing reader with
  | nil => cases h
  | cons first paths ih =>
      cases hown : (file t policy encoding reader first).result with
      | error cause =>
          obtain rfl : cause = failure := by simpa only [files, hown, Except.error.injEq] using h
          refine ⟨[], first, paths, rfl, ⟨{}, rfl⟩, hown, ?_⟩
          simp only [files, hown]
      | ok own =>
          rw [files_cons_of_ok hown] at h ⊢
          cases hothers : (files t policy encoding (file t policy encoding reader first).reader
              paths).result with
          | ok report => simp [hothers, Except.map] at h
          | error cause =>
              obtain rfl : cause = failure := by
                simpa only [hothers, Except.map, Except.error.injEq] using h
              obtain ⟨before, path, after, rfl, ⟨report, hreport⟩, hfailed, hreader⟩ := ih hothers
              refine ⟨first :: before, path, after, rfl, ⟨own ++ report, ?_⟩, ?_, ?_⟩
              · rw [files_cons_of_ok hown]
                simp only [hreport, Except.map]
              · rw [files_cons_of_ok hown]
                exact hfailed
              · rw [files_cons_of_ok hown]
                exact hreader

/-- A file that fails behind files that go through makes the scan fail, whatever comes behind
it. -/
theorem files_append_eq_error {before after : List Path} {failure : ScanFailure}
    (hbefore : (files t policy encoding reader before).result = .ok report)
    (hfailed : (file t policy encoding (files t policy encoding reader before).reader path).result =
      .error failure) :
    (files t policy encoding reader (before ++ path :: after)).result = .error failure := by
  induction before generalizing reader report with
  | nil =>
      simp only [files] at hfailed
      simp only [List.nil_append, files, hfailed]
  | cons first before ih =>
      obtain ⟨own, others, hown, hothers, -⟩ := files_cons_eq_ok hbefore
      rw [files_cons_of_ok hown] at hfailed
      rw [List.cons_append, files_cons_of_ok hown]
      simp only [ih hothers hfailed, Except.map]

theorem level_of_mem_files {paths : List Path} {e : Event}
    (h : e ∈ (files t policy encoding reader paths).log) :
    e.level = .debug ∨ e.level = .warning := by
  induction paths generalizing reader with
  | nil => cases h
  | cons path paths ih =>
      cases hown : (file t policy encoding reader path).result with
      | error failure =>
          simp only [files, hown] at h
          exact level_of_mem_file h
      | ok own =>
          rw [files_cons_of_ok hown] at h
          rcases List.mem_append.mp h with hfirst | hothers
          · exact level_of_mem_file hfirst
          · exact ih hothers

/-! ## Several roots -/

/-- Adding the roots changes nothing else in the reader. -/
theorem addRoots_fst (reader : Reader) (roots : List Path) :
    (addRoots reader roots).1 =
      { reader with registry := { reader.registry with
          baseDirectories := reader.registry.baseDirectories ++ roots } } := by
  induction roots generalizing reader with
  | nil => simp [addRoots]
  | cons root roots ih =>
      rw [addRoots]
      simp only [ih, Reader.addBaseDirectory, Registry.configure, List.append_assoc,
        List.singleton_append]

/-- Adding the roots leaves an event of the lowest level for each. -/
theorem level_of_mem_addRoots {roots : List Path} {e : Event}
    (h : e ∈ (addRoots reader roots).2) : e.level = .debug := by
  induction roots generalizing reader with
  | nil => cases h
  | cons root roots ih =>
      rcases List.mem_cons.mp h with rfl | hrest
      · rfl
      · exact ih hrest

/-- The glue code files below a root, if the tree has them in order. -/
theorem glueFiles_of_sorted {suffixes : List String} {root : Path} (base : Place)
    (wanted : List (List String)) (hroot : t.locate root = .ok base)
    (hbase : t.node? base = some .directory) (hclear : t.obstacle? root base = none)
    (hwanted : (t.filesBelow base).filter (fun names =>
      FileTree.isGlueFile suffixes (names.getLastD "")) = wanted)
    (hsorted : wanted.Pairwise fun s t => Text.namesLe s t = true) :
    t.glueFiles suffixes root = .ok (wanted.map fun names => root.join { segments := names }) := by
  simp only [FileTree.glueFiles, hroot, if_pos hbase, hclear, hwanted,
    List.mergeSort_of_pairwise hsorted]

/-- A single root gives all glue code files below it. -/
theorem discover_singleton {suffixes : List String} {root : Path} {found : List Path}
    (h : t.glueFiles suffixes root = .ok found) :
    (discover t suffixes [] [root]).result = .ok found := by
  simp only [discover, h, Except.map, List.append_nil, Except.ok.injEq]
  -- no place was seen before
  refine List.filter_eq_self.mpr fun p _ => ?_
  cases t.locate p <;> rfl

/-- The scan of several roots, once they are searched. -/
theorem directories_result_of_ok {suffixes : List String} {roots paths : List Path}
    (h : (discover t suffixes [] roots).result = .ok paths) :
    (directories t suffixes policy encoding reader roots).result =
      (files t policy encoding (addRoots reader roots).1 paths).result := by
  simp only [directories, h]

/-- **A scan of several roots that gives a report** has found the files that the
report lists, and has read them all. -/
theorem directories_eq_ok {suffixes : List String} {roots : List Path}
    (h : (directories t suffixes policy encoding reader roots).result = .ok report) :
    let added := addRoots reader roots
    let scanned := files t policy encoding added.1 report.files
    (discover t suffixes [] roots).result = .ok report.files ∧ scanned.result = .ok report ∧
      directories t suffixes policy encoding reader roots =
        { reader := scanned.reader
          log := added.2 ++ (discover t suffixes [] roots).log ++ scanned.log ++
            [.finished scanned.reader.steps.length scanned.reader.registry.enumerations.length]
          result := .ok report } := by
  cases hfound : (discover t suffixes [] roots).result with
  | error failure => simp [directories, hfound] at h
  | ok paths =>
      have hscanned : (files t policy encoding (addRoots reader roots).1 paths).result =
          .ok report := by
        simpa only [directories, hfound] using h
      obtain ⟨rfl, -⟩ := files_eq_ok hscanned
      refine ⟨rfl, hscanned, ?_⟩
      simp only [directories, hfound, hscanned]

end Stepbook.Scan
