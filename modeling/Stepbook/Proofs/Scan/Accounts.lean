import Stepbook.Proofs.Scan.Discovery
import Stepbook.Proofs.Scan.Policy

/-!
# What a scan reports

A scan that gives a report accounts for every line that it has fed.  File by file, the
report and the warnings say how many lines were fed, which of them were refused and
why, and what was left without a declaration.

## Main definitions

* `Scan.Account` — what there is to say of one file.
* `Scan.Account.Sound` — the account of a file that is read under a policy.
* `Scan.Account.warnings` — the wording of its warnings.
* `Scan.Accounted` — files that are read one after the other, each by the reader that
  the one before has left.

## Main statements

* `Scan.Fed.mem_errors_iff`, `Scan.Fed.pairwise_errors` — the errors of a file.
* `Scan.Fed.warnings_eq` — the warnings while a file is fed.
* `Scan.report_accounts_for_lines` — the report and the warnings of a scan of several
  roots.

## Design notes

A refused line is one that reading ends in a refusal: the statements look at each line
with the reader as the lines before have left it, and not at the loop that feeds them.
-/

namespace Stepbook.Scan

variable {t : FileTree} {policy : ScanPolicy} {encoding : String} {path : Path}
variable {r : Reader} {number : Nat} {lines : List String}

/-! ## The lines of a file -/

/-- A scan that ends a file at a refused line feeds the lines up to the first one. -/
theorem count_feed_abort {k : Nat} (h : r.firstRefused? lines = some k) (path : Path)
    (number : Nat) : (feed .abort path r number lines).count = k := by
  obtain ⟨before, line, after, rfl, hbefore, hline, rfl⟩ := Reader.firstRefused?_eq_some_iff.mp h
  obtain ⟨cause, hrefuses⟩ := Reader.exists_refuses hline
  obtain ⟨hcut, hskip⟩ := feed_abort_of_first_refused hbefore hrefuses path number after
  rw [hcut, hskip]

/-- The `i`-th line of a file is refused when the lines are read in order, counted from
zero. -/
def RefusedAt (r : Reader) (lines : List String) (i : Nat) (cause : Malformed) : Prop :=
  ∃ line, lines[i]? = some line ∧
    ((r.readLines (lines.take i)).readLine line).failure = some (.malformed cause)

theorem refusedAt_zero_iff {line : String} {cause : Malformed} :
    RefusedAt r (line :: lines) 0 cause ↔ (r.readLine line).failure = some (.malformed cause) := by
  simp [RefusedAt]

theorem not_refusedAt_zero_of_accepts {line : String} {cause : Malformed} (h : r.Accepts line) :
    ¬ RefusedAt r (line :: lines) 0 cause := by
  rw [refusedAt_zero_iff, show (r.readLine line).failure = none from h]
  simp

theorem refusedAt_zero_of_refuses {line : String} {cause cause' : Malformed}
    (h : r.Refuses line cause) : RefusedAt r (line :: lines) 0 cause' ↔ cause' = cause := by
  rw [refusedAt_zero_iff, Reader.readLine_of_refuses h]
  simp [eq_comm]

theorem refusedAt_succ_iff {line : String} {i : Nat} {cause : Malformed} :
    RefusedAt r (line :: lines) (i + 1) cause ↔ RefusedAt (r.readLine line).reader lines i cause := by
  simp [RefusedAt]

theorem lineError_eq_iff {e : LineError} {cause : Malformed} :
    e = ⟨path, number, cause⟩ ↔ e.path = path ∧ e.number = number ∧ e.cause = cause := by
  cases e
  simp

section Finished

variable {f : Feed} (hfed : Fed policy path r number lines f) (hend : f.failure = none)

include hfed hend

/-- **The errors of a file** that is fed to its end are the refused lines among those that
were fed. -/
theorem Fed.mem_errors_iff {e : LineError} :
    e ∈ f.errors ↔
      e.path = path ∧ ∃ i < f.count, e.number = number + i ∧ RefusedAt r lines i e.cause := by
  induction hfed with
  | done => simp
  | accepted hline _ ih =>
      simp only [Feed.after, List.nil_append, ih hend, Nat.exists_lt_succ_left,
        not_refusedAt_zero_of_accepts hline, refusedAt_succ_iff, and_false, false_or,
        Nat.add_assoc, Nat.add_comm 1]
  | passed _ hline _ ih =>
      simp only [Feed.after, List.singleton_append, List.mem_cons, ih hend,
        Nat.exists_lt_succ_left, refusedAt_zero_of_refuses hline, refusedAt_succ_iff,
        lineError_eq_iff, Nat.add_zero, Nat.add_assoc, Nat.add_comm 1, and_or_left]
  | ended _ _ _ hline =>
      simp [refusedAt_zero_of_refuses hline, lineError_eq_iff]
  | stopped => cases hend

/-- The errors of a file come in the order of its lines. -/
theorem Fed.pairwise_errors : f.errors.Pairwise fun d e => d.number < e.number := by
  induction hfed with
  | done => exact .nil
  | accepted _ _ ih => exact ih hend
  | passed _ _ hrest ih =>
      refine List.pairwise_cons.mpr ⟨fun e he => ?_, ih hend⟩
      exact hrest.le_number_of_mem_errors he
  | ended => exact List.pairwise_singleton _ _
  | stopped => cases hend

/-- **The warnings while a file is fed** are its errors. -/
theorem Fed.warnings_eq :
    f.log.filter (fun e => e.level = .warning) =
      f.errors.map fun e => .malformedLine e.path e.number e.cause := by
  induction hfed with
  | done | ended => rfl
  | accepted _ _ ih =>
      rename_i r number line lines f hline hrest
      have hquiet : (r.readLine line).events.filter (fun e => e.level = .warning) = [] := by
        refine filter_level_eq_nil fun e he => ?_
        rw [Reader.level_of_mem_events he]
        decide
      simp only [Feed.after, List.filter_append, hquiet, List.nil_append]
      exact ih hend
  | passed _ _ _ ih =>
      simp only [Feed.after, List.singleton_append, List.map_cons, ← ih hend]
      rfl
  | stopped => cases hend

end Finished

/-- A scan that ends a file at a refused line reports that line only, and it is the last
one that was fed. -/
theorem Fed.number_of_mem_errors_abort {f : Feed} (hfed : Fed .abort path r number lines f)
    {e : LineError} (h : e ∈ f.errors) : e.number + 1 = number + f.count := by
  induction hfed with
  | done | stopped => cases h
  | accepted _ _ ih =>
      have hrest := ih h
      simp only [Feed.after]
      omega
  | passed hpolicy => cases hpolicy
  | ended => rw [List.mem_singleton.mp h]

/-! ## The account of a file -/

/-- What there is to say of a file: the reader that it is read with, its lines, how many of
them are fed, those that are refused, and the phrase that is left at the end. -/
structure Account where
  path : Path
  reader : Reader
  lines : List String
  fed : Nat
  errors : List LineError
  dropped : Option String

namespace Account

/-- The reader behind the lines that are fed. -/
def fedReader (a : Account) : Reader := a.reader.readLines (a.lines.take a.fed)

/-- The wording of the warnings: one for each error, in order, and then one for the phrase
that is left. -/
def warnings (a : Account) : List String :=
  a.errors.map
      (fun e => e.path.toString ++ ":" ++ toString e.number ++ ": " ++ e.cause.message) ++
    a.dropped.toList.map fun phrase =>
      a.path.toString ++ ": step '" ++ phrase ++ "' has no method declaration, dropped"

/-- The account of a file that is read under a policy. -/
structure Sound (policy : ScanPolicy) (a : Account) : Prop where
  fed_of_skip : policy = .skip → a.fed = a.lines.length
  fed_of_accepted : a.reader.firstRefused? a.lines = none → a.fed = a.lines.length
  fed_of_abort : ∀ k, policy = .abort → a.reader.firstRefused? a.lines = some k → a.fed = k
  accepted_of_strict : policy = .strict → a.reader.firstRefused? a.lines = none
  /-- There is an error for each refused line among those that are fed. -/
  mem_errors_iff : ∀ e, e ∈ a.errors ↔
    e.path = a.path ∧ ∃ i < a.fed, e.number = i + 1 ∧ RefusedAt a.reader a.lines i e.cause
  increasing : a.errors.Pairwise fun d e => d.number < e.number
  errors_of_abort : policy = .abort → a.errors.length ≤ 1 ∧ ∀ e ∈ a.errors, e.number = a.fed
  dropped_eq : a.dropped = a.fedReader.pending

/-- The report on a file with such an account. -/
def report (a : Account) : Report := ⟨[a.path], a.fed, a.errors, a.dropped.toList⟩

/-- The account of lines that are fed under a policy. -/
def ofLines (policy : ScanPolicy) (path : Path) (r : Reader) (lines : List String) : Account :=
  let f := feed policy path r 1 lines
  ⟨path, r, lines, f.count, f.errors, f.reader.pending⟩

theorem fedReader_ofLines (policy : ScanPolicy) (path : Path) (r : Reader)
    (lines : List String) :
    (ofLines policy path r lines).fedReader = (feed policy path r 1 lines).reader :=
  (fed_feed policy path r 1 lines).reader_eq.symm

/-- Numbers that increase and are all the same are at most one. -/
theorem length_le_one_of_increasing {errors : List LineError} {n : Nat}
    (hincreasing : errors.Pairwise fun d e => d.number < e.number)
    (hnumber : ∀ e ∈ errors, e.number = n) : errors.length ≤ 1 := by
  rcases errors with _ | ⟨d, _ | ⟨e, others⟩⟩
  · exact Nat.zero_le 1
  · exact le_rfl
  · have hlt := (List.pairwise_cons.mp hincreasing).1 e List.mem_cons_self
    rw [hnumber d (by simp), hnumber e (by simp)] at hlt
    exact absurd hlt (lt_irrefl n)

/-- **The account of a file that is fed to its end.** -/
theorem sound_ofLines (h : (feed policy path r 1 lines).failure = none) :
    (ofLines policy path r lines).Sound policy where
  fed_of_skip := by
    rintro rfl
    exact (fed_feed .skip path r 1 lines).count_of_skip
  fed_of_accepted hnone := by
    have hall : r.AcceptsAll lines := Reader.firstRefused?_eq_none_iff.mp hnone
    exact congrArg Feed.count (feed_of_acceptsAll hall policy path 1)
  fed_of_abort k := by
    rintro rfl hk
    exact count_feed_abort hk path 1
  accepted_of_strict := by
    rintro rfl
    cases hfirst : r.firstRefused? lines with
    | none => exact hfirst
    | some k =>
        obtain ⟨before, line, after, rfl, hbefore, hline, -⟩ :=
          Reader.firstRefused?_eq_some_iff.mp hfirst
        obtain ⟨cause, hrefuses⟩ := Reader.exists_refuses hline
        rw [feed_strict_of_first_refused hbefore hrefuses] at h
        cases h
  mem_errors_iff e := by
    simp only [Nat.add_comm _ 1]
    exact (fed_feed policy path r 1 lines).mem_errors_iff h
  increasing := (fed_feed policy path r 1 lines).pairwise_errors h
  errors_of_abort := by
    rintro rfl
    have hnumber : ∀ e ∈ (feed .abort path r 1 lines).errors,
        e.number = (feed .abort path r 1 lines).count := by
      intro e he
      have hlast := (fed_feed .abort path r 1 lines).number_of_mem_errors_abort he
      omega
    exact ⟨length_le_one_of_increasing ((fed_feed .abort path r 1 lines).pairwise_errors h) hnumber,
      hnumber⟩
  dropped_eq := by
    rw [fedReader_ofLines]
    rfl

end Account

/-- The warnings of a file that is fed to its end, word for word. -/
theorem warnings_ofLines (h : (feed policy path r 1 lines).failure = none) :
    ((ofLines policy path r lines).log.filter (fun e => e.level = .warning)).map Event.message =
      (Account.ofLines policy path r lines).warnings := by
  have hdropped : ((feed policy path r 1 lines).reader.pending.toList.map
      (Event.stepDropped path)).filter (fun e => e.level = .warning) =
        (feed policy path r 1 lines).reader.pending.toList.map (Event.stepDropped path) := by
    rw [List.filter_eq_self]
    intro e he
    obtain ⟨phrase, -, rfl⟩ := List.mem_map.mp he
    rfl
  rw [ofLines_of_finished h]
  have hfed := (fed_feed policy path r 1 lines).warnings_eq h
  simp only [List.filter_append, hfed, hdropped, List.map_append, List.map_map]
  rfl

/-- A file that is reported on has an account. -/
theorem exists_account_of_file {own : Report}
    (h : (file t policy encoding r path).result = .ok own) :
    ∃ a : Account, a.path = path ∧ a.reader = r ∧ t.readLines encoding path = .ok a.lines ∧
      a.Sound policy ∧ own = a.report ∧
      (file t policy encoding r path).reader = a.fedReader.discard ∧
      ((file t policy encoding r path).log.filter (fun e => e.level = .warning)).map
        Event.message = a.warnings := by
  obtain ⟨⟨lines, hlines⟩, -⟩ := file_eq_ok h
  rw [file_of_readLines hlines] at h ⊢
  cases hend : (feed policy path r 1 lines).failure with
  | some failure =>
      rw [ofLines_of_failure hend] at h
      cases h
  | none =>
      refine ⟨Account.ofLines policy path r lines, rfl, rfl, hlines, Account.sound_ofLines hend,
        ?_, ?_, warnings_ofLines hend⟩
      · rw [ofLines_of_finished hend] at h
        exact (Except.ok.inj h).symm
      · rw [ofLines_of_finished hend, Account.fedReader_ofLines]

/-! ## Several files -/

/-- Files that are read one after the other: the first one by the given reader, and each
other one by the reader that the one before has left. -/
inductive Accounted (t : FileTree) (policy : ScanPolicy) (encoding : String) :
    Reader → List Account → Prop
  | nil (r : Reader) : Accounted t policy encoding r []
  | cons {a : Account} {others : List Account} (hread : t.readLines encoding a.path = .ok a.lines)
      (hsound : a.Sound policy) (hothers : Accounted t policy encoding a.fedReader.discard others) :
      Accounted t policy encoding a.reader (a :: others)

/-- The report on files with such accounts. -/
def Account.reportOn (accounts : List Account) : Report where
  files := accounts.map Account.path
  lines := (accounts.map Account.fed).foldr (· + ·) 0
  errors := accounts.flatMap Account.errors
  discarded := accounts.filterMap Account.dropped

theorem Account.reportOn_cons (a : Account) (accounts : List Account) :
    reportOn (a :: accounts) = a.report ++ reportOn accounts := by
  have hdropped : (a :: accounts).filterMap Account.dropped =
      a.dropped.toList ++ accounts.filterMap Account.dropped := by
    cases hphrase : a.dropped <;> simp [hphrase]
  rw [reportOn, hdropped]
  rfl

/-- Files that are reported on have accounts. -/
theorem exists_accounts_of_files {paths : List Path} {report : Report}
    (h : (files t policy encoding r paths).result = .ok report) :
    ∃ accounts, Accounted t policy encoding r accounts ∧ report = Account.reportOn accounts ∧
      ((files t policy encoding r paths).log.filter (fun e => e.level = .warning)).map
        Event.message = accounts.flatMap Account.warnings := by
  induction paths generalizing r report with
  | nil =>
      cases h
      exact ⟨[], .nil r, rfl, rfl⟩
  | cons path paths ih =>
      obtain ⟨own, others, hown, hothers, rfl⟩ := files_cons_eq_ok h
      obtain ⟨a, rfl, rfl, hread, hsound, rfl, hreader, hwarnings⟩ := exists_account_of_file hown
      obtain ⟨accounts, haccounts, rfl, hmore⟩ := ih hothers
      rw [hreader] at haccounts
      refine ⟨a :: accounts, .cons hread hsound haccounts, (a.reportOn_cons accounts).symm, ?_⟩
      rw [files_cons_of_ok hown]
      simp only [List.filter_append, List.map_append, hwarnings, hmore, List.flatMap_cons]

/-! ## Several roots -/

/-- Searching the roots and ending the scan warn of nothing. -/
theorem warnings_directories {suffixes : List String} {reader : Reader} {roots : List Path}
    {report : Report}
    (h : (directories t suffixes policy encoding reader roots).result = .ok report) :
    (directories t suffixes policy encoding reader roots).log.filter
        (fun e => e.level = .warning) =
      (files t policy encoding (addRoots reader roots).1 report.files).log.filter
        fun e => e.level = .warning := by
  obtain ⟨-, -, hdirectories⟩ := directories_eq_ok h
  have hadded : (addRoots reader roots).2.filter (fun e => e.level = .warning) = [] := by
    refine filter_level_eq_nil fun e he => ?_
    rw [level_of_mem_addRoots he]
    decide
  have hfound : (discover t suffixes [] roots).log.filter (fun e => e.level = .warning) = [] := by
    refine filter_level_eq_nil fun e he => ?_
    rw [level_of_mem_discover he]
    decide
  rw [hdirectories]
  simp only [List.filter_append, hadded, hfound, List.nil_append]
  exact List.append_nil _

/-- **The report and the warnings account for every line.**  In a scan of several roots
that gives a report each file of the report has a sound account, and the files are read
one after the other.  The lines of the report are the fed lines of all files, its errors
are the refused lines among them, file by file and in the order of the lines, and what it
drops is what is left at the end of the files.  The warnings are, file by file, those of
the errors and of what is dropped, word for word, and no others. -/
theorem report_accounts_for_lines {suffixes : List String} {reader : Reader}
    {roots : List Path} {report : Report}
    (h : (directories t suffixes policy encoding reader roots).result = .ok report) :
    ∃ accounts, Accounted t policy encoding (addRoots reader roots).1 accounts ∧
      report.files = accounts.map Account.path ∧
      report.lines = (accounts.map Account.fed).foldr (· + ·) 0 ∧
      report.errors = accounts.flatMap Account.errors ∧
      report.discarded = accounts.filterMap Account.dropped ∧
      ((directories t suffixes policy encoding reader roots).log.filter
        fun e => e.level = .warning).map Event.message = accounts.flatMap Account.warnings := by
  obtain ⟨-, hscanned, -⟩ := directories_eq_ok h
  obtain ⟨accounts, haccounts, hreport, hwarnings⟩ := exists_accounts_of_files hscanned
  rw [← warnings_directories h] at hwarnings
  refine ⟨accounts, haccounts, ?_, ?_, ?_, ?_, hwarnings⟩
  · rw [hreport]
    rfl
  · rw [hreport]
    rfl
  · rw [hreport]
    rfl
  · rw [hreport]
    rfl

/-- A reader that waits for a declaration comes to a file that starts with a broken line,
and then to one with two refused lines and a phrase that is left. -/
theorem broken_lines_accounted_for :
    let t : FileTree :=
      { nodes := [(["g"], .directory),
          (["g", "a.java"], .file "broken\nvoid z()".toUTF8.toList),
          (["g", "b.java"], .file "@Given(x)\n@When(\"^b$\")\nbroken".toUTF8.toList)] }
    let reader : Reader := { pending := some "z" }
    let roots : List Path := [{ segments := ["g"] }]
    let first : Path := { segments := ["g", "a.java"] }
    let second : Path := { segments := ["g", "b.java"] }
    let report : Report :=
      { files := [first, second]
        lines := 5
        errors := [⟨first, 1, .parameterList "broken"⟩, ⟨second, 1, .expression "@Given(x)"⟩,
          ⟨second, 3, .parameterList "broken"⟩]
        discarded := ["b"] }
    let scan := directories t [".java"] .skip "utf-8" reader roots
    scan.result = .ok report ∧
      ∃ accounts, Accounted t .skip "utf-8" (addRoots reader roots).1 accounts ∧
        report.lines = (accounts.map Account.fed).foldr (· + ·) 0 ∧
        report.errors = accounts.flatMap Account.errors ∧
        (scan.log.filter fun e => e.level = .warning).map Event.message =
          accounts.flatMap Account.warnings := by
  intro t reader roots first second report scan
  have hroot : t.glueFiles [".java"] { segments := ["g"] } = _ :=
    glueFiles_of_sorted ["g"] [["a.java"], ["b.java"]]
      (by decide +kernel) (by decide +kernel) (by decide +kernel) (by decide +kernel)
      (by decide +kernel)
  have hfound : (discover t [".java"] [] roots).result = .ok report.files := by
    simp only [roots, discover, hroot]
    decide +kernel
  have hreport : scan.result = .ok report := by
    change (directories t [".java"] .skip "utf-8" reader roots).result = _
    rw [directories_result_of_ok hfound]
    decide +kernel
  obtain ⟨accounts, haccounts, -, hlines, herrors, -, hwarnings⟩ :=
    report_accounts_for_lines hreport
  exact ⟨hreport, accounts, haccounts, hlines, herrors, hwarnings⟩

end Stepbook.Scan
