import Stepbook.Proofs.Scan.Feed

/-!
# The policies at malformed lines

The three policies read a file the same way up to the first line that is refused.
A scan that stops there reads what a scan that passes over lines reads of the file
cut behind that line.  Passing over the refused lines comes to the same as deleting
them, under any policy.

## Main definitions

* `Scan.withoutErrors` — the lines of a file without those that are reported.

## Main statements

* `Scan.policies_agree_up_to_first_refused` — the policies against each other.
* `Scan.skipped_lines_as_if_deleted` — a file against the file without its refused
  lines.
-/

namespace Stepbook.Scan

variable {path : Path} {r : Reader} {number : Nat}

/-! ## Up to the first refused line -/

/-- Lines that are all accepted come to the same under each policy. -/
theorem ofLines_of_acceptsAll {lines : List String} (h : r.AcceptsAll lines)
    (policy : ScanPolicy) :
    ofLines policy path r lines =
      { reader := (r.readLines lines).discard
        log := r.lineEvents lines ++ (r.readLines lines).pending.toList.map (.stepDropped path)
        result := .ok { files := [path]
                        lines := lines.length
                        discarded := (r.readLines lines).pending.toList } } := by
  have hfeed := feed_of_acceptsAll h policy path 1
  rw [ofLines_of_finished (by rw [hfeed]), hfeed]

section FirstRefused

variable {before : List String} {line : String} {cause : Malformed}

/-- A scan that stops at the first refused line reads what a scan that passes over
lines reads of the lines up to that one. -/
theorem feed_abort_of_first_refused (hbefore : r.AcceptsAll before)
    (hrefuses : (r.readLines before).Refuses line cause) (path : Path) (number : Nat)
    (after : List String) :
    feed .abort path r number (before ++ line :: after) =
        feed .skip path r number (before ++ [line]) ∧
      feed .skip path r number (before ++ [line]) =
        { reader := r.readLines (before ++ [line])
          count := before.length + 1
          errors := [⟨path, number + before.length, cause⟩]
          log := r.lineEvents before ++ [.malformedLine path (number + before.length) cause] } := by
  rw [feed_append hbefore, feed_append hbefore, feed_abort_of_refused hrefuses,
    feed_skip_of_refused hrefuses, Reader.readLines_append, Reader.readLines_cons,
    Reader.readLine_of_refuses hrefuses]
  exact ⟨rfl, rfl⟩

/-- A scan that ends at the first refused line leaves no trace of it but its
import. -/
theorem feed_strict_of_first_refused (hbefore : r.AcceptsAll before)
    (hrefuses : (r.readLines before).Refuses line cause) (path : Path) (number : Nat)
    (after : List String) :
    feed .strict path r number (before ++ line :: after) =
      { reader := r.readLines (before ++ [line])
        count := before.length + 1
        log := r.lineEvents before
        failure := some (.malformed cause) } := by
  rw [feed_append hbefore, feed_strict_of_refused hrefuses, Reader.readLines_append,
    Reader.readLines_cons, Reader.readLine_of_refuses hrefuses]
  simp

end FirstRefused

/-- **The three policies agree up to the first refused line.**  If no line of a file
is refused, the scans are the same.  Otherwise let line `k` be the first one.  The
scan that stops there is the same as the scan that passes over lines of any file
that is the given one cut behind line `k`, and it reports that line only.  The
strict scan fails with the cause reported there; it leaves the reader as it is once
the first `k` lines were fed, with what is pending not dropped, and warns of nothing.
The steps of the scan that stops are the first ones of the scan that passes over
lines. -/
theorem policies_agree_up_to_first_refused {t : FileTree} {encoding : String}
    {lines : List String} (hlines : t.readLines encoding path = .ok lines) (r : Reader) :
    (r.firstRefused? lines = none →
      ∃ report, (file t .abort encoding r path).result = .ok report ∧ report.errors = [] ∧
        ∀ policy, file t policy encoding r path = file t .abort encoding r path) ∧
    ∀ k, r.firstRefused? lines = some k →
      (∀ (cut : FileTree) (encoding' : String),
        cut.readLines encoding' path = .ok (lines.take k) →
        file t .abort encoding r path = file cut .skip encoding' r path) ∧
      (∃ cause discarded,
        (file t .abort encoding r path).result =
          .ok { files := [path], lines := k, errors := [⟨path, k, cause⟩], discarded } ∧
        (file t .strict encoding r path).result = .error (.refused (.malformed cause))) ∧
      (file t .strict encoding r path).reader = r.readLines (lines.take k) ∧
      (∀ e ∈ (file t .strict encoding r path).log, e.level ≠ .warning) ∧
      (file t .abort encoding r path).reader.steps <+:
        (file t .skip encoding r path).reader.steps := by
  constructor
  · intro hnone
    have hall : r.AcceptsAll lines := Reader.firstRefused?_eq_none_iff.mp hnone
    have hfile : ∀ policy, file t policy encoding r path = _ := fun policy =>
      (file_of_readLines hlines policy r).trans (ofLines_of_acceptsAll hall policy)
    exact ⟨_, by rw [hfile], rfl, fun policy => by rw [hfile, hfile]⟩
  · intro k hk
    obtain ⟨before, line, after, rfl, hbefore, hline, rfl⟩ := Reader.firstRefused?_eq_some_iff.mp hk
    obtain ⟨cause, hrefuses⟩ := Reader.exists_refuses hline
    have htake : (before ++ line :: after).take (before.length + 1) = before ++ [line] :=
      List.take_length_add_append 1
    obtain ⟨hcut, hskip⟩ := feed_abort_of_first_refused hbefore hrefuses path 1 after
    have hstrict := feed_strict_of_first_refused hbefore hrefuses path 1 after
    -- the scans of the whole file, by what feeding its lines comes to
    have habort : file t .abort encoding r path = ofLines .skip path r (before ++ [line]) := by
      rw [file_of_readLines hlines, ofLines_of_finished (by rw [hcut, hskip]),
        ofLines_of_finished (by rw [hskip]), hcut]
    have hfailure : (feed .strict path r 1 (before ++ line :: after)).failure =
        some (.malformed cause) := by rw [hstrict]
    have hends : file t .strict encoding r path = _ :=
      (file_of_readLines hlines .strict r).trans (ofLines_of_failure hfailure)
    rw [htake]
    refine ⟨?_, ?_, ?_, ?_, ?_⟩
    · intro cut encoding' hread
      rw [habort, file_of_readLines hread]
    · refine ⟨cause, (r.readLines (before ++ [line])).pending.toList, ?_, ?_⟩
      · rw [habort, ofLines_of_finished (by rw [hskip]), hskip, Nat.add_comm 1]
      · rw [hends]
    · rw [hends, hstrict]
    · rw [hends, hstrict]
      intro e he
      rw [Reader.level_of_mem_lineEvents he]
      decide
    · rw [habort, file_of_readLines hlines, ofLines_of_finished (by rw [hskip]),
        ofLines_of_finished (feed_skip path r 1 _).2]
      simp only [Reader.discard_steps, (feed_skip path r 1 _).1]
      rw [List.append_cons before line after, Reader.readLines_append r (before ++ [line])]
      exact Reader.steps_prefix_readLines _ _

/-- The declaration of the step that is awaited, an annotation, a line without a
parameter list, and the declaration behind it. -/
theorem policies_agree_up_to_broken_line :
    let r : Reader := { pending := some "a" }
    let path : Path := { segments := ["a.java"] }
    let whole : FileTree :=
      { nodes := [(["a.java"],
          .file "void a()\n@Given(\"^b$\")\nbroken\nvoid b()".toUTF8.toList)] }
    let cut : FileTree :=
      { nodes := [(["a.java"], .file "void a()\n@Given(\"^b$\")\nbroken".toUTF8.toList)] }
    whole.readLines "utf-8" path =
        .ok ["void a()", "@Given(\"^b$\")", "broken", "void b()"] ∧
      r.firstRefused? ["void a()", "@Given(\"^b$\")", "broken", "void b()"] = some 3 ∧
      cut.readLines "utf-8" path = .ok ["void a()", "@Given(\"^b$\")", "broken"] ∧
      file whole .abort "utf-8" r path = file cut .skip "utf-8" r path := by
  intro r path whole cut
  have hlines : whole.readLines "utf-8" path =
      .ok ["void a()", "@Given(\"^b$\")", "broken", "void b()"] := by decide +kernel
  have hrefused : r.firstRefused? ["void a()", "@Given(\"^b$\")", "broken", "void b()"] =
      some 3 := by decide +kernel
  have hcut : cut.readLines "utf-8" path = .ok ["void a()", "@Given(\"^b$\")", "broken"] := by
    decide +kernel
  have hagree := ((policies_agree_up_to_first_refused hlines r).2 3 hrefused).1 cut "utf-8" hcut
  exact ⟨hlines, hrefused, hcut, hagree⟩

/-! ## Without the refused lines -/

/-- The errors have the numbers of lines that were fed. -/
theorem Fed.le_number_of_mem_errors {policy : ScanPolicy} {lines : List String} {f : Feed}
    (h : Fed policy path r number lines f) {e : LineError} (he : e ∈ f.errors) :
    number ≤ e.number := by
  induction h with
  | done | stopped => cases he
  | accepted _ _ ih => exact Nat.le_of_succ_le (ih he)
  | passed _ _ _ ih =>
      rcases List.mem_cons.mp he with rfl | hrest
      · exact le_rfl
      · exact Nat.le_of_succ_le (ih hrest)
  | ended =>
      rw [List.mem_singleton.mp he]

/-- The lines of a file without those that are reported.  The first line has the
given number. -/
def withoutErrors (errors : List LineError) (number : Nat) (lines : List String) : List String :=
  ((lines.zipIdx number).filter fun l => l.2 ∉ errors.map LineError.number).map Prod.fst

theorem withoutErrors_cons (errors : List LineError) (number : Nat) (line : String)
    (lines : List String) :
    withoutErrors errors number (line :: lines) =
      if number ∈ errors.map LineError.number then withoutErrors errors (number + 1) lines
      else line :: withoutErrors errors (number + 1) lines := by
  rw [withoutErrors, List.zipIdx_cons, List.filter_cons]
  by_cases h : number ∈ errors.map LineError.number
  · simp [h, withoutErrors]
  · simp [h, withoutErrors]

/-- An error before the first line takes no line away. -/
theorem withoutErrors_cons_error {e : LineError} (h : e.number < number)
    (errors : List LineError) (lines : List String) :
    withoutErrors (e :: errors) number lines = withoutErrors errors number lines := by
  induction lines generalizing number with
  | nil => rfl
  | cons line lines ih =>
      have hne : number ≠ e.number := Nat.ne_of_gt h
      rw [withoutErrors_cons, withoutErrors_cons, ih (Nat.lt_succ_of_lt h)]
      simp [hne]

/-- **The lines that are passed over are the refused ones.** -/
theorem Fed.withoutErrors_eq {lines : List String} {f : Feed}
    (h : Fed .skip path r number lines f) :
    withoutErrors f.errors number lines = r.acceptedLines lines := by
  induction h with
  | done => rfl
  | accepted hline hrest ih =>
      rename_i r number line lines f
      have hnumber : number ∉ f.errors.map LineError.number := by
        intro hmem
        obtain ⟨e, he, hnumber⟩ := List.mem_map.mp hmem
        exact absurd (hrest.le_number_of_mem_errors he) (by omega)
      rw [withoutErrors_cons, Reader.acceptedLines, if_pos hline, ← ih]
      exact if_neg hnumber
  | passed _ hline _ ih =>
      rw [withoutErrors_cons, Reader.acceptedLines, if_neg hline.not_accepts, ← ih,
        if_pos (by simp [Feed.after])]
      exact withoutErrors_cons_error (Nat.lt_succ_self _) _ _
  | ended _ _ hpolicy => cases hpolicy
  | stopped _ _ hpolicy => cases hpolicy

/-- **Passing over a refused line is deleting it.**  Take the file without the lines
that a scan that passes over lines reports.  Its scan from the same reader, under
any policy, reports no line, drops the same phrase, and leaves a reader that is idle
too and differs in the imports at most. -/
theorem skipped_lines_as_if_deleted {t : FileTree} {encoding : String} {lines : List String}
    (hlines : t.readLines encoding path = .ok lines) (r : Reader) :
    ∃ report, (file t .skip encoding r path).result = .ok report ∧
      (file t .skip encoding r path).reader.pending = none ∧
      ∀ (t' : FileTree) (encoding' : String) (path' : Path) (policy : ScanPolicy),
        t'.readLines encoding' path' = .ok (withoutErrors report.errors 1 lines) →
        ∃ report', (file t' policy encoding' r path').result = .ok report' ∧
          report'.errors = [] ∧ report'.discarded = report.discarded ∧
          (file t' policy encoding' r path').reader.pending = none ∧
          (file t .skip encoding r path).reader.Agrees
            (file t' policy encoding' r path').reader := by
  obtain ⟨hreader, hfinished⟩ := feed_skip path r 1 lines
  obtain ⟨hall, hagrees⟩ := Reader.agrees_readLines_acceptedLines (Reader.Agrees.refl r) lines
  rw [file_of_readLines hlines, ofLines_of_finished hfinished]
  refine ⟨_, rfl, rfl, fun t' encoding' path' policy hlines' => ?_⟩
  rw [(fed_feed .skip path r 1 lines).withoutErrors_eq] at hlines'
  rw [file_of_readLines hlines', ofLines_of_acceptsAll hall]
  refine ⟨_, rfl, rfl, ?_, rfl, ?_⟩
  · simp only [hreader, hagrees.pending]
  · simp only [hreader]
    exact ⟨rfl, hagrees.steps, hagrees.enumerations, hagrees.baseDirectories⟩

/-- An annotation without an expression and a line without a parameter list, each
between an annotation and its declaration, against the file without the two. -/
theorem broken_lines_as_if_deleted :
    let path : Path := { segments := ["a.java"] }
    let whole : FileTree :=
      { nodes := [(["a.java"],
          .file "@Given(\"^b$\")\n@When(broken)\nimport x.Color;\nvoid b(Color c)".toUTF8.toList)] }
    let left : FileTree :=
      { nodes := [(["a.java"], .file "@Given(\"^b$\")\nvoid b(Color c)".toUTF8.toList)] }
    let report : Report :=
      { files := [path]
        lines := 4
        errors := [⟨path, 2, .expression "@When(broken)"⟩,
          ⟨path, 3, .parameterList "import x.Color;"⟩] }
    whole.readLines "utf-8" path =
        .ok ["@Given(\"^b$\")", "@When(broken)", "import x.Color;", "void b(Color c)"] ∧
      (file whole .skip "utf-8" {} path).result = .ok report ∧
      left.readLines "utf-8" path = .ok (withoutErrors report.errors 1
        ["@Given(\"^b$\")", "@When(broken)", "import x.Color;", "void b(Color c)"]) ∧
      (file whole .skip "utf-8" {} path).reader.Agrees
        (file left .strict "utf-8" {} path).reader := by
  intro path whole left report
  have hlines : whole.readLines "utf-8" path =
      .ok ["@Given(\"^b$\")", "@When(broken)", "import x.Color;", "void b(Color c)"] := by
    decide +kernel
  have hreport : (file whole .skip "utf-8" {} path).result = .ok report := by decide +kernel
  have hleft : left.readLines "utf-8" path = .ok (withoutErrors report.errors 1
      ["@Given(\"^b$\")", "@When(broken)", "import x.Color;", "void b(Color c)"]) := by
    decide +kernel
  obtain ⟨report', hreport', -, hdeleted⟩ := skipped_lines_as_if_deleted hlines {}
  obtain rfl : report = report' := Except.ok.inj (hreport.symm.trans hreport')
  obtain ⟨-, -, -, -, -, hagrees⟩ := hdeleted left "utf-8" path .strict hleft
  exact ⟨hlines, hreport, hleft, hagrees⟩

end Stepbook.Scan
