import Stepbook.Proofs.Reader.Lines
import Stepbook.Scan.File

/-!
# Feeding the lines of a file

The policy matters only at a line that is refused.  Accepted lines are fed the same
way under each policy, and at the first refused line each policy does one thing:
it ends the file, passes over the line, or ends the scan.

## Main definitions

* `Scan.Fed` — what feeding lines comes to, line by line.

## Main statements

* `Scan.feed_of_acceptsAll`, `Scan.feed_append` — accepted lines.
* `Scan.feed_abort_of_refused`, `Scan.feed_skip_of_refused`,
  `Scan.feed_strict_of_refused` — a refused line under each policy.
* `Scan.fed_feed` — each line that is fed; the facts on feeding go by induction on this.
* `Scan.Fed.reader_eq`, `Scan.feed_skip` — what was fed in all.
* `Scan.ofLines_of_finished`, `Scan.ofLines_of_failure` — the two ends of a file.
-/

namespace Stepbook.Scan

variable {policy : ScanPolicy} {path : Path} {r : Reader} {number : Nat} {line : String}

/-! ## Accepted lines -/

theorem feed_cons_of_accepts (h : r.Accepts line) (lines : List String) :
    feed policy path r number (line :: lines) =
      (feed policy path (r.readLine line).reader (number + 1) lines).after
        (r.readLine line).events [] := by
  rw [feed, show (r.readLine line).failure = none from h]

/-- Lines that are all accepted count and leave their events behind, before the
other lines are fed. -/
theorem feed_append {before : List String} (h : r.AcceptsAll before) (policy : ScanPolicy)
    (path : Path) (number : Nat) (lines : List String) :
    feed policy path r number (before ++ lines) =
      let f := feed policy path (r.readLines before) (number + before.length) lines
      { f with count := before.length + f.count, log := r.lineEvents before ++ f.log } := by
  induction before generalizing r number with
  | nil => simp [Reader.lineEvents]
  | cons line before ih =>
      rw [List.cons_append, feed_cons_of_accepts h.1, ih h.2]
      simp only [Feed.after, Reader.readLines_cons, Reader.lineEvents, List.length_cons,
        List.nil_append, List.append_assoc, Feed.mk.injEq]
      rw [Nat.add_assoc number, Nat.add_comm 1]
      exact ⟨rfl, by omega, rfl, rfl, rfl⟩

/-- **Accepted lines are fed the same way under each policy.** -/
theorem feed_of_acceptsAll {lines : List String} (h : r.AcceptsAll lines) (policy : ScanPolicy)
    (path : Path) (number : Nat) :
    feed policy path r number lines =
      { reader := r.readLines lines, count := lines.length, log := r.lineEvents lines } := by
  have happend := feed_append h policy path number []
  rw [List.append_nil] at happend
  rw [happend]
  simp [feed]

/-! ## A refused line -/

section Refused

variable {cause : Malformed}

/-- The first refused line ends the file. -/
theorem feed_abort_of_refused (h : r.Refuses line cause) (lines : List String) :
    feed .abort path r number (line :: lines) =
      { reader := r.noteImport line
        count := 1
        errors := [⟨path, number, cause⟩]
        log := [.malformedLine path number cause] } := by
  rw [feed, Reader.readLine_of_refuses h]
  rfl

/-- A refused line is passed over. -/
theorem feed_skip_of_refused (h : r.Refuses line cause) (lines : List String) :
    feed .skip path r number (line :: lines) =
      (feed .skip path (r.noteImport line) (number + 1) lines).after
        [.malformedLine path number cause] [⟨path, number, cause⟩] := by
  rw [feed, Reader.readLine_of_refuses h]
  rfl

/-- The first refused line ends the scan. -/
theorem feed_strict_of_refused (h : r.Refuses line cause) (lines : List String) :
    feed .strict path r number (line :: lines) =
      { reader := r.noteImport line, count := 1, failure := some (.malformed cause) } := by
  rw [feed, Reader.readLine_of_refuses h]

end Refused

/-! ## What feeding comes to -/

/-- What feeding the lines of a file comes to, line by line. -/
inductive Fed (policy : ScanPolicy) (path : Path) : Reader → Nat → List String → Feed → Prop where
  /-- No line is left. -/
  | done (r : Reader) (number : Nat) : Fed policy path r number [] { reader := r }
  /-- A line is accepted. -/
  | accepted {r : Reader} {number : Nat} {line : String} {lines : List String} {f : Feed}
      (hline : r.Accepts line)
      (hrest : Fed policy path (r.readLine line).reader (number + 1) lines f) :
      Fed policy path r number (line :: lines) (f.after (r.readLine line).events [])
  /-- A refused line is passed over. -/
  | passed {r : Reader} {number : Nat} {line : String} {cause : Malformed} {lines : List String}
      {f : Feed} (hpolicy : policy = .skip) (hline : r.Refuses line cause)
      (hrest : Fed policy path (r.readLine line).reader (number + 1) lines f) :
      Fed policy path r number (line :: lines)
        (f.after [.malformedLine path number cause] [⟨path, number, cause⟩])
  /-- A refused line ends the file. -/
  | ended {r : Reader} {line : String} {cause : Malformed} (number : Nat) (lines : List String)
      (hpolicy : policy = .abort) (hline : r.Refuses line cause) :
      Fed policy path r number (line :: lines)
        { reader := (r.readLine line).reader
          count := 1
          errors := [⟨path, number, cause⟩]
          log := [.malformedLine path number cause] }
  /-- A refused line ends the scan. -/
  | stopped {r : Reader} {line : String} {cause : Malformed} (number : Nat) (lines : List String)
      (hpolicy : policy = .strict) (hline : r.Refuses line cause) :
      Fed policy path r number (line :: lines)
        { reader := (r.readLine line).reader, count := 1, failure := some (.malformed cause) }

/-- **Each line that is fed** is accepted, or it is refused and treated as the policy
says. -/
theorem fed_feed (policy : ScanPolicy) (path : Path) (r : Reader) (number : Nat)
    (lines : List String) :
    Fed policy path r number lines (feed policy path r number lines) := by
  induction lines generalizing r number with
  | nil => exact .done r number
  | cons line lines ih =>
      by_cases hline : r.Accepts line
      · rw [feed_cons_of_accepts hline]
        exact .accepted hline (ih _ _)
      · obtain ⟨cause, hrefuses⟩ := Reader.exists_refuses hline
        have hread : (r.readLine line).reader = r.noteImport line := by
          rw [Reader.readLine_of_refuses hrefuses]
        cases policy with
        | abort =>
            rw [feed_abort_of_refused hrefuses, ← hread]
            exact .ended number lines rfl hrefuses
        | skip =>
            rw [feed_skip_of_refused hrefuses, ← hread]
            exact .passed rfl hrefuses (ih _ _)
        | strict =>
            rw [feed_strict_of_refused hrefuses, ← hread]
            exact .stopped number lines rfl hrefuses

namespace Fed

variable {lines : List String} {f : Feed}

/-- What was fed is what the count says, whatever the policy. -/
theorem reader_eq (h : Fed policy path r number lines f) :
    f.reader = r.readLines (lines.take f.count) := by
  induction h with
  | done r number => rfl
  | accepted _ _ ih => exact ih
  | passed _ _ _ ih => exact ih
  | ended | stopped => rfl

/-- Only a strict scan ends before its file does: the other policies settle every
refused line. -/
theorem failure_eq_none (h : Fed policy path r number lines f) (hpolicy : policy ≠ .strict) :
    f.failure = none := by
  induction h with
  | done | ended => rfl
  | accepted _ _ ih => exact ih
  | passed _ _ _ ih => exact ih
  | stopped _ _ hstrict => exact absurd hstrict hpolicy

/-- A scan that passes over refused lines feeds all lines. -/
theorem count_of_skip (h : Fed .skip path r number lines f) : f.count = lines.length := by
  induction h with
  | done r number => rfl
  | accepted _ _ ih => exact congrArg (· + 1) ih
  | passed _ _ _ ih => exact congrArg (· + 1) ih
  | ended _ _ hpolicy => cases hpolicy
  | stopped _ _ hpolicy => cases hpolicy

end Fed

/-- A scan that passes over refused lines reads all lines. -/
theorem feed_skip (path : Path) (r : Reader) (number : Nat) (lines : List String) :
    (feed .skip path r number lines).reader = r.readLines lines ∧
      (feed .skip path r number lines).failure = none := by
  have hfed := fed_feed .skip path r number lines
  refine ⟨?_, hfed.failure_eq_none (by decide)⟩
  rw [hfed.reader_eq, hfed.count_of_skip, List.take_length]

/-! ## Files -/

/-- A file that is fed to its end. -/
theorem ofLines_of_finished {lines : List String}
    (h : (feed policy path r 1 lines).failure = none) :
    ofLines policy path r lines =
      let f := feed policy path r 1 lines
      { reader := f.reader.discard
        log := f.log ++ f.reader.pending.toList.map (.stepDropped path)
        result := .ok ⟨[path], f.count, f.errors, f.reader.pending.toList⟩ } := by
  rw [ofLines, h]

/-- A file that ends the scan. -/
theorem ofLines_of_failure {lines : List String} {failure : Reader.LineFailure}
    (h : (feed policy path r 1 lines).failure = some failure) :
    ofLines policy path r lines =
      let f := feed policy path r 1 lines
      { reader := f.reader, log := f.log, result := .error (.refused failure) } := by
  rw [ofLines, h]

theorem file_of_readLines {t : FileTree} {encoding : String} {lines : List String}
    (h : t.readLines encoding path = .ok lines) (policy : ScanPolicy) (r : Reader) :
    file t policy encoding r path = ofLines policy path r lines := by
  rw [file, h]

end Stepbook.Scan
