import Stepbook.Proofs.Scan.Independence
import Stepbook.Proofs.Scan.Policy

/-!
# Steps at the border between two files

A scan that comes to the end of a file drops what is pending, and so does one that
stops at a refused line.  A strict scan that ends at a refused line does not: what
awaits its declaration there stays pending, and a caller that goes on with the same
reader completes it from another file.

## Main definitions

* `Scan.BreaksOff` — a file whose first refused line comes while a step awaits its
  declaration.
* `Scan.Call` — the scan of one file, with all that it is given but the reader.
* `Scan.afterCalls` — a reader that is handed from call to call.

## Main statements

* `Scan.pending_file_iff` — the scans that leave a phrase pending.
* `Scan.steps_stay_within_files` — no step goes on in another file unless a strict
  scan broke off.
* `Scan.step_spans_files_under_strict` — one that does.

## Design notes

Each call names an encoding and brings a tree with a host of its own.  A name for which
that host has no codec, and a codec that gives up, end the call before its first line,
so they leave nothing pending.
-/

namespace Stepbook.Scan

/-! ## One file -/

section OneFile

variable {t : FileTree} {policy : ScanPolicy} {encoding : String} {path : Path}

/-- The first refused line of a file comes while a step awaits its declaration. -/
def BreaksOff (t : FileTree) (encoding : String) (path : Path) : Prop :=
  ∃ lines k, t.readLines encoding path = .ok lines ∧
    ({} : Reader).firstRefused? lines = some k ∧
    (({} : Reader).readLines (lines.take k)).pending ≠ none

/-- The lines of a strict scan leave a phrase pending if they break off. -/
theorem pending_ofLines_strict_iff (path : Path) (r : Reader) (lines : List String) :
    (ofLines .strict path r lines).reader.pending ≠ none ↔
      ∃ k, r.firstRefused? lines = some k ∧ (r.readLines (lines.take k)).pending ≠ none := by
  cases hfirst : r.firstRefused? lines with
  | none =>
      have hall : r.AcceptsAll lines := Reader.firstRefused?_eq_none_iff.mp hfirst
      have hend : (ofLines .strict path r lines).reader.pending = none := by
        rw [ofLines_of_acceptsAll hall]
        rfl
      simp only [hend, ne_eq, not_true, reduceCtorEq, false_and, exists_false]
  | some k =>
      obtain ⟨before, line, after, rfl, hbefore, hline, rfl⟩ :=
        Reader.firstRefused?_eq_some_iff.mp hfirst
      obtain ⟨cause, hrefuses⟩ := Reader.exists_refuses hline
      have hstrict := feed_strict_of_first_refused hbefore hrefuses path 1 after
      have hreader : (ofLines .strict path r (before ++ line :: after)).reader =
          r.readLines (before ++ [line]) := by
        rw [ofLines_of_failure (by rw [hstrict]), hstrict]
      have htake : (before ++ line :: after).take (before.length + 1) = before ++ [line] :=
        List.take_length_add_append 1
      simp only [hreader, Option.some.injEq, exists_eq_left', htake]

/-- **The scans that leave a phrase pending** are the strict ones of a file that
breaks off, whatever the idle reader held before. -/
theorem pending_file_iff {r : Reader} (hidle : r.pending = none) :
    (file t policy encoding r path).reader.pending ≠ none ↔
      policy = .strict ∧ BreaksOff t encoding path := by
  have halone : (file t policy encoding r path).reader.pending =
      (file t policy encoding {} path).reader.pending := by
    rw [(file_of_idle t policy encoding path hidle).1, Reader.join_pending]
  rw [halone]
  cases hlines : t.readLines encoding path with
  | error failure =>
      have hunread : ¬ BreaksOff t encoding path := by
        rintro ⟨lines, k, hread, -⟩
        cases hlines.symm.trans hread
      simp [file, hlines, hunread]
  | ok lines =>
      have hbreaks : BreaksOff t encoding path ↔
          ∃ k, ({} : Reader).firstRefused? lines = some k ∧
            (({} : Reader).readLines (lines.take k)).pending ≠ none := by
        simp only [BreaksOff, hlines, Except.ok.injEq, exists_and_left, exists_eq_left']
      rw [file_of_readLines hlines, hbreaks]
      by_cases hpolicy : policy = .strict
      · rw [hpolicy, pending_ofLines_strict_iff]
        exact ⟨fun h => ⟨rfl, h⟩, And.right⟩
      · have hend := (fed_feed policy path {} 1 lines).failure_eq_none hpolicy
        rw [ofLines_of_finished hend]
        simp [hpolicy, Reader.discard]

end OneFile

/-! ## Several calls -/

/-- The scan of one file, with all that it is given but the reader. -/
structure Call where
  tree : FileTree
  policy : ScanPolicy
  encoding : String := "utf-8"
  path : Path

namespace Call

/-- The scan, by a given reader. -/
def scan (c : Call) (r : Reader) : Scan Report := file c.tree c.policy c.encoding r c.path

/-- A strict scan of a file that breaks off. -/
def LeavesPending (c : Call) : Prop :=
  c.policy = .strict ∧ BreaksOff c.tree c.encoding c.path

theorem pending_scan_eq_none_iff (c : Call) {r : Reader} (hidle : r.pending = none) :
    (c.scan r).reader.pending = none ↔ ¬ c.LeavesPending := by
  have hpending : (c.scan r).reader.pending ≠ none ↔ c.LeavesPending := pending_file_iff hidle
  rw [← hpending, not_not]

end Call

/-- A reader that is handed from call to call, whether or not a call fails. -/
def afterCalls (r : Reader) (calls : List Call) : Reader :=
  calls.foldl (fun r c => (c.scan r).reader) r

/-- Calls of which none leaves a phrase pending, from an idle reader. -/
theorem afterCalls_of_idle {r : Reader} {calls : List Call} (hidle : r.pending = none)
    (h : ∀ c ∈ calls, ¬ c.LeavesPending) :
    (afterCalls r calls).pending = none ∧
      (afterCalls r calls).steps =
        r.steps ++ calls.flatMap fun c => (c.scan {}).reader.steps := by
  induction calls generalizing r with
  | nil => exact ⟨hidle, (List.append_nil _).symm⟩
  | cons c calls ih =>
      have hnext : (c.scan r).reader.pending = none :=
        (c.pending_scan_eq_none_iff hidle).mpr (h c List.mem_cons_self)
      obtain ⟨hend, hsteps⟩ := ih hnext fun c hc => h c (List.mem_cons_of_mem _ hc)
      have hfirst : (c.scan r).reader.steps = r.steps ++ (c.scan {}).reader.steps := by
        exact congrArg Reader.steps (file_of_idle c.tree c.policy c.encoding c.path hidle).1
      refine ⟨hend, ?_⟩
      rw [List.flatMap_cons, ← List.append_assoc, ← hfirst]
      exact hsteps

/-- **A step goes on in another file only behind a strict scan that broke off.**
After a call the reader is idle again unless the call is strict and its file breaks
off, whether or not the call fails otherwise.  If no call is of that kind, a fresh
reader that is handed from call to call has at the end the steps that each file
gives alone. -/
theorem steps_stay_within_files (calls : List Call) :
    (∀ c ∈ calls, ∀ r : Reader, r.pending = none →
      ((c.scan r).reader.pending = none ↔ ¬ c.LeavesPending)) ∧
    ((∀ c ∈ calls, ¬ c.LeavesPending) →
      (afterCalls {} calls).pending = none ∧
        (afterCalls {} calls).steps = calls.flatMap fun c => (c.scan {}).reader.steps) := by
  constructor
  · intro c _ r hidle
    exact c.pending_scan_eq_none_iff hidle
  · intro hcalls
    obtain ⟨hend, hsteps⟩ := afterCalls_of_idle (r := {}) rfl hcalls
    exact ⟨hend, hsteps⟩

/-- A strict scan that fails at an annotation, a file that is not there, and one that
ends with an annotation, before a file that starts with a declaration. -/
theorem failed_calls_stay_within_files :
    let t : FileTree :=
      { nodes := [(["a.java"], .file "@Given(\"^a$\")\nvoid a()\n@When(broken)".toUTF8.toList),
          (["b.java"], .file "@Given(\"^b$\")".toUTF8.toList),
          (["c.java"], .file "void c()\n@Given(\"^c$\")\nvoid c()".toUTF8.toList)] }
    let calls : List Call :=
      [{ tree := t, policy := .strict, path := { segments := ["a.java"] } },
        { tree := t, policy := .strict, path := { segments := ["gone.java"] } },
        { tree := t, policy := .strict, path := { segments := ["b.java"] } },
        { tree := t, policy := .abort, path := { segments := ["c.java"] } }]
    (∀ c ∈ calls, ¬ c.LeavesPending) ∧ (afterCalls {} calls).pending = none ∧
      calls.flatMap (fun c => (c.scan {}).reader.steps) = [⟨"a", []⟩, ⟨"c", []⟩] ∧
      (afterCalls {} calls).steps = [⟨"a", []⟩, ⟨"c", []⟩] := by
  intro t calls
  obtain ⟨hidle, hwithin⟩ := steps_stay_within_files calls
  have hcalls : ∀ c ∈ calls, (c.scan {}).reader.pending = none := by decide +kernel
  have hleaves : ∀ c ∈ calls, ¬ c.LeavesPending := fun c hc =>
    (hidle c hc {} rfl).mp (hcalls c hc)
  have hsteps : calls.flatMap (fun c => (c.scan {}).reader.steps) = [⟨"a", []⟩, ⟨"c", []⟩] := by
    decide +kernel
  exact ⟨hleaves, (hwithin hleaves).1, hsteps, (hwithin hleaves).2.trans hsteps⟩

/-- A strict scan that breaks off, and a file that starts with a declaration: each
file alone gives no step, and both give one. -/
theorem step_spans_files_under_strict :
    let t : FileTree :=
      { nodes := [(["a.java"], .file "@Given(\"^a$\")\nbroken".toUTF8.toList),
          (["b.java"], .file "void b()".toUTF8.toList)] }
    let first : Call := { tree := t, policy := .strict, path := { segments := ["a.java"] } }
    let second : Call := { tree := t, policy := .strict, path := { segments := ["b.java"] } }
    (first.scan {}).result = .error (.refused (.malformed (.parameterList "broken"))) ∧
      (first.scan {}).reader.pending = some "a" ∧ (first.scan {}).reader.steps = [] ∧
      (second.scan {}).reader.steps = [] ∧
      (afterCalls {} [first, second]).steps = [⟨"a", []⟩] := by
  decide +kernel

end Stepbook.Scan
