import Stepbook.Proofs.Reader.Accounting
import Stepbook.Proofs.Scan.Files

/-!
# A scan is a run of moves

A scan does nothing to its reader but make moves: it adds the source roots, feeds
lines and drops what is pending.  So what holds of every run of moves holds of the
reader that a scan leaves, also if the scan fails.

## Main definitions

* `Reader.Reached` — a reader that some moves lead to.

## Main statements

* `Scan.reached_directories` — the reader that a scan leaves.
* `Scan.enumerations_directories` — the enumeration types that a scan records.
-/

namespace Stepbook

namespace Reader

/-- A reader that some moves from the start lead to. -/
def Reached (r : Reader) : Prop := ∃ moves, run {} moves = r

namespace Reached

variable {r : Reader}

theorem start : Reached {} := ⟨[], rfl⟩

theorem move (h : r.Reached) (m : Move) : (r.move m).Reached := by
  obtain ⟨moves, rfl⟩ := h
  exact ⟨moves ++ [m], run_append _ _ _⟩

/-- The enumeration types are those of the steps. -/
theorem enumerations (h : r.Reached) :
    r.registry.enumerations = (r.steps.flatMap Step.typeNames).eraseDups := by
  obtain ⟨moves, rfl⟩ := h
  exact (accounted_run moves).enumerations

end Reached

end Reader

namespace Scan

variable {t : FileTree} {policy : ScanPolicy} {encoding : String} {r : Reader}

/-- Feeding a line is a move, and so is dropping what is pending. -/
theorem invariant_reached : Invariant Reader.Reached :=
  ⟨fun _ line _ h => h.move (.line line), fun _ h => h.move .discard⟩

/-- **The reader that a scan leaves is one that some moves lead to**, whether or not
the scan fails. -/
theorem reached_directories (h : r.Reached) (suffixes : List String) (roots : List Path) :
    (directories t suffixes policy encoding r roots).reader.Reached :=
  invariant_reached.directories (fun _ root hr => hr.move (.addDirectory root)) h suffixes roots

/-- **The enumeration types that a scan records** are the first occurrences among
those of its steps. -/
theorem enumerations_directories (t : FileTree) (suffixes : List String) (policy : ScanPolicy)
    (encoding : String) (roots : List Path) :
    let final := (directories t suffixes policy encoding {} roots).reader
    final.registry.enumerations = (final.steps.flatMap Step.typeNames).eraseDups :=
  (reached_directories .start suffixes roots).enumerations

end Scan

end Stepbook
