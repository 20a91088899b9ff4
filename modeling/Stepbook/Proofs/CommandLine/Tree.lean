import Stepbook.Proofs.CommandLine.Modes
import Stepbook.Proofs.FileTree.Writing

/-!
# The tree that a run leaves

Whatever a command line asks for, the run of it makes directories and then writes one
file, or does the first of these only, or neither.  So it leaves a tree as file systems
have it, and all files but one as they were.

## Main definitions

* `Leaves` — a tree that a run can leave.

## Main statements

* `leaves_run` — every run leaves such a tree.
* `run_sound` — a run keeps a tree sound.
* `run_touches_one_file` — a run leaves every place but one as it was, new directories
  apart.

## Design notes

Only `leaves_run` goes through the commands.  What it says of a run is what a new
command has to keep to, and what the change of a tree by it keeps follows from that.
-/

namespace Stepbook.CommandLine

/-- A tree that a run can leave: the one that it starts with, one in which directories
have been made, or one in which a file has been written behind that. -/
inductive Leaves (t : FileTree) : FileTree → Prop where
  | same : Leaves t t
  | directories {p : Path} {grown : FileTree} (hmade : t.makeDirectories p = .ok grown) :
      Leaves t grown
  | file {p q : Path} {grown final : FileTree} {content : Bytes}
      (hmade : t.makeDirectories p = .ok grown) (hwritten : grown.write q content = .ok final) :
      Leaves t final

namespace Leaves

variable {t t' : FileTree}

/-- Directories and a file in a sound tree. -/
theorem sound (h : Leaves t t') (ht : t.Sound) : t'.Sound := by
  cases h with
  | same => exact ht
  | directories hmade => exact ht.makeDirectories hmade
  | file hmade hwritten => exact (ht.makeDirectories hmade).write hwritten

/-- Directories and a file leave what stands at other places. -/
theorem leftAt (h : Leaves t t') : ∃ place, ∀ other, other ≠ place → t.LeftAt t' other := by
  cases h with
  | same => exact ⟨[], fun other _ => .refl t other⟩
  | directories hmade =>
      have hgrown := FileTree.grown_of_makeDirectories hmade
      exact ⟨[], fun other _ => hgrown.leftAt other⟩
  | file hmade hwritten =>
      obtain ⟨-, place, -, -, -, hothers⟩ :=
        (FileTree.grown_of_makeDirectories hmade).written hwritten
      exact ⟨place, hothers⟩

end Leaves

theorem Outcome.Refused.leaves {t : FileTree} {o : Outcome} (h : o.Refused t) : Leaves t o.tree :=
  h.2 ▸ .same

/-! ## The commands -/

namespace Session

variable {s : Session}

theorem leaves_withConfig {path : Path} {next : Config → Outcome}
    (h : ∀ config, Leaves s.tree (next config).tree) :
    Leaves s.tree (s.withConfig path next).tree := by
  rcases @withConfig_cases s path next with ⟨config, -, hnext⟩ | hrefused
  · rw [hnext]
    exact h config
  · exact hrefused.leaves

theorem leaves_withScan {config : Config} {policy : ScanPolicy} {roots : List Path}
    {next : Reader → Report → Outcome}
    (h : ∀ reader report, Leaves s.tree (next reader report).tree) :
    Leaves s.tree (s.withScan config policy roots next).tree := by
  rcases @withScan_cases s config policy roots next with ⟨hroots, report, hscan⟩ | hrefused
  · rw [withScan_of_ok hroots hscan]
    exact h _ report
  · exact hrefused.leaves

theorem leaves_writeTo (file : Path) (text : String) (data : Entries) (message : String) :
    Leaves s.tree (s.writeTo file text data message).tree := by
  rw [writeTo]
  split
  · exact .same
  · rename_i grown hmade
    split
    · exact .directories hmade
    · rename_i final hwritten
      exact .file hmade hwritten

theorem leaves_init (directory : Path) : Leaves s.tree (s.init directory).tree := by
  simp only [init]
  split
  · exact .same
  · split
    · exact .same
    · exact .same
    · split
      · exact .same
      · rename_i grown hmade
        rw [Config.writeTemplate]
        cases hwritten : grown.write (directory.child Config.fileName)
            Config.template.toUTF8.toList with
        | error e => exact .directories hmade
        | ok final => exact .file hmade hwritten

theorem leaves_steps (directories : List Path) (output : Option Path) (policy : Option ScanPolicy)
    (path : Path) : Leaves s.tree (s.steps directories output policy path).tree := by
  refine leaves_withConfig fun config => leaves_withScan fun reader report => ?_
  cases targetOf output config path with
  | none => exact .same
  | some file => exact leaves_writeTo file _ _ _

theorem leaves_enums (directories : List Path) (path : Path) :
    Leaves s.tree (s.enums directories path).tree :=
  leaves_withConfig fun _ => leaves_withScan fun _ _ => .same

theorem leaves_command (command : Command) : Leaves s.tree (s.run command).tree := by
  cases command with
  | init directory => exact leaves_init directory
  | steps directories output policy path => exact leaves_steps directories output policy path
  | enums directories path => exact leaves_enums directories path

end Session

/-! ## Whole runs -/

variable {t : FileTree}

/-- **The tree that a run leaves.** -/
theorem leaves_run (t : FileTree) (arguments : List String) :
    Leaves t (run t arguments).tree := by
  cases hrequest : Request.parse arguments with
  | none =>
      rw [run, hrequest]
      exact .same
  | some request =>
      cases request with
      | about query =>
          rw [run, hrequest]
          cases query <;> exact .same
      | run switches command =>
          cases hnull : command.paths.find? Path.hasNull with
          | some path =>
              rw [run_of_null hrequest hnull]
              exact .same
          | none =>
              rw [run_of_parse hrequest hnull]
              exact (switches.session t).leaves_command command

/-- **A run keeps a tree sound.** -/
theorem run_sound (ht : t.Sound) (arguments : List String) : (run t arguments).tree.Sound :=
  (leaves_run t arguments).sound ht

/-- **A run touches one file.**  Every other place is left as it was, or becomes a
directory where there was nothing. -/
theorem run_touches_one_file (t : FileTree) (arguments : List String) :
    ∃ place, ∀ other, other ≠ place → t.LeftAt (run t arguments).tree other :=
  (leaves_run t arguments).leftAt

end Stepbook.CommandLine
