import Stepbook.CommandLine.Run
import Stepbook.Proofs.CommandLine.Options

/-!
# The two ways to report

With the switch for JSON a run writes other texts, and nothing else changes: it reads
the same, fails where it fails without, and ends with the same exit code.  Whether a
file can be written does not hang on the text for it.

## Main definitions

* `Outcome.Refused` — a run that fails before it has written anything.
* `Session.inMode` — the same session with another way to report.
* `Switches.session` — the session of a run with some switches.

## Main statements

* `Session.withConfig_cases`, `Session.withScan_cases` — a command that goes on, or is
  refused.
* `Session.withScan_of_ok` — a command that goes on behind its scan.
* `Session.exit_run_inMode` — the exit code of a command.
* `run_of_parse`, `run_of_null` — the run of a command line that asks for a command.
* `exit_run_json` — the exit code of a run with the switch for JSON.
-/

namespace Stepbook.CommandLine

open Stepbook.Console (Mode)

@[simp] theorem Outcome.exit_written (t : FileTree) (exit : Nat) (o : Console.Output) :
    (Outcome.written t exit o).exit = exit := rfl

@[simp] theorem Outcome.exit_behind (log : String) (o : Outcome) :
    (o.behind log).exit = o.exit := rfl

@[simp] theorem Outcome.stdout_behind (log : String) (o : Outcome) :
    (o.behind log).stdout = o.stdout := rfl

@[simp] theorem Outcome.tree_behind (log : String) (o : Outcome) :
    (o.behind log).tree = o.tree := rfl

/-- A run that fails before it has written anything. -/
def Outcome.Refused (t : FileTree) (o : Outcome) : Prop := o.exit = 1 ∧ o.tree = t

namespace Session

variable (s : Session) (mode : Mode)

/-- The same session with another way to report. -/
def inMode : Session := { s with mode := mode }

@[simp] theorem inMode_tree : (s.inMode mode).tree = s.tree := rfl

/-! ## What commands have in common -/

variable {s mode}

/-- The configuration is the same, and so is the exit code where it cannot be used. -/
theorem exit_withConfig {path : Path} {next next' : Config → Outcome}
    (h : ∀ config, (next' config).exit = (next config).exit) :
    ((s.inMode mode).withConfig path next').exit = (s.withConfig path next).exit := by
  simp only [withConfig, inMode_tree]
  cases Config.load s.tree path with
  | ok config => exact h config
  | error failure => by_cases hmistake : failure.isMistake = true <;> simp [hmistake, fail]

/-- A command goes on with a sound configuration.  Or else it is refused. -/
theorem withConfig_cases {path : Path} {next : Config → Outcome} :
    (∃ config, Config.load s.tree path = .ok config ∧ s.withConfig path next = next config) ∨
      (s.withConfig path next).Refused s.tree := by
  simp only [withConfig]
  cases Config.load s.tree path with
  | ok config => exact .inl ⟨config, rfl, rfl⟩
  | error failure =>
      right
      by_cases hmistake : failure.isMistake = true
      · simp only [if_pos hmistake]
        exact ⟨rfl, rfl⟩
      · simp only [if_neg hmistake]
        exact ⟨rfl, rfl⟩

/-- The scan is the same, and so is the exit code where it fails. -/
theorem exit_withScan {config : Config} {policy : ScanPolicy} {roots : List Path}
    {next next' : Reader → Report → Outcome}
    (h : ∀ reader report, (next' reader report).exit = (next reader report).exit) :
    ((s.inMode mode).withScan config policy roots next').exit =
      (s.withScan config policy roots next).exit := by
  simp only [withScan, inMode_tree]
  by_cases hroots : roots.isEmpty = true
  · rw [if_pos hroots, if_pos hroots]
    rfl
  · rw [if_neg hroots, if_neg hroots]
    simp only [Outcome.exit_behind]
    cases (Scan.directories s.tree config.sources.suffixes policy config.sources.encoding {}
        roots).result with
    | ok report => exact h _ report
    | error failure => by_cases hglue : failure.concernsGlueCode = true <;> simp [hglue, fail]

section Scanning

variable {config : Config} {policy : ScanPolicy} {roots : List Path}
variable {next : Reader → Report → Outcome}

/-- What comes behind a scan that gives a report. -/
theorem withScan_of_ok {report : Report} (hroots : roots ≠ [])
    (hscan : (Scan.directories s.tree config.sources.suffixes policy config.sources.encoding {}
      roots).result = .ok report) :
    s.withScan config policy roots next =
      let scan := Scan.directories s.tree config.sources.suffixes policy config.sources.encoding {}
        roots
      (next scan.reader report).behind (s.logText scan.log) := by
  have hgiven : ¬ roots.isEmpty = true := by simpa using hroots
  simp only [withScan, if_neg hgiven, hscan]

/-- A command goes on behind its scan if there are source roots and the scan gives a
report.  Or else it is refused. -/
theorem withScan_cases :
    (roots ≠ [] ∧ ∃ report, (Scan.directories s.tree config.sources.suffixes policy
      config.sources.encoding {} roots).result = .ok report) ∨
      (s.withScan config policy roots next).Refused s.tree := by
  unfold withScan
  by_cases hroots : roots.isEmpty = true
  · rw [if_pos hroots]
    exact .inr ⟨rfl, rfl⟩
  · rw [if_neg hroots]
    cases hresult : (Scan.directories s.tree config.sources.suffixes policy
        config.sources.encoding {} roots).result with
    | ok report => exact .inl ⟨by simpa using hroots, report, rfl⟩
    | error failure =>
        right
        simp only [Outcome.Refused, Outcome.exit_behind, Outcome.tree_behind, hresult]
        by_cases hglue : failure.concernsGlueCode = true
        · rw [if_pos hglue]
          exact ⟨rfl, rfl⟩
        · rw [if_neg hglue]
          exact ⟨rfl, rfl⟩

end Scanning

/-- Whether a file can be written does not hang on what is written. -/
theorem exit_writeTo (s s' : Session) (htree : s'.tree = s.tree) (target : Path)
    (text text' : String) (data data' : Entries) (message message' : String) :
    (s'.writeTo target text' data' message').exit = (s.writeTo target text data message).exit := by
  simp only [writeTo, htree]
  cases s.tree.makeDirectories target.parent with
  | error e => rfl
  | ok grown =>
      simp only [FileTree.write]
      cases grown.locate target with
      | ok place => by_cases hplace : grown.node? place = some .directory <;> simp [hplace]
      | error kind =>
          cases kind with
          | notFound => cases grown.freePlace target <;> rfl
          | _ => rfl

/-! ## Exit codes -/

theorem exit_init (directory : Path) :
    ((s.inMode mode).init directory).exit = (s.init directory).exit := by
  by_cases hfile : s.tree.isFile directory = true
  · simp only [init, inMode_tree, hfile, if_true]
  · simp only [init, inMode_tree, hfile, Bool.false_eq_true, if_false]
    cases s.tree.lookUp (directory.child Config.fileName) with
    | error e => rfl
    | ok node =>
        cases node with
        | some node => rfl
        | none =>
            dsimp only
            cases s.tree.makeDirectories directory with
            | error e => rfl
            | ok grown =>
                dsimp only
                cases Config.writeTemplate grown directory <;> rfl

theorem exit_steps (directories : List Path) (output : Option Path) (policy : Option ScanPolicy)
    (path : Path) :
    ((s.inMode mode).steps directories output policy path).exit =
      (s.steps directories output policy path).exit := by
  refine exit_withConfig fun config => exit_withScan fun reader report => ?_
  cases targetOf output config path with
  | none => rfl
  | some target => exact exit_writeTo s (s.inMode mode) rfl target _ _ _ _ _ _

theorem exit_enums (directories : List Path) (path : Path) :
    ((s.inMode mode).enums directories path).exit = (s.enums directories path).exit :=
  exit_withConfig fun _ => exit_withScan fun _ _ => rfl

/-- **The exit code of a command** does not hang on the way to report. -/
theorem exit_run_inMode (command : Command) :
    ((s.inMode mode).run command).exit = (s.run command).exit := by
  cases command with
  | init directory => exact exit_init directory
  | steps directories output policy path => exact exit_steps directories output policy path
  | enums directories path => exact exit_enums directories path

end Session

/-! ## Whole runs -/

/-- The session of a run with some switches. -/
def Switches.session (t : FileTree) (switches : Switches) : Session where
  tree := t
  mode := if switches.json then .json else .plain
  verbosity := (LogStyle.ofSwitches switches.verbose switches.quiet switches.noColour).verbosity

/-- The switch for JSON changes the way to report only. -/
theorem session_withJson (t : FileTree) (switches : Switches) :
    switches.withJson.session t = (switches.session t).inMode .json := rfl

section Parse

variable {t : FileTree} {arguments : List String} {switches : Switches} {command : Command}

/-- A run of a command. -/
theorem run_of_parse (h : Request.parse arguments = some (.run switches command))
    (hnull : command.paths.find? Path.hasNull = none) :
    run t arguments = (switches.session t).run command := by
  rw [run, h]
  simp only [hnull]
  rfl

/-- A run of a command with a null character in a path. -/
theorem run_of_null {path : Path} (h : Request.parse arguments = some (.run switches command))
    (hnull : command.paths.find? Path.hasNull = some path) :
    run t arguments = .crashed t (.file ⟨.nullCharacter, path⟩) := by
  rw [run, h]
  simp only [hnull]

end Parse

/-- **The exit code of a run** does not hang on the switch for JSON. -/
theorem exit_run_json (t : FileTree) {before : List String} (h : ∀ a ∈ before, IsOption a)
    (arguments : List String) :
    (run t (before ++ "--json" :: arguments)).exit = (run t (before ++ arguments)).exit := by
  have hparse := Request.parse_json h arguments
  cases hrequest : Request.parse (before ++ arguments) with
  | none =>
      rw [hrequest, Option.map_none] at hparse
      simp only [run, hparse, hrequest]
  | some request =>
      rw [hrequest, Option.map_some] at hparse
      cases request with
      | about query =>
          have hsame : Request.withJson (.about query) = .about query := rfl
          simp only [run, hparse, hrequest, hsame]
      | run switches command =>
          have hjson : Request.withJson (.run switches command) =
              .run switches.withJson command := rfl
          rw [hjson] at hparse
          cases hnull : command.paths.find? Path.hasNull with
          | some path => rw [run_of_null hparse hnull, run_of_null hrequest hnull]
          | none =>
              rw [run_of_parse hparse hnull, run_of_parse hrequest hnull, session_withJson]
              exact Session.exit_run_inMode command

end Stepbook.CommandLine
