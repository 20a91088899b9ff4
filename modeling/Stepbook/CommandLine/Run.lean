import Stepbook.CommandLine.Command
import Stepbook.Console
import Stepbook.Console.Control
import Stepbook.Scan.Directories
import Stepbook.Step.Script

/-!
# Running a command

A run starts with the arguments and the file tree.  It ends with an exit code,
what was written to the two output streams, and the file tree as the run leaves
it.

## Main definitions

* `Outcome` — the end of a run.
* `Crash` — an error that no command answers for.
* `run` — the run of a command line.

## Design notes

A command reads everything before it writes anything: the only changes to the
tree are the directories and the one file that a command writes at its end.
-/

namespace Stepbook.CommandLine

open Stepbook.Console (Mode)

/-- An error that no command answers for. -/
inductive Crash where
  | file (error : FileError)
  | scan (failure : ScanFailure)
  | config (failure : ConfigFailure)

/-- The message of a crash. -/
def Crash.message : Crash → String
  | file e => e.message
  | scan f => f.message
  | config f => f.detail

/-- The end of a run. -/
structure Outcome where
  exit : Nat := 0
  stdout : String := ""
  stderr : String := ""
  crash : Option Crash := none
  /-- The file tree as the run leaves it. -/
  tree : FileTree

namespace Outcome

/-- A run that goes no further than its arguments. -/
def usage (t : FileTree) : Outcome :=
  { exit := 2, tree := t
    stderr := "Usage: gherkin-builder [OPTIONS] COMMAND [ARGS]...\n" }

/-- The end of a run after some output. -/
def written (t : FileTree) (exit : Nat) (o : Console.Output) : Outcome :=
  { exit := exit, stdout := o.stdout, stderr := o.console, tree := t }

/-- The end of a run by a crash. -/
def crashed (t : FileTree) (c : Crash) : Outcome := { exit := 1, crash := some c, tree := t }

/-- An outcome with log lines before its own. -/
def behind (log : String) (o : Outcome) : Outcome := { o with stderr := log ++ o.stderr }

end Outcome

/-- What the commands have in common: the tree and how to report. -/
structure Session where
  tree : FileTree
  mode : Mode
  verbosity : Verbosity

namespace Session

/-- The shown log lines of a list of events. -/
def logText (s : Session) (log : List Event) : String :=
  String.join ((log.filter s.verbosity.shows).map Console.logLine)

/-- End the run with a failure message. -/
def fail (s : Session) (message : String) (data : Entries := []) : Outcome :=
  .written s.tree 1 (Console.error s.mode message data)

/-! ### Scanning -/

/-- Go on with the configuration in a file. -/
def withConfig (s : Session) (path : Path) (next : Config → Outcome) : Outcome :=
  match Config.load s.tree path with
  | .ok config => next config
  | .error failure =>
    if failure.isMistake then
      s.fail ("Invalid config " ++ path.toString ++ ": " ++ failure.detail)
    else .crashed s.tree (.config failure)

/-- The source roots to scan: the given ones, or else the configured ones, which
are seen from the directory of the configuration file. -/
def rootsOf (given : List Path) (config : Config) (path : Path) : List Path :=
  if given.isEmpty then config.roots path.parent else given

/-- Scan source roots and go on with what was found. -/
def withScan (s : Session) (config : Config) (policy : ScanPolicy) (roots : List Path)
    (next : Reader → Report → Outcome) : Outcome :=
  if roots.isEmpty then s.fail "No glue code directories given or configured"
  else
    let scan := Scan.directories s.tree config.sources.suffixes policy config.sources.encoding {}
      roots
    let ending :=
      match scan.result with
      | .ok report => next scan.reader report
      | .error failure =>
        if failure.concernsGlueCode then s.fail failure.message
        else .crashed s.tree (.scan failure)
    ending.behind (s.logText scan.log)

/-! ### The commands -/

/-- Write a configuration file into a directory.  An argument that names a file
makes no sense. -/
def init (s : Session) (directory : Path) : Outcome :=
  let path := directory.child Config.fileName
  let data : Entries := [("path", .text path.toString)]
  if s.tree.isFile directory then .usage s.tree
  else
    match s.tree.lookUp path with
    | .error e => .crashed s.tree (.file e)
    | .ok (some _) => s.fail ("Config already exists: " ++ path.toString) data
    | .ok none =>
      match s.tree.makeDirectories directory with
      | .error e => .crashed s.tree (.file e)
      | .ok grown =>
        match Config.writeTemplate grown directory with
        | .error e => .crashed grown (.file e)
        | .ok (_, final) =>
          .written final 0
            (Console.success s.mode ("Created config template: " ++ path.toString) data)

/-- The record of the steps found, for other programs. -/
def stepsData (reader : Reader) (report : Report) : Data :=
  .table
    [("steps", .array (reader.steps.map Step.toData)),
     ("enumerations", .array (reader.registry.enumerations.map .text)),
     ("class_includes", .array (reader.registry.classIncludes.map .text)),
     ("files", .integer report.files.length),
     ("errors", .integer report.errors.length)]

/-- The text that the steps are written as. -/
def stepsText (s : Session) (format : OutputFormat) (reader : Reader) (report : Report) : String :=
  if s.mode = .json ∨ format = .json then Json.render (stepsData reader report)
  else Step.scriptOf reader.steps

/-- The file for the steps: the given one, or else the configured one, which is
seen from the directory of the configuration file. -/
def targetOf (given : Option Path) (config : Config) (path : Path) : Option Path :=
  given.or <|
    match config.output.path with
    | none | some "" => none
    | some p => some (path.parent.join (.ofString p))

/-- Write a text to a file, with the directories above it. -/
def writeTo (s : Session) (target : Path) (text : String) (data : Entries) (message : String) :
    Outcome :=
  match s.tree.makeDirectories target.parent with
  | .error e => .crashed s.tree (.file e)
  | .ok grown =>
    match grown.write target text.toUTF8.toList with
    | .error e => .crashed grown (.file e)
    | .ok final => .written final 0 (Console.success s.mode message data)

/-- Write the steps found below some directories. -/
def steps (s : Session) (directories : List Path) (output : Option Path)
    (policy : Option ScanPolicy) (path : Path) : Outcome :=
  s.withConfig path fun config =>
    s.withScan config (policy.getD config.sources.onError) (rootsOf directories config path)
      fun reader report =>
        let text := s.stepsText config.output.format reader report ++ "\n"
        match targetOf output config path with
        | none => .written s.tree 0 { stdout := String.ofList (Console.Control.strip text.toList) }
        | some target =>
          let count := reader.steps.length
          s.writeTo target text
            [("path", .text target.toString), ("steps", .integer count),
             ("errors", .integer report.errors.length)]
            ("Wrote " ++ toString count ++ " step(s) to " ++ target.toString)

/-- The line that lists an enumeration type. -/
def enumLine (registry : Registry) (name : String) : Console.Output :=
  let declaration :=
    match registry.qualifiedName? name with
    | some qualified => Console.styled "dim" (Console.Markup.escape qualified.toList)
    | none => Console.styled "yellow" "(no import found)".toList
  Console.line (Console.Markup.escape name.toList ++ ' ' :: ' ' :: declaration)

/-- List the enumeration types found below some directories. -/
def enums (s : Session) (directories : List Path) (path : Path) : Outcome :=
  s.withConfig path fun config =>
    s.withScan config config.sources.onError (rootsOf directories config path) fun reader _ =>
      let registry := reader.registry
      .written s.tree 0 <|
        match s.mode, registry.enumerations with
        | .json, _ => Console.printData .json registry.toData
        | .plain, [] => Console.line (Console.styled "yellow" "No enumeration types found".toList)
        | .plain, names => names.foldl (fun o name => o ++ enumLine registry name) {}

/-- Run a command. -/
def run (s : Session) : Command → Outcome
  | .init directory => s.init directory
  | .steps directories output policy config => s.steps directories output policy config
  | .enums directories config => s.enums directories config

end Session

/-- The version line. -/
def versionLine : String := "gherkin-builder 0.1.0\n"

/-- The help text. -/
def helpText : String := "\n".intercalate
  ["Usage: gherkin-builder [OPTIONS] COMMAND [ARGS]...", "",
   "Options:", "  -V, --version   Show version and exit",
   "  -v, --verbose   Increase verbosity (-v, -vv)",
   "  -q, --quiet     Only report warnings and errors",
   "  --json          Output in JSON format for automation",
   "  --no-color      Disable colored output", "",
   "Commands:", "  init [DIRECTORY]",
   "  steps [DIRECTORIES]... [-o FILE] [-p abort|skip|strict] [-c FILE]",
   "  enums [DIRECTORIES]... [-c FILE]", ""]

/-- Run a command line. -/
def run (t : FileTree) (arguments : List String) : Outcome :=
  match Request.parse arguments with
  | none => .usage t
  | some (.about .help) => { stdout := helpText, tree := t }
  | some (.about .version) => { stdout := versionLine, tree := t }
  | some (.run switches command) =>
    match command.paths.find? Path.hasNull with
    | some path => .crashed t (.file ⟨.nullCharacter, path⟩)
    | none =>
      let style := LogStyle.ofSwitches switches.verbose switches.quiet switches.noColour
      let session : Session :=
        { tree := t
          mode := if switches.json then .json else .plain
          verbosity := style.verbosity }
      session.run command

end Stepbook.CommandLine
