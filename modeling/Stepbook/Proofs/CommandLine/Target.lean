import Stepbook.Proofs.CommandLine.Steps
import Stepbook.Proofs.FileTree.Writing

/-!
# The target of the steps

A command for the steps reads everything before it writes anything.  So where the text
goes makes no difference to the text, even if that is a file that has been scanned, and
a command that fails leaves every file as it was.  Standard output is the exception: it
gets the text without its control sequences.

## Main definitions

* `Destination` — where the steps go.
* `StepsRun` — a run of the command for the steps that has found them.
* `StepsRun.SameResult` — runs with the same scan and the same format.
* `Outcome.Prints` — a run that writes a text to standard output.

## Main statements

* `Session.writeTo_cases` — a file that is written, or a crash that leaves all files.
* `exists_stepsRun` — a run that is not refused has found the steps.
* `StepsRun.run_of_no_target`, `StepsRun.run_cases` — the end of a run without a target
  and with one.
* `target_keeps_result` — the runs of the command for the steps.
* `standard_output_loses_control_sequence` — a file that keeps what standard output loses.

## Design notes

The text for the target is written as UTF-8, whatever codec of the host the files have
been read with.  Like all text here it consists of Unicode scalar values (see `Codec`),
so that this cannot fail.
-/

namespace Stepbook.CommandLine

open Stepbook.Console.Control (IsFree strip)

/-! ## Targets -/

/-- Where the steps go: to the path that is given, or else to the configured one if it
is not empty, as seen from the directory of the configuration file, or else to standard
output. -/
inductive Destination (config : Config) (path : Path) : Option Path → Option Path → Prop where
  | given (file : Path) : Destination config path (some file) (some file)
  | configured {name : String} (h : config.output.path = some name) (hne : name ≠ "") :
      Destination config path none (some (path.parent.join (.ofString name)))
  | standardOutput (h : ∀ name, config.output.path = some name → name = "") :
      Destination config path none none

theorem Destination.targetOf_eq {config : Config} {path : Path} {output target : Option Path}
    (h : Destination config path output target) : Session.targetOf output config path = target := by
  cases h with
  | given file => rfl
  | configured h hne => simp [Session.targetOf, h]
  | standardOutput h =>
      cases hname : config.output.path with
      | none => simp [Session.targetOf, hname]
      | some name =>
          obtain rfl := h name hname
          simp [Session.targetOf, hname]

theorem exists_destination (config : Config) (path : Path) (output : Option Path) :
    ∃ target, Destination config path output target := by
  cases output with
  | some file => exact ⟨_, .given file⟩
  | none =>
      by_cases hempty : ∀ name, config.output.path = some name → name = ""
      · exact ⟨_, .standardOutput hempty⟩
      · push Not at hempty
        obtain ⟨name, hname, hne⟩ := hempty
        exact ⟨_, .configured hname hne⟩

/-! ## Writing a text -/

namespace Session

variable {s : Session}

/-- **A text for a file.**  Either the file is written, and no other one is touched, or
the run crashes and leaves every file as it was. -/
theorem writeTo_cases (file : Path) (text : String) (data : Entries) (message : String) :
    let outcome := s.writeTo file text data message
    (outcome.exit = 0 ∧ s.tree.Written outcome.tree file text.toUTF8.toList ∧
      outcome.stdout = (Console.success s.mode message data).stdout) ∨
    (outcome.exit = 1 ∧ outcome.crash ≠ none ∧ s.tree.Grown outcome.tree) := by
  simp only [writeTo]
  cases hmade : s.tree.makeDirectories file.parent with
  | error e => exact .inr ⟨rfl, Option.some_ne_none _, .refl s.tree⟩
  | ok grown =>
      have hgrown := FileTree.grown_of_makeDirectories hmade
      dsimp only
      cases hwrite : grown.write file text.toUTF8.toList with
      | error e => exact .inr ⟨rfl, Option.some_ne_none _, hgrown⟩
      | ok final => exact .inl ⟨rfl, hgrown.written hwrite, rfl⟩

end Session

/-! ## Runs that have found the steps -/

/-- A run of the command for the steps that has found them: its arguments ask for the
command, its configuration is sound, there are source roots, and their scan gives a
report. -/
structure StepsRun (t : FileTree) (arguments : List String) where
  switches : Switches
  directories : List Path
  output : Option Path
  policy : Option ScanPolicy
  path : Path
  config : Config
  report : Report
  target : Option Path
  parse : Request.parse arguments = some (.run switches (.steps directories output policy path))
  noNull : (Command.steps directories output policy path).paths.find? Path.hasNull = none
  load : Config.load t path = .ok config
  roots : Session.rootsOf directories config path ≠ []
  scan : ((switches.session t).stepsScan directories policy path config).result = .ok report
  destination : Destination config path output target

/-- A text on standard output: the run ends well, and the text is written in a line of
its own, without its control sequences. -/
structure Outcome.Prints (outcome : Outcome) (text : String) : Prop where
  exit : outcome.exit = 0
  stdout : outcome.stdout = String.ofList (strip (text ++ "\n").toList)
  exact_iff : outcome.stdout = text ++ "\n" ↔ IsFree text.toList

namespace StepsRun

variable {t : FileTree} {arguments : List String} (r : StepsRun t arguments)

/-- What the scan has read. -/
def reader : Reader :=
  ((r.switches.session t).stepsScan r.directories r.policy r.path r.config).reader

/-- The steps are written as JSON. -/
def InJson : Prop := r.switches.json = true ∨ r.config.output.format = .json

/-- The text for the steps. -/
def text : String := (r.switches.session t).stepsText r.config.output.format r.reader r.report

/-- The entries of the message that the steps have been written to a file. -/
def receipt (file : Path) : Entries :=
  [("success", .text ("Wrote " ++ toString r.reader.steps.length ++ " step(s) to " ++
      file.toString)),
   ("path", .text file.toString), ("steps", .integer r.reader.steps.length),
   ("errors", .integer r.report.errors.length)]

/-- Two runs have found the same in the same format. -/
structure SameResult {t' : FileTree} {arguments' : List String} (r : StepsRun t arguments)
    (r' : StepsRun t' arguments') : Prop where
  reader : r'.reader = r.reader
  report : r'.report = r.report
  format : r'.InJson ↔ r.InJson

theorem inJson_iff :
    r.InJson ↔ (r.switches.session t).mode = .json ∨ r.config.output.format = .json := by
  simp [InJson, Switches.session]

/-- The text is told by what has been found and by the format. -/
theorem text_eq_of_sameResult {r : StepsRun t arguments} {t' : FileTree}
    {arguments' : List String} {r' : StepsRun t' arguments'} (h : r.SameResult r') :
    r'.text = r.text := by
  have hformat := h.format
  rw [inJson_iff, inJson_iff] at hformat
  rw [text, text, Session.stepsText, Session.stepsText, h.reader, h.report]
  exact if_congr hformat rfl rfl

/-- JSON text has no control sequences. -/
theorem isFree_text (h : r.InJson) : IsFree r.text.toList := by
  rw [text, Session.stepsText, if_pos (r.inJson_iff.mp h), ← strip_line_eq_self_iff]
  exact strip_line_stepsData _ _

/-- The message for a file that has been written. -/
theorem success_stdout (file : Path) :
    (Console.success (r.switches.session t).mode
      ("Wrote " ++ toString r.reader.steps.length ++ " step(s) to " ++ file.toString)
      [("path", .text file.toString), ("steps", .integer r.reader.steps.length),
        ("errors", .integer r.report.errors.length)]).stdout =
      if r.switches.json then Json.render (.table (r.receipt file)) ++ "\n" else "" := by
  cases hjson : r.switches.json with
  | false => simp [Console.success, Console.report, Switches.session, hjson, Console.line]
  | true =>
      simp [Console.success, Console.report, Switches.session, hjson, Console.printData,
        Data.ofPairs, Data.put, receipt]

/-! ### The end of a run -/

/-- **Without a target** a run leaves the tree as it is and prints its text. -/
theorem run_of_no_target (h : r.target = none) :
    (run t arguments).tree = t ∧ (run t arguments).Prints r.text := by
  have htarget := r.destination.targetOf_eq.trans h
  rw [run_of_parse r.parse r.noNull, Session.run,
    Session.steps_of_target_eq_none r.load r.roots r.scan htarget]
  exact ⟨rfl, rfl, rfl, strip_line_eq_self_iff⟩

/-- **With a target** a run writes its text to that file, or crashes. -/
theorem run_cases {file : Path} (h : r.target = some file) :
    let outcome := run t arguments
    (outcome.exit = 0 ∧ t.Written outcome.tree file (r.text ++ "\n").toUTF8.toList ∧
      outcome.stdout =
        if r.switches.json then Json.render (.table (r.receipt file)) ++ "\n" else "") ∨
    (outcome.exit = 1 ∧ outcome.crash ≠ none ∧ t.Grown outcome.tree) := by
  have htarget := r.destination.targetOf_eq.trans h
  rw [run_of_parse r.parse r.noNull, Session.run,
    Session.steps_of_target_eq_some r.load r.roots r.scan htarget, ← r.success_stdout]
  exact Session.writeTo_cases _ _ _ _

/-- Whether the file can be written does not hang on the text for it. -/
theorem exit_of_target {file : Path} (h : r.target = some file) :
    (run t arguments).exit = ((r.switches.session t).writeTo file "" [] "").exit := by
  have htarget := r.destination.targetOf_eq.trans h
  rw [run_of_parse r.parse r.noNull, Session.run,
    Session.steps_of_target_eq_some r.load r.roots r.scan htarget, Outcome.exit_behind]
  exact Session.exit_writeTo _ _ rfl file _ _ _ _ _ _

end StepsRun

section Runs

variable {t : FileTree} {arguments : List String} {switches : Switches} {directories : List Path}
variable {output : Option Path} {policy : Option ScanPolicy} {path : Path}

/-- A run of the command for the steps that is not refused has found them. -/
theorem exists_stepsRun
    (h : Request.parse arguments = some (.run switches (.steps directories output policy path))) :
    Nonempty (StepsRun t arguments) ∨ (run t arguments).Refused t := by
  cases hnull : (Command.steps directories output policy path).paths.find? Path.hasNull with
  | some bad =>
      rw [run_of_null h hnull]
      exact .inr ⟨rfl, rfl⟩
  | none =>
      rw [run_of_parse h hnull, Session.run]
      rcases Session.steps_cases with ⟨config, report, hload, hroots, hscan⟩ | hrefused
      · obtain ⟨target, hdestination⟩ := exists_destination config path output
        exact .inl ⟨⟨_, _, _, _, _, config, report, target, h, hnull, hload, hroots, hscan,
          hdestination⟩⟩
      · exact .inr hrefused

/-- **The runs of the command for the steps.**

A run that fails leaves every file as it was, and the whole tree if it reports why.  A
run that ends well has found the steps.  Without a target it leaves the tree as it was
and prints the text for the steps.  With a target, the text and a line end are what that
file holds afterwards, no other file is touched, and standard output gets the message
for other programs or nothing.  Every run without a target that has found the same in
the same format prints what the file holds, without its control sequences. -/
theorem target_keeps_result
    (h : Request.parse arguments = some (.run switches (.steps directories output policy path))) :
    let outcome := run t arguments
    (outcome.exit ≠ 0 → t.Grown outcome.tree ∧ (outcome.crash = none → outcome.tree = t)) ∧
    (outcome.exit = 0 → Nonempty (StepsRun t arguments)) ∧
    ∀ r : StepsRun t arguments, (r.InJson → IsFree r.text.toList) ∧
      (r.target = none → outcome.tree = t ∧ outcome.Prints r.text) ∧
      ∀ file, r.target = some file → outcome.exit = 0 →
        t.Written outcome.tree file (r.text ++ "\n").toUTF8.toList ∧
        (outcome.stdout =
          if r.switches.json then Json.render (.table (r.receipt file)) ++ "\n" else "") ∧
        ∀ (t' : FileTree) (arguments' : List String) (r' : StepsRun t' arguments'),
          r'.target = none → r.SameResult r' → (run t' arguments').Prints r.text := by
  refine ⟨fun hexit => ?_, fun hexit => ?_, fun r => ⟨r.isFree_text, r.run_of_no_target, ?_⟩⟩
  · rcases exists_stepsRun (t := t) h with ⟨⟨r⟩⟩ | ⟨-, hrefused⟩
    · cases htarget : r.target with
      | none => exact absurd (r.run_of_no_target htarget).2.exit hexit
      | some file =>
          rcases r.run_cases htarget with ⟨hzero, -⟩ | ⟨-, hcrash, hgrown⟩
          · exact absurd hzero hexit
          · exact ⟨hgrown, fun hnone => absurd hnone hcrash⟩
    · rw [hrefused]
      exact ⟨.refl t, fun _ => rfl⟩
  · rcases exists_stepsRun (t := t) h with hfound | ⟨hone, -⟩
    · exact hfound
    · rw [hexit] at hone
      cases hone
  · intro file htarget hexit
    rcases r.run_cases htarget with ⟨-, hwritten, hstdout⟩ | ⟨hone, -⟩
    · refine ⟨hwritten, hstdout, fun t' arguments' r' hnone hsame => ?_⟩
      rw [← StepsRun.text_eq_of_sameResult hsame]
      exact (r'.run_of_no_target hnone).2
    · rw [hexit] at hone
      cases hone

end Runs

/-! ### A phrase with a control sequence -/

/-- A file tree with one glue code file, and a control sequence in its phrase. -/
def colouredTree : FileTree where
  nodes := [(["g"], .directory),
    (["g", "a.java"], .file "@Given(\"^a\x1b[0mb$\")\nvoid f(int n)".toUTF8.toList)]

/-- The script of the step in that file. -/
def colouredScript : String :=
  "testSteps.push( new step( \"a\x1b[0mb\", new keypair( \"n\", \"number\" ) ) );"

theorem scan_colouredTree :
    let scan := Scan.directories colouredTree [".java"] .abort "utf-8" {} [{ segments := ["g"] }]
    scan.result = .ok { files := [{ segments := ["g", "a.java"] }], lines := 2 } ∧
      Step.scriptOf scan.reader.steps = colouredScript := by
  intro scan
  have hroot : colouredTree.glueFiles [".java"] { segments := ["g"] } = _ :=
    Scan.glueFiles_of_sorted ["g"] [["a.java"]]
      (by decide +kernel) (by decide +kernel) (by decide +kernel) (by decide +kernel)
      (by decide +kernel)
  have hscan : scan.result = .ok { files := [{ segments := ["g", "a.java"] }], lines := 2 } := by
    rw [Scan.directories_result_of_ok (Scan.discover_singleton hroot)]
    decide +kernel
  obtain ⟨-, -, hdirectories⟩ := Scan.directories_eq_ok hscan
  have hscanned : scan = _ := hdirectories
  refine ⟨hscan, ?_⟩
  rw [hscanned]
  decide +kernel

/-- A run for the steps in that tree. -/
def colouredRun {arguments : List String} (output : Option Path)
    (hparse : Request.parse arguments = some (.run {}
      (.steps [{ segments := ["g"] }] output none { segments := [Config.fileName] })))
    (hnull : (Command.steps [{ segments := ["g"] }] output none
      { segments := [Config.fileName] }).paths.find? Path.hasNull = none)
    (hdestination : Destination {} { segments := [Config.fileName] } output output) :
    StepsRun colouredTree arguments :=
  ⟨_, _, output, _, _, {}, _, output, hparse, hnull, rfl, by decide, scan_colouredTree.1,
    hdestination⟩

theorem text_colouredRun {arguments : List String} (output : Option Path)
    (hparse : Request.parse arguments = some (.run {}
      (.steps [{ segments := ["g"] }] output none { segments := [Config.fileName] })))
    (hnull : (Command.steps [{ segments := ["g"] }] output none
      { segments := [Config.fileName] }).paths.find? Path.hasNull = none)
    (hdestination : Destination {} { segments := [Config.fileName] } output output) :
    (colouredRun output hparse hnull hdestination).text = colouredScript :=
  (Session.stepsText_plain rfl _ _).trans scan_colouredTree.2

/-- The steps take the place of the file that they have been found in. -/
theorem scanned_file_replaced :
    let file : Path := { segments := ["g", "a.java"] }
    let outcome := run colouredTree ["steps", "g", "-o", "g/a.java"]
    Request.parse ["steps", "g", "-o", "g/a.java"] = some (.run {}
      (.steps [{ segments := ["g"] }] (some file) none { segments := [Config.fileName] })) ∧
    outcome.exit = 0 ∧ outcome.stdout = "" ∧
    colouredTree.Written outcome.tree file (colouredScript ++ "\n").toUTF8.toList ∧
    (run colouredTree ["steps", "g"]).Prints colouredScript := by
  intro file outcome
  have hparse : Request.parse ["steps", "g", "-o", "g/a.java"] = some (.run {}
      (.steps [{ segments := ["g"] }] (some file) none { segments := [Config.fileName] })) := rfl
  let r : StepsRun colouredTree ["steps", "g", "-o", "g/a.java"] :=
    colouredRun (some file) rfl (by decide +kernel) (.given file)
  let r' : StepsRun colouredTree ["steps", "g"] :=
    colouredRun none rfl (by decide +kernel) (.standardOutput fun _ h => by cases h)
  have htext : r.text = colouredScript := text_colouredRun _ _ _ _
  have hexit : outcome.exit = 0 := by
    refine (r.exit_of_target rfl).trans ?_
    decide +kernel
  obtain ⟨-, -, hruns⟩ := target_keeps_result (t := colouredTree) hparse
  obtain ⟨-, -, htarget⟩ := hruns r
  obtain ⟨hwritten, hstdout, hprints⟩ := htarget file rfl hexit
  rw [htext] at hwritten hprints
  exact ⟨hparse, hexit, hstdout, hwritten, hprints _ _ r' rfl ⟨rfl, rfl, Iff.rfl⟩⟩

/-- The file holds the control sequence of the phrase, and standard output gets the
same steps without it. -/
theorem standard_output_loses_control_sequence :
    let file : Path := { segments := ["out.js"] }
    let kept := run colouredTree ["steps", "g", "-o", "out.js"]
    let printed := run colouredTree ["steps", "g"]
    kept.exit = 0 ∧ kept.tree.read file = .ok (colouredScript ++ "\n").toUTF8.toList ∧
    printed.exit = 0 ∧
    printed.stdout = "testSteps.push( new step( \"ab\", new keypair( \"n\", \"number\" ) ) );\n" ∧
    printed.stdout ≠ colouredScript ++ "\n" := by
  intro file kept printed
  let r : StepsRun colouredTree ["steps", "g", "-o", "out.js"] :=
    colouredRun (some file) rfl (by decide +kernel) (.given file)
  let r' : StepsRun colouredTree ["steps", "g"] :=
    colouredRun none rfl (by decide +kernel) (.standardOutput fun _ h => by cases h)
  have htext : r.text = colouredScript := text_colouredRun _ _ _ _
  have htext' : r'.text = colouredScript := text_colouredRun _ _ _ _
  have hexit : kept.exit = 0 := by
    refine (r.exit_of_target rfl).trans ?_
    decide +kernel
  have hread : kept.tree.read file = .ok (colouredScript ++ "\n").toUTF8.toList := by
    rcases r.run_cases rfl with ⟨-, hwritten, -⟩ | ⟨hone, -⟩
    · rw [htext] at hwritten
      exact hwritten.read
    · cases hexit.symm.trans hone
  obtain ⟨-, hprints⟩ := r'.run_of_no_target rfl
  rw [htext'] at hprints
  have hstdout : printed.stdout =
      "testSteps.push( new step( \"ab\", new keypair( \"n\", \"number\" ) ) );\n" := by
    refine hprints.stdout.trans ?_
    decide +kernel
  refine ⟨hexit, hread, hprints.exit, hstdout, ?_⟩
  rw [hstdout]
  decide +kernel

end Stepbook.CommandLine
