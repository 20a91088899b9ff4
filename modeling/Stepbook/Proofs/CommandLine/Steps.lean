import Stepbook.Proofs.CommandLine.Modes
import Stepbook.Proofs.Console.Control
import Stepbook.Proofs.Data.Json
import Stepbook.Proofs.Scan.Moves
import Stepbook.Proofs.Step.Record

/-!
# The steps on standard output

The script of the steps and their JSON text are written from the same scan, so the
script can be made again from the JSON text.  To standard output both go without
their control sequences.  JSON text has none to lose, but a script can lose some: then
it is not the script of the steps any more.

## Main definitions

* `Session.stepsScan` — the scan of a command that writes the steps.
* `AsksForScript` — a command line for the script on standard output.
* `DescribesScript` — what the JSON text of one run says of the script of another.

## Main statements

* `Session.steps_cases` — a command for the steps that goes on, or is refused.
* `Session.steps_of_target_eq_none`, `Session.steps_of_target_eq_some` — what it does when
  it goes on.
* `Session.steps_of_scan_eq_ok` — the steps on standard output.
* `json_describes_script` — the run for the script against the run with the switch
  for JSON.
* `script_loses_control_sequence` — a script that is not the script of the steps.

## Design notes

A file tree carries its host, so a statement for every tree is one for every codec that
a configuration may ask for.  It is about files that a codec makes Unicode scalar values
of (see `Codec`).  Lone surrogates, which JSON text could escape but standard output
does not take, are left out.
-/

namespace Stepbook.CommandLine

open Stepbook.Console.Control (IsFree strip strip_append_newLine strip_eq_self_iff
  strip_of_forall_ne)

namespace Session

variable {s : Session}

/-! ## Commands -/

section Steps

variable {directories : List Path} {output : Option Path} {policy : Option ScanPolicy}
variable {path : Path} {config : Config}

/-- The scan of a command that writes the steps. -/
def stepsScan (s : Session) (directories : List Path) (policy : Option ScanPolicy) (path : Path)
    (config : Config) : Scan Report :=
  Scan.directories s.tree config.sources.suffixes (policy.getD config.sources.onError)
    config.sources.encoding {} (rootsOf directories config path)

/-- A command for the steps goes on if its configuration is sound, there are source
roots, and their scan gives a report.  Or else it is refused. -/
theorem steps_cases :
    (∃ config report, Config.load s.tree path = .ok config ∧
      rootsOf directories config path ≠ [] ∧
      (s.stepsScan directories policy path config).result = .ok report) ∨
      (s.steps directories output policy path).Refused s.tree := by
  rcases withConfig_cases with ⟨config, hload, hnext⟩ | hrefused
  · rw [steps, hnext]
    rcases withScan_cases with ⟨hroots, report, hscan⟩ | hrefused
    · exact .inl ⟨config, report, hload, hroots, hscan⟩
    · exact .inr hrefused
  · exact .inr hrefused

section Scanned

variable {report : Report} (hload : Config.load s.tree path = .ok config)
  (hroots : rootsOf directories config path ≠ [])
  (hscan : (s.stepsScan directories policy path config).result = .ok report)

include hload hroots hscan

/-- A command that writes the steps to standard output. -/
theorem steps_of_target_eq_none (htarget : targetOf output config path = none) :
    let scan := s.stepsScan directories policy path config
    let text := s.stepsText config.output.format scan.reader report
    s.steps directories output policy path =
      (Outcome.written s.tree 0 { stdout := String.ofList (strip (text ++ "\n").toList) }).behind
        (s.logText scan.log) := by
  simp only [steps, withConfig, hload, htarget]
  exact withScan_of_ok hroots hscan

/-- A command that writes the steps to a file. -/
theorem steps_of_target_eq_some {file : Path} (htarget : targetOf output config path = some file) :
    let scan := s.stepsScan directories policy path config
    let text := s.stepsText config.output.format scan.reader report
    let count := scan.reader.steps.length
    s.steps directories output policy path =
      (s.writeTo file (text ++ "\n")
        [("path", .text file.toString), ("steps", .integer count),
          ("errors", .integer report.errors.length)]
        ("Wrote " ++ toString count ++ " step(s) to " ++ file.toString)).behind
        (s.logText scan.log) := by
  simp only [steps, withConfig, hload, htarget]
  exact withScan_of_ok hroots hscan

/-- **The steps on standard output.**  A command that writes them there ends well.  It
writes the text of what was found without its control sequences. -/
theorem steps_of_scan_eq_ok (htarget : targetOf output config path = none) :
    let outcome := s.steps directories output policy path
    let text := s.stepsText config.output.format
      (s.stepsScan directories policy path config).reader report
    outcome.exit = 0 ∧ outcome.stdout = String.ofList (strip (text ++ "\n").toList) := by
  rw [steps_of_target_eq_none hload hroots hscan htarget]
  exact ⟨rfl, rfl⟩

end Scanned

theorem stepsText_plain (hmode : s.mode = .plain) (reader : Reader) (report : Report) :
    s.stepsText .script reader report = Step.scriptOf reader.steps := by
  simp [stepsText, hmode]

theorem stepsText_json (hmode : s.mode = .json) (format : OutputFormat) (reader : Reader)
    (report : Report) :
    s.stepsText format reader report = Json.render (stepsData reader report) := by
  simp [stepsText, hmode]

end Steps

end Session

/-! ## The text without control sequences -/

/-- JSON text has no control sequences to lose. -/
theorem strip_of_printed {s : String} (h : Json.Printed s) : strip s.toList = s.toList := by
  refine strip_of_forall_ne fun c hc hescape => ?_
  have hprinted := h c hc
  rw [hescape] at hprinted
  exact absurd hprinted (by decide)

/-- A line of output stays as it is if no control sequence stands in it, and only
then. -/
theorem strip_line_eq_self_iff {s : String} :
    String.ofList (strip (s ++ "\n").toList) = s ++ "\n" ↔ IsFree s.toList := by
  have hline : (s ++ "\n").toList = s.toList ++ ['\n'] := by
    rw [String.toList_append]
    rfl
  rw [← String.toList_inj, String.toList_ofList, hline, strip_append_newLine,
    List.append_left_inj, strip_eq_self_iff]

/-- The record of the steps holds texts and whole numbers only. -/
theorem spelled_stepsData (reader : Reader) (report : Report) :
    Json.Spelled (Session.stepsData reader report) := by
  have hsteps : Json.Spelled (.array (reader.steps.map Step.toData)) :=
    Json.spelled_map fun s _ => s.spelled_toData
  have htexts : ∀ names : List String, Json.Spelled (.array (names.map .text)) :=
    fun names => Json.spelled_map fun name _ => .text name
  refine .table fun e he => ?_
  simp only [List.mem_cons, List.not_mem_nil, or_false] at he
  rcases he with rfl | rfl | rfl | rfl | rfl
  · exact hsteps
  · exact htexts _
  · exact htexts _
  · exact .integer _
  · exact .integer _

/-- The record of the steps is written as it is. -/
theorem strip_line_stepsData (reader : Reader) (report : Report) :
    String.ofList (strip (Json.render (Session.stepsData reader report) ++ "\n").toList) =
      Json.render (Session.stepsData reader report) ++ "\n" := by
  have hprinted := (Json.printed_render (spelled_stepsData reader report)).append
    (t := "\n") (by decide +kernel)
  rw [strip_of_printed hprinted, String.ofList_toList]

/-- **The script and the JSON text of one scan.**  If a command that writes the script
to standard output ends well, the script is that of the steps that a scan has found,
and with the other way to report the command writes the record of the same scan. -/
theorem Session.script_and_json {s : Session} {directories : List Path}
    {policy : Option ScanPolicy} {path : Path} {config : Config} (hmode : s.mode = .plain)
    (hload : Config.load s.tree path = .ok config) (hformat : config.output.format = .script)
    (hpath : config.output.path = none)
    (hexit : (s.steps directories none policy path).exit = 0) :
    ∃ (reader : Reader) (report : Report),
      reader.registry.enumerations = (reader.steps.flatMap Step.typeNames).eraseDups ∧
      (s.steps directories none policy path).stdout =
        String.ofList (strip (Step.scriptOf reader.steps ++ "\n").toList) ∧
      ((s.inMode .json).steps directories none policy path).stdout =
        Json.render (stepsData reader report) ++ "\n" := by
  have htarget : targetOf none config path = none := by rw [targetOf, hpath, Option.none_or]
  rcases steps_cases with ⟨config', report, hload', hroots, hscan⟩ | ⟨hrefused, -⟩
  case inr =>
    rw [hexit] at hrefused
    cases hrefused
  cases hload.symm.trans hload'
  obtain ⟨-, hscript⟩ := steps_of_scan_eq_ok hload hroots hscan htarget
  -- the scan does not look at the way to report
  obtain ⟨-, hjson⟩ := steps_of_scan_eq_ok (s := s.inMode .json) hload hroots hscan htarget
  rw [hformat, stepsText_plain hmode] at hscript
  rw [stepsText_json rfl, strip_line_stepsData] at hjson
  exact ⟨_, report, Scan.enumerations_directories _ _ _ _ _, hscript, hjson⟩

/-! ## Whole runs -/

/-- A run that writes the steps to standard output, if the scan gives a report. -/
theorem run_of_scan_eq_ok {t : FileTree} {arguments : List String} {switches : Switches}
    {directories : List Path} {policy : Option ScanPolicy} {path : Path} {config : Config}
    {report : Report}
    (hparse : Request.parse arguments = some (.run switches (.steps directories none policy path)))
    (hnull : (Command.steps directories none policy path).paths.find? Path.hasNull = none)
    (hload : Config.load t path = .ok config)
    (htarget : Session.targetOf none config path = none)
    (hroots : Session.rootsOf directories config path ≠ [])
    (hscan : ((switches.session t).stepsScan directories policy path config).result = .ok report) :
    let text := (switches.session t).stepsText config.output.format
      ((switches.session t).stepsScan directories policy path config).reader report
    (run t arguments).exit = 0 ∧
      (run t arguments).stdout = String.ofList (strip (text ++ "\n").toList) := by
  rw [run_of_parse hparse hnull]
  exact Session.steps_of_scan_eq_ok hload hroots hscan htarget

/-- A command line for the script on standard output: the command is `steps` without
a target, the switch for JSON is not set, and the configuration is sound, asks for
the script and names no target either. -/
def AsksForScript (t : FileTree) (arguments : List String) : Prop :=
  ∃ switches directories policy path config,
    Request.parse arguments = some (.run switches (.steps directories none policy path)) ∧
      switches.json = false ∧ Config.load t path = .ok config ∧
      config.output.format = .script ∧ config.output.path = none

/-- The JSON text that one run has written describes the script that another one has
written.  It is the text of a table.  Its steps are records that are all sound, and
the enumeration types that it lists are the first occurrences among the type entries
of these records.  The script is that of the steps in the records just if no control
sequence stands in it. -/
def DescribesScript (json plain : Outcome) : Prop :=
  ∃ entries items names steps, json.stdout = Json.render (.table entries) ++ "\n" ∧
    Data.find? entries "steps" = some (.array items) ∧
    Data.find? entries "enumerations" = some (.array (names.map .text)) ∧
    List.Forall₂ (fun item step => Step.ofData item = .ok step) items steps ∧
    names = (items.flatMap Step.typeEntries).eraseDups ∧
    (plain.stdout = Step.scriptOf steps ++ "\n" ↔ IsFree (Step.scriptOf steps).toList)

/-- **The run for the script and the run with the switch for JSON** end with the same
exit code.  If that is zero, the second one describes what the first one writes. -/
theorem json_describes_script (t : FileTree) (before arguments : List String)
    (hbefore : ∀ a ∈ before, IsOption a) :
    let plain := run t (before ++ arguments)
    let json := run t (before ++ "--json" :: arguments)
    json.exit = plain.exit ∧
      (AsksForScript t (before ++ arguments) → plain.exit = 0 → DescribesScript json plain) := by
  refine ⟨exit_run_json t hbefore arguments, ?_⟩
  rintro ⟨switches, directories, policy, path, config, hparse, hplain, hload, hformat, hpath⟩ hexit
  have hparse' : Request.parse (before ++ "--json" :: arguments) =
      some (.run switches.withJson (.steps directories none policy path)) := by
    rw [Request.parse_json hbefore, hparse]
    rfl
  cases hnull : (Command.steps directories none policy path).paths.find? Path.hasNull with
  | some bad =>
      rw [run_of_null hparse hnull] at hexit
      cases hexit
  | none =>
      rw [run_of_parse hparse hnull] at hexit ⊢
      rw [run_of_parse hparse' hnull, session_withJson]
      have hmode : (switches.session t).mode = .plain := by simp [Switches.session, hplain]
      obtain ⟨reader, report, henumerations, hscript, hjson⟩ :=
        Session.script_and_json hmode hload hformat hpath hexit
      refine ⟨_, _, _, reader.steps, hjson, rfl, rfl, Step.forall₂_ofData_map_toData _, ?_, ?_⟩
      · rw [List.flatMap_map]
        simpa only [Step.typeEntries_toData] using henumerations
      · exact (Eq.congr_left hscript).trans strip_line_eq_self_iff

/-- A step with an enumeration type, written with two more options before the
command. -/
theorem json_describes_script_of_enumeration :
    let t : FileTree :=
      { nodes := [(["g"], .directory),
          (["g", "a.java"], .file "@Given(\"^red$\")\nvoid f(Color c, Color d)".toUTF8.toList)] }
    let before := ["--no-color", "-qv"]
    let plain := run t (before ++ ["steps", "g"])
    let json := run t (before ++ "--json" :: ["steps", "g"])
    (∀ a ∈ before, IsOption a) ∧ AsksForScript t (before ++ ["steps", "g"]) ∧ plain.exit = 0 ∧
      json.exit = 0 ∧ DescribesScript json plain := by
  intro t before plain json
  have hparse : Request.parse (before ++ ["steps", "g"]) =
      some (.run { verbose := 1, quiet := true, noColour := true }
        (.steps [{ segments := ["g"] }] none none { segments := [Config.fileName] })) := rfl
  have hload : Config.load t { segments := [Config.fileName] } = .ok {} := rfl
  have hroot : t.glueFiles [".java"] { segments := ["g"] } = _ :=
    Scan.glueFiles_of_sorted ["g"] [["a.java"]]
      (by decide +kernel) (by decide +kernel) (by decide +kernel) (by decide +kernel)
      (by decide +kernel)
  have hscan : (Scan.directories t [".java"] .abort "utf-8" {} [{ segments := ["g"] }]).result =
      .ok { files := [{ segments := ["g", "a.java"] }], lines := 2 } := by
    rw [Scan.directories_result_of_ok (Scan.discover_singleton hroot)]
    decide +kernel
  have hasks : AsksForScript t (before ++ ["steps", "g"]) :=
    ⟨_, _, _, _, _, hparse, rfl, hload, rfl, rfl⟩
  obtain ⟨hexit, -⟩ := run_of_scan_eq_ok hparse (by decide +kernel) hload rfl (by decide) hscan
  have hbefore : ∀ a ∈ before, IsOption a := by decide
  obtain ⟨hsame, hdescribes⟩ := json_describes_script t before ["steps", "g"] hbefore
  exact ⟨hbefore, hasks, hexit, hsame.trans hexit, hdescribes hasks hexit⟩

/-- A phrase with a control sequence: the script is written without it, and the record
of the step with it. -/
theorem script_loses_control_sequence :
    let t : FileTree :=
      { nodes := [(["g"], .directory),
          (["g", "a.java"], .file "@Given(\"^\x1b[31mred$\")\nvoid f(int n)".toUTF8.toList)] }
    let step : Step := ⟨"\x1b[31mred", [⟨"n", .number⟩]⟩
    let plain := run t ["steps", "g"]
    let json := run t ["--json", "steps", "g"]
    AsksForScript t ["steps", "g"] ∧ plain.exit = 0 ∧ json.exit = 0 ∧
      (∃ entries, json.stdout = Json.render (.table entries) ++ "\n" ∧
        Data.find? entries "steps" = some (.array [step.toData])) ∧
      Step.ofData step.toData = .ok step ∧
      plain.stdout = "testSteps.push( new step( \"red\", new keypair( \"n\", \"number\" ) ) );\n" ∧
      plain.stdout ≠ Step.scriptOf [step] ++ "\n" := by
  intro t step plain json
  have hparse : Request.parse ["steps", "g"] = some (.run {}
      (.steps [{ segments := ["g"] }] none none { segments := [Config.fileName] })) := rfl
  have hparse' : Request.parse ["--json", "steps", "g"] = some (.run { json := true }
      (.steps [{ segments := ["g"] }] none none { segments := [Config.fileName] })) := rfl
  have hload : Config.load t { segments := [Config.fileName] } = .ok {} := rfl
  have hroot : t.glueFiles [".java"] { segments := ["g"] } = _ :=
    Scan.glueFiles_of_sorted ["g"] [["a.java"]]
      (by decide +kernel) (by decide +kernel) (by decide +kernel) (by decide +kernel)
      (by decide +kernel)
  have hscan : (Scan.directories t [".java"] .abort "utf-8" {} [{ segments := ["g"] }]).result =
      .ok { files := [{ segments := ["g", "a.java"] }], lines := 2 } := by
    rw [Scan.directories_result_of_ok (Scan.discover_singleton hroot)]
    decide +kernel
  have hsteps : (Scan.directories t [".java"] .abort "utf-8" {}
      [{ segments := ["g"] }]).reader.steps = [step] := by
    obtain ⟨-, -, hdirectories⟩ := Scan.directories_eq_ok hscan
    rw [hdirectories]
    decide +kernel
  have hnull : (Command.steps [{ segments := ["g"] }] none none
      { segments := [Config.fileName] }).paths.find? Path.hasNull = none := by decide +kernel
  obtain ⟨hexit, hplain⟩ := run_of_scan_eq_ok hparse hnull hload rfl (by decide) hscan
  obtain ⟨hexit', hjson⟩ := run_of_scan_eq_ok hparse' hnull hload rfl (by decide) hscan
  rw [Session.stepsText_json rfl, strip_line_stepsData] at hjson
  rw [Session.stepsText_plain rfl] at hplain
  have hstdout : plain.stdout =
      "testSteps.push( new step( \"red\", new keypair( \"n\", \"number\" ) ) );\n" := by
    refine hplain.trans ?_
    change String.ofList (strip (Step.scriptOf (Scan.directories t [".java"] .abort "utf-8" {}
      [{ segments := ["g"] }]).reader.steps ++ "\n").toList) = _
    rw [hsteps]
    decide +kernel
  refine ⟨⟨_, _, _, _, _, hparse, rfl, hload, rfl, rfl⟩, hexit, hexit', ⟨_, hjson, ?_⟩,
    step.ofData_toData, hstdout, ?_⟩
  · change some (Data.array ((Scan.directories t [".java"] .abort "utf-8" {}
      [{ segments := ["g"] }]).reader.steps.map Step.toData)) = _
    rw [hsteps]
    rfl
  · rw [hstdout]
    decide +kernel

end Stepbook.CommandLine
