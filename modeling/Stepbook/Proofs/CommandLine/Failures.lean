import Stepbook.Proofs.CommandLine.Steps
import Stepbook.Proofs.Config
import Stepbook.Proofs.Scan.Unreported

/-!
# Failures of the commands that scan

The commands that scan begin alike.  They load the configuration, look for source roots
and scan these, and only then does each do what it is for.  A beginning that fails tells
the user why and ends the run with exit code 1, but for a few failures that are not
caught: then the run crashes.

## Main definitions

* `Command.Scans` — the commands that scan.
* `Session.scanned` — their beginning.
* `Session.Complaint` — what the user is told.
* `Unreported` — the failures that are not caught.
* `Harmless` — inputs without such a failure.

## Main statements

* `Session.exists_scanned_of_scans` — the commands begin alike.
* `Session.failures_reported` — a beginning crashes for the failures that are not caught,
  and otherwise it goes through or tells the user why not.
* `Harmless.not_unreported` — inputs for which it does not crash.
* `undecodable_config_crashes` — a configuration file that is no text.
-/

namespace Stepbook.CommandLine

/-- The commands that scan, with the directories, the policy and the path of the
configuration file that they are given. -/
inductive Command.Scans : Command → List Path → Option ScanPolicy → Path → Prop
  | steps (given : List Path) (output : Option Path) (policy : Option ScanPolicy) (path : Path) :
      Scans (.steps given output policy path) given policy path
  | enums (given : List Path) (path : Path) : Scans (.enums given path) given none path

/-- The failures that are not caught: those of the configuration file and of the scan
that no message is written for. -/
inductive Unreported (t : FileTree) (given : List Path) (policy : Option ScanPolicy)
    (path : Path) : Crash → Prop
  | config {failure : ConfigFailure} (hconfig : Config.Unreported t path failure) :
      Unreported t given policy path (.config failure)
  | scan {config : Config} {failure : ScanFailure} (hload : Config.load t path = .ok config)
      (hscan : Scan.Unreported t config.sources.suffixes (policy.getD config.sources.onError)
        config.sources.encoding {} (Session.rootsOf given config path) failure) :
      Unreported t given policy path (.scan failure)

/-- Inputs without a failure that is not caught: the configuration is moderate, nothing
stops the search of a root, and the host has a codec of the name that is asked for, which
refuses bytes for being no text only. -/
structure Harmless (t : FileTree) (given : List Path) (path : Path) : Prop where
  config : Config.Moderate t path
  roots : ∀ config, Config.load t path = .ok config →
    ∀ root ∈ Session.rootsOf given config path, t.Clear root
  encoding : ∀ config, Config.load t path = .ok config →
    '\x00' ∉ config.sources.encoding.toList ∧
      ∃ codec, t.host.codec? config.sources.encoding = some codec ∧
        ∀ bytes message, codec bytes ≠ .error (.other message)

/-- **Harmless inputs** have no failure that is not caught. -/
theorem Harmless.not_unreported {t : FileTree} {given : List Path} {policy : Option ScanPolicy}
    {path : Path} (h : Harmless t given path) (crash : Crash) :
    ¬ Unreported t given policy path crash := by
  intro hcrash
  cases hcrash with
  | config hconfig => exact Config.not_unreported_of_moderate h.config hconfig
  | scan hload hscan =>
      obtain ⟨hnull, codec, hcodec, htext⟩ := h.encoding _ hload
      cases hscan with
      | stopped hroots hbefore hstopped =>
          refine (h.roots _ hload _ ?_).not_stopped hstopped
          rw [hroots]
          exact List.mem_append_right _ List.mem_cons_self
      | noCodec hroots hglue hnone =>
          cases hnone with
          | null hmem => exact hnull hmem
          | unknown _ hname => cases hname.symm.trans hcodec
      | givesUp hfound hgivesUp =>
          cases hgivesUp with
          | intro hbefore hread hfailed =>
              obtain ⟨other, hother, hmessage⟩ := hfailed.codec
              obtain rfl := Option.some.inj (hother.symm.trans hcodec)
              exact htext _ _ hmessage

namespace Session

variable {s : Session} {given : List Path} {policy : Option ScanPolicy} {path : Path}
variable {config : Config} {next : Config → Reader → Report → Outcome}

/-- The beginning of a command that scans, and what comes behind it. -/
def scanned (s : Session) (given : List Path) (policy : Option ScanPolicy) (path : Path)
    (next : Config → Reader → Report → Outcome) : Outcome :=
  s.withConfig path fun config =>
    s.withScan config (policy.getD config.sources.onError) (rootsOf given config path)
      (next config)

/-- **The commands that scan begin alike.** -/
theorem exists_scanned_of_scans {command : Command} (h : command.Scans given policy path) :
    ∃ next, s.run command = s.scanned given policy path next := by
  cases h with
  | steps output => exact ⟨_, rfl⟩
  | enums => exact ⟨_, rfl⟩

/-- What the user is told, behind the log so far: a mistake in the configuration, the
lack of source roots, or a failure of the scan that the glue code is to blame for. -/
inductive Complaint (s : Session) (given : List Path) (policy : Option ScanPolicy) (path : Path) :
    List Event → String → Prop
  | config {failure : ConfigFailure} (hload : Config.load s.tree path = .error failure)
      (hmistake : failure.isMistake = true) :
      Complaint s given policy path []
        ("Invalid config " ++ path.toString ++ ": " ++ failure.detail)
  | noRoots {config : Config} (hload : Config.load s.tree path = .ok config)
      (hroots : rootsOf given config path = []) :
      Complaint s given policy path [] "No glue code directories given or configured"
  | scan {config : Config} {failure : ScanFailure} (hload : Config.load s.tree path = .ok config)
      (hroots : rootsOf given config path ≠ [])
      (hscan : (s.stepsScan given policy path config).result = .error failure)
      (hglue : failure.concernsGlueCode = true) :
      Complaint s given policy path (s.stepsScan given policy path config).log failure.message

/-- A beginning that goes through: the configuration is loaded, there are source roots,
and their scan gives a report. -/
structure Finds (s : Session) (given : List Path) (policy : Option ScanPolicy) (path : Path)
    (config : Config) (report : Report) : Prop where
  load : Config.load s.tree path = .ok config
  roots : rootsOf given config path ≠ []
  scan : (s.stepsScan given policy path config).result = .ok report

/-! ## The three ends -/

theorem scanned_of_load_eq_error {failure : ConfigFailure}
    (hload : Config.load s.tree path = .error failure) :
    s.scanned given policy path next =
      if failure.isMistake then
        s.fail ("Invalid config " ++ path.toString ++ ": " ++ failure.detail)
      else .crashed s.tree (.config failure) := by
  simp only [scanned, withConfig, hload]

theorem scanned_of_load_eq_ok (hload : Config.load s.tree path = .ok config) :
    s.scanned given policy path next =
      s.withScan config (policy.getD config.sources.onError) (rootsOf given config path)
        (next config) := by
  simp only [scanned, withConfig, hload]

theorem scanned_of_scan_eq_error {failure : ScanFailure}
    (hload : Config.load s.tree path = .ok config) (hroots : rootsOf given config path ≠ [])
    (hscan : (s.stepsScan given policy path config).result = .error failure) :
    s.scanned given policy path next =
      (if failure.concernsGlueCode then s.fail failure.message
        else .crashed s.tree (.scan failure)).behind
        (s.logText (s.stepsScan given policy path config).log) := by
  have hgiven : ¬ (rootsOf given config path).isEmpty = true := by simpa using hroots
  rw [stepsScan] at hscan
  rw [scanned_of_load_eq_ok hload]
  simp only [withScan, if_neg hgiven, hscan, stepsScan]

theorem scanned_of_finds {report : Report} (h : s.Finds given policy path config report) :
    s.scanned given policy path next =
      (next config (s.stepsScan given policy path config).reader report).behind
        (s.logText (s.stepsScan given policy path config).log) := by
  rw [scanned_of_load_eq_ok h.load]
  exact withScan_of_ok h.roots h.scan

/-- Without log lines before it an outcome stays as it is. -/
theorem behind_logText_nil (o : Outcome) : o.behind (s.logText []) = o := by
  have hempty : s.logText [] = "" := rfl
  rw [hempty, Outcome.behind, String.empty_append]

/-- A beginning goes through, or tells the user why not, or fails in a way that is not
caught. -/
theorem scanned_cases (ht : s.tree.WellFormed) (given : List Path) (policy : Option ScanPolicy)
    (path : Path) :
    (∃ config report, s.Finds given policy path config report) ∨
      (∃ log message, s.Complaint given policy path log message ∧ ∀ next,
        s.scanned given policy path next = (s.fail message).behind (s.logText log)) ∨
      ∃ crash, Unreported s.tree given policy path crash := by
  cases hload : Config.load s.tree path with
  | error failure =>
      right
      by_cases hmistake : failure.isMistake = true
      · refine .inl ⟨[], _, .config hload hmistake, fun next => ?_⟩
        rw [scanned_of_load_eq_error hload, if_pos hmistake, behind_logText_nil]
      · have hunreported : failure.isMistake = false := by simpa using hmistake
        exact .inr ⟨_, .config (Config.load_eq_unreported_iff.mp ⟨hload, hunreported⟩)⟩
  | ok config =>
      by_cases hroots : rootsOf given config path = []
      · refine .inr (.inl ⟨[], _, .noRoots hload hroots, fun next => ?_⟩)
        rw [scanned_of_load_eq_ok hload, behind_logText_nil]
        simp only [withScan, hroots, List.isEmpty_nil, if_true]
      · cases hscan : (s.stepsScan given policy path config).result with
        | ok report => exact .inl ⟨config, report, hload, hroots, hscan⟩
        | error failure =>
            right
            by_cases hglue : failure.concernsGlueCode = true
            · refine .inl ⟨_, _, .scan hload hroots hscan hglue, fun next => ?_⟩
              rw [scanned_of_scan_eq_error hload hroots hscan, if_pos hglue]
            · have hunreported : failure.concernsGlueCode = false := by simpa using hglue
              exact .inr ⟨_, .scan hload
                ((Scan.directories_eq_unreported_iff ht).mp ⟨hscan, hunreported⟩)⟩

/-- A failure that is not caught is the end of the run. -/
theorem scanned_of_unreported (ht : s.tree.WellFormed) {crash : Crash}
    (h : Unreported s.tree given policy path crash)
    (next : Config → Reader → Report → Outcome) :
    ∃ log, s.scanned given policy path next =
      (Outcome.crashed s.tree crash).behind (s.logText log) := by
  cases h with
  | config hconfig =>
      obtain ⟨hload, hunreported⟩ := Config.load_eq_unreported_iff.mpr hconfig
      refine ⟨[], ?_⟩
      rw [scanned_of_load_eq_error hload, hunreported, behind_logText_nil]
      rfl
  | scan hload hunreported =>
      rename_i config failure
      obtain ⟨hscan, hglue⟩ : (s.stepsScan given policy path config).result = .error failure ∧
          failure.concernsGlueCode = false :=
        (Scan.directories_eq_unreported_iff ht).mpr hunreported
      refine ⟨(s.stepsScan given policy path config).log, ?_⟩
      rw [scanned_of_scan_eq_error hload hunreported.ne_nil hscan, hglue]
      rfl

/-- **The failures of the commands that scan.**

A failure that is not caught is the end of the run.  Without one the beginning goes
through, and what comes behind it is handed what was found, or the user is told why it
does not, once, and the run ends there. -/
theorem failures_reported (ht : s.tree.WellFormed) (given : List Path)
    (policy : Option ScanPolicy) (path : Path) (next : Config → Reader → Report → Outcome) :
    let outcome := s.scanned given policy path next
    (∀ crash, Unreported s.tree given policy path crash →
      ∃ log, outcome = (Outcome.crashed s.tree crash).behind (s.logText log)) ∧
    ((∀ crash, ¬ Unreported s.tree given policy path crash) →
      (∃ config report, s.Finds given policy path config report ∧
        outcome = (next config (s.stepsScan given policy path config).reader report).behind
          (s.logText (s.stepsScan given policy path config).log)) ∨
      ∃ log message, s.Complaint given policy path log message ∧
        outcome = (s.fail message).behind (s.logText log)) := by
  intro outcome
  refine ⟨fun crash hcrash => scanned_of_unreported ht hcrash next, fun hcaught => ?_⟩
  rcases scanned_cases ht given policy path with ⟨config, report, hfinds⟩ |
    ⟨log, message, hcomplaint, hends⟩ | ⟨crash, hcrash⟩
  · exact .inl ⟨config, report, hfinds, scanned_of_finds hfinds⟩
  · exact .inr ⟨log, message, hcomplaint, hends next⟩
  · exact absurd hcrash (hcaught crash)

end Session

/-- A scan with an encoding that is not there crashes.  One of a directory that is not
there does not. -/
theorem missing_encoding_crashes_missing_root_reported :
    let path : Path := { segments := [Config.fileName] }
    let root : Path := { segments := ["g"] }
    let t : FileTree :=
      { nodes := [(["g"], .directory),
          (["g", "a.java"], .file "@Given(\"^one$\")\nvoid f(int n)".toUTF8.toList),
          ([Config.fileName], .file "[sources]\nencoding = \"nope\"".toUTF8.toList)] }
    Unreported t [root] none path (.scan (.unknownEncoding "nope")) ∧
      (run t ["steps", "g"]).crash = some (.scan (.unknownEncoding "nope")) ∧
      Harmless {} [root] path ∧ (run {} ["steps", "g"]).crash = none ∧
      (run {} ["steps", "g"]).exit = 1 := by
  intro path root t
  have hparse : Request.parse ["steps", "g"] =
      some (.run {} (.steps [root] none none path)) := rfl
  have hnull : (Command.steps [root] none none path).paths.find? Path.hasNull = none := by
    decide +kernel
  have hrun : ∀ t : FileTree, ∃ next,
      run t ["steps", "g"] = (({} : Switches).session t).scanned [root] none path next := by
    intro t
    obtain ⟨next, hnext⟩ := Session.exists_scanned_of_scans (.steps [root] none none path)
    exact ⟨next, (run_of_parse hparse hnull).trans hnext⟩
  have hunreported : Unreported t [root] none path (.scan (.unknownEncoding "nope")) := by
    let config : Config := { sources := { encoding := "nope" } }
    have hload : Config.load t path = .ok config := by
      have hloaded : (Config.load t path).toOption = some config := by decide +kernel
      cases hconfig : Config.load t path with
      | ok other => simpa [hconfig, Except.toOption] using hloaded
      | error failure => simp [hconfig, Except.toOption] at hloaded
    have hroot : t.Searchable root :=
      ⟨["g"], by decide +kernel, by decide +kernel, by decide +kernel⟩
    have hglue : Scan.FindsGlue t [".java"] [root] := by
      refine ⟨["g", "a.java"], ⟨⟨_, rfl⟩, ".java", List.mem_singleton_self _, ?_⟩, root,
        List.mem_singleton_self _, ["g"], ["a.java"], ?_, List.cons_ne_nil _ _, rfl⟩
      · decide +kernel
      · decide +kernel
    have hname : Encoding.ofName? "nope" = none := by decide +kernel
    refine .scan hload (.noCodec ?_ hglue (.unknown ?_ ?_))
    · exact List.forall_mem_singleton.mpr hroot
    · decide +kernel
    · have hasked : config.sources.encoding = "nope" := rfl
      rw [hasked]
      exact congrArg (Option.map Encoding.codec) hname
  have habsent : FileTree.locate {} root = .error .notFound := by decide +kernel
  have hharmless : Harmless {} [root] path := by
    have hload : ∀ config, Config.load {} path = .ok config → config = {} := by
      intro config hconfig
      exact (Except.ok.inj hconfig).symm
    have hname : Encoding.ofName? "utf-8" = some .utf8 := by decide +kernel
    refine ⟨.absent rfl, fun config hconfig other hother => ?_, fun config hconfig => ?_⟩
    · obtain rfl := hload config hconfig
      obtain rfl : other = root := List.mem_singleton.mp hother
      refine ⟨fun hlong => ?_, fun base hbase => ?_⟩
      · cases habsent.symm.trans hlong
      · cases habsent.symm.trans hbase
    · obtain rfl := hload config hconfig
      exact ⟨by decide +kernel, _, congrArg (Option.map Encoding.codec) hname,
        Scan.codec_ne_other _⟩
  refine ⟨hunreported, ?_, hharmless, ?_⟩
  · obtain ⟨next, hnext⟩ := hrun t
    obtain ⟨hcrashes, -⟩ := Session.failures_reported (s := ({} : Switches).session t)
      (by decide +kernel) [root] none path next
    obtain ⟨log, hend⟩ := hcrashes _ hunreported
    rw [hnext, hend]
    rfl
  · obtain ⟨next, hnext⟩ := hrun {}
    obtain ⟨-, hreports⟩ := Session.failures_reported (s := ({} : Switches).session {})
      (by decide +kernel) [root] none path next
    rcases hreports hharmless.not_unreported with ⟨config, report, hfinds, -⟩ |
      ⟨log, message, -, hend⟩
    · obtain ⟨hfound, -, -⟩ := Scan.directories_eq_ok hfinds.scan
      obtain ⟨base, hroot, -⟩ := Scan.exists_discover_iff.mp ⟨_, hfound⟩ root List.mem_cons_self
      cases habsent.symm.trans hroot
    · rw [hnext, hend]
      exact ⟨rfl, rfl⟩

/-- A configuration file that is no text: the run crashes, and nothing is told. -/
theorem undecodable_config_crashes :
    let t : FileTree :=
      { nodes := [(["g"], .directory),
          (["g", "a.java"], .file "@Given(\"^one$\")\nvoid f(int n)".toUTF8.toList),
          ([Config.fileName], .file [0xFF])] }
    let outcome := run t ["steps", "g"]
    t.WellFormed ∧ outcome.exit = 1 ∧ outcome.stdout = "" ∧ outcome.stderr = "" ∧
      outcome.crash = some (.config (.notText ⟨"utf-8", 0xFF, 0, 1, .invalidStart⟩)) := by
  intro t outcome
  refine ⟨by decide +kernel, by decide +kernel, by decide +kernel, by decide +kernel, ?_⟩
  rfl

end Stepbook.CommandLine
