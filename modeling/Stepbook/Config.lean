import Stepbook.Scan.Report
import Stepbook.Toml

/-!
# Configuration

A configuration file names the source roots of a project, says how to read them,
and says where the steps go.

## Main definitions

* `Config` — the configuration, with a default for every entry.
* `Config.ofEntries` — the configuration that the tables of a file describe.
* `Config.load` — the configuration in a file; an absent file means the
  defaults.
* `Config.template`, `Config.writeTemplate` — a file to start from.
* `Config.roots` — the configured source roots, seen from a directory.

## Design notes

Unknown entries are ignored.  The three tables and the entries of a table are
checked independently, in a fixed order, so that one report lists all problems.
-/

namespace Stepbook

/-- The forms that the steps can be written in. -/
inductive OutputFormat where
  /-- The script for the page. -/
  | script
  | json
  deriving DecidableEq, Repr

/-- The words for the output formats. -/
def OutputFormat.words : List (String × OutputFormat) := [("js", .script), ("json", .json)]

/-- The word for an output format. -/
def OutputFormat.word : OutputFormat → String
  | script => "js"
  | json => "json"

/-- What the project is called. -/
structure ProjectConfig where
  name : String := "unnamed-project"
  deriving DecidableEq, Repr

/-- Where the glue code is and how to read it. -/
structure SourcesConfig where
  /-- The source roots, seen from the configuration file. -/
  baseDirectories : List String := []
  /-- What the names of glue code files end with. -/
  suffixes : List String := [".java"]
  encoding : String := "utf-8"
  /-- What to do at a malformed line. -/
  onError : ScanPolicy := .abort
  deriving DecidableEq, Repr

/-- Where the steps go and in which form. -/
structure OutputConfig where
  /-- The file for the steps, seen from the configuration file.  Without one
  they go to standard output. -/
  path : Option String := none
  format : OutputFormat := .script
  deriving DecidableEq, Repr

/-- The configuration of a project. -/
structure Config where
  project : ProjectConfig := {}
  sources : SourcesConfig := {}
  output : OutputConfig := {}
  deriving DecidableEq, Repr

/-- Why a configuration file cannot be used. -/
inductive ConfigFailure where
  | unreadable (error : FileError)
  | notText (error : DecodeError)
  /-- A whole number has too many digits, here counted. -/
  | tooManyDigits (count : Nat)
  /-- Values nest too deep. -/
  | tooDeep
  /-- The text is not well formed. -/
  | illFormed (text : List Char) (fault : Toml.Fault)
  /-- The entries do not describe a configuration. -/
  | invalid (problems : List Problem)

namespace ConfigFailure

/-- Whether the mistake is one in the configuration itself. -/
def isMistake : ConfigFailure → Bool
  | illFormed _ _ | invalid _ => true
  | unreadable _ | notText _ | tooManyDigits _ | tooDeep => false

/-- One step of the way to a place in a file, as people write it. -/
def part : Location.Part → String
  | .key name => name
  | .index i => toString i

/-- A problem with its place. -/
def describe (p : Problem) : String :=
  ".".intercalate (p.location.map part) ++ ": " ++ p.cause.message

/-- What is wrong with a configuration file, without its path. -/
def detail : ConfigFailure → String
  | unreadable e => e.message
  | notText e => e.message
  | tooManyDigits count =>
    "Exceeds the limit (" ++ toString Toml.mostDigits ++
      " digits) for integer string conversion: value has " ++ toString count ++
      " digits; use sys.set_int_max_str_digits() to increase the limit"
  | tooDeep => "maximum recursion depth exceeded"
  | illFormed text fault => fault.describe text
  | invalid problems => "; ".intercalate (problems.map describe)

end ConfigFailure

namespace Config

open Check (apply optional)

/-! ### Reading -/

/-- The project that a table describes. -/
def projectOfData (d : Data) : Check ProjectConfig := do
  let entries ← Check.record "ProjectConfig" d
  (optional entries "name" "unnamed-project" Check.text).map ProjectConfig.mk

/-- The sources that a table describes. -/
def sourcesOfData (d : Data) : Check SourcesConfig := do
  let entries ← Check.record "SourcesConfig" d
  let texts := Check.list Check.text
  apply (apply (apply (apply (.ok SourcesConfig.mk)
    (optional entries "base_directories" [] texts))
    (optional entries "suffixes" [".java"] texts))
    (optional entries "encoding" "utf-8" Check.text))
    (optional entries "on_error" .abort (Check.oneOf ScanPolicy.words))

/-- The output that a table describes. -/
def outputOfData (d : Data) : Check OutputConfig := do
  let entries ← Check.record "OutputConfig" d
  apply (apply (.ok OutputConfig.mk)
    (optional entries "path" none Check.textOrNull))
    (optional entries "format" .script (Check.oneOf OutputFormat.words))

/-- The configuration that tables describe. -/
def ofEntries (entries : Entries) : Check Config :=
  apply (apply (apply (.ok Config.mk)
    (optional entries "project" {} projectOfData))
    (optional entries "sources" {} sourcesOfData))
    (optional entries "output" {} outputOfData)

/-- The configuration in the bytes of a file. -/
def ofBytes (limits : Toml.Limits) (bytes : Bytes) : Except ConfigFailure Config :=
  match Encoding.utf8.decode bytes with
  | .error e => .error (.notText e)
  | .ok text =>
    match Toml.parse limits text with
    | .error ⟨.tooManyDigits count, _⟩ => .error (.tooManyDigits count)
    | .error ⟨.tooDeep, _⟩ => .error .tooDeep
    | .error fault => .error (.illFormed (Toml.uniform text) fault)
    | .ok entries => (ofEntries entries).mapError .invalid

/-- The configuration in a file, or the defaults if there is no such file. -/
def load (t : FileTree) (path : Path) : Except ConfigFailure Config :=
  match t.lookUp path with
  | .error e => .error (.unreadable e)
  | .ok none => .ok {}
  | .ok (some _) =>
    match t.read path with
    | .error e => .error (.unreadable e)
    | .ok bytes => ofBytes t.host.toml bytes

/-- The configured source roots, seen from a directory. -/
def roots (c : Config) (base : Path) : List Path :=
  c.sources.baseDirectories.map fun d => base.join (.ofString d)

/-! ### Writing -/

/-- The usual name of a configuration file. -/
def fileName : String := "gherkin-builder.toml"

/-- A configuration file to start from. -/
def template : String := "\n".intercalate
  ["[project]", "name = \"your-project\"", "", "[sources]", "base_directories = [",
   "    \"src/test/java\",", "]", "suffixes = [", "    \".java\",", "]", "encoding = \"utf-8\"",
   "on_error = \"abort\"", "", "[output]", "format = \"js\"", ""]

/-- Write the template into a directory.  The result is the path of the file and
the tree with the file in it. -/
def writeTemplate (t : FileTree) (directory : Path) : Except FileError (Path × FileTree) :=
  let path := directory.child fileName
  (t.write path template.toUTF8.toList).map fun t => (path, t)

end Config

end Stepbook
