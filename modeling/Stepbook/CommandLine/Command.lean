import Stepbook.CommandLine.Options
import Stepbook.Config
import Stepbook.Verbosity

/-!
# Commands

The program has three commands: `init` writes a configuration file, `steps`
writes the steps of the glue code, and `enums` lists the enumeration types that
the steps use.

## Main definitions

* `Switches` — the options before the command.
* `Command` — a command with its arguments.
* `Request` — what a command line asks for.
* `Request.parse` — the request of a list of arguments, if they make sense.
-/

namespace Stepbook.CommandLine

/-- What can be asked about the program itself. -/
inductive Query where
  | help
  | version
  deriving DecidableEq, Repr

/-- The options before the command. -/
structure Switches where
  /-- The first question, if there is one. -/
  query : Option Query := none
  /-- The number of requests for more of the log. -/
  verbose : Nat := 0
  quiet : Bool := false
  json : Bool := false
  noColour : Bool := false

/-- A command with its arguments. -/
inductive Command where
  /-- Write a configuration file into a directory. -/
  | init (directory : Path)
  /-- Write the steps found below some directories. -/
  | steps (directories : List Path) (output : Option Path) (policy : Option ScanPolicy)
      (config : Path)
  /-- List the enumeration types found below some directories. -/
  | enums (directories : List Path) (config : Path)

/-- What a command line asks for. -/
inductive Request where
  | about (query : Query)
  | run (switches : Switches) (command : Command)

/-- Ask a question, unless one was asked before. -/
def Switches.ask (query : Query) (s : Switches) : Switches :=
  { s with query := s.query.or (some query) }

/-- The options before the command. -/
def switchTable : OptionTable Switches :=
  [(["--version", "-V"], .switch (.ask .version)),
   (["--verbose", "-v"], .switch fun s => { s with verbose := s.verbose + 1 }),
   (["--quiet", "-q"], .switch fun s => { s with quiet := true }),
   (["--json"], .switch fun s => { s with json := true }),
   (["--no-color"], .switch fun s => { s with noColour := true }),
   (["--help"], .switch (.ask .help))]

/-- The options behind a command, as they are written. -/
structure RawOptions where
  output : Option String := none
  policy : Option String := none
  config : Option String := none
  help : Bool := false

/-- The option for help, which every command has. -/
def helpOption : List String × OptionEffect RawOptions :=
  (["--help"], .switch fun o => { o with help := true })

/-- The option for the configuration file. -/
def configOption : List String × OptionEffect RawOptions :=
  (["--config", "-c"], .value fun v o => { o with config := some v })

/-- The options of `steps`. -/
def stepsTable : OptionTable RawOptions :=
  [(["--output", "-o"], .value fun v o => { o with output := some v }),
   (["--policy", "-p"], .value fun v o => { o with policy := some v }),
   configOption, helpOption]

/-- The options of `enums`. -/
def enumsTable : OptionTable RawOptions := [configOption, helpOption]

/-- The options of `init`. -/
def initTable : OptionTable RawOptions := [helpOption]

/-- The path of the configuration file. -/
def RawOptions.configPath (o : RawOptions) : Path :=
  Path.ofString (o.config.getD Config.fileName)

namespace Command

/-- A command from its options and its other arguments. -/
def ofRaw (name : String) (o : RawOptions) (arguments : List String) : Option Command :=
  match name, arguments with
  | "init", [] => some (.init {})
  | "init", [directory] => some (.init (.ofString directory))
  | "steps", _ =>
    let command (policy : Option ScanPolicy) : Command :=
      .steps (arguments.map .ofString) (o.output.map .ofString) policy o.configPath
    match o.policy with
    | none => some (command none)
    | some word => (ScanPolicy.ofWord? word).map fun p => command (some p)
  | "enums", _ => some (.enums (arguments.map .ofString) o.configPath)
  | _, _ => none

/-- The paths among the arguments of a command. -/
def paths : Command → List Path
  | .init directory => [directory]
  | .steps directories output _ config => directories ++ output.toList ++ [config]
  | .enums directories config => directories ++ [config]

/-- The options of a command, if there is a command of that name. -/
def table? : String → Option (OptionTable RawOptions)
  | "init" => some initTable
  | "steps" => some stepsTable
  | "enums" => some enumsTable
  | _ => none

end Command

namespace Request

/-- What the arguments before the command ask about the program. -/
def ofSwitches (switches : Switches) : Option Request := switches.query.map .about

/-- What the arguments from the name of a command on ask for. -/
def ofCommand (switches : Switches) (name : String) (rest : List String) : Option Request :=
  match Command.table? name with
  | some table => do
    let (o, positional) ← table.parse true {} rest
    if o.help then some (.about .help) else (Command.ofRaw name o positional).map (.run switches)
  | none => (switchTable.parse false {} (name :: rest)).bind fun again => ofSwitches again.1

/-- What a list of arguments asks for.  Arguments that make no sense, or none at
all, ask for nothing.  Of several questions the first is answered.  Options
behind two hyphens still count as questions, if no command is named there. -/
def parse (arguments : List String) : Option Request := do
  let (switches, rest) ← switchTable.parse false {} arguments
  (ofSwitches switches).or <|
    match rest with
    | [] => none
    | name :: rest => ofCommand switches name rest

end Request

end Stepbook.CommandLine
