import Stepbook.Malformed
import Stepbook.Path

/-!
# Events

Reading glue code leaves a log: a list of events, in order.

## Main definitions

* `Event` — what can happen.
* `Event.Level`, `Event.level` — how much it matters.
* `Event.message` — the log line.
-/

namespace Stepbook

/-- How much an event matters. -/
inductive Event.Level where
  | debug
  | info
  | warning
  deriving DecidableEq, Repr

namespace Event.Level

/-- Levels in ascending order of weight. -/
def weight : Event.Level → Nat
  | debug => 10
  | info => 20
  | warning => 30

/-- The name of a level. -/
def name : Event.Level → String
  | debug => "DEBUG"
  | info => "INFO"
  | warning => "WARNING"

end Event.Level

/-- What can happen while glue code is read. -/
inductive Event where
  /-- The source roots were replaced. -/
  | configured (directories : List Path)
  /-- An enumeration type was met for the first time. -/
  | enumerationFound (name : String)
  /-- A step is complete. -/
  | stepFound (phrase : String) (parameters : Nat)
  /-- A line of a file is malformed and was passed over. -/
  | malformedLine (path : Path) (number : Nat) (cause : Malformed)
  /-- A file ended before the declaration of its last step. -/
  | stepDropped (path : Path) (phrase : String)
  /-- A source root was searched for files not yet met. -/
  | filesFound (count : Nat) (root : Path)
  /-- All files were read. -/
  | finished (steps enumerations : Nat)
  deriving DecidableEq

namespace Event

/-- How much an event matters. -/
def level : Event → Level
  | configured _ | enumerationFound _ | stepFound _ _ => .debug
  | filesFound _ _ | finished _ _ => .info
  | malformedLine _ _ _ | stepDropped _ _ => .warning

/-- Items in brackets. -/
def bracketed (items : List String) : String := "[" ++ ", ".intercalate items ++ "]"

/-- The log line of an event. -/
def message : Event → String
  | configured directories =>
    "Enum registry base directories: "
      ++ bracketed (directories.map fun d => "PosixPath(" ++ d.quoted ++ ")")
  | enumerationFound name => "Registered enumeration type: " ++ name
  | stepFound phrase parameters =>
    "Step found: " ++ phrase ++ " (" ++ toString parameters ++ " parameters)"
  | malformedLine path number cause =>
    path.toString ++ ":" ++ toString number ++ ": " ++ cause.message
  | stepDropped path phrase =>
    path.toString ++ ": step '" ++ phrase ++ "' has no method declaration, dropped"
  | filesFound count root =>
    "Found " ++ toString count ++ " new glue code file(s) in " ++ root.toString
  | finished steps enumerations =>
    "Found " ++ toString steps ++ " step(s), " ++ toString enumerations ++ " enumeration type(s)"

end Event

end Stepbook
