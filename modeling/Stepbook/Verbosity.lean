import Stepbook.Event

/-!
# Verbosity

How much of the log is shown, and how, follows from three switches of the
command line.

## Main definitions

* `Verbosity` — quiet, normal or verbose; `Verbosity.ofSwitches` picks one.
* `Verbosity.shows` — the events that are shown.
* `LogStyle`, `LogStyle.ofSwitches` — how log lines look.
-/

namespace Stepbook

/-- How much of the log is shown. -/
inductive Verbosity where
  | quiet
  | normal
  | verbose
  deriving DecidableEq, Repr

namespace Verbosity

/-- The switch for quiet wins over any number of switches for verbosity. -/
def ofSwitches (count : Nat) (quiet : Bool) : Verbosity :=
  if quiet then .quiet else if 1 ≤ count then .verbose else .normal

/-- The least level that is shown. -/
def threshold : Verbosity → Event.Level
  | quiet => .warning
  | normal => .info
  | verbose => .debug

/-- The name of a verbosity. -/
def name : Verbosity → String
  | quiet => "QUIET"
  | normal => "NORMAL"
  | verbose => "VERBOSE"

/-- Whether an event is shown. -/
def shows (v : Verbosity) (e : Event) : Bool := v.threshold.weight ≤ e.level.weight

end Verbosity

/-- How log lines look.  They always go to the error stream. -/
structure LogStyle where
  verbosity : Verbosity
  /-- Each line carries the time and the place it comes from. -/
  detailed : Bool
  /-- Lines are coloured, as on a terminal. -/
  coloured : Bool
  deriving DecidableEq, Repr

/-- The style that the switches ask for. -/
def LogStyle.ofSwitches (count : Nat) (quiet noColour : Bool) : LogStyle :=
  { verbosity := .ofSwitches count quiet
    detailed := 2 ≤ count && !quiet
    coloured := !noColour }

end Stepbook
