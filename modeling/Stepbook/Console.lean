import Stepbook.Console.Markup
import Stepbook.Data.Json
import Stepbook.Event
import Stepbook.Text.Width

/-!
# Command messages

A command reports its result either as JSON, for other programs, or as a line
for people.

## Main definitions

* `Console.Mode` — the two ways.
* `Console.Output` — what is written to standard output and to the console.
* `Console.error`, `Console.success`, `Console.printData` — the reports.
* `Console.plain` — a text as the console shows it.
* `Console.logLine` — an event as the console shows it.

## Design notes

A message is escaped, so the console shows brackets as they are; emoji codes in
it are replaced.  Log lines are no markup.  The console leaves out control
characters that would move the cursor, and it sets tabs at every eighth column.
-/

namespace Stepbook.Console

open Stepbook.Text

/-- The ways to report. -/
inductive Mode where
  /-- Lines for people. -/
  | plain
  /-- JSON for other programs. -/
  | json
  deriving DecidableEq, Repr

/-- What a report writes: the text on standard output and the text on the
console. -/
structure Output where
  stdout : String := ""
  console : String := ""
  deriving DecidableEq

instance : Append Output := ⟨fun a b => ⟨a.stdout ++ b.stdout, a.console ++ b.console⟩⟩

/-- The control characters the console leaves out: bell, backspace, line
tabulation, form feed and carriage return. -/
def isStripped (c : Char) : Bool := [0x07, 0x08, 0x0B, 0x0C, 0x0D].contains c.toNat

/-- A line so far, and the column it ends in. -/
abbrev Line := List Char × Nat

/-- A line with a text and a tab behind it.  The tab becomes one blank, and then
as many as fill the line up to a multiple of eight columns. -/
def Line.push (l : Line) (text : List Char) : Line :=
  let reached := l.2 + width (text ++ [' '])
  let stop := (reached + 7) / 8 * 8
  (l.1 ++ text ++ ' ' :: List.replicate (stop - reached) ' ', stop)

/-- A line with its tabs filled up. -/
def expandLine (s : List Char) : List Char :=
  let cut := pieces (· == '\t') s
  (cut.dropLast.foldl Line.push ([], 0)).1 ++ cut.getLastD []

/-- A text with its tabs filled up, line by line. -/
def expandTabs (s : List Char) : List Char :=
  ['\n'].intercalate ((pieces (· == '\n') s).map expandLine)

/-- A text as the console shows it. -/
def plain (s : String) : String :=
  String.ofList (expandTabs (s.toList.filter fun c => !isStripped c))

/-- A text between the tags of a style. -/
def styled (style : String) (markup : List Char) : List Char :=
  ("[" ++ style ++ "]").toList ++ markup ++ ("[/" ++ style ++ "]").toList

/-- A line of markup on the console. -/
def line (markup : List Char) : Output :=
  { console := plain (String.ofList (Markup.plainText markup)) ++ "\n" }

/-- The log line of an event: its level in a column of eight characters, and its
message.  Further lines of a message stand under its first. -/
def logLine (e : Event) : String :=
  let level := e.level.name.toList
  let column := level ++ List.replicate (8 - level.length) ' '
  let indented := (plain e.message).toList.flatMap fun c =>
    if c = '\n' then c :: List.replicate 9 ' ' else [c]
  String.ofList (column ++ ' ' :: indented ++ ['\n'])

/-- Data as JSON on standard output.  Without the JSON mode nothing is
written. -/
def printData (mode : Mode) (d : Data) : Output :=
  match mode with
  | .json => { stdout := Json.render d ++ "\n" }
  | .plain => {}

/-- A message, either as an entry of a JSON object with the data behind it, or
as a line on the console.  Data with the key of the message replaces it. -/
def report (mode : Mode) (key style leading message : String) (data : Entries) : Output :=
  match mode with
  | .json => printData mode (.table (Data.ofPairs ((key, .text message) :: data)))
  | .plain => line (styled style (leading.toList ++ Markup.escape message.toList))

/-- Report a failure. -/
def error (mode : Mode) (message : String) (data : Entries := []) : Output :=
  report mode "error" "red" "Error: " message data

/-- Report a success. -/
def success (mode : Mode) (message : String) (data : Entries := []) : Output :=
  report mode "success" "green" "" message data

end Stepbook.Console
