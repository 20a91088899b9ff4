import Stepbook.Scan.Report
import Stepbook.Text.Lines

/-!
# Scanning a file

The lines of a file go through a reader in order.  A step does not go on in
another file: what is pending at the end is dropped.

## Main definitions

* `FileTree.readLines` — the lines of a file.
* `Scan.feed` — lines through a reader, under a policy.
* `Scan.file` — a file through a reader.

## Design notes

The whole file is decoded before its first line is read, so an unreadable file
leaves the reader as it was.
-/

namespace Stepbook

open Stepbook.Text

/-- The lines of the file that a path leads to.  The name of the encoding is one
that the host looks up. -/
def FileTree.readLines (t : FileTree) (encoding : String) (path : Path) :
    Except ScanFailure (List String) :=
  if encoding.toList.contains '\x00' then .error .nullInEncoding
  else
    match t.read path with
    | .error e =>
      .error (if e.kind = .nullCharacter then .inaccessible e else .unreadable path (.file e))
    | .ok bytes =>
      match t.host.codec? encoding with
      | none => .error (.unknownEncoding encoding)
      | some codec =>
        match codec bytes with
        | .error (.decoding e) => .error (.unreadable path (.decoding e))
        | .error (.other message) => .error (.codecGaveUp message)
        | .ok text => .ok ((lines (unifyNewlines text)).map String.ofList)

namespace Scan

/-- What feeding lines to a reader came to. -/
structure Feed where
  reader : Reader
  /-- The number of lines fed. -/
  count : Nat := 0
  errors : List LineError := []
  log : List Event := []
  /-- The refusal that ended the scan, if one did. -/
  failure : Option Reader.LineFailure := none

/-- One line more before the others. -/
def Feed.after (events : List Event) (errors : List LineError) (f : Feed) : Feed :=
  { f with count := f.count + 1, errors := errors ++ f.errors, log := events ++ f.log }

/-- Feed lines to a reader.  The first line has the given number. -/
def feed (policy : ScanPolicy) (path : Path) (reader : Reader) (number : Nat) :
    List String → Feed
  | [] => { reader := reader }
  | line :: rest =>
    let o := reader.readLine line
    match o.failure with
    | none => (feed policy path o.reader (number + 1) rest).after o.events []
    | some (.malformed cause) =>
      let errors := [⟨path, number, cause⟩]
      let events := o.events ++ [.malformedLine path number cause]
      match policy with
      | .strict =>
        { reader := o.reader, count := 1, log := o.events, failure := some (.malformed cause) }
      | .abort => { reader := o.reader, count := 1, errors := errors, log := events }
      | .skip => (feed policy path o.reader (number + 1) rest).after events errors
    | some (.invalid problems) =>
      { reader := o.reader, count := 1, log := o.events, failure := some (.invalid problems) }

/-- Scan the lines of a file and drop the step that is left without a
declaration. -/
def ofLines (policy : ScanPolicy) (path : Path) (reader : Reader) (lines : List String) :
    Scan Report :=
  let f := feed policy path reader 1 lines
  match f.failure with
  | some failure => { reader := f.reader, log := f.log, result := .error (.refused failure) }
  | none =>
    { reader := f.reader.discard
      log := f.log ++ f.reader.pending.toList.map (.stepDropped path)
      result := .ok ⟨[path], f.count, f.errors, f.reader.pending.toList⟩ }

/-- Scan a file. -/
def file (t : FileTree) (policy : ScanPolicy) (encoding : String) (reader : Reader) (path : Path) :
    Scan Report :=
  match t.readLines encoding path with
  | .error failure => { reader := reader, result := .error failure }
  | .ok lines => ofLines policy path reader lines

/-- Scan files one after the other, up to the first failure. -/
def files (t : FileTree) (policy : ScanPolicy) (encoding : String) (reader : Reader) :
    List Path → Scan Report
  | [] => { reader := reader, result := .ok {} }
  | path :: rest =>
    let first := file t policy encoding reader path
    match first.result with
    | .error failure => { first with result := .error failure }
    | .ok report =>
      let others := files t policy encoding first.reader rest
      { reader := others.reader
        log := first.log ++ others.log
        result := others.result.map (report ++ ·) }

end Scan

end Stepbook
