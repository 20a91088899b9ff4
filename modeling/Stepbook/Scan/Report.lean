import Stepbook.Encoding
import Stepbook.FileTree
import Stepbook.Reader

/-!
# What a scan reports

## Main definitions

* `ScanPolicy` — what to do at a malformed line.
* `LineError`, `Report` — the malformed lines passed over, and the report on one
  or more files.
* `ScanFailure` — what ends a scan early.
* `Scan α` — the outcome of a scan.

## Design notes

A scan that fails still leaves a reader with what was read before, and a log, so
`Scan` carries both beside the result.
-/

namespace Stepbook

/-- What to do at a malformed line. -/
inductive ScanPolicy where
  /-- Leave the rest of the file. -/
  | abort
  /-- Go on with the next line. -/
  | skip
  /-- End the scan. -/
  | strict
  deriving DecidableEq, Repr

/-- The words for the policies. -/
def ScanPolicy.words : List (String × ScanPolicy) :=
  [("abort", .abort), ("skip", .skip), ("strict", .strict)]

/-- The policy that a word stands for. -/
def ScanPolicy.ofWord? (word : String) : Option ScanPolicy :=
  (words.find? fun w => w.1 == word).map (·.2)

/-- A malformed line that was passed over. -/
structure LineError where
  path : Path
  /-- The number of the line, from one. -/
  number : Nat
  cause : Malformed
  deriving DecidableEq

/-- The report on one or more files. -/
structure Report where
  files : List Path := []
  /-- The number of lines read. -/
  lines : Nat := 0
  errors : List LineError := []
  /-- The phrases of steps without a declaration. -/
  discarded : List String := []
  deriving DecidableEq

/-- Reports one after the other. -/
instance : Append Report where
  append a b :=
    ⟨a.files ++ b.files, a.lines + b.lines, a.errors ++ b.errors, a.discarded ++ b.discarded⟩

/-- Why a file cannot be read. -/
inductive ReadFailure where
  | file (error : FileError)
  | decoding (error : DecodeError)
  deriving DecidableEq

/-- What ends a scan early. -/
inductive ScanFailure where
  /-- A source root is not a directory. -/
  | rootNotFound (root : Path)
  | unreadable (path : Path) (reason : ReadFailure)
  /-- A path is none that could be looked up. -/
  | inaccessible (error : FileError)
  /-- Directories nest deeper than a search can follow. -/
  | searchTooDeep
  | unknownEncoding (name : String)
  /-- There is a null character in the name of the encoding. -/
  | nullInEncoding
  /-- The codec of a file gave up and named no place in it. -/
  | codecGaveUp (message : String)
  /-- A line was refused and the policy does not pass over it. -/
  | refused (failure : Reader.LineFailure)
  deriving DecidableEq

/-- The message for the user. -/
def ReadFailure.message : ReadFailure → String
  | file e => e.message
  | decoding e => e.message

/-- The message for the user. -/
def ScanFailure.message : ScanFailure → String
  | rootNotFound root => "Glue code directory not found: " ++ root.toString
  | unreadable path reason =>
    "Cannot read glue code file " ++ path.toString ++ ": " ++ reason.message
  | inaccessible e => e.message
  | searchTooDeep => "maximum recursion depth exceeded"
  | unknownEncoding name => "unknown encoding: " ++ name
  | nullInEncoding => "embedded null character"
  | codecGaveUp message => message
  | refused (.malformed cause) => cause.message
  | refused (.invalid problems) => "; ".intercalate (problems.map fun p => p.cause.message)

/-- Whether the glue code is to blame for a failure. -/
def ScanFailure.concernsGlueCode : ScanFailure → Bool
  | .rootNotFound _ | .unreadable _ _ | .refused (.malformed _) => true
  | .inaccessible _ | .searchTooDeep | .unknownEncoding _ | .nullInEncoding | .codecGaveUp _
  | .refused (.invalid _) => false

/-- The outcome of a scan. -/
structure Scan (α : Type) where
  /-- The reader as the scan leaves it. -/
  reader : Reader
  /-- The events of the scan, in order. -/
  log : List Event := []
  result : Except ScanFailure α

end Stepbook
