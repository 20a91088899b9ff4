import Stepbook.Text.Pieces
import Stepbook.Text.Quoted

/-!
# Paths

A path is a list of segments below nothing (a relative path), below `/`, or
below `//`.  Writing drops what does not matter: empty segments, `.` segments
and slashes at the end.  A `..` segment stays.

## Main definitions

* `Path` — a path.
* `Path.ofString`, `Path.toString` — reading and writing.
* `Path.join` — a path seen from another.
* `Path.parent`, `Path.child` — a path without its last segment, and with one
  more.
* `Path.quoted` — the path in quotes, for messages.
-/

namespace Stepbook

open Stepbook.Text

/-- What the segments of a path start from. -/
inductive Path.Root where
  /-- The working directory. -/
  | relative
  /-- The root of the file tree. -/
  | slash
  /-- A root written with exactly two slashes. -/
  | doubleSlash
  deriving DecidableEq, Repr

/-- A path. -/
structure Path where
  root : Path.Root := .relative
  segments : List String := []
  deriving DecidableEq, Repr

namespace Path

/-- The segments that count: neither empty nor `.`. -/
def segmentsOf (s : List Char) : List String :=
  ((pieces (· == '/') s).filter fun p => !p.isEmpty && p != ['.']).map String.ofList

/-- The root that a text starts with. -/
def rootOf : List Char → Root
  | '/' :: '/' :: '/' :: _ => .slash
  | '/' :: '/' :: _ => .doubleSlash
  | '/' :: _ => .slash
  | _ => .relative

/-- Read a path. -/
def ofString (s : String) : Path := ⟨rootOf s.toList, segmentsOf s.toList⟩

/-- How a root is written. -/
def Root.toString : Root → String
  | .relative => ""
  | .slash => "/"
  | .doubleSlash => "//"

/-- Write a path.  The empty relative path is `.`. -/
def toString (p : Path) : String :=
  if p.root = .relative ∧ p.segments = [] then "."
  else p.root.toString ++ "/".intercalate p.segments

instance : ToString Path := ⟨toString⟩

/-- The path `q` seen from `p`.  A path with a root stands for itself. -/
def join (p q : Path) : Path :=
  if q.root = .relative then { p with segments := p.segments ++ q.segments } else q

/-- The path without its last segment. -/
def parent (p : Path) : Path := { p with segments := p.segments.dropLast }

/-- The path one segment further on. -/
def child (p : Path) (segment : String) : Path :=
  { p with segments := p.segments ++ [segment] }

/-- Whether there is a null character in the path. -/
def hasNull (p : Path) : Bool := p.segments.any fun s => s.toList.contains '\x00'

/-- The path in quotes. -/
def quoted (p : Path) : String := quote p.toString

end Path

end Stepbook
