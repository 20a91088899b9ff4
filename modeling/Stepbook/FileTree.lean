import Stepbook.Host
import Stepbook.Path

/-!
# File trees

Glue code is looked up, and results are written, in a tree of directories and
files.  A command is a function of the tree it starts with; reading the real
tree and carrying out the changes is left to the program around it.

## Main definitions

* `Place` — a position in the tree: the names on the way from its root.
* `FileTree` — what stands at which place, the working directory, and the host.
* `FileTree.locate` — the place that a path leads to.
* `FileTree.lookUp` — what stands there, if anything does.
* `FileTree.read`, `FileTree.write`, `FileTree.makeDirectories` — access by
  path, with the errors of a file system.
* `FileTree.nodesBelow`, `FileTree.filesBelow` — all nodes and all files below a place.

## Design notes

A path is followed segment by segment, so every segment but the last has to lead
to a directory, and `..` leads out of the directory reached so far.  The root of
the tree is always a directory.  Names and paths are bounded in length, and no
null character stands in a path.  Links, permissions and names that are no text
are not described, and directories are made at any depth.
-/

namespace Stepbook

/-- A position in a file tree: the names on the way from the root. -/
abbrev Place := List String

/-- The content of a file. -/
abbrev Bytes := List UInt8

/-- What stands at a place. -/
inductive FileTree.Node where
  | directory
  | file (content : Bytes)
  deriving DecidableEq, Repr

/-- A tree of directories and files, on a host. -/
structure FileTree where
  /-- Where relative paths start. -/
  workingDirectory : Place := []
  nodes : List (Place × FileTree.Node) := []
  /-- The machine that the tree is read on. -/
  host : Host := {}

/-- Why a file or directory cannot be used. -/
inductive FileError.Kind where
  | notFound
  /-- Something is in the way. -/
  | alreadyExists
  /-- The path goes on behind a file. -/
  | notDirectory
  /-- A directory stands where a file is wanted. -/
  | isDirectory
  /-- The path or a name in it is too long. -/
  | tooLong
  /-- There is a null character in the path. -/
  | nullCharacter
  deriving DecidableEq, Repr

/-- An error of the file system, with the path it was met at. -/
structure FileError where
  kind : FileError.Kind
  path : Path
  deriving DecidableEq, Repr

namespace FileError

/-- The number of an error.  A path with a null character is refused before it
comes to one. -/
def Kind.code? : Kind → Option Nat
  | notFound => some 2
  | alreadyExists => some 17
  | notDirectory => some 20
  | isDirectory => some 21
  | tooLong => some 36
  | nullCharacter => none

/-- The wording of an error. -/
def Kind.wording : Kind → String
  | notFound => "No such file or directory"
  | alreadyExists => "File exists"
  | notDirectory => "Not a directory"
  | isDirectory => "Is a directory"
  | tooLong => "File name too long"
  | nullCharacter => "embedded null byte"

/-- Whether the error means that nothing stands where the path leads. -/
def Kind.meansAbsent : Kind → Bool
  | notFound | notDirectory | nullCharacter => true
  | alreadyExists | isDirectory | tooLong => false

/-- The message for the user. -/
def message (e : FileError) : String :=
  match e.kind.code? with
  | some n => "[Errno " ++ toString n ++ "] " ++ e.kind.wording ++ ": " ++ e.path.quoted
  | none => e.kind.wording

end FileError

namespace FileTree

/-- What stands at a place. -/
def node? (t : FileTree) (place : Place) : Option Node :=
  if place = [] then some .directory
  else (t.nodes.find? fun n => n.1 == place).map (·.2)

/-- The tree with a node at a place. -/
def put (t : FileTree) (place : Place) (node : Node) : FileTree :=
  { t with nodes := t.nodes.filter (fun n => n.1 != place) ++ [(place, node)] }

/-- The length of the longest name, in bytes. -/
def longestName : Nat := 255

/-- The length of the longest path, in bytes. -/
def longestPath : Nat := 4095

/-- Whether a path is too long to be looked up. -/
def isTooLong (p : Path) : Bool := longestPath < p.toString.utf8ByteSize

/-- Follow segments from a place. -/
def follow (t : FileTree) (place : Place) : List String → Except FileError.Kind Place
  | [] => .ok place
  | s :: rest =>
    match t.node? place with
    | none => .error .notFound
    | some (.file _) => .error .notDirectory
    | some .directory =>
      if s = ".." then follow t place.dropLast rest
      else if longestName < s.utf8ByteSize then .error .tooLong
      else if (t.node? (place ++ [s])).isSome then follow t (place ++ [s]) rest
      else .error .notFound

/-- Where the segments of a path start. -/
def start (t : FileTree) (p : Path) : Place :=
  if p.root = .relative then t.workingDirectory else []

/-- The place that a path leads to. -/
def locate (t : FileTree) (p : Path) : Except FileError.Kind Place :=
  if p.hasNull then .error .nullCharacter
  else if isTooLong p then .error .tooLong
  else t.follow (t.start p) p.segments

/-- What a path leads to. -/
def find? (t : FileTree) (p : Path) : Option Node := (t.locate p).toOption.bind t.node?

/-- What a path leads to, if anything.  Whether something stands at the end of a
path that is too long cannot be told. -/
def lookUp (t : FileTree) (p : Path) : Except FileError (Option Node) :=
  match t.locate p with
  | .ok place => .ok (t.node? place)
  | .error kind => if kind.meansAbsent then .ok none else .error ⟨kind, p⟩

/-- Whether a path leads to a directory. -/
def isDirectory (t : FileTree) (p : Path) : Bool := t.find? p == some .directory

/-- Whether a path leads to a file. -/
def isFile (t : FileTree) (p : Path) : Bool :=
  match t.find? p with
  | some (.file _) => true
  | _ => false

/-- The content of the file that a path leads to. -/
def read (t : FileTree) (p : Path) : Except FileError Bytes :=
  match t.locate p with
  | .error kind => .error ⟨kind, p⟩
  | .ok place =>
    match t.node? place with
    | some (.file content) => .ok content
    | some .directory => .error ⟨.isDirectory, p⟩
    | none => .error ⟨.notFound, p⟩

/-- The nodes at a place or below, each with the names on the way to it. -/
def nodesBelow (t : FileTree) (place : Place) : List (List String × Node) :=
  t.nodes.filterMap fun n =>
    if place.isPrefixOf n.1 then some (n.1.drop place.length, n.2) else none

/-- The files below a place, each with the names on the way to it. -/
def filesBelow (t : FileTree) (place : Place) : List (List String) :=
  t.nodes.filterMap fun n =>
    match n.2 with
    | .directory => none
    | .file _ => if place.isPrefixOf n.1 then some (n.1.drop place.length) else none

/-! ### Changes -/

/-- The place for a new node under the last segment of a path: that segment must
be a name, and the segments before it must lead to a directory. -/
def freePlace (t : FileTree) (p : Path) : Except FileError.Kind Place :=
  match p.segments.getLast? with
  | none | some ".." => .error .notFound
  | some name =>
    match t.locate p.parent with
    | .error kind => .error kind
    | .ok above =>
      if t.node? above = some .directory then .ok (above ++ [name]) else .error .notDirectory

/-- Write a file, in the place of an old one if there is one. -/
def write (t : FileTree) (p : Path) (content : Bytes) : Except FileError FileTree :=
  match t.locate p with
  | .ok place =>
    if t.node? place = some .directory then .error ⟨.isDirectory, p⟩
    else .ok (t.put place (.file content))
  | .error .notFound =>
    match t.freePlace p with
    | .ok place => .ok (t.put place (.file content))
    | .error kind => .error ⟨kind, p⟩
  | .error kind => .error ⟨kind, p⟩

/-- Make one directory. -/
def makeDirectory (t : FileTree) (p : Path) : Except FileError FileTree :=
  match t.locate p with
  | .ok _ => .error ⟨.alreadyExists, p⟩
  | .error .notFound =>
    match t.freePlace p with
    | .ok place => .ok (t.put place .directory)
    | .error kind => .error ⟨kind, p⟩
  | .error kind => .error ⟨kind, p⟩

/-- Make a directory unless the path leads to one already. -/
def ensureDirectory (t : FileTree) (p : Path) : Except FileError FileTree :=
  match t.makeDirectory p with
  | .ok t' => .ok t'
  | .error e => if e.kind != .notFound && t.isDirectory p then .ok t else .error e

/-- The number of segments of a path bounds the directories to make. -/
def makeDirectoriesUpTo (t : FileTree) (p : Path) : Nat → Except FileError FileTree
  | 0 => t.ensureDirectory p
  | depth + 1 =>
    match t.ensureDirectory p with
    | .ok t' => .ok t'
    | .error e =>
      if e.kind = .notFound then
        match makeDirectoriesUpTo t p.parent depth with
        | .ok t' => t'.ensureDirectory p
        | .error e => .error e
      else .error e

/-- Make a directory and those above it that are missing. -/
def makeDirectories (t : FileTree) (p : Path) : Except FileError FileTree :=
  t.makeDirectoriesUpTo p p.segments.length

end FileTree

end Stepbook
