import Stepbook.Scan.File
import Stepbook.Text.Order

/-!
# Scanning source roots

The glue code files of a root are the files below it whose names end with one of
the wanted suffixes.  Several roots may overlap; each file is read once, under
the first root that reaches it.

## Main definitions

* `FileTree.glueFiles` — the glue code files below a root, in order.
* `Scan.discover` — the files that several roots reach, each once.
* `Scan.directories` — the scan of several roots.

## Design notes

Two paths are the same file if they lead to the same place.  All roots are
searched before any file is read.

A search looks up everything below its root, whatever its name, and follows
directories as deep as the host can.  It stops at the first node that it cannot
pass, in the order of the nodes of the tree.
-/

namespace Stepbook

namespace FileTree

/-- Whether a file name ends with one of the suffixes. -/
def isGlueFile (suffixes : List String) (name : String) : Bool :=
  suffixes.any fun s => s.toList.isSuffixOf name.toList

/-- Why a search cannot pass a node below its root, if it cannot: the path is too
long to be looked up, or the node is a directory deeper than the host follows. -/
def obstacleAt? (t : FileTree) (root : Path) (names : List String) (node : Node) :
    Option ScanFailure :=
  let p := root.join { segments := names }
  if isTooLong p then some (.inaccessible ⟨.tooLong, p⟩)
  else if node = .directory ∧ t.host.searchDepth < names.length then some .searchTooDeep
  else none

/-- Why the search of a root stops, if it does. -/
def obstacle? (t : FileTree) (root : Path) (place : Place) : Option ScanFailure :=
  (t.nodesBelow place).findSome? fun n => t.obstacleAt? root n.1 n.2

/-- The glue code files below a root, in the order of the names on the way
to them. -/
def glueFiles (t : FileTree) (suffixes : List String) (root : Path) :
    Except ScanFailure (List Path) :=
  match t.locate root with
  | .error kind =>
    .error (if kind.meansAbsent then .rootNotFound root else .inaccessible ⟨kind, root⟩)
  | .ok place =>
    if t.node? place = some .directory then
      match t.obstacle? root place with
      | some failure => .error failure
      | none =>
        let wanted := (t.filesBelow place).filter fun names =>
          isGlueFile suffixes (names.getLastD "")
        let ordered := wanted.mergeSort Text.namesLe
        .ok (ordered.map fun names => root.join { segments := names })
    else .error (.rootNotFound root)

end FileTree

namespace Scan

/-- What the search of several roots came to. -/
structure Discovery where
  log : List Event := []
  result : Except ScanFailure (List Path)

/-- The files that roots reach, each under the first root that reaches it.
`seen` holds the places of the files found so far. -/
def discover (t : FileTree) (suffixes : List String) (seen : List Place) :
    List Path → Discovery
  | [] => { result := .ok [] }
  | root :: roots =>
    match t.glueFiles suffixes root with
    | .error failure => { result := .error failure }
    | .ok found =>
      let isNew (p : Path) : Bool :=
        match t.locate p with
        | .ok place => !seen.contains place
        | .error _ => true
      let fresh := found.filter isNew
      let places := fresh.filterMap fun p => (t.locate p).toOption
      let others := discover t suffixes (seen ++ places) roots
      { log := .filesFound fresh.length root :: others.log
        result := others.result.map (fresh ++ ·) }

/-- A reader with all roots added, and an event for each. -/
def addRoots (reader : Reader) : List Path → Reader × List Event
  | [] => (reader, [])
  | root :: roots =>
    let grown := reader.addBaseDirectory root
    let (final, events) := addRoots grown roots
    (final, .configured grown.registry.baseDirectories :: events)

/-- Scan the glue code below several roots. -/
def directories (t : FileTree) (suffixes : List String) (policy : ScanPolicy) (encoding : String)
    (reader : Reader) (roots : List Path) : Scan Report :=
  let (reader, events) := addRoots reader roots
  let found := discover t suffixes [] roots
  match found.result with
  | .error failure => { reader := reader, log := events ++ found.log, result := .error failure }
  | .ok paths =>
    let s := files t policy encoding reader paths
    let ending : List Event :=
      match s.result with
      | .ok _ => [.finished s.reader.steps.length s.reader.registry.enumerations.length]
      | .error _ => []
    { s with log := events ++ found.log ++ s.log ++ ending }

end Scan

end Stepbook
