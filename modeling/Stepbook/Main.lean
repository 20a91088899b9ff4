import Stepbook.CommandLine.Run

/-!
# The program

The program reads the part of the file tree that a command line concerns, runs
the command line on it, carries out the changes, and prints what the run wrote.
-/

namespace Stepbook.Program

open Stepbook.CommandLine

/-- The place that a path names, seen from the working directory. -/
def placeOf (workingDirectory : Place) (p : Path) : Place :=
  p.segments.foldl (fun place s => if s = ".." then place.dropLast else place ++ [s])
    (if p.root = .relative then workingDirectory else [])

/-- How the file system writes a place. -/
def written (place : Place) : String := "/" ++ "/".intercalate place

/-- The names in a directory, if there is one at the place. -/
def names? (place : Place) : IO (Option (List String)) := do
  try
    let entries ← ((← IO.currentDir) / written place).readDir
    return some (entries.toList.map (·.fileName))
  catch _ => return none

/-- What stands at a place, if it can be read. -/
def node? (place : Place) : IO (Option FileTree.Node) := do
  match ← names? place with
  | some _ => return some .directory
  | none =>
    try
      let content ← IO.FS.readBinFile (written place)
      return some (.file content.toList)
    catch _ => return none

/-- Add what stands at a place and at the places above it. -/
def addAt (t : FileTree) (place : Place) : IO FileTree := do
  let mut tree := t
  for i in List.range place.length do
    let above := place.take (i + 1)
    if (tree.node? above).isNone then
      if let some node ← node? above then
        tree := tree.put above node
  return tree

/-- Add everything below a place. -/
partial def addBelow (t : FileTree) (place : Place) : IO FileTree := do
  let mut tree ← addAt t place
  for name in (← names? place).getD [] do
    tree ← addBelow tree (place ++ [name])
  return tree

/-- Add what a command concerns. -/
def addFor (t : FileTree) (command : Command) : IO FileTree := do
  let place := placeOf t.workingDirectory
  match command with
  | .init directory => addAt t (place (directory.child Config.fileName))
  | .steps given output _ path => concerned t given output path
  | .enums given path => concerned t given none path
where
  /-- Add a configuration file, the source roots, and the file to write. -/
  concerned (t : FileTree) (given : List Path) (output : Option Path) (path : Path) :
      IO FileTree := do
    let place := placeOf t.workingDirectory
    let mut tree ← addAt t (place path)
    let config := (Config.load tree path).toOption.getD {}
    for root in Session.rootsOf given config path do
      tree ← addBelow tree (place root)
    for target in (Session.targetOf output config path).toList do
      tree ← addAt tree (place target)
    return tree

/-- Carry out the changes from one tree to another. -/
def carryOut (before after : FileTree) : IO Unit := do
  for (place, node) in after.nodes do
    if before.node? place != some node then
      match node with
      | .directory => IO.FS.createDirAll (written place)
      | .file content => IO.FS.writeBinFile (written place) ⟨content.toArray⟩

/-- Run a command line on the real file tree. -/
def runOn (arguments : List String) : IO UInt32 := do
  let here := Path.ofString (← IO.currentDir).toString
  let start ← addAt { workingDirectory := here.segments } here.segments
  let tree ←
    match Request.parse arguments with
    | some (.run _ command) => addFor start command
    | _ => pure start
  let o := CommandLine.run tree arguments
  IO.eprint o.stderr
  carryOut tree o.tree
  IO.print o.stdout
  if let some crash := o.crash then IO.eprintln crash.message
  return o.exit.toUInt32

end Stepbook.Program

/-- Run the command line of the program. -/
def main (arguments : List String) : IO UInt32 := Stepbook.Program.runOn arguments
