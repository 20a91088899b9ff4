import Stepbook.Data
import Stepbook.Path
import Stepbook.Text.Blank

/-!
# The registry of names

While glue code is read, the registry collects the names that are needed later
to find the values of enumerations: the source roots, the imported names, and
the enumeration types that parameters use.

## Main definitions

* `Registry` — source roots, imported names and enumeration types.
* `Registry.note` — a name list with one more name.
* `Registry.configure`, `addInclude`, `addEnumeration` — the changes.
* `Registry.qualifiedName?` — the import that declares a type.
* `Registry.toData` — the record of a registry.

## Design notes

Name lists keep the order of first appearance and no name twice.  Names are
trimmed on the way in and empty ones are ignored.
-/

namespace Stepbook

open Stepbook.Text

/-- The names collected while reading glue code. -/
structure Registry where
  /-- The source roots. -/
  baseDirectories : List Path := []
  /-- The imported names, in order of first appearance. -/
  classIncludes : List String := []
  /-- The enumeration types, in order of first appearance. -/
  enumerations : List String := []
  deriving DecidableEq

namespace Registry

/-- A list of names with one more name at its end, unless the name is blank or
already there. -/
def note (names : List String) (name : String) : List String :=
  let name := trimmed name
  if name = "" ∨ name ∈ names then names else names ++ [name]

/-- Replace the source roots. -/
def configure (r : Registry) (directories : List Path) : Registry :=
  { r with baseDirectories := directories }

/-- Record an imported name. -/
def addInclude (r : Registry) (name : String) : Registry :=
  { r with classIncludes := note r.classIncludes name }

/-- Record an enumeration type. -/
def addEnumeration (r : Registry) (name : String) : Registry :=
  { r with enumerations := note r.enumerations name }

/-- The last dotted part of a name. -/
def simpleName (name : List Char) : List Char :=
  (name.reverse.takeWhile (· != '.')).reverse

/-- The first recorded import whose last dotted part is the given type. -/
def qualifiedName? (r : Registry) (type : String) : Option String :=
  r.classIncludes.find? fun i => simpleName i.toList == type.toList

/-- The record of a registry.  Each enumeration type comes with the import that
declares it, if there is one. -/
def toData (r : Registry) : Data :=
  .table
    [("base_directories", .array (r.baseDirectories.map fun d => .text d.toString)),
     ("class_includes", .array (r.classIncludes.map .text)),
     ("enumerations", .array <| r.enumerations.map fun name => .table
        [("name", .text name),
         ("qualified_name", ((r.qualifiedName? name).map Data.text).getD .null)])]

end Registry

end Stepbook
