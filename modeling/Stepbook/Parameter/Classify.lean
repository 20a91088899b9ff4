import Stepbook.Parameter
import Stepbook.Text.Blank
import Stepbook.Text.Enclosed

/-!
# What a declared parameter takes

A segment of a parameter list such as `@Transform(X.class) List<Animal> pets`
declares a type and a name.  Known types are numbers, texts and dates; every
other type is taken for an enumeration.

## Main definitions

* `afterMarker` — a segment without a leading parameter annotation.
* `listElement?` — the element type of a list type.
* `Parameter.ofSegment` — the parameter a segment declares.

## Design notes

Known types are recognised without regard to letter case.  Lower-casing the
ASCII letters decides this.  Only two other characters have an ASCII letter in
their lower case: the Kelvin sign, but no known type has a `k`, and the dotted
capital `I`, whose lower case keeps the dot as a character of its own.

`Parameter.ofSegment` is irreducible, so that no proof about a reader decodes the
tables of words that it looks into.
-/

namespace Stepbook

open Stepbook.Text

namespace Parameter

/-- The annotations that may stand before a parameter. -/
def markers : List String := ["@Transform", "@Delimiter"]

/-- What follows the first occurrence of `p` in `s`. -/
def afterFirst? (p : List Char) : List Char → Option (List Char)
  | [] => afterPrefix? p []
  | c :: s => (afterPrefix? p (c :: s)).or (afterFirst? p s)

/-- A trimmed segment without the parameter annotation it starts with.  The
annotation ends at the first closing parenthesis before a space. -/
def afterMarker (segment : List Char) : List Char :=
  if markers.any fun m => m.toList.isPrefixOf segment then
    ((afterFirst? [')', ' '] segment).map trim).getD segment
  else segment

/-- The element type of a list type `List<T>`. -/
def listElement? (type : List Char) : Option (List Char) :=
  match afterPrefix? "List<".toList type with
  | some rest =>
    if rest.getLast? = some '>' && 2 ≤ rest.length then some rest.dropLast else none
  | none => none

/-- Whether a type is a list type. -/
def isListType (type : String) : Bool := (listElement? type.toList).isSome

/-- The known types, in lower case, and what they take. -/
def knownTypes : List (String × ParameterKind) :=
  [("long", .number), ("int", .number), ("integer", .number),
   ("string", .text), ("char", .text), ("double", .text), ("boolean", .text),
   ("datatable", .text), ("date", .date)]

/-- What a type takes, if it is one of the known types. -/
def knownKind? (type : List Char) : Option ParameterKind :=
  (knownTypes.find? fun t => t.1.toList == type.map Char.toLower).map (·.2)

/-- The declared type and name: the first two words, with the name of a list
parameter marked as such and its type reduced to the element type. -/
def declared (segment : List Char) : List Char × List Char :=
  let ws := words (afterMarker (trim segment))
  let type := ws.headD []
  let name := (ws.drop 1).headD []
  match listElement? type with
  | some element => (element, name ++ "List".toList)
  | none => (type, name)

/-- The parameter that a segment declares.  A blank segment declares none. -/
@[irreducible]
def ofSegment (segment : String) : Check Parameter :=
  let (type, name) := declared segment.toList
  match knownKind? type with
  | some kind => .ok ⟨String.ofList name, kind⟩
  | none => ofEnumeration (String.ofList name) (String.ofList type)

end Parameter

end Stepbook
