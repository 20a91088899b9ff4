import Stepbook.Malformed
import Stepbook.Text.Blank
import Stepbook.Text.Enclosed

/-!
# Parameter lists

The line after a step annotation declares the step's method, and what stands
between its first `(` and its last `)` is the parameter list.

## Main definitions

* `ParameterList.segments` — the text of each parameter in a declaration.

## Design notes

A parameter list is cut at every comma.  A generic type with a comma inside is
cut too; blank segments are dropped.
-/

namespace Stepbook.ParameterList

open Stepbook.Text

/-- The segments of the text between the parentheses. -/
def segmentsOf (body : List Char) : List (List Char) :=
  (pieces (· == ',') body).filter fun s => !s.all isBlank

/-- The text of each parameter that a method declaration lists. -/
def segments (declaration : String) : Except Malformed (List String) :=
  match enclosed? '(' ')' declaration.toList with
  | some body => .ok ((segmentsOf body).map String.ofList)
  | none => .error (.parameterList declaration)

end Stepbook.ParameterList
