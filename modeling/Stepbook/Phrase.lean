import Stepbook.Malformed
import Stepbook.Phrase.Group
import Stepbook.Phrase.Optional
import Stepbook.Text.Blank

/-!
# Display phrases

A step annotation such as `@When("^I (.*)login$")` holds a match expression
between its first `^` and its last `$`.  The display phrase shows that
expression to people who pick steps from a list.

## Main definitions

* `Phrase.expression` — the match expression of a step annotation.
* `Phrase.ofExpression` — the phrase of an expression.  Groups that capture
  nothing become a tagged ellipsis, the other groups a placeholder, and
  optional groups keep their text between tags.
* `Phrase.extract` — the two together.
* `Phrase.opensStep` — whether a line begins with a step annotation.

## Design notes

The passes run in a fixed order.  No pass brings in a parenthesis or a bracket,
so a later pass never meets the output of an earlier one by accident.
-/

namespace Stepbook.Phrase

open Stepbook.Text

/-- What a group without a capture shows. -/
def anyMarker : List Char := "<span class='any'>...</span>".toList

/-- What a capturing group shows. -/
def placeholder : List Char := "XXXX".toList

/-- The display phrase of a match expression. -/
def ofExpression (e : List Char) : List Char :=
  tagOptional (replaceGroups ['('] placeholder (replaceGroups ['(', '?', ':'] anyMarker e))

/-- The match expression of a step annotation: what stands between its first `^`
and its last `$`. -/
def expression (text : String) : Except Malformed String :=
  match enclosed? '^' '$' text.toList with
  | some e => .ok (String.ofList e)
  | none => .error (.expression text)

/-- The display phrase of a step annotation. -/
def extract (text : String) : Except Malformed String :=
  (expression text).map fun e => String.ofList (ofExpression e.toList)

/-- The annotations that open a step. -/
def keywords : List String := ["@Given", "@When", "@Then"]

/-- Whether a line, blanks aside, begins with a step annotation. -/
def opensStep (line : String) : Bool :=
  keywords.any fun k => k.toList.isPrefixOf (trim line.toList)

end Stepbook.Phrase
