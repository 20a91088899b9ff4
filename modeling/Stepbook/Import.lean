import Stepbook.Text.Blank
import Stepbook.Text.Enclosed

/-!
# Import declarations

## Main definitions

* `Import.name?` — the name that a line imports.  A static import names a
  member.
-/

namespace Stepbook.Import

open Stepbook.Text

/-- A text without the semicolons it ends with. -/
def withoutSemicolons (s : List Char) : List Char :=
  (s.reverse.dropWhile (· == ';')).reverse

/-- The name in the part of a line behind the word `import`. -/
def nameOf (rest : List Char) : List Char :=
  let name := trim (withoutSemicolons rest)
  ((afterPrefix? "static ".toList name).map trim).getD name

/-- The name that a line imports, if it is an import declaration that names
something. -/
def name? (line : String) : Option String :=
  match (afterPrefix? "import ".toList (trim line.toList)).map nameOf with
  | none | some [] => none
  | some name => some (String.ofList name)

end Stepbook.Import
