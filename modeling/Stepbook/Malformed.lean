/-!
# Malformed lines

A line of glue code can be malformed in two ways: a step annotation without a
match expression, and a method declaration without a parameter list.

## Main definitions

* `Malformed` — the cause, with the offending text.
* `Malformed.text`, `Malformed.message` — that text, and the wording reported to
  the user.
-/

namespace Stepbook

/-- Why a line of glue code cannot be read. -/
inductive Malformed where
  /-- The step annotation has no expression between a `^` and a later `$`. -/
  | expression (text : String)
  /-- The declaration has no parameter list between a `(` and a later `)`. -/
  | parameterList (text : String)
  deriving DecidableEq, Repr

namespace Malformed

/-- The text that could not be read. -/
def text : Malformed → String
  | expression t => t
  | parameterList t => t

/-- The message for the user. -/
def message : Malformed → String
  | expression t =>
    "There is a problem with your glue code. It is expected to start with '^' and end with '$'. "
      ++ "Examine the expression '" ++ t ++ "'"
  | parameterList t =>
    "There is a problem with your method declaration. It does not contain a proper parameter "
      ++ "definition. Examine the declaration '" ++ t ++ "'"

end Malformed

end Stepbook
