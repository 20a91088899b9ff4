/-!
# Faults in a configuration text

## Main definitions

* `Toml.Fault` — what is wrong with a text, and how much of it was left.
* `Toml.Parse α` — a value and the text behind it, or a fault.
* `Toml.Fault.describe` — the message, with line and column.
-/

namespace Stepbook.Toml

/-- What can be wrong with a configuration text. -/
inductive Fault.Cause where
  | statement
  | endOfLine
  | key
  | equals
  | value
  | closingBracket
  | closingBrace
  | headerEnd
  | unterminatedString
  | character (c : Char)
  | escape
  | codePoint
  | date
  /-- A whole number has more digits than are read, here counted. -/
  | tooManyDigits (count : Nat)
  /-- Values nest too deep. -/
  | tooDeep
  /-- A table is opened a second time. -/
  | reopened
  /-- An array or an inline table is extended. -/
  | closed
  /-- A key is given a second value. -/
  | overwritten
  deriving DecidableEq, Repr

/-- The wording of a cause. -/
def Fault.Cause.wording : Fault.Cause → String
  | statement => "Invalid statement"
  | endOfLine => "Expected newline or end of document after a statement"
  | key => "Invalid initial character for a key part"
  | equals => "Expected '=' after a key in a key/value pair"
  | value => "Invalid value"
  | closingBracket => "Unclosed array"
  | closingBrace => "Unclosed inline table"
  | headerEnd => "Expected ']' at the end of a table declaration"
  | unterminatedString => "Unterminated string"
  | character _ => "Illegal character"
  | escape => "Unescaped '\\' in a string"
  | codePoint => "Escaped character is not a Unicode scalar value"
  | date => "Invalid date or datetime"
  | tooManyDigits _ => "Too many digits"
  | tooDeep => "Values nest too deep"
  | reopened => "Cannot declare a table twice"
  | closed => "Cannot mutate an immutable namespace"
  | overwritten => "Cannot overwrite a value"

/-- What is wrong, and how many characters were left to read. -/
structure Fault where
  cause : Fault.Cause
  left : Nat
  deriving DecidableEq, Repr

/-- The message for a fault in a text: the cause with its line and column. -/
def Fault.describe (text : List Char) (f : Fault) : String :=
  let before := text.take (text.length - f.left)
  let line := before.count '\n' + 1
  let column := (before.reverse.takeWhile (· != '\n')).length + 1
  f.cause.wording ++ " (at line " ++ toString line ++ ", column " ++ toString column ++ ")"

/-- A value and the text behind it, or a fault. -/
abbrev Parse (α : Type) := Except Fault (α × List Char)

/-- A fault at the start of the text that is left. -/
def fault {α : Type} (cause : Fault.Cause) (left : List Char) : Except Fault α :=
  .error ⟨cause, left.length⟩

end Stepbook.Toml
