import Stepbook.Text.Printable

/-!
# Quoted text

File errors and the list of source roots in the log show a path in quotes.  The
quotes are single, unless the text holds single quotes and no double ones.
Within them the quote, the backslash and every character that prints nothing of
its own are escaped.

## Main definitions

* `escapeIn` — the form of one character.
* `quote` — the quoted text.
-/

namespace Stepbook.Text

/-- The last `width` hexadecimal digits of a number, in lower case. -/
def hex : Nat → Nat → List Char
  | 0, _ => []
  | width + 1, n => hex width (n / 16) ++ [Nat.digitChar (n % 16)]

/-- The form of one character inside quotes. -/
def escapeIn (mark c : Char) : List Char :=
  if c = mark || c = '\\' then ['\\', c]
  else if c = '\t' then ['\\', 't']
  else if c = '\n' then ['\\', 'n']
  else if c = '\r' then ['\\', 'r']
  else if isPrintable c then [c]
  else if c.toNat ≤ 0xFF then '\\' :: 'x' :: hex 2 c.toNat
  else if c.toNat ≤ 0xFFFF then '\\' :: 'u' :: hex 4 c.toNat
  else '\\' :: 'U' :: hex 8 c.toNat

/-- A text in quotes. -/
def quote (s : String) : String :=
  let cs := s.toList
  let mark := if cs.contains '\'' && !cs.contains '"' then '"' else '\''
  String.ofList (mark :: cs.flatMap (escapeIn mark) ++ [mark])

end Stepbook.Text
