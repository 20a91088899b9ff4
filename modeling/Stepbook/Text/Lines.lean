import Stepbook.Text.Pieces

/-!
# Lines

A source file is read in two steps.  Its line ends are first made uniform:
a carriage return, alone or before a line feed, is read as a line feed.  The
text is then cut at every line boundary, a class wider than the line feed, and
a boundary at the very end opens no further line.

## Main definitions

* `unifyNewlines` — the text with uniform line ends.
* `isLineEnd` — the characters that end a line.
* `lines` — the lines of a text without their ends.
-/

namespace Stepbook.Text

/-- The text with `"\r\n"` and `"\r"` read as `"\n"`.  The fold runs from the
right and remembers whether the next character of the input is a line feed, for
then a carriage return before it adds nothing. -/
def unifyNewlines (s : List Char) : List Char :=
  (s.foldr
    (fun c (r : List Char × Bool) =>
      if c = '\r' then (if r.2 then r.1 else '\n' :: r.1, false)
      else (c :: r.1, c == '\n'))
    ([], false)).1

/-- The characters that end a line: line feed, line tabulation, form feed,
carriage return, the separators U+001C to U+001E, next line, and the Unicode
line and paragraph separators. -/
def isLineEnd (c : Char) : Bool :=
  (0x0A ≤ c.toNat && c.toNat ≤ 0x0D) || (0x1C ≤ c.toNat && c.toNat ≤ 0x1E) ||
    c.toNat == 0x85 || c.toNat == 0x2028 || c.toNat == 0x2029

/-- The lines of a text, without the characters that end them.  Only a text that
goes on after its last line end has a further line. -/
def lines (s : List Char) : List (List Char) :=
  let ps := pieces isLineEnd s
  if ps.getLast? = some [] then ps.dropLast else ps

end Stepbook.Text
