import Stepbook.Text.Pieces

/-!
# Control sequences

A control sequence moves the cursor of a terminal or changes its colours.  It is
an escape character and an opening bracket, then parameters, then one letter.
The steps are written for other programs, so control sequences are left out.

## Main definitions

* `Control.afterEscape` — the text behind an escape character, without the
  sequence that it may start.
* `Control.strip` — a text without its control sequences.

## Design notes

No escape character stands inside a sequence, so the text is cut at the escape
characters and each piece loses at most the sequence at its start.
-/

namespace Stepbook.Console.Control

open Stepbook.Text

/-- The character that starts a sequence. -/
def escapeCharacter : Char := '\x1b'

/-- A character of the parameters. -/
def isParameter (c : Char) : Bool := c.isDigit || c == ';' || c == '?'

/-- The text behind an escape character, without the sequence that it may start.
Where it starts none it stays. -/
def afterEscape (s : List Char) : List Char :=
  match s with
  | '[' :: rest =>
    match rest.dropWhile isParameter with
    | c :: rest => if c.isAlpha then rest else escapeCharacter :: s
    | [] => escapeCharacter :: s
  | _ => escapeCharacter :: s

/-- A text without its control sequences. -/
def strip (s : List Char) : List Char :=
  let cut := pieces (· == escapeCharacter) s
  cut.headD [] ++ cut.tail.flatMap afterEscape

/-- A text without escape characters stays as it is. -/
theorem strip_of_forall_ne {s : List Char} (h : ∀ c ∈ s, c ≠ escapeCharacter) :
    strip s = s := by
  have hcut : pieces (· == escapeCharacter) s = [s] :=
    pieces_of_forall_not fun c hc => by simp [h c hc]
  simp [strip, hcut]

end Stepbook.Console.Control
