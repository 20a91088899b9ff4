import Stepbook.Data
import Stepbook.Text.Quoted

/-!
# JSON text

Command results are written as JSON: one entry or item a line, two blanks of
indentation a level, and nothing but printable ASCII.

## Main definitions

* `Json.quote` — a JSON string literal.
* `Json.render` — the JSON text of a tree of data.
-/

namespace Stepbook.Json

open Stepbook.Text

/-- A character outside printable ASCII as one or two units of sixteen bits. -/
def escapeUnits (n : Nat) : List Char :=
  if n < 0x10000 then '\\' :: 'u' :: hex 4 n
  else
    let m := n - 0x10000
    '\\' :: 'u' :: hex 4 (0xD800 + m / 0x400) ++ '\\' :: 'u' :: hex 4 (0xDC00 + m % 0x400)

/-- The form of one character inside a string literal. -/
def escape (c : Char) : List Char :=
  if c = '"' || c = '\\' then ['\\', c]
  else if c = '\n' then ['\\', 'n']
  else if c = '\r' then ['\\', 'r']
  else if c = '\t' then ['\\', 't']
  else if c.toNat = 0x08 then ['\\', 'b']
  else if c.toNat = 0x0C then ['\\', 'f']
  else if 0x20 ≤ c.toNat && c.toNat ≤ 0x7E then [c]
  else escapeUnits c.toNat

/-- A JSON string literal. -/
def quote (s : String) : String :=
  String.ofList ('"' :: s.toList.flatMap escape ++ ['"'])

/-- The line break before an item `depth` levels deep. -/
def newLine (depth : Nat) : String :=
  String.ofList ('\n' :: List.replicate (2 * depth) ' ')

/-- Items between brackets, one a line. -/
def block (opener closer : String) (depth : Nat) : List String → String
  | [] => opener ++ closer
  | items =>
    opener ++ newLine (depth + 1) ++ ("," ++ newLine (depth + 1)).intercalate items
      ++ newLine depth ++ closer

mutual

/-- The JSON text of data that stands `depth` levels deep. -/
def renderAt (depth : Nat) : Data → String
  | .null => "null"
  | .boolean b => if b then "true" else "false"
  | .integer n => toString n
  | .decimal literal => literal
  | .moment literal => quote literal
  | .text s => quote s
  | .array items => block "[" "]" depth (renderItems (depth + 1) items)
  | .table entries => block "\x7b" "\x7d" depth (renderEntries (depth + 1) entries)

/-- The JSON texts of the items of an array. -/
def renderItems (depth : Nat) : List Data → List String
  | [] => []
  | d :: ds => renderAt depth d :: renderItems depth ds

/-- The JSON texts of the entries of a table. -/
def renderEntries (depth : Nat) : List (String × Data) → List String
  | [] => []
  | (key, value) :: es => (quote key ++ ": " ++ renderAt depth value) :: renderEntries depth es

end

/-- The JSON text of a tree of data. -/
def render (d : Data) : String := renderAt 0 d

end Stepbook.Json
