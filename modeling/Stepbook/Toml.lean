import Stepbook.Toml.Draft
import Stepbook.Toml.Scalar

/-!
# Configuration texts

Configuration is written in TOML, version 1.0.

## Main definitions

* `Toml.Limits` — how far values may nest.
* `Toml.value` — a value and the text behind it.
* `Toml.statement` — a line's statement and the text behind it.
* `Toml.parse` — the tables that a text describes.

## Design notes

Values nest, so their readers call one another; each call passes less fuel on,
and the fuel at the start exceeds what a text of its length can use up.  How
deep values nest is bounded apart from that, by the stack of the machine: an
array and an inline table keep some of the room on it while the values inside
are read, and every value wants some for itself.
-/

namespace Stepbook.Toml

open Stepbook.Text

/-- Report a cause at the start of the text that is left. -/
def orFault {α : Type} (left : List Char) (r : Except Fault.Cause α) : Except Fault α :=
  r.mapError fun cause => ⟨cause, left.length⟩

/-! ### Nesting -/

/-- What opens at the start of a value. -/
inductive Opening where
  | array (inside : List Char)
  | table (inside : List Char)
  /-- The value holds no others. -/
  | nothing
  deriving DecidableEq

/-- What opens at the start of a text. -/
def opening : List Char → Opening
  | '[' :: rest => .array rest
  | '\x7b' :: rest => .table rest
  | _ => .nothing

/-- The room that a value keeps while the values inside it are read: a value in an
array is two calls further down, one in an inline table three. -/
def kept (s : List Char) : Nat :=
  match opening s with
  | .array _ => 2
  | .table _ => 3
  | .nothing => 0

/-- The limits for nested values, in calls that fit on the stack.  The default
room is that on an empty stack of a thousand frames, less what leads to the first
value; every frame of a caller is one less.  What a value wants for itself depends
on its text (an escape in a string wants more than a digit) and on the machine.
There is always room for what stands outside of values: keys, headers and
comments. -/
structure Limits where
  /-- The room where the value of a statement starts. -/
  room : Nat := 988
  /-- The room that the value at the start of a text wants, the values inside it
  left aside. -/
  wanted : List Char → Nat := fun _ => 0

namespace Limits

/-- The least room in which the value at the start of a text is read. -/
def least (limits : Limits) (s : List Char) : Nat := max (limits.wanted s) (kept s)

/-- The room left for the values inside the value at the start of a text. -/
def enter (limits : Limits) (room : Nat) (s : List Char) : Except Fault Nat :=
  if limits.least s ≤ room then .ok (room - kept s) else fault .tooDeep s

end Limits

/-! ### Values -/

/-- A value that holds no others. -/
def scalar (s : List Char) : Parse Data :=
  match string? s with
  | some r => r.map fun r => (.text (String.ofList r.1), r.2)
  | none =>
    match boolean? s with
    | some r => .ok r
    | none =>
      match moment? s with
      | some r => r
      | none => (number? s).getD (fault .value s)

/-- What stands behind a value inside another one. -/
inductive Delimiter where
  /-- The outer value ends. -/
  | last (rest : List Char)
  /-- A comma. -/
  | comma (rest : List Char)
  | missing
  deriving DecidableEq

/-- What stands at the start of a text, where a value inside another one has
ended. -/
def delimiter (closing : Char) : List Char → Delimiter
  | c :: rest => if c = closing then .last rest else if c = ',' then .comma rest else .missing
  | [] => .missing

mutual

/-- A value. -/
def valueUpTo (limits : Limits) : Nat → Nat → List Char → Except Fault (Data × List Char)
  | 0, _, s => fault .value s
  | fuel + 1, room, s => do
    let inside ← limits.enter room s
    match opening s with
    | .array rest => itemsUpTo limits fuel inside [] (← skipBlank rest)
    | .table rest =>
      match afterPrefix? ['\x7d'] (skipSpace rest) with
      | some rest => return (.table [], rest)
      | none => entriesUpTo limits fuel inside {} (skipSpace rest)
    | .nothing => scalar s

/-- The rest of an array.  The accumulator holds the items so far, the last one
first. -/
def itemsUpTo (limits : Limits) :
    Nat → Nat → List Data → List Char → Except Fault (Data × List Char)
  | 0, _, _, s => fault .value s
  | fuel + 1, room, acc, s =>
    match afterPrefix? [']'] s with
    | some rest => .ok (.array acc.reverse, rest)
    | none => do
      let (item, rest) ← valueUpTo limits fuel room s
      let rest ← skipBlank rest
      match delimiter ']' rest with
      | .last rest => return (.array (item :: acc).reverse, rest)
      | .comma rest => itemsUpTo limits fuel room (item :: acc) (← skipBlank rest)
      | .missing => fault .closingBracket rest

/-- The rest of an inline table, from a key on. -/
def entriesUpTo (limits : Limits) :
    Nat → Nat → Draft → List Char → Except Fault (Data × List Char)
  | 0, _, _, s => fault .value s
  | fuel + 1, room, d, s => do
    let (k, rest) ← key s
    match afterPrefix? ['='] rest with
    | none => fault .equals rest
    | some rest =>
      let (value, rest) ← valueUpTo limits fuel room (skipSpace rest)
      let d ← orFault rest (d.assignInline k value)
      match delimiter '\x7d' (skipSpace rest) with
      | .last rest => return (.table d.entries, rest)
      | .comma rest => entriesUpTo limits fuel room d (skipSpace rest)
      | .missing => fault .closingBrace (skipSpace rest)

end

/-- A value and the text behind it, read in some room. -/
def value (limits : Limits) (room : Nat) (s : List Char) : Parse Data :=
  valueUpTo limits (2 * s.length + 2) room s

/-! ### Statements -/

/-- Whether a key stands at the start of a text. -/
def startsKey : List Char → Bool
  | c :: _ => isBare c || c == '"' || c == '\''
  | [] => false

/-- A key and its value. -/
def assignment (limits : Limits) (d : Draft) (s : List Char) : Except Fault (Draft × List Char) := do
  let (k, rest) ← key s
  match afterPrefix? ['='] rest with
  | none => fault .equals rest
  | some rest =>
    let (v, rest) ← value limits limits.room (skipSpace rest)
    let d ← orFault rest (d.assign k v)
    return (d, rest)

/-- The rest of a header, which changes the draft as `change` says. -/
def header (closing : List Char) (change : Key → Except Fault.Cause Draft) (s : List Char) :
    Except Fault (Draft × List Char) := do
  let (k, rest) ← key (skipSpace s)
  let d ← orFault rest (change k)
  match afterPrefix? closing rest with
  | some rest => return (d, rest)
  | none => fault .headerEnd rest

/-- A statement.  A header or an assignment changes the draft; a blank line does
not. -/
def statement (limits : Limits) (d : Draft) (s : List Char) : Except Fault (Draft × List Char) :=
  match s with
  | [] => .ok (d, [])
  | '\n' :: _ | '#' :: _ => .ok (d, s)
  | '[' :: '[' :: rest => header [']', ']'] d.openItem rest
  | '[' :: rest => header [']'] d.openTable rest
  | _ => if startsKey s then assignment limits d s else fault .statement s

/-- The statements of a text, one a line.  The fuel bounds the number of
lines. -/
def statementsUpTo (limits : Limits) : Nat → Draft → List Char → Except Fault Draft
  | 0, d, _ => .ok d
  | fuel + 1, d, s => do
    let (d, rest) ← statement limits d (skipSpace s)
    match ← skipComment (skipSpace rest) with
    | [] => return d
    | '\n' :: rest => statementsUpTo limits fuel d rest
    | rest => fault .endOfLine rest

/-- The statements of a text. -/
def statements (limits : Limits) (d : Draft) (s : List Char) : Except Fault Draft :=
  statementsUpTo limits (s.length + 1) d s

/-- A text with each carriage return before a line feed left out.  The fold runs
from the right and remembers whether the next character is a line feed. -/
def uniform (s : List Char) : List Char :=
  (s.foldr
    (fun c (r : List Char × Bool) =>
      (if c = '\r' && r.2 then r.1 else c :: r.1, c == '\n'))
    ([], false)).1

/-- The tables that a text describes. -/
def parse (limits : Limits) (s : List Char) : Except Fault Entries :=
  (statements limits {} (uniform s)).map (·.entries)

end Stepbook.Toml
