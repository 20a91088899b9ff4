import Stepbook.Data
import Stepbook.Toml.Lexeme

/-!
# The tables of a configuration text

The statements of a configuration text build nested tables step by step.  A
statement may extend what was built before only in certain ways.

## Main definitions

* `Draft` — the tables so far, and which of them may not be opened or extended
  again.
* `Draft.openTable`, `Draft.openItem`, `Draft.assign` — the three statements:
  a table header, a header for one more item of an array of tables, and a key
  with its value.
* `Draft.assignInline` — a key with its value within an inline table.

## Design notes

Tables are named by their keys from the root.  An array of tables lends its name
to its last item, so what is known about the tables below that name is forgotten
when an item is added.
-/

namespace Stepbook.Toml

/-- The tables built so far. -/
structure Draft where
  entries : Entries := []
  /-- Tables that no header may open again. -/
  opened : List Key := []
  /-- Arrays and inline tables, which nothing may extend. -/
  closed : List Key := []
  /-- Tables made by dotted keys of the current section, which later sections
  may not open again. -/
  dotted : List Key := []
  /-- The table that the current section describes. -/
  header : Key := []

namespace Draft

/-- A change to the entries of a table, which may be refused. -/
abbrev Change := Entries → Except Fault.Cause Entries

/-- Change the table under a key, making the tables on the way.  With
`throughArrays`, an array of tables leads to its last item. -/
def under (throughArrays : Bool) : Key → Change → Change
  | [], change, entries => change entries
  | k :: key, change, entries =>
    match Data.find? entries k with
    | none => (under throughArrays key change []).map fun t => Data.put entries k (.table t)
    | some (.table t) =>
      (under throughArrays key change t).map fun t => Data.put entries k (.table t)
    | some (.array items) =>
      match throughArrays, items.getLast? with
      | true, some (.table t) =>
        (under throughArrays key change t).map fun t =>
          Data.put entries k (.array (items.dropLast ++ [.table t]))
      | _, _ => .error .overwritten
    | some _ => .error .overwritten

/-- Whether a key lies in an array or an inline table. -/
def isClosed (d : Draft) (key : Key) : Bool := d.closed.any fun k => k.isPrefixOf key

/-- The tables made by dotted keys of the section that ends here. -/
def endSection (d : Draft) : Draft := { d with opened := d.dotted ++ d.opened, dotted := [] }

/-- A header for a table. -/
def openTable (d : Draft) (key : Key) : Except Fault.Cause Draft := do
  let d := d.endSection
  if d.opened.contains key then throw .reopened
  if d.isClosed key then throw .closed
  let entries ← under true key .ok d.entries
  return { d with entries := entries, opened := key :: d.opened, header := key }

/-- The entries with one more item in the array of tables of a name. -/
def addItem (name : String) (entries : Entries) : Except Fault.Cause Entries :=
  match Data.find? entries name with
  | none => .ok (Data.put entries name (.array [.table []]))
  | some (.array items) => .ok (Data.put entries name (.array (items ++ [.table []])))
  | some _ => .error .overwritten

/-- A header for one more item of an array of tables. -/
def openItem (d : Draft) (key : Key) : Except Fault.Cause Draft := do
  let d := d.endSection
  if d.isClosed key then throw .closed
  let isOutside (k : Key) : Bool := !key.isPrefixOf k
  let entries ← under true key.dropLast (addItem (key.getLastD "")) d.entries
  return { entries := entries, opened := key :: d.opened.filter isOutside,
           closed := d.closed.filter isOutside, header := key }

/-- The entries with a value under a new name. -/
def addNew (name : String) (value : Data) (entries : Entries) : Except Fault.Cause Entries :=
  if (Data.find? entries name).isSome then .error .overwritten
  else .ok (Data.put entries name value)

/-- Whether a value is an array or a table. -/
def isNested : Data → Bool
  | .array _ | .table _ => true
  | _ => false

/-- A key with its value in the current section. -/
def assign (d : Draft) (key : Key) (value : Data) : Except Fault.Cause Draft := do
  let tables := (List.range (key.length - 1)).map fun i => d.header ++ key.take (i + 1)
  if tables.any d.opened.contains then throw .reopened
  let table := d.header ++ key.dropLast
  if d.isClosed table then throw .closed
  let entries ← under true table (addNew (key.getLastD "") value) d.entries
  let closed := if isNested value then (d.header ++ key) :: d.closed else d.closed
  return { d with entries := entries, closed := closed, dotted := tables ++ d.dotted }

/-- A key with its value in an inline table. -/
def assignInline (d : Draft) (key : Key) (value : Data) : Except Fault.Cause Draft := do
  if d.isClosed key then throw .closed
  let entries ← under false key.dropLast (addNew (key.getLastD "") value) d.entries
  return { d with entries := entries, closed := if isNested value then key :: d.closed else d.closed }

end Draft

end Stepbook.Toml
