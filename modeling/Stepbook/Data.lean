/-!
# Data

Configuration files, step descriptions and command results are trees of plain
data.

## Main definitions

* `Data` — such a tree.  The entries of a table keep their order.
* `Data.find?` — the value of a key.
* `Data.put` — a table's entries with one key set, in its old place if it had
  one.

## Design notes

No rule of this library looks into a fractional number or a date, so these keep
the text they were written as.
-/

namespace Stepbook

/-- A tree of plain data. -/
inductive Data where
  | null
  | boolean (b : Bool)
  | integer (n : Int)
  /-- A number with a fraction or an exponent, infinity, or not a number. -/
  | decimal (literal : String)
  /-- A date, a time of day, or both. -/
  | moment (literal : String)
  | text (s : String)
  | array (items : List Data)
  | table (entries : List (String × Data))
  deriving Inhabited

/-- The entries of a table, in order. -/
abbrev Entries := List (String × Data)

namespace Data

/-- The value of a key: the first entry with that key counts. -/
def find? (entries : Entries) (key : String) : Option Data :=
  (entries.find? fun e => e.1 == key).map (·.2)

/-- The entries with `key` set to `value`.  A key that was there keeps its
place; a new one comes last. -/
def put : Entries → String → Data → Entries
  | [], key, value => [(key, value)]
  | e :: es, key, value => if e.1 = key then (key, value) :: es else e :: put es key value

/-- Table entries from a list of pairs, where a later value of a key replaces
an earlier one. -/
def ofPairs (pairs : List (String × Data)) : Entries :=
  pairs.foldl (fun es p => put es p.1 p.2) []

end Data

end Stepbook
