import Stepbook.Data

/-!
# Problems in data

Data is checked against the shape of the record it should describe.  Every
problem found names its place and its cause.

## Main definitions

* `Location` — the way from the root of the data to the place of a problem.
* `Problem.Cause`, `Problem` — what is wrong, and where.
* `Check α` — a value of type `α`, or the problems that stand in its way.

## Design notes

Independent fields are all checked, so that their problems are reported
together and in order (`Check.both`).  A rule that relates several fields is
applied only when each of them is sound.
-/

namespace Stepbook

/-- One step of the way to a place in data: a key or an index. -/
inductive Location.Part where
  | key (name : String)
  | index (i : Nat)
  deriving DecidableEq, Repr

/-- The way from the root of the data to a place in it. -/
abbrev Location := List Location.Part

/-- What can be wrong with data. -/
inductive Problem.Cause where
  /-- A required entry is absent. -/
  | missing
  | notText
  | notList
  /-- A fixed list was expected. -/
  | notTuple
  /-- The entries of the named record were expected. -/
  | notRecord (name : String)
  /-- One of the given words was expected. -/
  | notOneOf (choices : List String)
  /-- An enumeration parameter names no type. -/
  | typeNameRequired
  /-- A parameter of the given kind names a type. -/
  | typeNameForbidden (kind : String)
  deriving DecidableEq, Repr

namespace Problem.Cause

/-- Words in quotes, as a choice: `'a', 'b' or 'c'`. -/
def choice : List String → String
  | [] => ""
  | [w] => "'" ++ w ++ "'"
  | [v, w] => "'" ++ v ++ "' or '" ++ w ++ "'"
  | w :: ws => "'" ++ w ++ "', " ++ choice ws

/-- The short name of a kind of problem. -/
def label : Problem.Cause → String
  | missing => "missing"
  | notText => "string_type"
  | notList => "list_type"
  | notTuple => "tuple_type"
  | notRecord _ => "model_type"
  | notOneOf _ => "enum"
  | typeNameRequired | typeNameForbidden _ => "value_error"

/-- The message for the user. -/
def message : Problem.Cause → String
  | missing => "Field required"
  | notText => "Input should be a valid string"
  | notList => "Input should be a valid list"
  | notTuple => "Input should be a valid tuple"
  | notRecord name => "Input should be a valid dictionary or instance of " ++ name
  | notOneOf choices => "Input should be " ++ choice choices
  | typeNameRequired => "Value error, enum parameters require an enum_type"
  | typeNameForbidden kind => "Value error, " ++ kind ++ " parameters cannot carry an enum_type"

end Problem.Cause

/-- A problem in data: where it is and what is wrong there. -/
structure Problem where
  location : Location
  cause : Problem.Cause
  deriving DecidableEq, Repr

/-- A checked value, or the problems found. -/
abbrev Check (α : Type) := Except (List Problem) α

namespace Check

variable {α β γ : Type}

/-- A single problem at the place under inspection. -/
def fail (cause : Problem.Cause) : Check α := .error [⟨[], cause⟩]

/-- A check of the data behind one step of the way: its problems lie behind
that step. -/
def behind (part : Location.Part) (c : Check α) : Check α :=
  c.mapError fun problems => problems.map fun p => { p with location := part :: p.location }

/-- Two checks that do not depend on each other; the problems of both count. -/
def both (f : α → β → γ) (a : Check α) (b : Check β) : Check γ :=
  match a, b with
  | .ok x, .ok y => .ok (f x y)
  | .ok _, .error q => .error q
  | .error p, .ok _ => .error p
  | .error p, .error q => .error (p ++ q)

/-- A function and its argument, checked independently. -/
def apply (f : Check (α → β)) (a : Check α) : Check β := both (fun f x => f x) f a

/-- A text. -/
def text : Data → Check String
  | .text s => .ok s
  | _ => fail .notText

/-- A text or nothing. -/
def textOrNull : Data → Check (Option String)
  | .text s => .ok (some s)
  | .null => .ok none
  | _ => fail .notText

/-- Every item, from index `i` on. -/
def items (check : Data → Check α) (i : Nat) : List Data → Check (List α)
  | [] => .ok []
  | d :: ds => both List.cons (behind (.index i) (check d)) (items check (i + 1) ds)

/-- A list, item by item. -/
def list (check : Data → Check α) : Data → Check (List α)
  | .array ds => items check 0 ds
  | _ => fail .notList

/-- A fixed list, item by item. -/
def tuple (check : Data → Check α) : Data → Check (List α)
  | .array ds => items check 0 ds
  | _ => fail .notTuple

/-- The entries of the named record. -/
def record (name : String) : Data → Check Entries
  | .table entries => .ok entries
  | _ => fail (.notRecord name)

/-- One of the words that `choices` gives meanings to. -/
def oneOf (choices : List (String × α)) (d : Data) : Check α :=
  let refuse : Check α := fail (.notOneOf (choices.map (·.1)))
  match d with
  | .text s => ((choices.find? fun c => c.1 == s).map (·.2)).elim refuse .ok
  | _ => refuse

/-- The entry of a required key. -/
def required (entries : Entries) (key : String) (check : Data → Check α) : Check α :=
  behind (.key key) (((Data.find? entries key).map check).getD (fail .missing))

/-- The entry of a key that may be left out. -/
def optional (entries : Entries) (key : String) (default : α) (check : Data → Check α) : Check α :=
  behind (.key key) (((Data.find? entries key).map check).getD (.ok default))

end Check

end Stepbook
