import Stepbook.Data.Problem

/-!
# Parameters of a step

A step method's parameter is shown as one input: a number, a text, a date, or a
choice among the values of an enumeration type that the glue code's author
declared.

## Main definitions

* `TypeName` — the name of an enumeration type, never empty.
* `ParameterKind` — what a parameter takes; an enumeration carries its type.
* `Parameter` — a named parameter.
* `Parameter.toData`, `Parameter.ofData` — its record in plain data.

## Design notes

Only an enumeration carries a type name, and it always does: the record in
plain data, where the two fields are separate, is checked on the way in.
-/

namespace Stepbook

/-- The name of an enumeration type. -/
structure TypeName where
  text : String
  ne_empty : text ≠ ""
  deriving DecidableEq

/-- What a parameter takes. -/
inductive ParameterKind where
  | number
  | text
  | date
  /-- A value of an enumeration type. -/
  | enumeration (type : TypeName)
  deriving DecidableEq

namespace ParameterKind

/-- The word for a kind. -/
def word : ParameterKind → String
  | number => "number"
  | text => "text"
  | date => "date"
  | enumeration _ => "enum"

/-- The type name an enumeration carries. -/
def typeName? : ParameterKind → Option String
  | enumeration type => some type.text
  | _ => none

/-- The kind with the given enumeration type; an empty name is refused. -/
def enumeration? (name : String) : Check ParameterKind :=
  if h : name = "" then Check.fail .typeNameRequired else .ok (enumeration ⟨name, h⟩)

end ParameterKind

/-- A parameter of a step. -/
structure Parameter where
  name : String
  kind : ParameterKind
  deriving DecidableEq

namespace Parameter

/-- A parameter that takes a value of the named enumeration type. -/
def ofEnumeration (name typeName : String) : Check Parameter :=
  (ParameterKind.enumeration? typeName).map (Parameter.mk name)

/-! ### The record in plain data -/

/-- The record of a parameter.  Only an enumeration has a type entry. -/
def toData (p : Parameter) : Data :=
  .table <|
    [("name", .text p.name), ("kind", .text p.kind.word)] ++
      (p.kind.typeName?.toList.map fun t => ("enum_type", .text t))

/-- The words for the kinds, each with the rule that makes a kind of it: given
the type entry, the kind or what is wrong with the entry. -/
def kindWords : List (String × (Option String → Check ParameterKind)) :=
  let plain (kind : ParameterKind) (typeName : Option String) : Check ParameterKind :=
    match typeName with
    | none => .ok kind
    | some _ => Check.fail (.typeNameForbidden kind.word)
  [("number", plain .number), ("text", plain .text), ("date", plain .date),
   ("enum", fun typeName => ParameterKind.enumeration? (typeName.getD ""))]

/-- The parameter that a record describes.  Unknown entries are ignored, and an
absent type entry means the same as an empty one. -/
def ofData (d : Data) : Check Parameter := do
  let entries ← Check.record "ParameterDescriptor" d
  let fields ← Check.both Prod.mk
    (Check.both Prod.mk (Check.required entries "name" Check.text)
      (Check.required entries "kind" (Check.oneOf kindWords)))
    (Check.optional entries "enum_type" none Check.textOrNull)
  let kind ← fields.1.2 fields.2
  return ⟨fields.1.1, kind⟩

end Parameter

end Stepbook
