import Stepbook.Parameter

/-!
# Steps

A step is what the glue code defines and the page offers: a display phrase and
the parameters that the step's method takes.

## Main definitions

* `Step` — a step.
* `Step.toData`, `Step.ofData` — its record in plain data.
-/

namespace Stepbook

/-- A step: its display phrase and its parameters in declaration order. -/
structure Step where
  phrase : String
  parameters : List Parameter := []
  deriving DecidableEq

namespace Step

/-- The record of a step. -/
def toData (s : Step) : Data :=
  .table [("phrase", .text s.phrase), ("parameters", .array (s.parameters.map Parameter.toData))]

/-- The step that a record describes.  The parameters may be left out. -/
def ofData (d : Data) : Check Step := do
  let entries ← Check.record "StepDescriptor" d
  Check.both Step.mk (Check.required entries "phrase" Check.text)
    (Check.optional entries "parameters" [] (Check.tuple Parameter.ofData))

end Step

end Stepbook
