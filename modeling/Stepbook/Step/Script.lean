import Stepbook.Step

/-!
# The script of steps

The page that offers the steps loads a script with one statement a step.  A
statement pushes a step, and each parameter is a key pair of its name and what
it takes: the word for the kind in quotes, or the bare name of an enumeration.

## Main definitions

* `Parameter.script` — the key pair of a parameter.
* `Step.script` — the statement of a step.
* `Step.scriptOf` — the statements of several steps, one a line.
-/

namespace Stepbook

/-- The key pair of a parameter. -/
def Parameter.script (p : Parameter) : String :=
  let takes := p.kind.typeName?.getD ("\"" ++ p.kind.word ++ "\"")
  "new keypair( \"" ++ p.name ++ "\", " ++ takes ++ " )"

namespace Step

/-- The statement that pushes a step. -/
def script (s : Step) : String :=
  let arguments := ("\"" ++ s.phrase ++ "\"") :: s.parameters.map Parameter.script
  "testSteps.push( new step( " ++ ", ".intercalate arguments ++ " ) );"

/-- The script of several steps, one statement a line. -/
def scriptOf (steps : List Step) : String := "\n".intercalate (steps.map script)

end Step

end Stepbook
