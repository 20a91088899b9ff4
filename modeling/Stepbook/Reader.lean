import Stepbook.Event
import Stepbook.Import
import Stepbook.Parameter.Classify
import Stepbook.Parameter.List
import Stepbook.Phrase
import Stepbook.Registry
import Stepbook.Step

/-!
# Reading glue code line by line

A reader takes the lines of glue code one at a time.  A step annotation leaves
its phrase pending; the next line that can be read is the declaration of the
step's method and completes the step.  That line may itself be an annotation.

## Main definitions

* `Reader` — the steps found, the phrase pending, and the registry.
* `Reader.LineFailure` — why a line was refused.
* `Reader.Outcome` — the reader after a line, the events, and the refusal if
  there was one.
* `Reader.readLine`, `Reader.discard` — the two moves of a reader.
* `Reader.readLines` — a run over several lines that passes over refused ones.

## Design notes

Both parts of a line, the declaration of a pending step and a new annotation,
are read before anything is settled, so a malformed line neither completes a
step nor opens one.  The import of a line is recorded in any case.
-/

namespace Stepbook

/-- A reader of glue code. -/
structure Reader where
  registry : Registry := {}
  /-- The phrase of a step that waits for its declaration. -/
  pending : Option String := none
  /-- The steps found, in order. -/
  steps : List Step := []
  deriving DecidableEq

namespace Reader

/-- Why a line was refused. -/
inductive LineFailure where
  | malformed (cause : Malformed)
  /-- A listed parameter declares no type. -/
  | invalid (problems : List Problem)
  deriving DecidableEq

/-- What a line leads to. -/
structure Outcome where
  /-- The reader after the line. -/
  reader : Reader
  /-- The events of the line, in order. -/
  events : List Event := []
  /-- The refusal, if the line was refused. -/
  failure : Option LineFailure := none

/-- A reader with one more source root. -/
def addBaseDirectory (r : Reader) (directory : Path) : Reader :=
  { r with registry := r.registry.configure (r.registry.baseDirectories ++ [directory]) }

/-- Record the import of a line, if it is an import declaration. -/
def noteImport (r : Reader) (line : String) : Reader :=
  match Import.name? line with
  | some name => { r with registry := r.registry.addInclude name }
  | none => r

/-- The phrase that a line opens a step with, if it opens one. -/
def opening (line : String) : Except Malformed (Option String) :=
  if Phrase.opensStep line then (Phrase.extract (Text.trimmed line)).map some else .ok none

/-- Record the enumeration type of a parameter.  A type met for the first time
is an event. -/
def noteType (registry : Registry) (p : Parameter) : Registry × List Event :=
  match p.kind.typeName? with
  | none => (registry, [])
  | some name =>
    let grown := registry.addEnumeration name
    (grown, if grown = registry then [] else [.enumerationFound (Text.trimmed name)])

/-- The parameters that segments declare, with their types recorded.  At a
segment that declares none the types before it stay recorded. -/
def declare (registry : Registry) :
    List String → Registry × List Event × Check (List Parameter)
  | [] => (registry, [], .ok [])
  | s :: segments =>
    match Parameter.ofSegment s with
    | .error problems => (registry, [], .error problems)
    | .ok p =>
      let (noted, events) := noteType registry p
      let (final, more, rest) := declare noted segments
      (final, events ++ more, rest.map (p :: ·))

/-- Complete the step with the given phrase from the segments of its parameter
list. -/
def complete (r : Reader) (phrase : String) (segments : List String) : Outcome :=
  match declare r.registry segments with
  | (registry, events, .error problems) =>
    ⟨{ r with registry := registry }, events, some (.invalid problems)⟩
  | (registry, events, .ok parameters) =>
    { reader := ⟨registry, none, r.steps ++ [⟨phrase, parameters⟩]⟩
      events := events ++ [.stepFound phrase parameters.length] }

/-- Leave a phrase pending, if there is one. -/
def await (phrase : Option String) (o : Outcome) : Outcome :=
  match o.failure, phrase with
  | none, some p => { o with reader := { o.reader with pending := some p } }
  | _, _ => o

/-- Read one line. -/
def readLine (r : Reader) (line : String) : Outcome :=
  let r := r.noteImport line
  match r.pending with
  | none =>
    match opening line with
    | .error cause => { reader := r, failure := some (.malformed cause) }
    | .ok phrase => await phrase { reader := r }
  | some awaited =>
    match ParameterList.segments line, opening line with
    | .error cause, _ => { reader := r, failure := some (.malformed cause) }
    | .ok _, .error cause => { reader := r, failure := some (.malformed cause) }
    | .ok segments, .ok phrase => await phrase (r.complete awaited segments)

/-- Drop the pending phrase. -/
def discard (r : Reader) : Reader := { r with pending := none }

/-- Read lines one after the other, passing over those that are refused. -/
def readLines (r : Reader) (lines : List String) : Reader :=
  lines.foldl (fun r line => (r.readLine line).reader) r

end Reader

end Stepbook
