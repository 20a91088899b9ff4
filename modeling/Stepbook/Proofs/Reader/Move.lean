import Stepbook.Reader
import Stepbook.Proofs.Parameter

/-!
# Moves of a reader

The caller of a reader makes three kinds of moves: it feeds a line, drops the
pending phrase, or adds a source root.  A refused line ends nothing; the caller
goes on with the next move.

## Main definitions

* `Reader.Move`, `Reader.move`, `Reader.run` — the moves, one move, and a run.
* `Reader.Accepts` — a line that the reader does not refuse.
* `Reader.Reading` — all that a line can do to a reader: it is refused as malformed,
  it meets a reader with nothing pending, or it completes the pending step.

## Main statements

* `Reader.reading` — every line does one of these three.  Every later statement on
  runs is derived from it.
* `Reader.failure_eq_some_iff` — a line is refused just for what is wrong with it.
-/

namespace Stepbook.Reader

/-- A move of the caller. -/
inductive Move where
  | line (text : String)
  | discard
  | addDirectory (directory : Path)

/-- The reader after a move. -/
def move (r : Reader) : Move → Reader
  | .line text => (r.readLine text).reader
  | .discard => r.discard
  | .addDirectory directory => r.addBaseDirectory directory

/-- The reader after several moves, one after the other. -/
def run (r : Reader) (moves : List Move) : Reader := moves.foldl move r

@[simp] theorem run_nil (r : Reader) : r.run [] = r := rfl

@[simp] theorem run_cons (r : Reader) (m : Move) (moves : List Move) :
    r.run (m :: moves) = (r.move m).run moves := rfl

theorem run_append (r : Reader) (before after : List Move) :
    r.run (before ++ after) = (r.run before).run after := List.foldl_append

/-- A line that the reader does not refuse. -/
def Accepts (r : Reader) (line : String) : Prop := (r.readLine line).failure = none

instance (r : Reader) (line : String) : Decidable (r.Accepts line) :=
  inferInstanceAs (Decidable (_ = none))

/-! ## What a move leaves alone -/

section Fields

variable (r : Reader) (line : String) (directory : Path)

@[simp] theorem noteImport_pending : (r.noteImport line).pending = r.pending := by
  unfold noteImport; split <;> rfl

@[simp] theorem noteImport_steps : (r.noteImport line).steps = r.steps := by
  unfold noteImport; split <;> rfl

@[simp] theorem noteImport_baseDirectories :
    (r.noteImport line).registry.baseDirectories = r.registry.baseDirectories := by
  unfold noteImport; split <;> rfl

@[simp] theorem noteImport_enumerations :
    (r.noteImport line).registry.enumerations = r.registry.enumerations := by
  unfold noteImport; split <;> rfl

@[simp] theorem addBaseDirectory_steps : (r.addBaseDirectory directory).steps = r.steps := rfl

@[simp] theorem discard_steps : r.discard.steps = r.steps := rfl

@[simp] theorem discard_registry : r.discard.registry = r.registry := rfl

end Fields

/-! ## What a line does -/

/-- A registry with the type names of several parameters recorded. -/
def noteTypes (registry : Registry) (parameters : List Parameter) : Registry :=
  parameters.foldl (fun noted p => (noteType noted p).1) registry

@[simp] theorem noteTypes_nil (registry : Registry) : noteTypes registry [] = registry := rfl

@[simp] theorem noteTypes_cons (registry : Registry) (p : Parameter)
    (parameters : List Parameter) :
    noteTypes registry (p :: parameters) = noteTypes (noteType registry p).1 parameters := rfl

/-- Segments that declare parameters are all read, and each type is recorded. -/
theorem declare_eq {segments : List String} {parameters : List Parameter}
    (h : ParameterList.Declare segments parameters) (registry : Registry) :
    ∃ events, declare registry segments =
      (noteTypes registry parameters, events, .ok parameters) := by
  induction h generalizing registry with
  | nil => exact ⟨[], rfl⟩
  | @cons s p segments parameters hp _ ih =>
      obtain ⟨events, hrest⟩ := ih (noteType registry p).1
      refine ⟨(noteType registry p).2 ++ events, ?_⟩
      simp only [declare, hp, hrest, Except.map, noteTypes_cons]

/-- A reader refuses a line as malformed: a phrase is pending and the line has no
parameter list, or else the line opens a step and has no expression. -/
def Refuses (r : Reader) (line : String) (cause : Malformed) : Prop :=
  (∃ awaited, r.pending = some awaited ∧ ParameterList.segments line = .error cause) ∨
  ((∀ awaited, r.pending = some awaited → ∃ segments, ParameterList.segments line = .ok segments) ∧
    opening line = .error cause)

theorem readLine_of_not_pending {r : Reader} {line : String} {phrase : Option String}
    (hpending : r.pending = none) (hopening : opening line = .ok phrase) :
    r.readLine line = { reader := { r.noteImport line with pending := phrase } } := by
  simp only [readLine, noteImport_pending, hpending, hopening]
  cases phrase with
  | none =>
      have hnone : (r.noteImport line).pending = none := by rw [noteImport_pending, hpending]
      simp only [await, ← hnone]
  | some p => rfl

theorem readLine_of_pending {r : Reader} {line awaited : String} {segments : List String}
    {parameters : List Parameter} {phrase : Option String} (hpending : r.pending = some awaited)
    (hsegments : ParameterList.segments line = .ok segments)
    (hdeclare : ParameterList.Declare segments parameters) (hopening : opening line = .ok phrase) :
    ∃ events, r.readLine line =
      { reader := ⟨noteTypes (r.noteImport line).registry parameters, phrase,
          r.steps ++ [⟨awaited, parameters⟩]⟩
        events := events } := by
  obtain ⟨events, hdeclared⟩ := declare_eq hdeclare (r.noteImport line).registry
  refine ⟨events ++ [.stepFound awaited parameters.length], ?_⟩
  simp only [readLine, noteImport_pending, hpending, hsegments, hopening, complete, hdeclared,
    noteImport_steps]
  cases phrase with
  | none => rfl
  | some p => rfl

theorem readLine_of_refuses {r : Reader} {line : String} {cause : Malformed}
    (h : r.Refuses line cause) :
    r.readLine line = { reader := r.noteImport line, failure := some (.malformed cause) } := by
  rcases h with ⟨awaited, hpending, hsegments⟩ | ⟨hsegments, hopening⟩
  · simp only [readLine, noteImport_pending, hpending, hsegments]
  · cases hpending : r.pending with
    | none => simp only [readLine, noteImport_pending, hpending, hopening]
    | some awaited =>
        obtain ⟨segments, hsegments⟩ := hsegments awaited hpending
        simp only [readLine, noteImport_pending, hpending, hsegments, hopening]

/-- What a line does to a reader.  It is refused, and then only its import is
recorded; or nothing was pending; or it completes the pending step.  A line that
is not refused leaves the phrase pending that it opens a step with, if any. -/
inductive Reading (r : Reader) (line : String) : Prop
  | refused (cause : Malformed) (hrefuses : r.Refuses line cause)
      (hread : r.readLine line =
        { reader := r.noteImport line, failure := some (.malformed cause) })
  | idle (phrase : Option String) (hpending : r.pending = none)
      (hopening : opening line = .ok phrase)
      (hread : r.readLine line = { reader := { r.noteImport line with pending := phrase } })
  | completing (awaited : String) (segments : List String) (parameters : List Parameter)
      (phrase : Option String) (events : List Event) (hpending : r.pending = some awaited)
      (hsegments : ParameterList.segments line = .ok segments)
      (hdeclare : ParameterList.Declare segments parameters)
      (hopening : opening line = .ok phrase)
      (hread : r.readLine line =
        { reader := ⟨noteTypes (r.noteImport line).registry parameters, phrase,
            r.steps ++ [⟨awaited, parameters⟩]⟩
          events := events })

/-- **Every line does one of the three**, whatever the reader. -/
theorem reading (r : Reader) (line : String) : r.Reading line := by
  cases hpending : r.pending with
  | none =>
      cases hopening : opening line with
      | error cause =>
          have hrefuses : r.Refuses line cause := Or.inr ⟨by simp [hpending], hopening⟩
          exact .refused cause hrefuses (readLine_of_refuses hrefuses)
      | ok phrase =>
          exact .idle phrase hpending hopening (readLine_of_not_pending hpending hopening)
  | some awaited =>
      cases hsegments : ParameterList.segments line with
      | error cause =>
          have hrefuses : r.Refuses line cause := Or.inl ⟨awaited, hpending, hsegments⟩
          exact .refused cause hrefuses (readLine_of_refuses hrefuses)
      | ok segments =>
          cases hopening : opening line with
          | error cause =>
              have hrefuses : r.Refuses line cause := Or.inr ⟨fun _ _ => ⟨_, hsegments⟩, hopening⟩
              exact .refused cause hrefuses (readLine_of_refuses hrefuses)
          | ok phrase =>
              -- whatever segments are read declare parameters, so the step is completed
              obtain ⟨parameters, hdeclare⟩ := ParameterList.exists_parameters hsegments
              obtain ⟨events, hread⟩ :=
                readLine_of_pending hpending hsegments hdeclare hopening
              exact .completing awaited segments parameters phrase events hpending hsegments
                hdeclare hopening hread

/-- The refusals of a reader are its reasons, and no others. -/
theorem failure_eq_some_iff {r : Reader} {line : String} {failure : LineFailure} :
    (r.readLine line).failure = some failure ↔
      ∃ cause, failure = .malformed cause ∧ r.Refuses line cause := by
  constructor
  · intro h
    cases r.reading line with
    | refused cause hrefuses hread =>
        rw [hread] at h
        exact ⟨cause, (Option.some.inj h).symm, hrefuses⟩
    | idle phrase _ _ hread =>
        rw [hread] at h
        cases h
    | completing awaited segments parameters phrase events _ _ _ _ hread =>
        rw [hread] at h
        cases h
  · rintro ⟨cause, rfl, hrefuses⟩
    rw [readLine_of_refuses hrefuses]

/-- A line that is refused is malformed. -/
theorem exists_malformed_of_failure {r : Reader} {line : String} {failure : LineFailure}
    (h : (r.readLine line).failure = some failure) : ∃ cause, failure = .malformed cause := by
  obtain ⟨cause, hfailure, -⟩ := failure_eq_some_iff.mp h
  exact ⟨cause, hfailure⟩

end Stepbook.Reader
