import Mathlib.Data.List.Forall2
import Stepbook.Proofs.Reader.Move

/-!
# Annotations and what becomes of them

In a run of a reader each accepted annotation line has one fate.  The next
accepted line declares its method and completes the step, or the next drop takes
its phrase away, or the run ends while it waits.  Refused lines in between do not
count.

## Main definitions

* `Reader.noticed` — the accepted lines and the drops of a run, in order.
* `Reader.annotations` — the annotation lines among them, each with the move
  behind it.
* `Reader.Fate`, `Reader.fates` — what the reader itself gives out in a run: the
  steps, the dropped phrases and the phrase left at the end, in order.
* `Reader.Settled` — the fate that an annotation has by the move behind it.

## Main statements

* `Reader.forall₂_settled` — annotations and fates correspond one to one.
* `Reader.annotations_settled_in_order` — the same for a run from the start, with
  the steps, the drops and the pending phrase read off the fates, and with the
  move at which each annotation is settled.

## Design notes

The fates are taken from the reader, by comparing it before and after a move; the
annotations look ahead in the list of moves.  The invariant that joins the two
readings is `Awaits`: it says which line the pending phrase comes from.
-/

namespace Stepbook.Reader

/-! ## What counts in a run -/

/-- Whether a move counts for the pairing: an accepted line or a drop. -/
def notices (r : Reader) : Move → Bool
  | .line text => decide (r.Accepts text)
  | .discard => true
  | .addDirectory _ => false

/-- The moves of a run that count, in order. -/
def noticed (r : Reader) : List Move → List Move
  | [] => []
  | m :: moves =>
    if r.notices m then m :: (r.move m).noticed moves else (r.move m).noticed moves

/-- The line of a move that is an annotation. -/
def Move.annotation? : Move → Option String
  | .line text => if Phrase.opensStep text then some text else none
  | .discard => none
  | .addDirectory _ => none

/-- The annotation lines among some moves, each with the move right behind it. -/
def annotations : List Move → List (String × Option Move)
  | [] => []
  | m :: moves => m.annotation?.toList.map (·, moves.head?) ++ annotations moves

/-! ## Fates -/

/-- What becomes of an annotation. -/
inductive Fate where
  | completed (step : Step)
  | dropped (phrase : String)
  | waiting (phrase : String)

/-- The step of a completed annotation. -/
def Fate.step? : Fate → Option Step
  | .completed step => some step
  | _ => none

/-- The phrase of a dropped annotation. -/
def Fate.droppedPhrase? : Fate → Option String
  | .dropped phrase => some phrase
  | _ => none

/-- The phrase of an annotation that still waits. -/
def Fate.waitingPhrase? : Fate → Option String
  | .waiting phrase => some phrase
  | _ => none

/-- What the reader gives out at a move: the steps that a line adds, or the phrase
that a drop takes away. -/
def settles (r : Reader) : Move → List Fate
  | .line text => ((r.readLine text).reader.steps.drop r.steps.length).map .completed
  | .discard => r.pending.toList.map .dropped
  | .addDirectory _ => []

/-- All that the reader gives out in a run, and the phrase pending at its end. -/
def fates (r : Reader) : List Move → List Fate
  | [] => r.pending.toList.map .waiting
  | m :: moves => r.settles m ++ (r.move m).fates moves

/-- The phrases that the drops of a run take away. -/
def drops (r : Reader) : List Move → List String
  | [] => []
  | .discard :: moves => r.pending.toList ++ r.discard.drops moves
  | m :: moves => (r.move m).drops moves

/-- The fate that an annotation line has by the move behind it.  A line behind it
declares the parameters of the step. -/
inductive Settled : String × Option Move → Fate → Prop
  | completed {line declaration phrase : String} {segments : List String}
      {parameters : List Parameter} (hphrase : Phrase.extract (Text.trimmed line) = .ok phrase)
      (hsegments : ParameterList.segments declaration = .ok segments)
      (hdeclare : ParameterList.Declare segments parameters) :
      Settled (line, some (.line declaration)) (.completed ⟨phrase, parameters⟩)
  | dropped {line phrase : String} (hphrase : Phrase.extract (Text.trimmed line) = .ok phrase) :
      Settled (line, some .discard) (.dropped phrase)
  | waiting {line phrase : String} (hphrase : Phrase.extract (Text.trimmed line) = .ok phrase) :
      Settled (line, none) (.waiting phrase)

/-! ## One move -/

/-- The line that the pending phrase comes from, if one is pending. -/
def Awaits (r : Reader) : Option String → Prop
  | none => r.pending = none
  | some line =>
    ∃ phrase, r.pending = some phrase ∧ Phrase.extract (Text.trimmed line) = .ok phrase

/-- What is awaited depends on the pending phrase only. -/
theorem Awaits.of_pending_eq {r s : Reader} {opened : Option String} (h : r.Awaits opened)
    (hpending : s.pending = r.pending) : s.Awaits opened := by
  cases opened with
  | none => exact hpending.trans h
  | some line =>
      obtain ⟨phrase, hphrase, hextract⟩ := h
      exact ⟨phrase, hpending.trans hphrase, hextract⟩

/-- A line opens a step with the phrase of the annotation that it is. -/
theorem awaits_of_opening {r : Reader} {line : String} {phrase : Option String}
    (hopening : opening line = .ok phrase) (hpending : r.pending = phrase) :
    r.Awaits (Move.line line).annotation? := by
  unfold opening at hopening
  simp only [Move.annotation?]
  split at hopening
  · rename_i hopens
    rw [if_pos hopens]
    cases hextract : Phrase.extract (Text.trimmed line) with
    | error cause =>
        rw [hextract] at hopening
        cases hopening
    | ok p =>
        rw [hextract] at hopening
        cases hopening
        exact ⟨p, hpending, hextract⟩
  · rename_i hopens
    rw [if_neg hopens]
    cases hopening
    exact hpending

/-- A move that does not count leaves the pending phrase and the steps alone. -/
theorem move_of_not_notices {r : Reader} {m : Move} (h : r.notices m = false) :
    (r.move m).pending = r.pending ∧ (r.move m).steps = r.steps := by
  cases m with
  | line text =>
      cases r.reading text with
      | refused cause _ hread => simp [move, hread]
      | idle phrase _ _ hread => simp [notices, Accepts, hread] at h
      | completing awaited segments parameters phrase events _ _ _ _ hread =>
          simp [notices, Accepts, hread] at h
  | discard => cases h
  | addDirectory directory => exact ⟨rfl, rfl⟩

/-- A move adds the steps that it settles behind the others. -/
theorem steps_move (r : Reader) (m : Move) :
    (r.move m).steps = r.steps ++ (r.settles m).filterMap Fate.step? := by
  cases m with
  | line text =>
      have hprefix : r.steps <+: (r.readLine text).reader.steps := by
        cases r.reading text with
        | refused cause _ hread => simp [hread]
        | idle phrase _ _ hread => simp [hread]
        | completing awaited segments parameters phrase events _ _ _ _ hread => simp [hread]
      obtain ⟨added, hadded⟩ := hprefix
      simp [move, settles, ← hadded, List.filterMap_map, Function.comp_def, Fate.step?]
  | discard => cases hpending : r.pending <;> simp [move, settles, hpending, Fate.step?]
  | addDirectory directory => simp [move, settles]

theorem settles_of_not_notices {r : Reader} {m : Move} (h : r.notices m = false) :
    r.settles m = [] := by
  cases m with
  | line text => simp [settles, show (r.readLine text).reader.steps = r.steps from
      (move_of_not_notices h).2]
  | discard => cases h
  | addDirectory directory => rfl

/-- **A move that counts settles the annotation that is awaited**, and nothing
else; then the reader awaits the annotation that the move is, if it is one. -/
theorem settled_of_notices {r : Reader} {m : Move} {opened : Option String}
    (hawaits : r.Awaits opened) (h : r.notices m = true) :
    List.Forall₂ Settled (opened.toList.map (·, some m)) (r.settles m) ∧
      (r.move m).Awaits m.annotation? := by
  cases m with
  | line text =>
      cases r.reading text with
      | refused cause _ hread => simp [notices, Accepts, hread] at h
      | idle phrase hpending hopening hread =>
          refine ⟨?_, awaits_of_opening hopening (by simp [move, hread])⟩
          cases opened with
          | none => simp [settles, hread]
          | some line =>
              obtain ⟨p, hp, -⟩ := hawaits
              rw [hpending] at hp
              cases hp
      | completing awaited segments parameters phrase events hpending hsegments hdeclare hopening
          hread =>
          refine ⟨?_, awaits_of_opening hopening (by simp [move, hread])⟩
          cases opened with
          | none =>
              rw [show r.pending = none from hawaits] at hpending
              cases hpending
          | some line =>
              -- the step that is completed has the phrase of the line awaited
              obtain ⟨p, hp, hphrase⟩ := hawaits
              rw [hpending] at hp
              cases hp
              simpa [settles, hread] using Settled.completed hphrase hsegments hdeclare
  | discard =>
      refine ⟨?_, rfl⟩
      cases opened with
      | none => simp [settles, show r.pending = none from hawaits]
      | some line =>
          obtain ⟨p, hp, hphrase⟩ := hawaits
          simpa [settles, hp] using Settled.dropped hphrase
  | addDirectory directory => cases h

/-! ## Runs -/

/-- A run in which nothing counts leaves the pending phrase and the steps alone. -/
theorem run_of_noticed_eq_nil {r : Reader} {moves : List Move} (h : r.noticed moves = []) :
    (r.run moves).pending = r.pending ∧ (r.run moves).steps = r.steps := by
  induction moves generalizing r with
  | nil => exact ⟨rfl, rfl⟩
  | cons m moves ih =>
      rw [noticed] at h
      split at h
      · cases h
      · rename_i hm
        obtain ⟨hpending, hsteps⟩ := move_of_not_notices ((Bool.not_eq_true _).mp hm)
        obtain ⟨hpending', hsteps'⟩ := ih h
        exact ⟨hpending'.trans hpending, hsteps'.trans hsteps⟩

/-- The steps of a run are the completed fates. -/
theorem steps_run (r : Reader) (moves : List Move) :
    (r.run moves).steps = r.steps ++ (r.fates moves).filterMap Fate.step? := by
  induction moves generalizing r with
  | nil => cases hpending : r.pending <;> simp [fates, hpending, Fate.step?]
  | cons m moves ih =>
      rw [run_cons, ih, steps_move, fates, List.filterMap_append, List.append_assoc]

/-- A line settles nothing but completed annotations. -/
theorem filterMap_settles_line {α : Type} {f : Fate → Option α} (hf : ∀ s, f (.completed s) = none)
    (r : Reader) (text : String) : (r.settles (.line text)).filterMap f = [] := by
  rw [settles, List.filterMap_map]
  exact List.filterMap_eq_nil_iff.mpr fun s _ => hf s

/-- The drops of a run are the dropped fates. -/
theorem drops_eq (r : Reader) (moves : List Move) :
    r.drops moves = (r.fates moves).filterMap Fate.droppedPhrase? := by
  induction moves generalizing r with
  | nil => cases hpending : r.pending <;> simp [drops, fates, hpending, Fate.droppedPhrase?]
  | cons m moves ih =>
      rw [fates, List.filterMap_append, ← ih]
      cases m with
      | line text =>
          rw [filterMap_settles_line (fun _ => rfl)]
          rfl
      | discard =>
          cases hpending : r.pending <;> simp [drops, move, settles, hpending, Fate.droppedPhrase?]
      | addDirectory directory => simp [drops, settles]

/-- The phrase pending at the end of a run is the waiting fate. -/
theorem pending_run (r : Reader) (moves : List Move) :
    (r.run moves).pending.toList = (r.fates moves).filterMap Fate.waitingPhrase? := by
  induction moves generalizing r with
  | nil => cases hpending : r.pending <;> simp [fates, hpending, Fate.waitingPhrase?]
  | cons m moves ih =>
      rw [run_cons, ih, fates, List.filterMap_append]
      cases m with
      | line text => rw [filterMap_settles_line (fun _ => rfl), List.nil_append]
      | discard => cases hpending : r.pending <;> simp [settles, hpending, Fate.waitingPhrase?]
      | addDirectory directory => simp [settles]

/-- **Annotations and fates correspond one to one**, from any reader of which it
is known what it awaits. -/
theorem forall₂_settled (r : Reader) (opened : Option String) (moves : List Move)
    (hawaits : r.Awaits opened) :
    List.Forall₂ Settled
      (opened.toList.map (·, (r.noticed moves).head?) ++ annotations (r.noticed moves))
      (r.fates moves) := by
  induction moves generalizing r opened with
  | nil =>
      cases opened with
      | none => simp [noticed, annotations, fates, show r.pending = none from hawaits]
      | some line =>
          obtain ⟨p, hp, hphrase⟩ := hawaits
          simpa [noticed, annotations, fates, hp] using Settled.waiting hphrase
  | cons m moves ih =>
      rw [noticed, fates]
      split
      · rename_i hm
        -- `m` settles what was awaited; what it opens itself is settled further on
        obtain ⟨hsettled, hnext⟩ := settled_of_notices hawaits hm
        rw [annotations]
        exact List.rel_append hsettled (ih (r.move m) m.annotation? hnext)
      · rename_i hm
        have hm' : r.notices m = false := (Bool.not_eq_true _).mp hm
        -- `m` is not among the moves that count, and the same line is still awaited
        rw [settles_of_not_notices hm', List.nil_append]
        exact ih (r.move m) opened (hawaits.of_pending_eq (move_of_not_notices hm').1)

/-- At every point of a run it is known what the reader awaits. -/
theorem exists_awaits_run {r : Reader} {opened : Option String} (hawaits : r.Awaits opened)
    (moves : List Move) : ∃ opened', (r.run moves).Awaits opened' := by
  induction moves generalizing r opened with
  | nil => exact ⟨opened, hawaits⟩
  | cons m moves ih =>
      cases hm : r.notices m with
      | true => exact ih (settled_of_notices hawaits hm).2
      | false => exact ih (hawaits.of_pending_eq (move_of_not_notices hm).1)

/-- **The pairing of annotations over whole runs.**  In a run from the start the
accepted annotation lines and the fates correspond one to one, in order; the steps
found, the phrases dropped and the phrase pending at the end are the fates of the
three kinds.  A line is only ever refused as malformed.

The last part says where an annotation is settled.  As long as nothing counts
behind it, its phrase is pending and no step is added.  The next move that counts
gives out exactly its fate, and leaves the reader awaiting that move's own
annotation, if it is one. -/
theorem annotations_settled_in_order (moves : List Move) :
    List.Forall₂ Settled (annotations (noticed {} moves)) (fates {} moves) ∧
    (run {} moves).steps = (fates {} moves).filterMap Fate.step? ∧
    drops {} moves = (fates {} moves).filterMap Fate.droppedPhrase? ∧
    (run {} moves).pending.toList = (fates {} moves).filterMap Fate.waitingPhrase? ∧
    (∀ line failure, ((run {} moves).readLine line).failure = some failure →
      ∃ cause, failure = .malformed cause) ∧
    ∀ line quiet, (run {} moves).Accepts line → Phrase.opensStep line = true →
      noticed (run {} (moves ++ [.line line])) quiet = [] →
      ∃ phrase, Phrase.extract (Text.trimmed line) = .ok phrase ∧
        (run {} (moves ++ .line line :: quiet)).pending = some phrase ∧
        (run {} (moves ++ .line line :: quiet)).steps = (run {} (moves ++ [.line line])).steps ∧
        ∀ next, (run {} (moves ++ .line line :: quiet)).notices next = true →
          (∃ fate, Settled (line, some next) fate ∧
            (run {} (moves ++ .line line :: quiet)).settles next = [fate]) ∧
          ((run {} (moves ++ .line line :: quiet)).move next).Awaits next.annotation? := by
  refine ⟨forall₂_settled {} none moves rfl, ?_, drops_eq {} moves, pending_run {} moves,
    fun line failure => exists_malformed_of_failure, ?_⟩
  · simpa using steps_run {} moves
  · intro line quiet haccepts hopens hquiet
    rw [run_append, run_cons, run_nil] at hquiet
    rw [run_append, run_append, run_cons, run_cons, run_nil]
    -- the accepted annotation itself
    have hstart : Awaits {} none := rfl
    obtain ⟨opened, hawaited⟩ := exists_awaits_run hstart moves
    have hopened : ((run {} moves).move (.line line)).Awaits (some line) := by
      have h := (settled_of_notices (m := .line line) hawaited (decide_eq_true haccepts)).2
      simpa [Move.annotation?, hopens] using h
    -- the moves that do not count
    obtain ⟨hpending, hsteps⟩ := run_of_noticed_eq_nil hquiet
    have hawaits : (((run {} moves).move (.line line)).run quiet).Awaits (some line) :=
      hopened.of_pending_eq hpending
    have hsettles := fun next => settled_of_notices (m := next) hawaits
    obtain ⟨phrase, hphrase, hextract⟩ := hawaits
    refine ⟨phrase, hextract, hphrase, hsteps, ?_⟩
    intro next hnext
    obtain ⟨hsettled, hnextAwaits⟩ := hsettles next hnext
    refine ⟨?_, hnextAwaits⟩
    obtain ⟨fate, fates, hfate, hnil, hfates⟩ := List.forall₂_cons_left_iff.mp hsettled
    rw [List.forall₂_nil_left_iff.mp hnil] at hfates
    exact ⟨fate, hfate, hfates⟩

/-- An annotation that also declares the method of the one before it, then a line
without a parameter list, then an annotation without an expression: both are
refused, and the declaration that follows completes the second annotation. -/
theorem annotation_settled_behind_refused_lines :
    let before : List Move := [.line "@Given(\"^a$\")"]
    let line := "@When(\"^b (.*)$\")"
    let quiet : List Move := [.line "none", .addDirectory {}, .line "@Then(broken)"]
    let next : Move := .line "void b(Color c)"
    ((run {} before).Accepts line ∧ Phrase.opensStep line = true ∧
      noticed (run {} (before ++ [.line line])) quiet = [] ∧
      (run {} (before ++ .line line :: quiet)).notices next = true) ∧
    ∃ fate, Settled (line, some next) fate ∧
      (run {} (before ++ .line line :: quiet)).settles next = [fate] := by
  have haccepts : (run {} [.line "@Given(\"^a$\")"]).Accepts "@When(\"^b (.*)$\")" := by
    decide +kernel
  have hopens : Phrase.opensStep "@When(\"^b (.*)$\")" = true := by decide +kernel
  have hquiet : noticed (run {} ([.line "@Given(\"^a$\")"] ++ [.line "@When(\"^b (.*)$\")"]))
      [.line "none", .addDirectory {}, .line "@Then(broken)"] = [] := by
    decide +kernel
  have hnext : (run {} ([.line "@Given(\"^a$\")"] ++ .line "@When(\"^b (.*)$\")" ::
      [.line "none", .addDirectory {}, .line "@Then(broken)"])).notices
        (.line "void b(Color c)") = true := by
    decide +kernel
  obtain ⟨_, -, -, -, hsettled⟩ :=
    (annotations_settled_in_order [.line "@Given(\"^a$\")"]).2.2.2.2.2 _ _ haccepts hopens hquiet
  exact ⟨⟨haccepts, hopens, hquiet, hnext⟩, (hsettled _ hnext).1⟩

end Stepbook.Reader
