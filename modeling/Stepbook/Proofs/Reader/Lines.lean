import Stepbook.Proofs.Reader.Join

/-!
# Lines read one after the other

A caller feeds a reader one line after the other and may stop at the first line
that is refused, or pass over the refused lines.  A refused line leaves no more
than its import behind, and no line looks at the imports: so passing over the
refused lines and never feeding them come to the same, but for the imports.

## Main definitions

* `Reader.AcceptsAll` — no line is refused.
* `Reader.firstRefused?` — the number of the first line that is refused.
* `Reader.acceptedLines` — the lines that are not refused.
* `Reader.lineEvents` — the events of the lines.
* `Reader.Agrees` — two readers that differ in the imports at most.

## Main statements

* `Reader.firstRefused?_eq_some_iff` — the lines before the first refused one are
  accepted.
* `Reader.Agrees.readLine`, `Reader.Agrees.run` — a line keeps two readers in
  agreement, and so does a run.
* `Reader.agrees_readLines_acceptedLines` — reading the accepted lines only.
-/

namespace Stepbook.Reader

/-! ## Runs over lines -/

@[simp] theorem readLines_nil (r : Reader) : r.readLines [] = r := rfl

@[simp] theorem readLines_cons (r : Reader) (line : String) (lines : List String) :
    r.readLines (line :: lines) = (r.readLine line).reader.readLines lines := rfl

theorem readLines_append (r : Reader) (before after : List String) :
    r.readLines (before ++ after) = (r.readLines before).readLines after := List.foldl_append

/-- Reading lines adds steps behind those that are there. -/
theorem steps_prefix_readLines (r : Reader) (lines : List String) :
    r.steps <+: (r.readLines lines).steps := by
  induction lines generalizing r with
  | nil => exact List.prefix_refl _
  | cons line lines ih =>
      have hline : r.steps <+: (r.readLine line).reader.steps := by
        cases r.reading line with
        | refused cause _ hread => simp [hread]
        | idle phrase _ _ hread => simp [hread]
        | completing awaited segments parameters phrase events _ _ _ _ hread => simp [hread]
      exact hline.trans (ih _)

/-- A line that is not accepted is refused as malformed. -/
theorem exists_refuses {r : Reader} {line : String} (h : ¬ r.Accepts line) :
    ∃ cause, r.Refuses line cause := by
  obtain ⟨failure, hfailure⟩ := Option.ne_none_iff_exists'.mp h
  obtain ⟨cause, -, hrefuses⟩ := failure_eq_some_iff.mp hfailure
  exact ⟨cause, hrefuses⟩

theorem Refuses.not_accepts {r : Reader} {line : String} {cause : Malformed}
    (h : r.Refuses line cause) : ¬ r.Accepts line := by
  rw [Accepts, readLine_of_refuses h]
  simp

/-! ## Names -/

theorem recorded_noteImport {r : Reader} (h : r.registry.Recorded) (line : String) :
    (r.noteImport line).registry.Recorded := by
  unfold noteImport
  cases Import.name? line with
  | none => exact h
  | some name => exact h.addInclude name

theorem recorded_noteTypes {registry : Registry} (h : registry.Recorded)
    (parameters : List Parameter) : (noteTypes registry parameters).Recorded := by
  induction parameters generalizing registry with
  | nil => exact h
  | cons p parameters ih =>
      rw [noteTypes_cons]
      refine ih ?_
      unfold noteType
      cases p.kind.typeName? with
      | none => exact h
      | some name => exact h.addEnumeration name

/-- Reading a line records names only. -/
theorem recorded_readLine {r : Reader} (h : r.registry.Recorded) (line : String) :
    (r.readLine line).reader.registry.Recorded := by
  have hnoted := recorded_noteImport h line
  cases r.reading line with
  | refused cause _ hread => simpa only [hread] using hnoted
  | idle phrase _ _ hread => simpa only [hread] using hnoted
  | completing awaited segments parameters phrase events _ _ _ _ hread =>
      simpa only [hread] using recorded_noteTypes hnoted parameters

/-! ## The first refused line -/

/-- No line is refused when the lines are read in order. -/
def AcceptsAll (r : Reader) : List String → Prop
  | [] => True
  | line :: lines => r.Accepts line ∧ (r.readLine line).reader.AcceptsAll lines

/-- The number, from one, of the first line that is refused when the lines are read
in order. -/
def firstRefused? (r : Reader) : List String → Option Nat
  | [] => none
  | line :: lines =>
    if r.Accepts line then ((r.readLine line).reader.firstRefused? lines).map (· + 1) else some 1

theorem firstRefused?_eq_none_iff {r : Reader} {lines : List String} :
    r.firstRefused? lines = none ↔ r.AcceptsAll lines := by
  induction lines generalizing r with
  | nil => exact ⟨fun _ => trivial, fun _ => rfl⟩
  | cons line lines ih =>
      rw [firstRefused?, AcceptsAll]
      by_cases hline : r.Accepts line
      · rw [if_pos hline, Option.map_eq_none_iff, ih]
        exact ⟨fun h => ⟨hline, h⟩, And.right⟩
      · rw [if_neg hline]
        constructor
        · rintro ⟨⟩
        · exact fun h => absurd h.1 hline

/-- The first refused line comes behind lines that are accepted. -/
theorem firstRefused?_eq_some_iff {r : Reader} {lines : List String} {k : Nat} :
    r.firstRefused? lines = some k ↔
      ∃ before line after, lines = before ++ line :: after ∧ r.AcceptsAll before ∧
        ¬ (r.readLines before).Accepts line ∧ k = before.length + 1 := by
  induction lines generalizing r k with
  | nil => simp [firstRefused?]
  | cons first lines ih =>
      rw [firstRefused?]
      by_cases hfirst : r.Accepts first
      · rw [if_pos hfirst, Option.map_eq_some_iff]
        constructor
        · rintro ⟨j, hj, rfl⟩
          obtain ⟨before, line, after, rfl, hbefore, hline, rfl⟩ := ih.mp hj
          exact ⟨first :: before, line, after, rfl, ⟨hfirst, hbefore⟩, hline, rfl⟩
        · rintro ⟨before, line, after, hlines, hbefore, hline, rfl⟩
          cases before with
          | nil =>
              cases hlines
              exact absurd hfirst hline
          | cons _ before =>
              cases hlines
              exact ⟨before.length + 1, ih.mpr ⟨before, line, after, rfl, hbefore.2, hline, rfl⟩,
                rfl⟩
      · rw [if_neg hfirst]
        constructor
        · rintro ⟨⟩
          exact ⟨[], first, lines, rfl, trivial, hfirst, rfl⟩
        · rintro ⟨before, line, after, hlines, hbefore, hline, rfl⟩
          cases before with
          | nil => rfl
          | cons _ before =>
              cases hlines
              exact absurd hbefore.1 hfirst

/-! ## Events -/

/-- The events of lines that are read one after the other. -/
def lineEvents (r : Reader) : List String → List Event
  | [] => []
  | line :: lines => (r.readLine line).events ++ (r.readLine line).reader.lineEvents lines

/-- Recording a type is an event of the lowest level. -/
theorem level_of_mem_noteType {registry : Registry} {p : Parameter} {e : Event}
    (h : e ∈ (noteType registry p).2) : e.level = .debug := by
  unfold noteType at h
  cases hname : p.kind.typeName? with
  | none =>
      rw [hname] at h
      cases h
  | some name =>
      simp only [hname] at h
      split at h
      · cases h
      · rw [List.mem_singleton.mp h]
        rfl

theorem level_of_mem_declare {registry : Registry} {segments : List String} {e : Event}
    (h : e ∈ (declare registry segments).2.1) : e.level = .debug := by
  induction segments generalizing registry with
  | nil => cases h
  | cons s segments ih =>
      rw [declare] at h
      cases hs : Parameter.ofSegment s with
      | error problems =>
          rw [hs] at h
          cases h
      | ok p =>
          rw [hs] at h
          rcases List.mem_append.mp h with hnoted | hmore
          · exact level_of_mem_noteType hnoted
          · exact ih hmore

theorem level_of_mem_complete {r : Reader} {phrase : String} {segments : List String} {e : Event}
    (h : e ∈ (r.complete phrase segments).events) : e.level = .debug := by
  unfold complete at h
  split at h
  · rename_i hdeclare
    exact level_of_mem_declare (by rw [hdeclare]; exact h)
  · rename_i hdeclare
    rcases List.mem_append.mp h with hevents | hfound
    · exact level_of_mem_declare (by rw [hdeclare]; exact hevents)
    · rw [List.mem_singleton.mp hfound]
      rfl

@[simp] theorem await_events (phrase : Option String) (o : Outcome) :
    (await phrase o).events = o.events := by
  unfold await
  split <;> rfl

/-- All that happens at a line is of the lowest level. -/
theorem level_of_mem_events {r : Reader} {line : String} {e : Event}
    (h : e ∈ (r.readLine line).events) : e.level = .debug := by
  unfold readLine at h
  dsimp only at h
  split at h
  · split at h
    · cases h
    · rw [await_events] at h
      cases h
  · split at h
    · cases h
    · cases h
    · rw [await_events] at h
      exact level_of_mem_complete h

theorem level_of_mem_lineEvents {r : Reader} {lines : List String} {e : Event}
    (h : e ∈ r.lineEvents lines) : e.level = .debug := by
  induction lines generalizing r with
  | nil => cases h
  | cons line lines ih =>
      rcases List.mem_append.mp h with hline | hlines
      · exact level_of_mem_events hline
      · exact ih hlines

/-! ## The accepted lines -/

/-- The lines that are not refused when the lines are read in order. -/
def acceptedLines (r : Reader) : List String → List String
  | [] => []
  | line :: lines =>
    if r.Accepts line then line :: (r.readLine line).reader.acceptedLines lines
    else (r.readLine line).reader.acceptedLines lines

/-- Two readers that differ in the imports at most. -/
structure Agrees (r s : Reader) : Prop where
  pending : s.pending = r.pending
  steps : s.steps = r.steps
  enumerations : s.registry.enumerations = r.registry.enumerations
  baseDirectories : s.registry.baseDirectories = r.registry.baseDirectories

theorem Agrees.refl (r : Reader) : r.Agrees r := ⟨rfl, rfl, rfl, rfl⟩

/-- Recording the import of a line makes no difference but in the imports. -/
theorem Agrees.noteImport {r s : Reader} (h : r.Agrees s) (line : String) :
    (r.noteImport line).Agrees s :=
  ⟨by rw [noteImport_pending, h.pending], by rw [noteImport_steps, h.steps],
    by rw [noteImport_enumerations, h.enumerations],
    by rw [noteImport_baseDirectories, h.baseDirectories]⟩

/-- **A line keeps two readers in agreement**, and either both accept it or none. -/
theorem Agrees.readLine {r s : Reader} (h : r.Agrees s) (line : String) :
    (s.Accepts line ↔ r.Accepts line) ∧
      (r.readLine line).reader.Agrees (s.readLine line).reader := by
  -- both read the line as a reader that holds nothing but the pending phrase
  obtain ⟨hr, hrfailure⟩ := join_readLine r { pending := r.pending } line
  obtain ⟨hs, hsfailure⟩ := join_readLine s { pending := r.pending } line
  rw [join_waiting] at hr hrfailure
  rw [← h.pending, join_waiting, h.pending] at hs hsfailure
  refine ⟨by rw [Accepts, Accepts, hrfailure, hsfailure], ?_⟩
  rw [hr, hs]
  exact ⟨rfl, by simp [h.steps], by simp [Registry.join, h.enumerations],
    by simp [Registry.join, h.baseDirectories]⟩

/-- A move keeps two readers in agreement. -/
theorem Agrees.move {r s : Reader} (h : r.Agrees s) (m : Move) : (r.move m).Agrees (s.move m) := by
  cases m with
  | line text => exact (h.readLine text).2
  | discard => exact ⟨rfl, h.steps, h.enumerations, h.baseDirectories⟩
  | addDirectory directory =>
      refine ⟨h.pending, h.steps, h.enumerations, ?_⟩
      simp only [Reader.move, addBaseDirectory, Registry.configure, h.baseDirectories]

/-- Two readers in agreement are so after every run. -/
theorem Agrees.run {r s : Reader} (h : r.Agrees s) (moves : List Move) :
    (r.run moves).Agrees (s.run moves) := by
  induction moves generalizing r s with
  | nil => exact h
  | cons m moves ih => exact ih (h.move m)

/-- **Passing over the refused lines and never feeding them** come to the same but
for the imports: the accepted lines alone are all accepted, by every reader that
agrees. -/
theorem agrees_readLines_acceptedLines {r s : Reader} (h : r.Agrees s) (lines : List String) :
    s.AcceptsAll (r.acceptedLines lines) ∧
      (r.readLines lines).Agrees (s.readLines (r.acceptedLines lines)) := by
  induction lines generalizing r s with
  | nil => exact ⟨trivial, h⟩
  | cons line lines ih =>
      rw [acceptedLines, readLines_cons]
      by_cases hline : r.Accepts line
      · obtain ⟨haccepts, hagrees⟩ := h.readLine line
        obtain ⟨hall, hend⟩ := ih hagrees
        rw [if_pos hline]
        exact ⟨⟨haccepts.mpr hline, hall⟩, hend⟩
      · -- the refused line leaves its import behind, which the other reader never sees
        obtain ⟨cause, hrefuses⟩ := exists_refuses hline
        rw [if_neg hline, readLine_of_refuses hrefuses]
        exact ih (h.noteImport line)

end Stepbook.Reader
