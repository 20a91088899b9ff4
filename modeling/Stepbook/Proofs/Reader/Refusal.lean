import Stepbook.Proofs.Parameter.List
import Stepbook.Proofs.Phrase.NormalForm
import Stepbook.Proofs.Reader.Accounting
import Stepbook.Proofs.Reader.Lines

/-!
# Refused lines

A line is refused for one of two reasons.  A step waits for its declaration and the
line has no parameter list; or the line opens a step and has no expression.  The first
reason is looked at first.  No line is refused for the types that it declares.

What a refused line leaves behind is the import that it may be.  That takes a
declaration that was waited for: a line that opens a step imports nothing.

## Main definitions

* `Reader.LacksParameterList`, `Phrase.LacksExpression` — the two reasons.

## Main statements

* `Reader.refuses_iff` — which of the two a line is refused for.
* `Reader.refusal_iff_lacking` — when a line is refused, and with what text.
* `Reader.refused_line_leaves_its_import` — what a refused line changes.

## Design notes

A reader is told apart from what it was before by its imports only.  As no line looks
at them (`Reader.Agrees`), the import that a refused line leaves behind has no effect
on what is read later.
-/

namespace Stepbook

open Stepbook.Text

/-! ## Lines that open a step -/

namespace Phrase

/-- A line opens a step and has no expression to make a phrase of. -/
def LacksExpression (line : String) : Prop :=
  (∃ k ∈ keywords, k.toList <+: trim line.toList) ∧ ¬ Encloses '^' '$' (trim line.toList)

theorem opensStep_iff {line : String} :
    opensStep line = true ↔ ∃ k ∈ keywords, k.toList <+: trim line.toList := by
  simp only [opensStep, List.any_eq_true, List.isPrefixOf_iff_prefix]

/-- A line that opens a step begins with `@`, blanks aside. -/
theorem head?_trim_of_opensStep {line : String} (h : opensStep line = true) :
    (trim line.toList).head? = some '@' := by
  have hkeywords : keywords.all fun k => k.toList.head? == some '@' := by decide +kernel
  obtain ⟨k, hk, rest, hline⟩ := opensStep_iff.mp h
  have hhead : k.toList.head? = some '@' := by
    simpa using List.all_eq_true.mp hkeywords k hk
  rw [← hline, List.head?_append, hhead]
  rfl

end Phrase

/-- A line that opens a step imports nothing. -/
theorem Import.name?_of_opensStep {line : String} (h : Phrase.opensStep line = true) :
    name? line = none := by
  have hhead := Phrase.head?_trim_of_opensStep h
  unfold name?
  cases hrest : afterPrefix? "import ".toList (trim line.toList) with
  | none => rfl
  | some rest =>
      have hword : "import ".toList.head? = some 'i' := by decide +kernel
      rw [eq_append_of_afterPrefix? hrest, List.head?_append, hword] at hhead
      simp at hhead

namespace Reader

/-- A line that is to declare a method has no parameter list. -/
def LacksParameterList (r : Reader) (line : String) : Prop :=
  r.pending ≠ none ∧ ¬ Encloses '(' ')' line.toList

/-! ## Reasons -/

theorem opening_eq_error_iff {line : String} {cause : Malformed} :
    opening line = .error cause ↔
      Phrase.LacksExpression line ∧ cause = .expression (trimmed line) := by
  unfold opening Phrase.LacksExpression
  rw [← Phrase.opensStep_iff]
  cases hopens : Phrase.opensStep line with
  | false => simp
  | true =>
      rw [if_pos rfl]
      cases hextract : Phrase.extract (trimmed line) with
      | ok p =>
          obtain ⟨e, he, -⟩ := Phrase.extract_eq_ok_iff.mp hextract
          rw [toList_trimmed] at he
          simp [Except.map, encloses_of_enclosed? he]
      | error e =>
          obtain ⟨rfl, hnone⟩ := Phrase.extract_eq_error_iff.mp hextract
          rw [toList_trimmed] at hnone
          simp [Except.map, hnone, eq_comm]

/-- **Which of the two reasons a line is refused for.**  The parameter list is looked
for first. -/
theorem refuses_iff {r : Reader} {line : String} {cause : Malformed} :
    r.Refuses line cause ↔
      r.LacksParameterList line ∧ cause = .parameterList line ∨
      ¬ r.LacksParameterList line ∧ Phrase.LacksExpression line ∧
        cause = .expression (trimmed line) := by
  unfold Refuses LacksParameterList
  rw [opening_eq_error_iff]
  cases hpending : r.pending with
  | none => simp
  | some awaited =>
      cases hsegments : ParameterList.segments line with
      | error e =>
          obtain ⟨rfl, hnone⟩ := ParameterList.segments_eq_error_iff.mp hsegments
          simp [hnone, eq_comm]
      | ok segments =>
          simp [ParameterList.encloses_of_segments hsegments]

/-- The segments of a parameter list are all read, whatever is recorded already. -/
theorem exists_declare_eq {line : String} {segments : List String}
    (h : ParameterList.segments line = .ok segments) (registry : Registry) :
    ∃ noted events parameters, declare registry segments = (noted, events, .ok parameters) := by
  obtain ⟨parameters, hdeclare⟩ := ParameterList.exists_parameters h
  obtain ⟨events, hread⟩ := declare_eq hdeclare registry
  exact ⟨_, events, parameters, hread⟩

theorem failure_eq_some_iff_lacks {r : Reader} {line : String} {failure : LineFailure} :
    (r.readLine line).failure = some failure ↔
      r.LacksParameterList line ∧ failure = .malformed (.parameterList line) ∨
      ¬ r.LacksParameterList line ∧ Phrase.LacksExpression line ∧
        failure = .malformed (.expression (trimmed line)) := by
  rw [failure_eq_some_iff]
  constructor
  · rintro ⟨cause, rfl, hrefuses⟩
    rcases refuses_iff.mp hrefuses with ⟨hlist, rfl⟩ | ⟨hlist, hexpression, rfl⟩
    · exact Or.inl ⟨hlist, rfl⟩
    · exact Or.inr ⟨hlist, hexpression, rfl⟩
  · rintro (⟨hlist, rfl⟩ | ⟨hlist, hexpression, rfl⟩)
    · exact ⟨_, rfl, refuses_iff.mpr (Or.inl ⟨hlist, rfl⟩)⟩
    · exact ⟨_, rfl, refuses_iff.mpr (Or.inr ⟨hlist, hexpression, rfl⟩)⟩

/-- **When a line is refused.**  A reader that waits for a declaration refuses a line
without a parameter list, and reports the line as it is.  Otherwise a line that opens
a step and has no expression is refused, and reported without the blanks around it.
Every other line is read.  No line is refused for anything else: the segments of a
parameter list all declare parameters. -/
theorem refusal_iff_lacking (r : Reader) (line : String) :
    (∀ failure, (r.readLine line).failure = some failure ↔
      r.LacksParameterList line ∧ failure = .malformed (.parameterList line) ∨
      ¬ r.LacksParameterList line ∧ Phrase.LacksExpression line ∧
        failure = .malformed (.expression (trimmed line))) ∧
    ((r.readLine line).failure = none ↔
      ¬ r.LacksParameterList line ∧ ¬ Phrase.LacksExpression line) ∧
    ∀ segments, ParameterList.segments line = .ok segments → ∀ registry,
      ∃ noted events parameters, declare registry segments = (noted, events, .ok parameters) := by
  refine ⟨fun failure => failure_eq_some_iff_lacks, ?_,
    fun segments h registry => exists_declare_eq h registry⟩
  rw [Option.eq_none_iff_forall_ne_some]
  constructor
  · intro hread
    have hlist : ¬ r.LacksParameterList line := fun h =>
      hread _ (failure_eq_some_iff_lacks.mpr (Or.inl ⟨h, rfl⟩))
    exact ⟨hlist, fun h => hread _ (failure_eq_some_iff_lacks.mpr (Or.inr ⟨hlist, h, rfl⟩))⟩
  · rintro ⟨hlist, hexpression⟩ failure hfailure
    rcases failure_eq_some_iff_lacks.mp hfailure with ⟨h, -⟩ | ⟨-, h, -⟩
    · exact hlist h
    · exact hexpression h

/-- A line that lacks both is refused for its parameter list, one with the marks the
wrong way round for its expression.  Segments with an annotation, an element type and
another kind of blank declare parameters. -/
theorem both_lacking_refused_for_list :
    let waiting : Reader := { pending := some "a" }
    let line := "f(@Transform(X.class) List<A> b,\u2003C c)"
    (waiting.LacksParameterList " @When)(" ∧ Phrase.LacksExpression " @When)(") ∧
      (waiting.readLine " @When)(").failure = some (.malformed (.parameterList " @When)(")) ∧
      (¬ ({} : Reader).LacksParameterList "\t@Then(\"$^\")" ∧
        Phrase.LacksExpression "\t@Then(\"$^\")") ∧
      (({} : Reader).readLine "\t@Then(\"$^\")").failure =
        some (.malformed (.expression "@Then(\"$^\")")) ∧
      ParameterList.segments line = .ok ["@Transform(X.class) List<A> b", "\u2003C c"] ∧
      ∃ noted events parameters,
        declare {} ["@Transform(X.class) List<A> b", "\u2003C c"] =
          (noted, events, .ok parameters) := by
  intro waiting line
  have hlist : waiting.LacksParameterList " @When)(" :=
    ⟨by simp [waiting], enclosed?_eq_none_iff.mp (by decide +kernel)⟩
  have hwhen : Phrase.LacksExpression " @When)(" :=
    ⟨Phrase.opensStep_iff.mp (by decide +kernel), enclosed?_eq_none_iff.mp (by decide +kernel)⟩
  have hidle : ¬ ({} : Reader).LacksParameterList "\t@Then(\"$^\")" := fun h => h.1 rfl
  have hthen : Phrase.LacksExpression "\t@Then(\"$^\")" :=
    ⟨Phrase.opensStep_iff.mp (by decide +kernel), enclosed?_eq_none_iff.mp (by decide +kernel)⟩
  have htrimmed : trimmed "\t@Then(\"$^\")" = "@Then(\"$^\")" := by decide +kernel
  have hsegments : ParameterList.segments line =
      .ok ["@Transform(X.class) List<A> b", "\u2003C c"] := by decide +kernel
  refine ⟨⟨hlist, hwhen⟩, ?_, ⟨hidle, hthen⟩, ?_, hsegments, ?_⟩
  · exact ((refusal_iff_lacking waiting _).1 _).mpr (Or.inl ⟨hlist, rfl⟩)
  · rw [← htrimmed]
    exact ((refusal_iff_lacking {} _).1 _).mpr (Or.inr ⟨hidle, hthen, rfl⟩)
  · exact (refusal_iff_lacking waiting line).2.2 _ hsegments {}

/-! ## What is left behind -/

/-- The import of a line is recorded behind the others if it is not among them. -/
theorem noteImport_classIncludes_eq (r : Reader) (line : String) :
    (r.noteImport line).registry.classIncludes =
      r.registry.classIncludes ++
        (Import.name? line).toList.filter (· ∉ r.registry.classIncludes) := by
  unfold noteImport
  cases hname : Import.name? line with
  | none => simp
  | some name =>
      simp only [Registry.addInclude, Option.toList_some]
      rw [Registry.note_eq_append (Import.isName_of_name? hname)]

/-- Recording the import of a line changes a reader just when the import is new. -/
theorem noteImport_eq_self_iff {r : Reader} {line : String} :
    r.noteImport line = r ↔
      ∀ name, Import.name? line = some name → name ∈ r.registry.classIncludes := by
  constructor
  · intro h name hname
    have hincludes := noteImport_classIncludes_eq r line
    rw [h, hname, List.self_eq_append_right, Option.toList_some] at hincludes
    by_contra hmem
    simp [hmem] at hincludes
  · intro h
    unfold noteImport
    cases hname : Import.name? line with
    | none => rfl
    | some name =>
        have hnote : Registry.note r.registry.classIncludes name = r.registry.classIncludes := by
          rw [Registry.note_eq_append (Import.isName_of_name? hname)]
          simp [h name hname]
        simp only [Registry.addInclude, hnote]

/-- **A refused line leaves at most its import behind.**  What is pending, the steps,
the enumeration types and the source roots are as before.  The imported names are as
before, and behind them the import that the line is, if it is one and new; so the
reader is the same just when there is no new import.  A line that is refused for its
expression is no import.  Whatever is done later gives the same as if the line had
not been fed, the imported names aside. -/
theorem refused_line_leaves_its_import {r : Reader} {line : String} {failure : LineFailure}
    (h : (r.readLine line).failure = some failure) :
    r.Agrees (r.readLine line).reader ∧
      (r.readLine line).reader.registry.classIncludes =
        r.registry.classIncludes ++
          (Import.name? line).toList.filter (· ∉ r.registry.classIncludes) ∧
      ((r.readLine line).reader = r ↔
        ∀ name, Import.name? line = some name → name ∈ r.registry.classIncludes) ∧
      (failure = .malformed (.expression (trimmed line)) → (r.readLine line).reader = r) ∧
      ∀ moves, (r.run moves).Agrees ((r.readLine line).reader.run moves) := by
  obtain ⟨cause, rfl, hrefuses⟩ := failure_eq_some_iff.mp h
  have hagrees : r.Agrees (r.noteImport line) :=
    ⟨noteImport_pending r line, noteImport_steps r line, noteImport_enumerations r line,
      noteImport_baseDirectories r line⟩
  simp only [readLine_of_refuses hrefuses]
  refine ⟨hagrees, noteImport_classIncludes_eq r line, noteImport_eq_self_iff, ?_, hagrees.run⟩
  intro hcause
  rcases refuses_iff.mp hrefuses with ⟨-, rfl⟩ | ⟨-, hexpression, -⟩
  · cases hcause
  · refine noteImport_eq_self_iff.mpr fun name hname => ?_
    rw [Import.name?_of_opensStep (Phrase.opensStep_iff.mpr hexpression.1)] at hname
    cases hname

/-- An import that is known already, in the place of a declaration, and an annotation
without an expression. -/
theorem refused_lines_without_new_import :
    let r := run {} [.line "import a.B;", .line "@Given(\"^a$\")"]
    (r.readLine "import a.B;").failure = some (.malformed (.parameterList "import a.B;")) ∧
      (r.readLine "import a.B;").reader = r ∧
      (r.readLine "@When()").failure = some (.malformed (.expression "@When()")) ∧
      (r.readLine "@When()").reader = r := by
  intro r
  have himport : (r.readLine "import a.B;").failure =
      some (.malformed (.parameterList "import a.B;")) := by decide +kernel
  have hwhen : (r.readLine "@When()").failure =
      some (.malformed (.expression "@When()")) := by decide +kernel
  have hname : Import.name? "import a.B;" = some "a.B" := by decide +kernel
  have hknown : "a.B" ∈ r.registry.classIncludes := by decide +kernel
  have htrimmed : trimmed "@When()" = "@When()" := by decide +kernel
  obtain ⟨-, -, hsame, -, -⟩ := refused_line_leaves_its_import himport
  obtain ⟨-, -, -, hexpression, -⟩ := refused_line_leaves_its_import hwhen
  refine ⟨himport, hsame.mpr fun name h => ?_, hwhen, hexpression (by rw [htrimmed])⟩
  rw [hname, Option.some.injEq] at h
  exact h ▸ hknown

/-- An import in the place of a declaration is refused and recorded all the same. -/
theorem import_of_refused_line_is_recorded :
    let r := run {} [.line "@Given(\"^a$\")"]
    (r.readLine "import a.B;").failure = some (.malformed (.parameterList "import a.B;")) ∧
      r.registry.classIncludes = [] ∧
      (r.readLine "import a.B;").reader.registry.classIncludes = ["a.B"] ∧
      (r.readLine "import a.B;").reader ≠ r := by
  decide +kernel

end Reader

end Stepbook
