import Stepbook.Proofs.Reader.Accounting
import Stepbook.Proofs.Registry.Lookup

/-!
# Import declarations

An import declaration is written with blanks around its words and with any number of
semicolons behind the name.  Whatever becomes of the line, its name is recorded, so that
the type that the name ends in is found from then on.

## Main definitions

* `Import.Importable`, `Import.MemberWord`, `Import.Spells` — how a name is imported.

## Main statements

* `Import.Importable.nameOf_eq` — the name behind the word `import`.
* `Import.name?_of_spells` — the name that is read from a line.
* `Reader.imported_type_is_found` — the type that an import resolves.
-/

namespace Stepbook

open Stepbook.Text

namespace Import

/-- A name that can be imported. -/
structure Importable (name : List Char) : Prop where
  ne_nil : name ≠ []
  not_blank : ∀ c ∈ name, isBlank c = false
  no_semicolon : ';' ∉ name

instance (name : List Char) : Decidable (Importable name) :=
  decidable_of_iff (name ≠ [] ∧ (name.all fun c => !isBlank c) = true ∧ ';' ∉ name)
    ⟨fun h => ⟨h.1, by simpa using h.2.1, h.2.2⟩,
      fun h => ⟨h.ne_nil, by simpa using h.not_blank, h.no_semicolon⟩⟩

/-- What may stand before the name: nothing, or the word for the import of a member. -/
inductive MemberWord : List Char → Prop
  | absent : MemberWord []
  | present {blanks : List Char} (hblanks : ∀ c ∈ blanks, isBlank c = true) :
      MemberWord ("static ".toList ++ blanks)

/-- The lines that a name is imported in. -/
inductive Spells (name : List Char) : List Char → Prop
  | intro {before gap word behind ends : List Char} (semicolons : ℕ)
      (hbefore : ∀ c ∈ before, isBlank c = true) (hgap : ∀ c ∈ gap, isBlank c = true)
      (hword : MemberWord word) (hbehind : ∀ c ∈ behind, isBlank c = true)
      (hends : ∀ c ∈ ends, isBlank c = true) :
      Spells name (before ++ ("import ".toList ++ (gap ++ (word ++ (name ++
        (behind ++ (List.replicate semicolons ';' ++ ends)))))))

/-! ## Cutting off the end -/

theorem withoutSemicolons_eq_rdropWhile (s : List Char) :
    withoutSemicolons s = s.rdropWhile (· == ';') := rfl

section Name

variable {name behind ends : List Char} (hname : Importable name)
include hname

theorem Importable.exists_not_blank (others : List Char) :
    ∃ c ∈ name ++ others, isBlank c = false := by
  obtain ⟨c, hc⟩ := List.exists_mem_of_ne_nil name hname.ne_nil
  exact ⟨c, List.mem_append_left others hc, hname.not_blank c hc⟩

/-- Blanks behind a name are trimmed away. -/
theorem Importable.trimEnd_append (hbehind : ∀ c ∈ behind, isBlank c = true) :
    trimEnd (name ++ behind) = name := by
  rw [trimEnd_append_blank hbehind]
  exact trimEnd_eq_self fun hne => hname.not_blank _ (List.getLast_mem hne)

/-- Semicolons are cut off behind a name and blanks. -/
theorem Importable.withoutSemicolons_append (hbehind : ∀ c ∈ behind, isBlank c = true)
    (start : List Char) (semicolons : ℕ) :
    withoutSemicolons (start ++ (name ++ (behind ++ List.replicate semicolons ';'))) =
      start ++ (name ++ behind) := by
  have hsemicolons : ∀ c ∈ List.replicate semicolons ';', (c == ';') = true := by
    intro c hc
    simpa using List.eq_of_mem_replicate hc
  rw [← List.append_assoc name, ← List.append_assoc start, withoutSemicolons,
    List.reverse_append, List.reverse_replicate, List.dropWhile_append_of_pos hsemicolons,
    ← withoutSemicolons, withoutSemicolons_eq_rdropWhile, List.rdropWhile_eq_self_iff]
  -- the last character is one of the name or a blank
  have hbody : name ++ behind ≠ [] := List.append_ne_nil_of_left_ne_nil hname.ne_nil behind
  intro hne hlast
  rw [List.getLast_append_of_ne_nil hne hbody, beq_iff_eq] at hlast
  rcases List.mem_append.mp (hlast ▸ List.getLast_mem hbody) with hin | hin
  · exact hname.no_semicolon hin
  · exact absurd (hbehind _ hin) (by decide)

/-- **What is left behind the word `import`** once the line is trimmed and the semicolons
are cut off: the name, and blanks behind it at most. -/
theorem Importable.exists_withoutSemicolons (hbehind : ∀ c ∈ behind, isBlank c = true)
    (hends : ∀ c ∈ ends, isBlank c = true) (start : List Char) (semicolons : ℕ) :
    ∃ left, (∀ c ∈ left, isBlank c = true) ∧
      withoutSemicolons (start ++
        trimEnd (name ++ (behind ++ (List.replicate semicolons ';' ++ ends)))) =
      start ++ (name ++ left) := by
  cases semicolons with
  | zero =>
      -- without a semicolon all that stands behind the name is trimmed away
      have hblank : ∀ c ∈ behind ++ ([] ++ ends), isBlank c = true := by
        rw [List.nil_append, List.forall_mem_append]
        exact ⟨hbehind, hends⟩
      have hnone : ∀ c ∈ ([] : List Char), isBlank c = true := by simp
      refine ⟨[], hnone, ?_⟩
      rw [List.replicate_zero, hname.trimEnd_append hblank]
      simpa using hname.withoutSemicolons_append hnone start 0
  | succ n =>
      have hlast : trimEnd (name ++ (behind ++ List.replicate (n + 1) ';')) =
          name ++ (behind ++ List.replicate (n + 1) ';') := by
        refine trimEnd_eq_self fun hne => ?_
        simp only [List.replicate_succ', ← List.append_assoc, List.getLast_append_singleton]
        decide
      refine ⟨behind, hbehind, ?_⟩
      rw [← List.append_assoc behind, ← List.append_assoc name, trimEnd_append_blank hends, hlast]
      exact hname.withoutSemicolons_append hbehind start (n + 1)

/-- Blanks around a name are trimmed away. -/
theorem Importable.trim_append {gap : List Char} (hgap : ∀ c ∈ gap, isBlank c = true)
    (hbehind : ∀ c ∈ behind, isBlank c = true) : trim (gap ++ (name ++ behind)) = name := by
  have hstart : trimStart (name ++ behind) = name ++ behind := by
    rw [trimStart]
    cases name with
    | nil => exact absurd rfl hname.ne_nil
    | cons c name =>
        have hhead := hname.not_blank c List.mem_cons_self
        exact List.dropWhile_cons_of_neg (by simp [hhead])
  rw [trim_append_of_blank hgap, trim, hstart, hname.trimEnd_append hbehind]

/-- **The name behind the word `import`** is what stands between the blanks there, and
behind the word for members if there is that. -/
theorem Importable.nameOf_eq {gap word rest : List Char} (hgap : ∀ c ∈ gap, isBlank c = true)
    (hword : MemberWord word) (hbehind : ∀ c ∈ behind, isBlank c = true)
    (hrest : withoutSemicolons rest = gap ++ (word ++ (name ++ behind))) :
    nameOf rest = name := by
  have hstatic : "static ".toList = 's' :: ['t', 'a', 't', 'i', 'c', ' '] := by decide +kernel
  rw [nameOf, hrest]
  cases hword with
  | absent =>
      rw [List.nil_append, hname.trim_append hgap hbehind]
      cases hmember : afterPrefix? "static ".toList name with
      | none => rfl
      | some member =>
          -- a name has no blank, and so it does not begin with the word for members
          have hblank : ' ' ∈ name := by
            rw [eq_append_of_afterPrefix? hmember, hstatic]
            simp
          exact absurd (hname.not_blank _ hblank) (by decide)
  | @present blanks hblanks =>
      have htrim : trim (gap ++ ("static ".toList ++ blanks ++ (name ++ behind))) =
          "static ".toList ++ (blanks ++ name) := by
        rw [trim_append_of_blank hgap, hstatic, List.cons_append,
          trim_cons_append (by decide) (hname.exists_not_blank behind), hname.trimEnd_append hbehind]
        simp
      have hnone : ∀ c ∈ ([] : List Char), isBlank c = true := by simp
      have hbare := hname.trim_append hblanks hnone
      rw [List.append_nil] at hbare
      rw [htrim, afterPrefix?_append, Option.map_some, Option.getD_some, hbare]

end Name

/-- **The name that is read from a line** is the one that it imports. -/
theorem name?_of_spells {line : String} {name : List Char} (hname : Importable name)
    (hline : Spells name line.toList) : name? line = some (String.ofList name) := by
  have himport : "import ".toList = 'i' :: ['m', 'p', 'o', 'r', 't', ' '] := by decide +kernel
  generalize hcharacters : line.toList = characters at hline
  obtain ⟨semicolons, hbefore, hgap, hword, hbehind, hends⟩ := hline
  rename_i before gap word behind ends
  obtain ⟨left, hleft, hrest⟩ :=
    hname.exists_withoutSemicolons hbehind hends (gap ++ word) semicolons
  have htrim : trim line.toList = "import ".toList ++ ((gap ++ word) ++
      trimEnd (name ++ (behind ++ (List.replicate semicolons ';' ++ ends)))) := by
    have hcut := trim_cons_append (u := ['m', 'p', 'o', 'r', 't', ' '] ++ (gap ++ word))
      (show isBlank 'i' = false by decide)
      (hname.exists_not_blank (behind ++ (List.replicate semicolons ';' ++ ends)))
    rw [hcharacters, trim_append_of_blank hbefore, himport]
    simpa using hcut
  have hnameOf := hname.nameOf_eq hgap hword hleft (hrest.trans (List.append_assoc _ _ _))
  rw [name?, htrim, afterPrefix?_append, Option.map_some, hnameOf]
  cases name with
  | nil => exact absurd rfl hname.ne_nil
  | cons c name => rfl

end Import

namespace Reader

/-- Reading a line leaves the imported names as recording its import leaves them. -/
theorem readLine_classIncludes (r : Reader) (line : String) :
    (r.readLine line).reader.registry.classIncludes =
      (r.noteImport line).registry.classIncludes := by
  cases r.reading line with
  | refused cause _ hread => rw [hread]
  | idle phrase _ _ hread => rw [hread]
  | completing awaited segments parameters phrase events _ _ _ _ hread =>
      rw [hread, noteTypes_classIncludes]

/-- **An import resolves the type that its name ends in.**  However the line is written,
the name is read from it.  Whatever the reader has done before, and whether or not it
refuses the line, the type is found from then on: by this name, or by the one that it was
found by before. -/
theorem imported_type_is_found {line : String} {name : List Char}
    (hname : Import.Importable name) (hline : Import.Spells name line.toList) (r : Reader) :
    let type := String.ofList (Registry.simpleName name)
    Import.name? line = some (String.ofList name) ∧
      Registry.LastPart name type.toList ∧
      (r.readLine line).reader.registry.qualifiedName? type =
        some ((r.registry.qualifiedName? type).getD (String.ofList name)) := by
  intro type
  have hread := Import.name?_of_spells hname hline
  have hlast : Registry.LastPart name type.toList := by
    rw [String.toList_ofList]
    exact Registry.simpleName_eq_iff.mp rfl
  have hdeclares : Registry.Declares (String.ofList name) type := by
    rw [Registry.Declares, String.toList_ofList]
    exact hlast
  refine ⟨hread, hlast, ?_⟩
  refine Registry.qualifiedName?_of_note (Import.isName_of_name? hread) hdeclares ?_
  rw [readLine_classIncludes, noteImport, hread]
  simp only [Registry.addInclude]

/-- An import in the place of a declaration, with blanks of several kinds and semicolons.
The line is refused, and its type was found by another name before. -/
theorem refused_import_is_found :
    let line := "\t import  static \u2003b.Outer.Role ;; "
    let r := run {} [.line "import a.Role;", .line "@Given(\"^a$\")"]
    Import.Importable "b.Outer.Role".toList ∧ Import.Spells "b.Outer.Role".toList line.toList ∧
      ¬ r.Accepts line ∧ Import.name? line = some "b.Outer.Role" ∧
      (r.readLine line).reader.registry.classIncludes = ["a.Role", "b.Outer.Role"] ∧
      (r.readLine line).reader.registry.qualifiedName? "Role" = some "a.Role" := by
  intro line r
  have hname : Import.Importable "b.Outer.Role".toList := by decide +kernel
  have hline : Import.Spells "b.Outer.Role".toList line.toList := by
    have hwritten : line.toList = ['\t', ' '] ++ ("import ".toList ++
        ([' '] ++ ("static ".toList ++ ['\u2003'] ++ ("b.Outer.Role".toList ++
          ([' '] ++ (List.replicate 2 ';' ++ [' '])))))) := by decide +kernel
    rw [hwritten]
    exact .intro 2 (List.all_eq_true.mp (by decide)) (List.all_eq_true.mp (by decide))
      (.present (List.all_eq_true.mp (by decide))) (List.all_eq_true.mp (by decide))
      (List.all_eq_true.mp (by decide))
  obtain ⟨hread, -, hfound⟩ := imported_type_is_found hname hline r
  have htype : String.ofList (Registry.simpleName "b.Outer.Role".toList) = "Role" := by
    decide +kernel
  have hearlier : r.registry.qualifiedName? "Role" = some "a.Role" := by decide +kernel
  rw [htype, hearlier, Option.getD_some] at hfound
  exact ⟨hname, hline, by decide +kernel, hread, by decide +kernel, hfound⟩

end Reader

end Stepbook
