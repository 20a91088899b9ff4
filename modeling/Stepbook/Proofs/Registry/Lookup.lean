import Mathlib.Data.List.DropRight
import Stepbook.Proofs.Registry

/-!
# Looking up a type

A type is looked up by the last dotted part of the imported names.  Of several imports
that end in it the earliest recorded one counts, so that a name recorded later never
takes the place of one that was found before.

## Main definitions

* `Registry.LastPart` — the part of a dotted name behind its last point.
* `Registry.Declares` — an imported name and the type that it ends in.

## Main statements

* `Registry.simpleName_eq_iff` — cutting a name finds its last part.
* `Registry.qualifiedName?_eq_some_iff`, `Registry.qualifiedName?_eq_none_iff` — what a
  look-up finds.
* `Registry.qualifiedName?_of_prefix` — names recorded later do not change what is found.
* `Registry.qualifiedName?_of_note` — what is found once a name is recorded.
-/

namespace Stepbook.Registry

/-- The part of a dotted name behind its last point, or the whole of a name without a
point. -/
inductive LastPart : List Char → List Char → Prop
  | whole {name : List Char} (h : '.' ∉ name) : LastPart name name
  | behind {last : List Char} (before : List Char) (h : '.' ∉ last) :
      LastPart (before ++ '.' :: last) last

/-- An imported name declares the type that it ends in. -/
def Declares (name type : String) : Prop := LastPart name.toList type.toList

/-! ## The last part of a name -/

theorem simpleName_eq_rtakeWhile (name : List Char) :
    simpleName name = name.rtakeWhile (· != '.') := rfl

theorem simpleName_of_not_mem {name : List Char} (h : '.' ∉ name) : simpleName name = name := by
  rw [simpleName_eq_rtakeWhile, List.rtakeWhile_eq_self_iff]
  intro c hc
  simpa using ne_of_mem_of_not_mem hc h

theorem simpleName_append_cons {last : List Char} (before : List Char) (h : '.' ∉ last) :
    simpleName (before ++ '.' :: last) = last := by
  have hrun : ∀ c ∈ last.reverse, (c != '.') = true := by
    intro c hc
    simpa using ne_of_mem_of_not_mem (List.mem_reverse.mp hc) h
  rw [simpleName, List.reverse_append, List.reverse_cons, List.append_assoc,
    List.takeWhile_append_of_pos hrun]
  simp

theorem not_mem_simpleName (name : List Char) : '.' ∉ simpleName name := by
  intro hmem
  simpa using List.mem_rtakeWhile_imp hmem

/-- What stands before the last part of a name ends with a point, if anything does. -/
theorem exists_eq_append_simpleName (name : List Char) :
    name = simpleName name ∨ ∃ before, name = before ++ '.' :: simpleName name := by
  have hwhole : name.rdropWhile (· != '.') ++ simpleName name = name :=
    List.rdropWhile_append_rtakeWhile
  rcases List.eq_nil_or_concat (name.rdropWhile (· != '.')) with hnil | ⟨before, c, hconcat⟩
  · left
    rwa [hnil, List.nil_append, eq_comm] at hwhole
  · right
    have hpoint := List.rdropWhile_last_not (· != '.') name (by simp [hconcat])
    obtain rfl : c = '.' := by simpa [hconcat] using hpoint
    refine ⟨before, ?_⟩
    rw [List.append_cons, ← List.concat_eq_append, ← hconcat, hwhole]

/-- **Cutting a name behind its last point** finds its last part. -/
theorem simpleName_eq_iff {name last : List Char} : simpleName name = last ↔ LastPart name last := by
  constructor
  · rintro rfl
    rcases exists_eq_append_simpleName name with hwhole | ⟨before, hbehind⟩
    · have hnone := not_mem_simpleName name
      rw [← hwhole] at hnone ⊢
      exact .whole hnone
    · generalize hlast : simpleName name = last at hbehind
      subst hbehind
      exact .behind before (hlast ▸ not_mem_simpleName _)
  · rintro (h | ⟨before, h⟩)
    · exact simpleName_of_not_mem h
    · exact simpleName_append_cons before h

/-! ## What is found -/

section Found

variable {g : Registry} {type name : String}

theorem simpleName_beq_iff : (simpleName name.toList == type.toList) = true ↔ Declares name type :=
  beq_iff_eq.trans simpleName_eq_iff

/-- **A type is found** by the earliest name that declares it. -/
theorem qualifiedName?_eq_some_iff :
    g.qualifiedName? type = some name ↔
      ∃ before after, g.classIncludes = before ++ name :: after ∧ Declares name type ∧
        ∀ earlier ∈ before, ¬ Declares earlier type := by
  have hnot : ∀ before : List String,
      (∀ i ∈ before, (!(simpleName i.toList == type.toList)) = true) ↔
        ∀ i ∈ before, ¬ Declares i type := by
    intro before
    refine forall₂_congr fun i _ => ?_
    rw [Bool.not_eq_true', ← simpleName_beq_iff, Bool.not_eq_true]
  rw [qualifiedName?, List.find?_eq_some_iff_append, simpleName_beq_iff]
  simp only [hnot]
  constructor
  · rintro ⟨hdeclares, before, after, hlist, hearlier⟩
    exact ⟨before, after, hlist, hdeclares, hearlier⟩
  · rintro ⟨before, after, hlist, hdeclares, hearlier⟩
    exact ⟨hdeclares, before, after, hlist, hearlier⟩

/-- A type is not found if no name declares it. -/
theorem qualifiedName?_eq_none_iff :
    g.qualifiedName? type = none ↔ ∀ name ∈ g.classIncludes, ¬ Declares name type := by
  rw [qualifiedName?, List.find?_eq_none]
  exact forall₂_congr fun _ _ => not_congr simpleName_beq_iff

/-- **What is found stays**, whatever names are recorded behind those there are. -/
theorem qualifiedName?_of_prefix {later : Registry}
    (hlater : g.classIncludes <+: later.classIncludes) (h : g.qualifiedName? type = some name) :
    later.qualifiedName? type = some name :=
  hlater.find?_eq_some h

/-- **A type that a recorded name declares is found**: by that name, unless an earlier one
declares it. -/
theorem qualifiedName?_of_note {later : Registry} (hname : IsName name)
    (hdeclares : Declares name type) (hlater : later.classIncludes = note g.classIncludes name) :
    later.qualifiedName? type = some ((g.qualifiedName? type).getD name) := by
  cases hfound : g.qualifiedName? type with
  | some earlier =>
      refine qualifiedName?_of_prefix ?_ hfound
      rw [hlater, note_eq_append hname]
      exact List.prefix_append _ _
  | none =>
      -- the name is new, for it would have been found itself
      have hnone := qualifiedName?_eq_none_iff.mp hfound
      have hnew : name ∉ g.classIncludes := fun hmem => hnone name hmem hdeclares
      refine qualifiedName?_eq_some_iff.mpr ⟨g.classIncludes, [], ?_, hdeclares, hnone⟩
      rw [hlater, note_eq_append hname, List.filter_eq_self.mpr (by simpa using hnew)]
      rfl

end Found

end Stepbook.Registry
