import Mathlib.Data.List.Forall2
import Stepbook.Parameter.Classify
import Stepbook.Parameter.List
import Stepbook.Proofs.Text.Blank

/-!
# Segments of a parameter list

Every segment that a parameter list is cut into declares a parameter.  A
parameter list drops its blank segments, and a segment that is not blank has a
type: trimming, dropping a marker and cutting into words all leave a word, and
the element type of a list type is never empty.

## Main statements

* `Parameter.ofSegment_ok` — a segment that is not blank declares a parameter.
* `Parameter.name_not_blank`, `Parameter.typeName_not_blank` — the name and the type
  name of a declared parameter have no blanks.
* `ParameterList.exists_parameters` — the segments of a parameter list declare
  parameters, one each.
-/

namespace Stepbook

open Stepbook.Text

namespace Parameter

/-! ## Markers -/

/-- What is searched for stands before what follows it. -/
theorem eq_append_of_afterFirst? {p s rest : List Char} (h : afterFirst? p s = some rest) :
    ∃ before, s = before ++ (p ++ rest) := by
  induction s with
  | nil => exact ⟨[], by simpa using eq_append_of_afterPrefix? h⟩
  | cons c s ih =>
      rw [afterFirst?, Option.or_eq_some_iff] at h
      rcases h with h | ⟨-, h⟩
      · exact ⟨[], by simpa using eq_append_of_afterPrefix? h⟩
      · obtain ⟨before, hs⟩ := ih h
        exact ⟨c :: before, by rw [hs, List.cons_append]⟩

/-- A segment that is not blank is not blank behind its marker either: it ends
with a character that is no blank, and the marker ends with a space. -/
theorem exists_not_blank_afterMarker {s : List Char} (h : ∃ c ∈ s, isBlank c = false) :
    ∃ c ∈ afterMarker (trim s), isBlank c = false := by
  unfold afterMarker
  split
  · cases hrest : afterFirst? [')', ' '] (trim s) with
    | none => exact exists_not_blank_trim h
    | some rest =>
        obtain ⟨before, hs⟩ := eq_append_of_afterFirst? hrest
        have hne : trim s ≠ [] := trim_ne_nil h
        have hlast : isBlank ((trim s).getLast hne) = false := getLast_trim hne
        refine exists_not_blank_trim ?_
        -- what the segment ends with is either in the marker or behind it
        cases rest with
        | nil =>
            have hspace : (trim s).getLast hne = ' ' := by simp [hs]
            rw [hspace] at hlast
            exact absurd hlast (by decide)
        | cons d rest =>
            have hmem : (trim s).getLast hne ∈ d :: rest := by
              have hend : (trim s).getLast hne = (d :: rest).getLast (by simp) := by simp [hs]
              rw [hend]
              exact List.getLast_mem _
            exact ⟨_, hmem, hlast⟩
  · exact exists_not_blank_trim h

/-! ## Types -/

/-- A list type is longer than its element type by `List<` and `>`, and the
element type is not empty. -/
theorem eq_append_of_listElement? {type element : List Char}
    (h : listElement? type = some element) :
    type = "List<".toList ++ (element ++ ['>']) ∧ element ≠ [] := by
  unfold listElement? at h
  split at h
  · rename_i rest hrest
    split at h
    · rename_i hcond
      simp only [Bool.and_eq_true, decide_eq_true_eq] at hcond
      cases h
      have hne : rest ≠ [] := by
        rintro rfl
        simp at hcond
      refine ⟨?_, ?_⟩
      · rw [eq_append_of_afterPrefix? hrest]
        congr 1
        exact (List.dropLast_append_getLast? _ hcond.1).symm
      · intro hnil
        have hlen := congrArg List.length hnil
        rw [List.length_dropLast] at hlen
        simp only [List.length_nil] at hlen
        omega
    · cases h
  · cases h

/-- The declared type is the first word, or the element type that it names. -/
theorem declared_fst (s : List Char) :
    (declared s).1 = (listElement? ((words (afterMarker (trim s))).headD [])).getD
      ((words (afterMarker (trim s))).headD []) := by
  rw [declared]
  cases listElement? ((words (afterMarker (trim s))).headD []) <;> rfl

/-- The declared type has no blanks, whatever the segment. -/
theorem declared_type_not_blank (s : List Char) : ∀ c ∈ (declared s).1, isBlank c = false := by
  have hword : ∀ c ∈ (words (afterMarker (trim s))).headD [], isBlank c = false := by
    cases hws : words (afterMarker (trim s)) with
    | nil => simp
    | cons w ws => exact (mem_words (hws ▸ List.mem_cons_self)).2
  rw [declared_fst]
  cases helement : listElement? ((words (afterMarker (trim s))).headD []) with
  | none => exact hword
  | some element =>
      intro c hc
      refine hword c ?_
      rw [(eq_append_of_listElement? helement).1]
      exact List.mem_append_right _ (List.mem_append_left _ hc)

/-- The declared name has no blanks, whatever the segment. -/
theorem declared_name_not_blank (s : List Char) : ∀ c ∈ (declared s).2, isBlank c = false := by
  have hword : ∀ c ∈ ((words (afterMarker (trim s))).drop 1).headD [], isBlank c = false := by
    cases hws : (words (afterMarker (trim s))).drop 1 with
    | nil => simp
    | cons w ws => exact (mem_words (List.mem_of_mem_drop (hws ▸ List.mem_cons_self))).2
  have hmark : ("List".toList.all fun c => !isBlank c) = true := by decide +kernel
  rw [declared]
  cases listElement? ((words (afterMarker (trim s))).headD []) with
  | none => exact hword
  | some element =>
      intro c hc
      rcases List.mem_append.mp hc with hname | hlist
      · exact hword c hname
      · simpa using List.all_eq_true.mp hmark c hlist

/-- A segment that is not blank declares a type. -/
theorem declared_type_ne_nil {s : List Char} (h : ∃ c ∈ s, isBlank c = false) :
    (declared s).1 ≠ [] := by
  have hws : words (afterMarker (trim s)) ≠ [] := words_ne_nil (exists_not_blank_afterMarker h)
  obtain ⟨w, ws, hcons⟩ := List.exists_cons_of_ne_nil hws
  have hw : w ≠ [] := (mem_words (hcons ▸ List.mem_cons_self)).1
  rw [declared_fst, hcons, List.headD_cons]
  cases helement : listElement? w with
  | none => exact hw
  | some element => exact (eq_append_of_listElement? helement).2

/-- A known type carries no type name. -/
theorem typeName?_of_knownKind? {type : List Char} {kind : ParameterKind}
    (h : knownKind? type = some kind) : kind.typeName? = none := by
  have hplain : ∀ t ∈ knownTypes, t.2.typeName? = none := by decide
  rw [knownKind?, Option.map_eq_some_iff] at h
  obtain ⟨entry, hentry, rfl⟩ := h
  exact hplain entry (List.mem_of_find?_eq_some hentry)

/-! ## Parameters -/

-- What the two readings of a segment give is known by now; unfolded, their tables
-- of literals would be decoded at every step.
attribute [local irreducible] knownKind? declared

/-- An enumeration parameter is made of every type name but the empty one. -/
theorem ofEnumeration_eq_ok_iff {name typeName : String} {p : Parameter} :
    ofEnumeration name typeName = .ok p ↔
      ∃ h : typeName ≠ "", p = ⟨name, .enumeration ⟨typeName, h⟩⟩ := by
  unfold ofEnumeration ParameterKind.enumeration?
  by_cases h : typeName = ""
  · simp [h, Check.fail, Except.map]
  · simp only [h, dite_false, Except.map, Except.ok.injEq, ne_eq, not_false_eq_true,
      exists_true_left]
    exact eq_comm

/-- What a segment declares: a known type makes a parameter without a type name,
and every other type is the type name. -/
theorem ofSegment_eq_ok_iff {s : String} {p : Parameter} :
    ofSegment s = .ok p ↔ p.name = String.ofList (declared s.toList).2 ∧
      match knownKind? (declared s.toList).1 with
      | some kind => p.kind = kind
      | none => p.kind.typeName? = some (String.ofList (declared s.toList).1) := by
  unfold ofSegment
  cases hkind : knownKind? (declared s.toList).1 with
  | some kind =>
      simp only [hkind, Except.ok.injEq]
      cases p
      simp [eq_comm]
  | none =>
      simp only [hkind, ofEnumeration_eq_ok_iff]
      constructor
      · rintro ⟨h, rfl⟩
        exact ⟨rfl, rfl⟩
      · obtain ⟨name, kind⟩ := p
        rintro ⟨hname, htype⟩
        cases kind with
        | enumeration type =>
            have htext : type.text = String.ofList (declared s.toList).1 := Option.some.inj htype
            simp only [← htext, ← hname]
            exact ⟨type.ne_empty, trivial⟩
        | number => simp [ParameterKind.typeName?] at htype
        | text => simp [ParameterKind.typeName?] at htype
        | date => simp [ParameterKind.typeName?] at htype

/-- A segment that is not blank declares a parameter. -/
theorem ofSegment_ok {s : String} (h : ∃ c ∈ s.toList, isBlank c = false) :
    ∃ p, ofSegment s = .ok p := by
  have hne : String.ofList (declared s.toList).1 ≠ "" := by
    intro hnil
    exact declared_type_ne_nil h (by simpa using congrArg String.toList hnil)
  cases hkind : knownKind? (declared s.toList).1 with
  | some kind => exact ⟨⟨_, kind⟩, ofSegment_eq_ok_iff.mpr ⟨rfl, by simp only [hkind]⟩⟩
  | none =>
      exact ⟨⟨_, .enumeration ⟨_, hne⟩⟩, ofSegment_eq_ok_iff.mpr ⟨rfl, by
        simp only [hkind, ParameterKind.typeName?]⟩⟩

/-- The name of a declared parameter has no blanks. -/
theorem name_not_blank {s : String} {p : Parameter} (hp : ofSegment s = .ok p) :
    ∀ c ∈ p.name.toList, isBlank c = false := by
  rw [(ofSegment_eq_ok_iff.mp hp).1, String.toList_ofList]
  exact declared_name_not_blank s.toList

/-- The type name of a declared parameter has no blanks. -/
theorem typeName_not_blank {s : String} {p : Parameter} {name : String}
    (hp : ofSegment s = .ok p) (hname : p.kind.typeName? = some name) :
    ∀ c ∈ name.toList, isBlank c = false := by
  have hkind := (ofSegment_eq_ok_iff.mp hp).2
  cases hknown : knownKind? (declared s.toList).1 with
  | some kind =>
      simp only [hknown] at hkind
      rw [hkind, typeName?_of_knownKind? hknown] at hname
      cases hname
  | none =>
      simp only [hknown] at hkind
      rw [hkind, Option.some.injEq] at hname
      rw [← hname, String.toList_ofList]
      exact declared_type_not_blank s.toList

/-- A type name is never empty. -/
theorem typeName_ne_empty {kind : ParameterKind} {name : String}
    (h : kind.typeName? = some name) : name ≠ "" := by
  cases kind with
  | enumeration type =>
      cases h
      exact type.ne_empty
  | number => cases h
  | text => cases h
  | date => cases h

end Parameter

namespace ParameterList

/-- The segments declare the parameters, one each and in the same order. -/
abbrev Declare (segments : List String) (parameters : List Parameter) : Prop :=
  List.Forall₂ (fun s p => Parameter.ofSegment s = .ok p) segments parameters

/-- A parameter list has no blank segment. -/
theorem not_blank_of_mem_segments {declaration : String} {segs : List String}
    (h : segments declaration = .ok segs) : ∀ s ∈ segs, ∃ c ∈ s.toList, isBlank c = false := by
  unfold segments at h
  split at h
  · cases h
    intro s hs
    obtain ⟨t, ht, rfl⟩ := List.mem_map.mp hs
    simpa using (List.mem_filter.mp ht).2
  · cases h

/-- Segments that are not blank declare parameters. -/
theorem exists_declare {segs : List String} (h : ∀ s ∈ segs, ∃ c ∈ s.toList, isBlank c = false) :
    ∃ parameters, Declare segs parameters := by
  induction segs with
  | nil => exact ⟨[], .nil⟩
  | cons s segs ih =>
      obtain ⟨p, hp⟩ := Parameter.ofSegment_ok (h s List.mem_cons_self)
      obtain ⟨parameters, hrest⟩ := ih fun t ht => h t (List.mem_cons_of_mem s ht)
      exact ⟨p :: parameters, .cons hp hrest⟩

/-- The segments of a parameter list declare parameters, one each. -/
theorem exists_parameters {declaration : String} {segs : List String}
    (h : segments declaration = .ok segs) : ∃ parameters, Declare segs parameters :=
  exists_declare (not_blank_of_mem_segments h)

end ParameterList

end Stepbook
