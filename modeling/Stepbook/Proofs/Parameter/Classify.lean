import Stepbook.Proofs.Reader.Accounting
import Stepbook.Proofs.Text.LowerCase

/-!
# How a segment is classified

A segment of a parameter list is written as a type and a name with blanks around and
between them.  A parameter annotation may stand before the type, and anything behind
the name.  What the segment declares is told by its type and its name alone.

## Main definitions

* `Parameter.IsAnnotation`, `Parameter.NameBehind`, `Parameter.Spells` — how a type
  and a name are written in a segment.
* `Parameter.Classified` — what a type and a name declare, and what is recorded of it.

## Main statements

* `Parameter.words_of_spells` — the first two words behind the annotation are the
  type and the name.
* `Parameter.listElement?_eq_some_iff` — the list types and their element types.
* `Parameter.knownKind?_eq_some_iff` — the known types, up to letter case.
* `Parameter.segment_classified` — the parameter that a segment declares, what it
  leaves in the registry, and the segments that declare none.
-/

namespace Stepbook.Parameter

open Stepbook.Text

/-! ## How segments are written -/

/-- A text that begins with one of the markers. -/
def Marked (s : List Char) : Prop := ∃ marker ∈ markers, marker.toList <+: s

/-- An annotation that may stand before a parameter.  It ends with the only closing
parenthesis in it that a space can follow. -/
structure IsAnnotation (mark : List Char) : Prop where
  marked : Marked mark
  closed : mark.getLast? = some ')'
  unbroken : ¬ [')', ' '] <:+: mark

/-- A text that is not empty and has no blanks. -/
structure IsWord (w : List Char) : Prop where
  ne_nil : w ≠ []
  not_blank : ∀ c ∈ w, isBlank c = false

instance (w : List Char) : Decidable (IsWord w) :=
  decidable_of_iff (w ≠ [] ∧ (w.all fun c => !isBlank c) = true)
    ⟨fun h => ⟨h.1, by simpa using h.2⟩, fun h => ⟨h.ne_nil, by simpa using h.not_blank⟩⟩

/-- What stands behind the type: blanks, or a name behind at least one blank, and
then whatever a blank separates from the name. -/
inductive NameBehind : List Char → List Char → Prop
  | absent {blanks : List Char} (hblanks : ∀ c ∈ blanks, isBlank c = true) :
      NameBehind [] blanks
  | present {name blanks others : List Char} (hname : IsWord name) (hne : blanks ≠ [])
      (hblanks : ∀ c ∈ blanks, isBlank c = true)
      (hothers : ∀ c ∈ others.head?, isBlank c = true) :
      NameBehind name (blanks ++ (name ++ others))

/-- The segments that a type and a name are written in. -/
inductive Spells (type name : List Char) : List Char → Prop
  | plain {before behind : List Char} (hbefore : ∀ c ∈ before, isBlank c = true)
      (htype : ¬ Marked type) (hbehind : NameBehind name behind) :
      Spells type name (before ++ (type ++ behind))
  | annotated {before mark between behind : List Char}
      (hbefore : ∀ c ∈ before, isBlank c = true) (hmark : IsAnnotation mark)
      (hbetween : ∀ c ∈ between, isBlank c = true) (hbehind : NameBehind name behind) :
      Spells type name (before ++ (mark ++ ' ' :: (between ++ (type ++ behind))))

/-! ## Annotations -/

theorem Marked.of_prefix {s t : List Char} (h : Marked s) (hstarts : s <+: t) : Marked t := by
  obtain ⟨m, hm, hmarker⟩ := h
  exact ⟨m, hm, hmarker.trans hstarts⟩

theorem any_isPrefixOf_iff {s : List Char} :
    (markers.any fun m => m.toList.isPrefixOf s) = true ↔ Marked s := by
  simp only [List.any_eq_true, List.isPrefixOf_iff_prefix]
  rfl

theorem afterMarker_of_not_marked {s : List Char} (h : ¬ Marked s) : afterMarker s = s := by
  rw [afterMarker, if_neg (mt any_isPrefixOf_iff.mp h)]

theorem afterMarker_of_marked {s rest : List Char} (h : Marked s)
    (hrest : afterFirst? [')', ' '] s = some rest) : afterMarker s = trim rest := by
  rw [afterMarker, if_pos (any_isPrefixOf_iff.mpr h), hrest]
  rfl

/-- No marker has a blank in it. -/
theorem not_blank_of_mem_markers {m : String} (hm : m ∈ markers) :
    ∀ c ∈ m.toList, isBlank c = false := by
  have hall : (markers.all fun m => m.toList.all fun c => !isBlank c) = true := by decide +kernel
  intro c hc
  simpa using List.all_eq_true.mp (List.all_eq_true.mp hall m hm) c hc

/-- A marker at the start of a text lies within the first word of it. -/
theorem marked_of_append {type behind : List Char}
    (hbehind : ∀ c ∈ behind.head?, isBlank c = true) (h : Marked (type ++ behind)) :
    Marked type := by
  obtain ⟨m, hm, hstarts⟩ := h
  refine ⟨m, hm, ?_⟩
  rcases List.prefix_or_prefix_of_prefix hstarts (List.prefix_append type behind) with
    hwithin | ⟨beyond, hbeyond⟩
  · exact hwithin
  · -- a marker that is longer than the word would have the blank behind it
    cases beyond with
    | nil => exact ⟨[], by simp [← hbeyond]⟩
    | cons c beyond =>
        have hrest : c :: beyond <+: behind :=
          (List.prefix_append_right_inj type).mp (hbeyond ▸ hstarts)
        obtain ⟨others, rfl⟩ := hrest
        have hmem : c ∈ m.toList := by simp [← hbeyond]
        have hblank := hbehind c rfl
        rw [not_blank_of_mem_markers hm c hmem] at hblank
        cases hblank

/-- An annotation does not begin with a blank. -/
theorem IsAnnotation.exists_cons {mark : List Char} (h : IsAnnotation mark) :
    ∃ c u, mark = c :: u ∧ isBlank c = false := by
  obtain ⟨m, hm, u, rfl⟩ := h.marked
  have hne : m.toList ≠ [] := by
    have hall : (markers.all fun m => !m.toList.isEmpty) = true := by decide +kernel
    simpa using List.all_eq_true.mp hall m hm
  obtain ⟨c, v, hv⟩ := List.exists_cons_of_ne_nil hne
  exact ⟨c, v ++ u, by rw [hv, List.cons_append],
    not_blank_of_mem_markers hm c (hv ▸ List.mem_cons_self)⟩

/-- What is searched for is found where it stands first. -/
theorem afterFirst?_append {p s : List Char} (hne : p ≠ []) (h : ¬ p <:+: (s ++ p).dropLast)
    (rest : List Char) : afterFirst? p (s ++ (p ++ rest)) = some rest := by
  induction s with
  | nil =>
      obtain ⟨c, p, rfl⟩ := List.exists_cons_of_ne_nil hne
      have hfound := afterPrefix?_append (c :: p) rest
      rw [List.cons_append] at hfound
      rw [List.nil_append, List.cons_append, afterFirst?, hfound, Option.some_or]
  | cons c s ih =>
      have hsplit : (c :: s ++ p).dropLast = c :: (s ++ p).dropLast := by
        rw [List.cons_append,
          List.dropLast_cons_of_ne_nil (List.append_ne_nil_of_right_ne_nil s hne)]
      rw [hsplit] at h
      have hnone : afterPrefix? p (c :: (s ++ (p ++ rest))) = none := by
        rw [Option.eq_none_iff_forall_ne_some]
        intro other hother
        -- what is searched for is too short to reach beyond its place
        have hhere : p <+: c :: (s ++ (p ++ rest)) :=
          ⟨other, (eq_append_of_afterPrefix? hother).symm⟩
        have hbefore : c :: (s ++ p).dropLast <+: c :: (s ++ (p ++ rest)) := by
          rw [← List.append_assoc, List.cons_prefix_cons]
          exact ⟨rfl, (List.dropLast_prefix _).trans (List.prefix_append _ _)⟩
        have hlength : p.length ≤ (c :: (s ++ p).dropLast).length := by
          have hpos := List.length_pos_of_ne_nil hne
          rw [List.length_cons, List.length_dropLast, List.length_append]
          omega
        exact h (List.prefix_of_prefix_length_le hhere hbefore hlength).isInfix
      rw [List.cons_append, afterFirst?, hnone, Option.none_or]
      exact ih fun hinfix => h (List.infix_cons hinfix)

/-- The annotation ends where the rest of the segment begins. -/
theorem IsAnnotation.afterFirst?_eq {mark : List Char} (h : IsAnnotation mark)
    (rest : List Char) : afterFirst? [')', ' '] (mark ++ ' ' :: rest) = some rest := by
  obtain ⟨body, rfl⟩ : ∃ body, mark = body ++ [')'] :=
    ⟨_, (List.dropLast_append_getLast? _ h.closed).symm⟩
  have hunbroken : ¬ [')', ' '] <:+: (body ++ [')', ' ']).dropLast := by
    have hlast : body ++ [')', ' '] = (body ++ [')']) ++ [' '] := by simp
    rw [hlast, List.dropLast_concat]
    exact h.unbroken
  simpa using afterFirst?_append (by simp) hunbroken rest

/-! ## The first two words -/

/-- Where there is a name, it is the second word. -/
theorem words_of_nameBehind {type name behind : List Char} (htype : IsWord type)
    (h : NameBehind name behind) :
    ∃ others, words (type ++ behind) = type :: others ∧ others.headD [] = name := by
  have hfirst : words type = [type] := words_of_forall_not htype.ne_nil htype.not_blank
  cases h with
  | absent hblanks => exact ⟨[], by rw [words_append_blank hblanks, hfirst], rfl⟩
  | @present _ blanks others hname hne hblanks hothers =>
      obtain ⟨c, blanks, rfl⟩ := List.exists_cons_of_ne_nil hne
      have hsecond : words name = [name] := words_of_forall_not hname.ne_nil hname.not_blank
      rw [List.cons_append, words_append_cons (hblanks c List.mem_cons_self), hfirst,
        words_blank_append fun d hd => hblanks d (List.mem_cons_of_mem c hd)]
      cases others with
      | nil => exact ⟨[name], by rw [List.append_nil, hsecond]; rfl, rfl⟩
      | cons d others =>
          exact ⟨name :: words others, by rw [words_append_cons (hothers d rfl), hsecond]; rfl, rfl⟩

theorem NameBehind.head?_blank {name behind : List Char} (h : NameBehind name behind) :
    ∀ c ∈ behind.head?, isBlank c = true := by
  cases h with
  | absent hblanks => exact fun c hc => hblanks c (List.mem_of_head? hc)
  | @present _ blanks others _ hne hblanks _ =>
      obtain ⟨d, blanks, rfl⟩ := List.exists_cons_of_ne_nil hne
      rintro c ⟨rfl⟩
      exact hblanks d List.mem_cons_self

/-- The first two words behind the annotation are the type and the name. -/
theorem words_of_spells {type name segment : List Char} (htype : IsWord type)
    (h : Spells type name segment) :
    ∃ others, words (afterMarker (trim segment)) = type :: others ∧ others.headD [] = name := by
  cases h with
  | @plain before behind hbefore hunmarked hbehind =>
      have htrim : trim (type ++ behind) <+: type ++ behind := by
        obtain ⟨t, type, rfl⟩ := List.exists_cons_of_ne_nil htype.ne_nil
        exact trim_cons_prefix (htype.not_blank t List.mem_cons_self) (type ++ behind)
      have hmarked : ¬ Marked (trim (type ++ behind)) := fun h =>
        hunmarked (marked_of_append hbehind.head?_blank (h.of_prefix htrim))
      rw [trim_append_of_blank hbefore, afterMarker_of_not_marked hmarked, words_trim]
      exact words_of_nameBehind htype hbehind
  | @annotated before mark between behind hbefore hmark hbetween hbehind =>
      have hrest : ∃ c ∈ between ++ (type ++ behind), isBlank c = false := by
        obtain ⟨t, type, rfl⟩ := List.exists_cons_of_ne_nil htype.ne_nil
        exact ⟨t, by simp, htype.not_blank t List.mem_cons_self⟩
      have htrim : trim (mark ++ ' ' :: (between ++ (type ++ behind))) =
          mark ++ ' ' :: trimEnd (between ++ (type ++ behind)) := by
        obtain ⟨c, u, rfl, hc⟩ := hmark.exists_cons
        have htrim := trim_cons_append (u := u ++ [' ']) hc hrest
        simpa only [List.cons_append, List.append_assoc, List.nil_append] using htrim
      have hmarked : Marked (mark ++ ' ' :: trimEnd (between ++ (type ++ behind))) :=
        hmark.marked.of_prefix (List.prefix_append _ _)
      rw [trim_append_of_blank hbefore, htrim,
        afterMarker_of_marked hmarked (hmark.afterFirst?_eq _), words_trim, words_trimEnd,
        words_blank_append hbetween]
      exact words_of_nameBehind htype hbehind

/-! ## Types -/

/-- The list types: `List<` and `>` around an element type. -/
theorem listElement?_eq_some_iff {type element : List Char} :
    listElement? type = some element ↔
      element ≠ [] ∧ type = "List<".toList ++ (element ++ ['>']) := by
  constructor
  · intro h
    exact (eq_append_of_listElement? h).symm
  · rintro ⟨hne, rfl⟩
    rw [listElement?, afterPrefix?_append]
    simp only [List.getLast?_append, List.getLast?_singleton, Option.some_or, decide_true,
      Bool.true_and, List.length_append, List.length_singleton, List.dropLast_concat]
    rw [if_pos (by simpa [Nat.one_le_iff_ne_zero] using hne)]

/-- Two texts that differ at most in the case of ASCII letters. -/
def SameLetters (s w : List Char) : Prop := s.map Char.toLower = w.map Char.toLower

instance (s w : List Char) : Decidable (SameLetters s w) :=
  inferInstanceAs (Decidable (s.map Char.toLower = w.map Char.toLower))

/-- Each known type is a word in lower case, spelled in ASCII letters and without a
`k`. -/
theorem knownTypes_lower {entry : String × ParameterKind} (h : entry ∈ knownTypes) :
    entry.1.toList.map Char.toLower = entry.1.toList ∧
      (∀ c ∈ entry.1.toList, c.toNat < 128) ∧ 'k' ∉ entry.1.toList := by
  have hall : (knownTypes.all fun entry =>
      entry.1.toList.map Char.toLower == entry.1.toList &&
        entry.1.toList.all (fun c => decide (c.toNat < 128)) &&
        !entry.1.toList.contains 'k') = true := by decide +kernel
  simpa [and_assoc] using List.all_eq_true.mp hall entry h

/-- No word stands for two kinds. -/
theorem knownTypes_inj {a b : String × ParameterKind} (ha : a ∈ knownTypes) (hb : b ∈ knownTypes)
    (h : a.1.toList = b.1.toList) : a = b := by
  have hall : (knownTypes.all fun a => knownTypes.all fun b =>
      a.1 != b.1 || decide (a = b)) = true := by decide +kernel
  have hpair := List.all_eq_true.mp (List.all_eq_true.mp hall a ha) b hb
  simpa [String.toList_inj.mp h] using hpair

/-- **The known types**, up to letter case. -/
theorem knownKind?_eq_some_iff {type : List Char} {kind : ParameterKind} :
    knownKind? type = some kind ↔
      ∃ entry ∈ knownTypes, entry.2 = kind ∧ SameLetters type entry.1.toList := by
  rw [knownKind?, Option.map_eq_some_iff]
  constructor
  · rintro ⟨entry, hfind, hkind⟩
    have hmem := List.mem_of_find?_eq_some hfind
    have hword := List.find?_some hfind
    refine ⟨entry, hmem, hkind, ?_⟩
    rw [SameLetters, (knownTypes_lower hmem).1]
    exact (by simpa using hword : entry.1.toList = _).symm
  · rintro ⟨entry, hmem, hkind, hletters⟩
    rw [SameLetters, (knownTypes_lower hmem).1] at hletters
    refine ⟨entry, ?_, hkind⟩
    rw [hletters]
    cases hfind : knownTypes.find? (fun t => t.1.toList == entry.1.toList) with
    | none => exact absurd (List.find?_eq_none.mp hfind entry hmem) (by simp)
    | some found =>
        have hword : found.1.toList = entry.1.toList := by simpa using List.find?_some hfind
        rw [knownTypes_inj (List.mem_of_find?_eq_some hfind) hmem hword]

/-- Lower-casing all letters of a type finds the same known type. -/
theorem eq_lowered_iff {type lowered : List Char} (h : LowersTo type lowered)
    {entry : String × ParameterKind} (hmem : entry ∈ knownTypes) :
    lowered = entry.1.toList ↔ SameLetters type entry.1.toList := by
  obtain ⟨hlower, hascii, hk⟩ := knownTypes_lower hmem
  rw [h.eq_iff hascii hk, SameLetters, hlower]

/-! ## What a type and a name declare -/

/-- A list type declares its element type and marks the name. -/
theorem declared_of_list {type element segment : List Char} {others : List (List Char)}
    (hwords : words (afterMarker (trim segment)) = type :: others)
    (hlist : listElement? type = some element) :
    declared segment = (element, others.headD [] ++ "List".toList) := by
  simp only [declared, hwords, List.headD_cons, List.drop_one, List.tail_cons, hlist]

/-- Any other type is declared as it is, and so is the name. -/
theorem declared_of_not_list {type segment : List Char} {others : List (List Char)}
    (hwords : words (afterMarker (trim segment)) = type :: others)
    (hlist : listElement? type = none) : declared segment = (type, others.headD []) := by
  simp only [declared, hwords, List.headD_cons, List.drop_one, List.tail_cons, hlist]

-- unfolded, the tables of words would be decoded at every step
attribute [local irreducible] knownKind? declared

/-- What a base type and a name declare: the parameter, and the registry behind it.
The known types are recognised up to the case of ASCII letters, and lower-casing every
letter recognises the same. -/
structure Classified (registry : Registry) (base name : List Char) (noted : Registry)
    (p : Parameter) : Prop where
  name_eq : p.name = String.ofList name
  number_iff : p.kind = .number ↔
    ∃ word ∈ ["long", "int", "integer"], SameLetters base word.toList
  text_iff : p.kind = .text ↔
    ∃ word ∈ ["string", "char", "double", "boolean", "datatable"], SameLetters base word.toList
  date_iff : p.kind = .date ↔ SameLetters base "date".toList
  lowered_iff : ∀ lowered, LowersTo base lowered → ∀ entry ∈ knownTypes,
    (lowered = entry.1.toList ↔ SameLetters base entry.1.toList)
  known : p.kind ∈ [.number, .text, .date] → noted = registry
  /-- Every other type is an enumeration, which is added behind the others if it is not
  among them. -/
  enumeration : p.kind ∉ [.number, .text, .date] →
    p.kind.typeName? = some (String.ofList base) ∧
      noted = { registry with
        enumerations := registry.enumerations ++
          [String.ofList base].filter (· ∉ registry.enumerations) }

/-- The type of an enumeration is recorded behind the others. -/
theorem noteType_of_typeName {p : Parameter} {name : String}
    (h : p.kind.typeName? = some name) (hname : IsName name) (registry : Registry) :
    (Reader.noteType registry p).1 = { registry with
      enumerations := registry.enumerations ++ [name].filter (· ∉ registry.enumerations) } := by
  rw [Reader.noteType_fst, h, Option.map_some, Option.getD_some, Registry.addEnumeration,
    Registry.note_eq_append hname]

section Declared

variable {segment : String} {base name : List Char} {p : Parameter}
  (hp : ofSegment segment = .ok p) (hdeclared : declared segment.toList = (base, name))
include hp hdeclared

theorem kind_of_known {kind : ParameterKind} (h : knownKind? base = some kind) : p.kind = kind := by
  have hkind := (ofSegment_eq_ok_iff.mp hp).2
  rw [hdeclared] at hkind
  simpa only [h] using hkind

theorem typeName?_of_unknown (h : knownKind? base = none) :
    p.kind.typeName? = some (String.ofList base) := by
  have hkind := (ofSegment_eq_ok_iff.mp hp).2
  rw [hdeclared] at hkind
  simpa only [h] using hkind

/-- A kind that carries no type is one of the table's. -/
theorem kind_eq_iff {kind : ParameterKind} (hplain : kind.typeName? = none) :
    p.kind = kind ↔ ∃ entry ∈ knownTypes, entry.2 = kind ∧ SameLetters base entry.1.toList := by
  rw [← knownKind?_eq_some_iff]
  constructor
  · rintro rfl
    cases hbase : knownKind? base with
    | none =>
        rw [typeName?_of_unknown hp hdeclared hbase] at hplain
        cases hplain
    | some kind => rw [kind_of_known hp hdeclared hbase]
  · exact kind_of_known hp hdeclared

/-- Every other kind carries the base type. -/
theorem typeName?_of_not_plain (h : p.kind ∉ [.number, .text, .date]) :
    p.kind.typeName? = some (String.ofList base) := by
  have hplain : ∀ entry ∈ knownTypes, entry.2 ∈ [ParameterKind.number, .text, .date] := by decide
  cases hbase : knownKind? base with
  | none => exact typeName?_of_unknown hp hdeclared hbase
  | some kind =>
      obtain ⟨entry, hmem, hkind, -⟩ := knownKind?_eq_some_iff.mp hbase
      rw [kind_of_known hp hdeclared hbase, ← hkind] at h
      exact absurd (hplain entry hmem) h

/-- **What a segment declares hangs on its base type and its name alone.** -/
theorem classified_of_declared (registry : Registry) :
    Classified registry base name (Reader.noteType registry p).1 p where
  name_eq := by rw [(ofSegment_eq_ok_iff.mp hp).1, hdeclared]
  number_iff := by
    rw [kind_eq_iff hp hdeclared rfl]
    simp [knownTypes]
  text_iff := by
    rw [kind_eq_iff hp hdeclared rfl]
    simp [knownTypes]
  date_iff := by
    rw [kind_eq_iff hp hdeclared rfl]
    simp [knownTypes]
  lowered_iff _ h _ hmem := eq_lowered_iff h hmem
  known hmem := by
    have hplain : ∀ kind ∈ [ParameterKind.number, .text, .date], kind.typeName? = none := by decide
    rw [Reader.noteType_fst, hplain p.kind hmem, Option.map_none, Option.getD_none]
  enumeration hmem := by
    have htype := typeName?_of_not_plain hp hdeclared hmem
    have hisName : IsName (String.ofList base) :=
      isName_of_not_blank (typeName_not_blank hp htype) (typeName_ne_empty htype)
    exact ⟨htype, noteType_of_typeName htype hisName registry⟩

end Declared

/-- A blank segment declares no type. -/
theorem ofSegment_of_blank {segment : String} (h : ∀ c ∈ segment.toList, isBlank c = true) :
    ofSegment segment = Check.fail .typeNameRequired := by
  have hmarker : afterMarker [] = [] := by decide +kernel
  have hkind : knownKind? [] = none := by decide +kernel
  have hdeclared : declared segment.toList = ([], []) := by
    rw [declared, trim_eq_nil_iff.mpr h, hmarker]
    rfl
  unfold ofSegment
  simp only [hdeclared, hkind]
  rfl

/-- A segment declares a parameter just if it is not blank. -/
theorem declare_singleton (registry : Registry) (segment : String) :
    ((∀ c ∈ segment.toList, isBlank c = true) ∧
      Reader.declare registry [segment] = (registry, [], Check.fail .typeNameRequired)) ∨
    ∃ p events, (∃ c ∈ segment.toList, isBlank c = false) ∧ ofSegment segment = .ok p ∧
      Reader.declare registry [segment] = ((Reader.noteType registry p).1, events, .ok [p]) := by
  by_cases hblank : ∀ c ∈ segment.toList, isBlank c = true
  · refine Or.inl ⟨hblank, ?_⟩
    simp only [Reader.declare, ofSegment_of_blank hblank, Check.fail]
  · obtain ⟨c, hc, hnot⟩ : ∃ c ∈ segment.toList, isBlank c = false := by simpa using hblank
    obtain ⟨p, hp⟩ := ofSegment_ok ⟨c, hc, hnot⟩
    obtain ⟨events, hdeclare⟩ := Reader.declare_eq (.cons hp .nil) registry
    exact Or.inr ⟨p, events, ⟨c, hc, hnot⟩, hp, hdeclare⟩

/-- **How segments are classified.**  A segment that spells a type and a name declares a
parameter, whatever the blanks, the annotation before the type and what stands behind the
name.  A list type counts as its element type and marks the name.  A segment declares
nothing just if it is blank, and then nothing is recorded. -/
theorem segment_classified (registry : Registry) :
    (∀ type name segment, IsWord type → Spells type name segment →
      ∃ noted events p,
        Reader.declare registry [String.ofList segment] = (noted, events, .ok [p]) ∧
        (∀ element, element ≠ [] → type = "List<".toList ++ (element ++ ['>']) →
          Classified registry element (name ++ "List".toList) noted p) ∧
        ((∀ element, element ≠ [] → type ≠ "List<".toList ++ (element ++ ['>'])) →
          Classified registry type name noted p)) ∧
    ∀ segment noted events result,
      Reader.declare registry [segment] = (noted, events, result) →
        ((∃ problems, result = .error problems) ↔ ∀ c ∈ segment.toList, isBlank c = true) ∧
        ((∃ problems, result = .error problems) → noted = registry) := by
  constructor
  · intro type name segment htype hspells
    obtain ⟨others, hwords, rfl⟩ := words_of_spells htype hspells
    rcases declare_singleton registry (String.ofList segment) with
      ⟨hblank, -⟩ | ⟨p, events, -, hp, heq⟩
    · -- the words of a blank segment are none
      rw [String.toList_ofList, ← trim_eq_nil_iff] at hblank
      rw [hblank] at hwords
      cases hwords
    · refine ⟨_, events, p, heq, fun element hne hlist => ?_, fun hlist => ?_⟩
      · have hdeclared := declared_of_list hwords (listElement?_eq_some_iff.mpr ⟨hne, hlist⟩)
        rw [← String.toList_ofList (l := segment)] at hdeclared
        exact classified_of_declared hp hdeclared registry
      · have hnone : listElement? type = none := by
          rw [Option.eq_none_iff_forall_ne_some]
          intro element h
          obtain ⟨hne, htext⟩ := listElement?_eq_some_iff.mp h
          exact hlist element hne htext
        have hdeclared := declared_of_not_list hwords hnone
        rw [← String.toList_ofList (l := segment)] at hdeclared
        exact classified_of_declared hp hdeclared registry
  · intro segment noted events result hdeclare
    rcases declare_singleton registry segment with
      ⟨hblank, heq⟩ | ⟨p, _, ⟨c, hc, hnot⟩, -, heq⟩
    · rw [hdeclare, Prod.mk.injEq, Prod.mk.injEq] at heq
      obtain ⟨rfl, rfl, rfl⟩ := heq
      exact ⟨⟨fun _ => hblank, fun _ => ⟨_, rfl⟩⟩, fun _ => rfl⟩
    · rw [hdeclare, Prod.mk.injEq, Prod.mk.injEq] at heq
      obtain ⟨rfl, rfl, rfl⟩ := heq
      have hok : ¬ ∃ problems, (.ok [p] : Check (List Parameter)) = .error problems := by
        rintro ⟨problems, h⟩
        cases h
      refine ⟨⟨fun h => absurd h hok, fun hblank => ?_⟩, fun h => absurd h hok⟩
      exact absurd (hblank c hc) (by simp [hnot])

/-- An element type behind an annotation, other kinds of blanks, and a word behind the
name. -/
theorem annotated_list_classified :
    let registry : Registry := { enumerations := ["Role"] }
    ∃ noted events p,
      Reader.declare registry ["\t@Delimiter(\";\") List<Animal>\u2003pets final "] =
        (noted, events, .ok [p]) ∧
      p.name = "petsList" ∧ p.kind.typeName? = some "Animal" ∧
      noted = { enumerations := ["Role", "Animal"] } := by
  intro registry
  have hmark : IsAnnotation "@Delimiter(\";\")".toList :=
    ⟨⟨"@Delimiter", by decide +kernel, by decide +kernel⟩, by decide +kernel, by decide +kernel⟩
  have hbehind : NameBehind "pets".toList
      (['\u2003'] ++ ("pets".toList ++ ' ' :: "final ".toList)) :=
    .present (by decide +kernel) (List.cons_ne_nil _ _)
      (List.forall_mem_singleton.mpr (by decide)) (by rintro c ⟨rfl⟩; decide)
  have hspells := @Spells.annotated "List<Animal>".toList "pets".toList ['\t'] _ [] _
    (List.forall_mem_singleton.mpr (by decide)) hmark (by simp) hbehind
  have hsegment : ['\t'] ++ ("@Delimiter(\";\")".toList ++ ' ' :: ([] ++ ("List<Animal>".toList ++
      (['\u2003'] ++ ("pets".toList ++ ' ' :: "final ".toList))))) =
      "\t@Delimiter(\";\") List<Animal>\u2003pets final ".toList := by decide +kernel
  rw [hsegment] at hspells
  obtain ⟨noted, events, p, hdeclare, hlist, -⟩ :=
    (segment_classified registry).1 _ _ _ (by decide +kernel) hspells
  rw [String.ofList_toList] at hdeclare
  have hclassified := hlist "Animal".toList (by decide +kernel) (by decide +kernel)
  have hkind : p.kind ∉ [.number, .text, .date] := by
    intro hmem
    simp only [List.mem_cons, List.not_mem_nil, or_false] at hmem
    rcases hmem with h | h | h
    · exact absurd (hclassified.number_iff.mp h) (by decide +kernel)
    · exact absurd (hclassified.text_iff.mp h) (by decide +kernel)
    · exact absurd (hclassified.date_iff.mp h) (by decide +kernel)
  obtain ⟨htypeName, hnoted⟩ := hclassified.enumeration hkind
  refine ⟨noted, events, p, hdeclare, ?_, ?_, ?_⟩
  · rw [hclassified.name_eq]
    decide +kernel
  · rw [htypeName, String.ofList_toList]
  · rw [hnoted, String.ofList_toList]
    decide +kernel

end Stepbook.Parameter
