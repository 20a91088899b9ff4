import Stepbook.Proofs.Data.Check
import Stepbook.Proofs.Data.Json
import Stepbook.Proofs.Reader.Accounting
import Stepbook.Step

/-!
# Records of steps

A record is accepted just if its entries are those of a step, and then it is that
step: the record of a step describes it completely, and checking it gives the step back.
The type names of the parameters are the type entries of the record.

## Main definitions

* `Parameter.typeEntry?`, `Step.typeEntries` — the type entries of a record, as they
  stand in the data.

## Main statements

* `Parameter.ofData_eq_ok_iff`, `Step.ofData_eq_ok_iff` — the records that are accepted.
* `Parameter.ofData_toData`, `Step.ofData_toData` — records read back.
* `Step.typeEntries_toData` — the type entries of a record.
-/

namespace Stepbook

/-! ## Parameters -/

namespace Parameter

/-- The entries of a parameter's record. -/
def entries (p : Parameter) : Entries :=
  [("name", .text p.name), ("kind", .text p.kind.word)] ++
    (p.kind.typeName?.toList.map fun t => ("enum_type", .text t))

theorem toData_eq (p : Parameter) : p.toData = .table p.entries := rfl

/-- The record of a parameter consists of texts. -/
theorem spelled_toData (p : Parameter) : Json.Spelled p.toData := by
  refine .table fun e he => ?_
  rcases List.mem_append.mp he with he | he
  · rcases List.mem_pair.mp he with rfl | rfl
    · exact .text _
    · exact .text _
  · obtain ⟨name, -, rfl⟩ := List.mem_map.mp he
    exact .text _

/-- The type entry in the record of a parameter. -/
def typeEntry? : Data → Option String
  | .table entries =>
    match Data.find? entries "enum_type" with
    | some (.text name) => some name
    | _ => none
  | _ => none

theorem find?_entries_type (p : Parameter) :
    Data.find? p.entries "enum_type" = p.kind.typeName?.map .text := by
  cases p with
  | mk name kind => cases kind <;> rfl

theorem typeEntry?_toData (p : Parameter) : typeEntry? p.toData = p.kind.typeName? := by
  simp only [toData_eq, typeEntry?, find?_entries_type]
  cases p.kind.typeName? <;> rfl

/-- The word for a kind, with the type name that it carries, means that kind. -/
theorem exists_kindWord (kind : ParameterKind) :
    ∃ rule, kindWords.find? (fun w => w.1 == kind.word) = some (kind.word, rule) ∧
      rule kind.typeName? = .ok kind := by
  cases kind with
  | number => exact ⟨_, rfl, rfl⟩
  | text => exact ⟨_, rfl, rfl⟩
  | date => exact ⟨_, rfl, rfl⟩
  | enumeration type =>
      have htype : ParameterKind.enumeration? type.text = .ok (.enumeration type) :=
        dif_neg type.ne_empty
      exact ⟨_, rfl, htype⟩

theorem enumeration?_eq_ok_iff {name : String} {kind : ParameterKind} :
    ParameterKind.enumeration? name = .ok kind ↔
      ∃ type : TypeName, type.text = name ∧ kind = .enumeration type := by
  constructor
  · intro h
    rw [ParameterKind.enumeration?] at h
    split at h
    · cases h
    · cases h
      exact ⟨_, rfl, rfl⟩
  · rintro ⟨type, rfl, rfl⟩
    exact dif_neg type.ne_empty

/-- **The rule of a word** accepts a type entry just if some kind has that word and
carries that name, and then it gives this kind. -/
theorem rule_eq_ok_iff {word w : String} {rule : Option String → Check ParameterKind}
    (hrule : kindWords.find? (fun c => c.1 == word) = some (w, rule))
    {typeName : Option String} {kind : ParameterKind} :
    rule typeName = .ok kind ↔ kind.word = word ∧ kind.typeName? = typeName := by
  constructor
  · intro h
    have hword : w = word := by simpa using List.find?_some hrule
    have hmem := List.mem_of_find?_eq_some hrule
    simp only [kindWords, List.mem_cons, List.not_mem_nil, or_false, Prod.mk.injEq] at hmem
    subst hword
    rcases hmem with ⟨rfl, rfl⟩ | ⟨rfl, rfl⟩ | ⟨rfl, rfl⟩ | ⟨rfl, rfl⟩
    · cases typeName <;> cases h
      exact ⟨rfl, rfl⟩
    · cases typeName <;> cases h
      exact ⟨rfl, rfl⟩
    · cases typeName <;> cases h
      exact ⟨rfl, rfl⟩
    · obtain ⟨type, htype, rfl⟩ := enumeration?_eq_ok_iff.mp h
      cases typeName with
      | none => exact absurd htype type.ne_empty
      | some name => exact ⟨rfl, congrArg some htype⟩
  · rintro ⟨rfl, rfl⟩
    obtain ⟨rule', hrule', hkind⟩ := exists_kindWord kind
    rw [hrule, Option.some.injEq, Prod.mk.injEq] at hrule'
    rw [hrule'.2]
    exact hkind

/-- **The records of parameters.**  A record is accepted just if it has a name, the word
for a kind, and the type entry that this kind carries: a name that is not empty for an
enumeration, and otherwise nothing. -/
theorem ofData_eq_ok_iff {d : Data} {p : Parameter} :
    ofData d = .ok p ↔ ∃ entries, d = .table entries ∧
      Data.find? entries "name" = some (.text p.name) ∧
      Data.find? entries "kind" = some (.text p.kind.word) ∧
      Check.optional entries "enum_type" none Check.textOrNull = .ok p.kind.typeName? := by
  constructor
  · intro h
    obtain ⟨entries, hentries, h⟩ := Check.bind_eq_ok_iff.mp h
    obtain ⟨fields, hfields, h⟩ := Check.bind_eq_ok_iff.mp h
    obtain ⟨kind, hkind, h⟩ := Check.bind_eq_ok_iff.mp h
    obtain ⟨⟨name, rule⟩, typeName, hpair, htype, rfl⟩ := Check.both_eq_ok_iff.mp hfields
    obtain ⟨name', rule', hname, hrule, hsame⟩ := Check.both_eq_ok_iff.mp hpair
    cases hsame
    cases h
    obtain ⟨dname, hfindName, hname⟩ := Check.required_eq_ok_iff.mp hname
    obtain ⟨dkind, hfindKind, hrule⟩ := Check.required_eq_ok_iff.mp hrule
    obtain ⟨word, w, rfl, hfound⟩ := Check.oneOf_eq_ok_iff.mp hrule
    obtain ⟨rfl, rfl⟩ := (rule_eq_ok_iff hfound).mp hkind
    rw [Check.text_eq_ok_iff.mp hname] at hfindName
    exact ⟨entries, Check.record_eq_ok_iff.mp hentries, hfindName, hfindKind, htype⟩
  · rintro ⟨entries, rfl, hname, hkind, htype⟩
    obtain ⟨rule, hfound, hrule⟩ := exists_kindWord p.kind
    have hname' : Check.required entries "name" Check.text = .ok p.name :=
      Check.required_eq_ok_iff.mpr ⟨_, hname, rfl⟩
    have hword : Check.required entries "kind" (Check.oneOf kindWords) = .ok rule :=
      Check.required_eq_ok_iff.mpr ⟨_, hkind, Check.oneOf_eq_ok_iff.mpr ⟨_, _, rfl, hfound⟩⟩
    simp only [ofData, Check.record, bind, Except.bind, hname', hword, htype, Check.both, hrule]
    rfl

/-- **The record of a parameter is read back.** -/
theorem ofData_toData (p : Parameter) : ofData p.toData = .ok p := by
  refine ofData_eq_ok_iff.mpr ⟨p.entries, p.toData_eq, rfl, rfl, ?_⟩
  have hfind := p.find?_entries_type
  cases htype : p.kind.typeName? with
  | none =>
      rw [htype] at hfind
      exact Check.optional_eq_ok_iff.mpr (Or.inl ⟨hfind, rfl⟩)
  | some name =>
      rw [htype] at hfind
      exact Check.optional_eq_ok_iff.mpr (Or.inr ⟨_, hfind, rfl⟩)

end Parameter

/-! ## Steps -/

namespace Step

/-- The record of a step consists of texts. -/
theorem spelled_toData (s : Step) : Json.Spelled s.toData := by
  refine .table fun e he => ?_
  rcases List.mem_pair.mp he with rfl | rfl
  · exact .text _
  · exact Json.spelled_map fun p _ => p.spelled_toData

/-- The type entries of the parameters in the record of a step. -/
def typeEntries : Data → List String
  | .table entries =>
    match Data.find? entries "parameters" with
    | some (.array items) => items.filterMap Parameter.typeEntry?
    | _ => []
  | _ => []

/-- **The type entries of a record** are the type names of the parameters. -/
theorem typeEntries_toData (s : Step) : typeEntries s.toData = s.typeNames := by
  change (s.parameters.map Parameter.toData).filterMap Parameter.typeEntry? = s.typeNames
  rw [List.filterMap_map, typeNames]
  congr 1
  funext p
  exact p.typeEntry?_toData

/-- **The records of steps.**  A record is accepted just if it has a phrase, and a list of
records of parameters or none at all. -/
theorem ofData_eq_ok_iff {d : Data} {s : Step} :
    ofData d = .ok s ↔ ∃ entries, d = .table entries ∧
      Data.find? entries "phrase" = some (.text s.phrase) ∧
      Check.optional entries "parameters" [] (Check.tuple Parameter.ofData) =
        .ok s.parameters := by
  constructor
  · intro h
    obtain ⟨entries, hentries, h⟩ := Check.bind_eq_ok_iff.mp h
    obtain ⟨phrase, parameters, hphrase, hparameters, rfl⟩ := Check.both_eq_ok_iff.mp h
    obtain ⟨dphrase, hfind, hphrase⟩ := Check.required_eq_ok_iff.mp hphrase
    rw [Check.text_eq_ok_iff.mp hphrase] at hfind
    exact ⟨entries, Check.record_eq_ok_iff.mp hentries, hfind, hparameters⟩
  · rintro ⟨entries, rfl, hphrase, hparameters⟩
    have hphrase' : Check.required entries "phrase" Check.text = .ok s.phrase :=
      Check.required_eq_ok_iff.mpr ⟨_, hphrase, rfl⟩
    simp only [ofData, Check.record, bind, Except.bind, hphrase', hparameters, Check.both]

/-- **The record of a step is read back.** -/
theorem ofData_toData (s : Step) : ofData s.toData = .ok s := by
  have hitems : List.Forall₂ (fun d p => Parameter.ofData d = .ok p)
      (s.parameters.map Parameter.toData) s.parameters := by
    rw [List.forall₂_map_left_iff]
    exact List.forall₂_same.mpr fun p _ => p.ofData_toData
  exact ofData_eq_ok_iff.mpr ⟨_, rfl, rfl, Check.optional_eq_ok_iff.mpr
    (Or.inr ⟨_, rfl, Check.tuple_eq_ok_iff.mpr ⟨_, rfl, hitems⟩⟩)⟩

/-- The records of several steps, each read back. -/
theorem forall₂_ofData_map_toData (steps : List Step) :
    List.Forall₂ (fun d s => ofData d = .ok s) (steps.map toData) steps := by
  rw [List.forall₂_map_left_iff]
  exact List.forall₂_same.mpr fun s _ => s.ofData_toData

end Step

end Stepbook
