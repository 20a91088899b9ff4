import Stepbook.Proofs.Data.Entries
import Stepbook.Proofs.Step.Record

/-!
# Records that are read and written again

A record of a step may have entries that nobody knows, leave out the parameters, and
name no type by an empty entry.  Reading such a record and writing the step tidies it:
all else stays, but for the order of the entries.  What is tidied once stays as it is.

## Main definitions

* `Parameter.tidied`, `Step.tidied` — a record without what does not count.
* `Parameter.ReadFrom` — a parameter with the record that it was read from.
* `Step.rewritten` — the record of the step that a record describes.

## Main statements

* `Parameter.alike_tidied`, `Step.alike_tidied` — the record of what was read.
* `Step.records_read_and_written` — reading and writing undo each other.
-/

namespace Stepbook

open Stepbook.Data (Alike)

namespace Parameter

/-- The record of a parameter without unknown entries and without an empty type entry. -/
def tidied : Data → Data
  | .table entries =>
    .table (Data.withoutNull "enum_type" (Data.restrict ["name", "kind", "enum_type"] entries))
  | d => d

theorem find?_entries_of_unknown {p : Parameter} {key : String}
    (h : key ∉ ["name", "kind", "enum_type"]) : Data.find? p.entries key = none := by
  simp only [List.mem_cons, List.not_mem_nil, or_false, not_or] at h
  obtain ⟨hname, hkind, htype⟩ := h
  cases htypeName : p.kind.typeName? with
  | none => simp [entries, htypeName, Data.find?_cons, Ne.symm hname, Ne.symm hkind]
  | some name =>
      simp [entries, htypeName, Data.find?_cons, Ne.symm hname, Ne.symm hkind, Ne.symm htype]

/-- A parameter with the record that it was read from.  Its type name is the type entry of
the record: just an enumeration has one, and it is not empty. -/
structure ReadFrom (d : Data) (p : Parameter) : Prop where
  ofData : Parameter.ofData d = .ok p
  typeName : p.kind.typeName? = typeEntry? d
  enumeration_iff : p.kind.word = "enum" ↔ ∃ name, p.kind.typeName? = some name ∧ name ≠ ""
  plain : p.kind.word ≠ "enum" → p.kind.typeName? = none

theorem readFrom_of_ofData {d : Data} {p : Parameter} (h : ofData d = .ok p) : ReadFrom d p where
  ofData := h
  typeName := by
    obtain ⟨entries, rfl, -, -, htype⟩ := ofData_eq_ok_iff.mp h
    rcases Check.optional_eq_ok_iff.mp htype with ⟨hnone, htype⟩ | ⟨d, hfind, hcheck⟩
    · simp only [hnone, typeEntry?, htype]
    · rcases Check.textOrNull_eq_ok_iff.mp hcheck with ⟨rfl, htype⟩ | ⟨name, rfl, htype⟩
      · simp only [hfind, typeEntry?, htype]
      · simp only [hfind, typeEntry?, htype]
  enumeration_iff := by
    cases p.kind with
    | enumeration type => exact ⟨fun _ => ⟨type.text, rfl, type.ne_empty⟩, fun _ => rfl⟩
    | _ => simp [ParameterKind.word, ParameterKind.typeName?]
  plain hword := by
    cases hkind : p.kind with
    | enumeration type => exact absurd (congrArg ParameterKind.word hkind) hword
    | _ => rfl

/-- The type entry of a record that is accepted, but for an empty one, is the type name of
the parameter. -/
theorem filter_find?_type {entries : Entries} {typeName : Option String}
    (h : Check.optional entries "enum_type" none Check.textOrNull = .ok typeName) :
    (Data.find? entries "enum_type").filter (fun d => !d.isNull) = typeName.map .text := by
  rcases Check.optional_eq_ok_iff.mp h with ⟨hnone, rfl⟩ | ⟨d, hfind, hcheck⟩
  · rw [hnone]
    rfl
  · rw [hfind]
    rcases Check.textOrNull_eq_ok_iff.mp hcheck with ⟨rfl, rfl⟩ | ⟨name, rfl, rfl⟩
    · rfl
    · rfl

/-- **The record of a parameter that was read** is the tidied record. -/
theorem alike_tidied {d : Data} {p : Parameter} (h : ofData d = .ok p) :
    Alike p.toData (tidied d) := by
  obtain ⟨entries, rfl, hname, hkind, htype⟩ := ofData_eq_ok_iff.mp h
  refine .of_find?_eq fun key => ?_
  rw [Data.find?_withoutNull, Data.find?_restrict, Data.find?_restrict]
  by_cases hknown : key ∈ ["name", "kind", "enum_type"]
  · rw [if_pos hknown]
    simp only [List.mem_cons, List.not_mem_nil, or_false] at hknown
    rcases hknown with rfl | rfl | rfl
    · exact hname.symm
    · exact hkind.symm
    · rw [if_pos rfl, if_pos (by decide), filter_find?_type htype]
      exact p.find?_entries_type
  · have hne : key ≠ "enum_type" := by
      rintro rfl
      exact hknown (by decide)
    rw [if_neg hne, if_neg hknown]
    exact find?_entries_of_unknown hknown

end Parameter

namespace Step

/-- The record of a step without unknown entries, with its parameters tidied, and with an
empty list for parameters that are left out. -/
def tidied : Data → Data
  | .table entries =>
    .table <| Data.withDefault "parameters" (.array []) <|
      Data.mapValue "parameters" (Data.mapItems Parameter.tidied) <|
        Data.restrict ["phrase", "parameters"] entries
  | d => d

/-- The records of the parameters in the record of a step. -/
def parameterRecords : Data → List Data
  | .table entries =>
    match Data.find? entries "parameters" with
    | some (.array items) => items
    | _ => []
  | _ => []

theorem forall₂_parameterRecords {d : Data} {s : Step} (h : ofData d = .ok s) :
    List.Forall₂ Parameter.ReadFrom (parameterRecords d) s.parameters := by
  obtain ⟨entries, rfl, -, hparameters⟩ := ofData_eq_ok_iff.mp h
  rcases Check.optional_eq_ok_iff.mp hparameters with ⟨hnone, hnil⟩ | ⟨d, hfind, hcheck⟩
  · simp only [parameterRecords, hnone, hnil]
    exact .nil
  · obtain ⟨ds, rfl, hitems⟩ := Check.tuple_eq_ok_iff.mp hcheck
    simp only [parameterRecords, hfind]
    exact hitems.imp fun _ _ hd => Parameter.readFrom_of_ofData hd

/-- The record of the step that a record describes. -/
def rewritten (d : Data) : Check Data := (ofData d).map toData

/-- The records of the parameters that were read are the tidied records. -/
theorem alike_tidied_parameters {ds : List Data} {parameters : List Parameter}
    (h : List.Forall₂ (fun d p => Parameter.ofData d = .ok p) ds parameters) :
    Alike (.array (parameters.map Parameter.toData)) (.array (ds.map Parameter.tidied)) := by
  refine .array ?_
  rw [List.forall₂_map_left_iff, List.forall₂_map_right_iff]
  exact h.flip.imp fun _ _ hd => Parameter.alike_tidied hd

/-- **The record of a step that was read** is the tidied record. -/
theorem alike_tidied {d : Data} {s : Step} (h : ofData d = .ok s) :
    Alike s.toData (tidied d) := by
  obtain ⟨entries, rfl, hphrase, hparameters⟩ := ofData_eq_ok_iff.mp h
  refine .table fun key => ?_
  rw [Data.find?_withDefault, Data.find?_mapValue, Data.find?_mapValue, Data.find?_restrict,
    Data.find?_restrict]
  by_cases hkey : key = "parameters"
  · subst hkey
    rw [if_pos rfl, if_pos rfl, if_pos (by decide)]
    refine .some ?_
    rcases Check.optional_eq_ok_iff.mp hparameters with ⟨hnone, hnil⟩ | ⟨d, hfind, hcheck⟩
    · rw [hnone, hnil]
      exact .refl _
    · obtain ⟨ds, rfl, hitems⟩ := Check.tuple_eq_ok_iff.mp hcheck
      rw [hfind]
      exact alike_tidied_parameters hitems
  · rw [if_neg hkey, if_neg hkey]
    by_cases hfirst : key = "phrase"
    · subst hfirst
      rw [if_pos (by decide), hphrase]
      exact .some (.refl _)
    · rw [if_neg (by simp [hkey, hfirst])]
      have hnone : Data.find? [("phrase", .text s.phrase),
          ("parameters", .array (s.parameters.map Parameter.toData))] key = none := by
        simp [Data.find?_cons, Ne.symm hkey, Ne.symm hfirst]
      rw [hnone]
      exact .none

/-- **Reading and writing undo each other.**  The record of a step is read back.  The
parameters of a step that was read come from the records of parameters, in order; just
the enumerations among them carry a type name, and it is never empty.  The record of the
step is the one that was read, tidied: without unknown entries and without empty type
entries, and with an empty list for parameters that are left out.  So writing what was
read once more changes nothing. -/
theorem records_read_and_written :
    (∀ s : Step, ofData s.toData = .ok s) ∧
      (∀ (d : Data) (s : Step), ofData d = .ok s →
        List.Forall₂ Parameter.ReadFrom (parameterRecords d) s.parameters ∧
        Alike s.toData (tidied d)) ∧
      ∀ d : Data, (rewritten d).bind rewritten = rewritten d := by
  refine ⟨ofData_toData, fun d s h => ⟨forall₂_parameterRecords h, alike_tidied h⟩, fun d => ?_⟩
  rw [rewritten]
  cases h : ofData d with
  | error problems => rfl
  | ok s =>
      change (ofData s.toData).map toData = .ok s.toData
      rw [ofData_toData]
      rfl

/-- A record in another order, with unknown entries and an empty type entry. -/
theorem disordered_record_tidied :
    let first : Data := .table [("kind", .text "enum"), ("note", .null),
      ("enum_type", .text "Color"), ("name", .text "c")]
    let second : Data := .table [("enum_type", .null), ("name", .text "n"),
      ("kind", .text "number")]
    let d : Data := .table [("parameters", .array [first, second]), ("line", .integer 3),
      ("phrase", .text "I pick XXXX")]
    let s : Step := ⟨"I pick XXXX",
      [⟨"c", .enumeration ⟨"Color", by decide⟩⟩, ⟨"n", .number⟩]⟩
    ofData d = .ok s ∧ List.Forall₂ Parameter.ReadFrom [first, second] s.parameters ∧
      Alike s.toData (.table
        [("parameters", .array
          [.table [("kind", .text "enum"), ("enum_type", .text "Color"), ("name", .text "c")],
            .table [("name", .text "n"), ("kind", .text "number")]]),
         ("phrase", .text "I pick XXXX")]) := by
  intro first second d s
  have hread : ofData d = .ok s := by decide +kernel
  obtain ⟨hparameters, halike⟩ := records_read_and_written.2.1 d s hread
  exact ⟨hread, hparameters, halike⟩

end Step

end Stepbook
