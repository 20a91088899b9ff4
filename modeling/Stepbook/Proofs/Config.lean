import Stepbook.Config
import Stepbook.Proofs.FileTree
import Stepbook.Proofs.Toml.Limits

/-!
# Configuration files that cannot be used

A mistake in a configuration is told to the user: a text that is not well formed, or
entries that describe no configuration.  Some files cannot be used for other reasons,
which no message is written for.  Their path leads to no file but to something else, or
their bytes are no text, or reading the text gets to a value beyond a limit.

## Main definitions

* `Config.Unreported` — the files that cannot be used for other reasons.
* `Config.Moderate` — a file that is not there, or a text that keeps to the limits.

## Main statements

* `Config.ofBytes_eq_unreported_iff` — the bytes that no message is written for.
* `Config.load_eq_unreported_iff` — the files that no message is written for.
* `Config.not_unreported_of_moderate` — files that are loaded, or told to have a mistake.
-/

namespace Stepbook.Config

variable {t : FileTree} {path : Path} {bytes : Bytes} {failure : ConfigFailure}
variable {limits : Toml.Limits}

/-- The bytes of a configuration that no message is written for: they are no text, or
reading the text gets to a whole number with too many digits, or to a value that has not
the room that it wants. -/
inductive UnreportedBytes (limits : Toml.Limits) (bytes : Bytes) : ConfigFailure → Prop
  | notText {e : DecodeError} (htext : Encoding.utf8.decode bytes = .error e) :
      UnreportedBytes limits bytes (.notText e)
  | tooManyDigits {text rest : List Char} {room count : Nat}
      (htext : Encoding.utf8.decode bytes = .ok text)
      (hreaches : Toml.Reaches limits text room rest) (hroom : limits.least rest ≤ room)
      (hoversize : Toml.Oversize rest count) : UnreportedBytes limits bytes (.tooManyDigits count)
  | tooDeep {text rest : List Char} {room : Nat} (htext : Encoding.utf8.decode bytes = .ok text)
      (hreaches : Toml.Reaches limits text room rest) (hroom : room < limits.least rest) :
      UnreportedBytes limits bytes .tooDeep

/-- The configuration files that no message is written for: the path is too long to be
looked up, or leads to a directory, or the bytes of the file are of that kind. -/
inductive Unreported (t : FileTree) (path : Path) : ConfigFailure → Prop
  | tooLong (hlong : t.locate path = .error .tooLong) :
      Unreported t path (.unreadable ⟨.tooLong, path⟩)
  | directory (hdirectory : t.isDirectory path = true) :
      Unreported t path (.unreadable ⟨.isDirectory, path⟩)
  | bytes {bytes : Bytes} {failure : ConfigFailure} (hread : t.read path = .ok bytes)
      (hbytes : UnreportedBytes t.host.toml bytes failure) : Unreported t path failure

/-- **The bytes that no message is written for** are exactly these. -/
theorem ofBytes_eq_unreported_iff :
    ofBytes limits bytes = .error failure ∧ failure.isMistake = false ↔
      UnreportedBytes limits bytes failure := by
  constructor
  · rintro ⟨h, hunreported⟩
    rw [ofBytes] at h
    split at h
    · rename_i e htext
      cases h
      exact .notText htext
    · rename_i text htext
      split at h
      · rename_i count left hparse
        cases h
        obtain ⟨room, rest, hreaches, hstops⟩ :=
          (Toml.parse_eq_size_error_iff rfl).mp ⟨left, hparse⟩
        cases hstops with
        | tooManyDigits hroom hoversize => exact .tooManyDigits htext hreaches hroom hoversize
      · rename_i left hparse
        cases h
        obtain ⟨room, rest, hreaches, hstops⟩ :=
          (Toml.parse_eq_size_error_iff rfl).mp ⟨left, hparse⟩
        cases hstops with
        | tooDeep hroom => exact .tooDeep htext hreaches hroom
      · cases h
        cases hunreported
      · rename_i entries hparse
        cases hentries : ofEntries entries with
        | ok config =>
            rw [hentries] at h
            cases h
        | error problems =>
            rw [hentries] at h
            cases h
            cases hunreported
  · intro h
    cases h with
    | notText htext => exact ⟨by rw [ofBytes, htext], rfl⟩
    | tooManyDigits htext hreaches hroom hoversize =>
        obtain ⟨left, hparse⟩ := (Toml.parse_eq_size_error_iff rfl).mpr
          ⟨_, _, hreaches, .tooManyDigits hroom hoversize⟩
        exact ⟨by simp only [ofBytes, htext, hparse], rfl⟩
    | tooDeep htext hreaches hroom =>
        obtain ⟨left, hparse⟩ := (Toml.parse_eq_size_error_iff rfl).mpr
          ⟨_, _, hreaches, .tooDeep hroom⟩
        exact ⟨by simp only [ofBytes, htext, hparse], rfl⟩

/-! ## Files -/

/-- The configuration in a file whose bytes are there. -/
theorem load_of_read (hread : t.read path = .ok bytes) : load t path = ofBytes t.host.toml bytes := by
  have hfound : ∃ node, t.lookUp path = .ok (some node) := by
    cases hplace : t.locate path with
    | error kind => simp [FileTree.read, hplace] at hread
    | ok place =>
        cases hnode : t.node? place with
        | none => simp [FileTree.read, hplace, hnode] at hread
        | some node => exact ⟨node, by simp only [FileTree.lookUp, hplace, hnode]⟩
  obtain ⟨node, hnode⟩ := hfound
  simp only [load, hnode, hread]

/-- The configuration where nothing stands. -/
theorem load_of_absent (h : t.lookUp path = .ok none) : load t path = .ok {} := by
  simp only [load, h]

/-- A configuration file that is a directory. -/
theorem load_of_isDirectory (h : t.isDirectory path = true) :
    load t path = .error (.unreadable ⟨.isDirectory, path⟩) := by
  cases hplace : t.locate path with
  | error kind => simp [FileTree.isDirectory, FileTree.find?, hplace, Except.toOption] at h
  | ok place =>
      have hnode : t.node? place = some .directory := by
        simpa [FileTree.isDirectory, FileTree.find?, hplace, Except.toOption] using h
      simp only [load, FileTree.lookUp, FileTree.read, hplace, hnode]

/-- What a path leads to: nothing that can be told, nothing, a directory or a file. -/
theorem cases_of_path (t : FileTree) (path : Path) :
    t.locate path = .error .tooLong ∨ t.lookUp path = .ok none ∨ t.isDirectory path = true ∨
      ∃ bytes, t.read path = .ok bytes := by
  cases hplace : t.locate path with
  | error kind =>
      rcases FileTree.kind_of_locate hplace with habsent | rfl
      · exact .inr (.inl (by simp only [FileTree.lookUp, hplace, if_pos habsent]))
      · exact .inl rfl
  | ok place =>
      right
      cases hnode : t.node? place with
      | none => exact .inl (by simp only [FileTree.lookUp, hplace, hnode])
      | some node =>
          right
          cases node with
          | directory =>
              left
              simp [FileTree.isDirectory, FileTree.find?, hplace, Except.toOption, hnode]
          | file content => exact .inr ⟨content, by simp only [FileTree.read, hplace, hnode]⟩

/-- **The configuration files that no message is written for** are exactly these. -/
theorem load_eq_unreported_iff :
    load t path = .error failure ∧ failure.isMistake = false ↔ Unreported t path failure := by
  constructor
  · rintro ⟨h, hunreported⟩
    rcases cases_of_path t path with hlong | habsent | hdirectory | ⟨bytes, hread⟩
    · simp only [load, FileTree.lookUp, hlong] at h
      cases h
      exact .tooLong hlong
    · rw [load_of_absent habsent] at h
      cases h
    · rw [load_of_isDirectory hdirectory] at h
      cases h
      exact .directory hdirectory
    · rw [load_of_read hread] at h
      exact .bytes hread (ofBytes_eq_unreported_iff.mp ⟨h, hunreported⟩)
  · intro h
    cases h with
    | tooLong hlong =>
        refine ⟨?_, rfl⟩
        simp only [load, FileTree.lookUp, hlong]
        rfl
    | directory hdirectory => exact ⟨load_of_isDirectory hdirectory, rfl⟩
    | bytes hread hbytes =>
        rw [load_of_read hread]
        exact ofBytes_eq_unreported_iff.mpr hbytes

/-- A configuration file that is not there, or a text that keeps to the limits: it has no
more digits in all than a whole number may have, and every end of it would have the room
that a value there wants, even if all brackets before it were still open. -/
inductive Moderate (t : FileTree) (path : Path) : Prop
  | absent (habsent : t.lookUp path = .ok none)
  | text {bytes : Bytes} {text : List Char} (hread : t.read path = .ok bytes)
      (htext : Encoding.utf8.decode bytes = .ok text)
      (hdigits : text.countP Char.isDigit ≤ Toml.mostDigits)
      (hroom : ∀ before rest, Toml.uniform text = before ++ rest →
        Toml.roomFor before + t.host.toml.least rest ≤ t.host.toml.room)

/-- **A moderate configuration is loaded**, or told to have a mistake. -/
theorem not_unreported_of_moderate (h : Moderate t path) : ¬ Unreported t path failure := by
  rw [← load_eq_unreported_iff]
  rintro ⟨hload, hunreported⟩
  cases h with
  | absent habsent =>
      rw [load_of_absent habsent] at hload
      cases hload
  | text hread htext hdigits hroom =>
      rw [load_of_read hread] at hload
      cases ofBytes_eq_unreported_iff.mp ⟨hload, hunreported⟩ with
      | notText hnone => cases htext.symm.trans hnone
      | tooManyDigits hsame hreaches _ hoversize =>
          obtain rfl := Except.ok.inj (htext.symm.trans hsame)
          obtain ⟨before, hsplit, -⟩ := Toml.exists_of_reaches hreaches
          obtain ⟨hmany, hle⟩ := hoversize.count_le
          have hend := (List.sublist_append_right before _).trans
            (hsplit ▸ Toml.uniform_sublist _)
          exact absurd hmany (Nat.not_lt.mpr ((hle.trans hend.countP_le).trans hdigits))
      | tooDeep hsame hreaches hless =>
          obtain rfl := Except.ok.inj (htext.symm.trans hsame)
          obtain ⟨before, hsplit, hkept⟩ := Toml.exists_of_reaches hreaches
          have hwanted := hroom before _ hsplit
          omega

end Stepbook.Config
