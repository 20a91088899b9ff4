import Stepbook.Proofs.Scan.SourceFailure

/-!
# Scans that fail without a message

A scan fails with a message where the glue code is to blame: a root that is no
directory, a file that cannot be decoded, a line that a strict scan refuses.  It can
fail in other ways.  The search of a root meets a path that is too long, or directories
that nest too deep.  Or a file has been found, and the host has no codec of the name that
is asked for, or its codec gives up at the file.

## Main definitions

* `FileTree.Stopped` — the search of a root that stops.
* `Scan.FindsGlue` — some root reaches a glue code file.
* `Scan.NoCodec` — a name that the host has no codec of.
* `Scan.GivesUp` — files behind which the codec gives up.
* `Scan.Unreported` — the scans that fail without a message.

## Main statements

* `Scan.glueFiles_eq_unreported_iff` — the search of one root that stops.
* `Scan.ne_nil_iff_findsGlue`, `Scan.exists_read_of_discover` — the files that are found.
* `Scan.readLines_eq_unreported_iff` — a file that is not read for its encoding.
* `Scan.files_eq_unreported_iff` — files that are not read for it.
* `Scan.directories_eq_unreported_iff` — the scans that fail without a message are
  exactly these.
-/

namespace Stepbook

namespace FileTree

variable {t : FileTree} {root : Path}

/-- The search of a root stops: its own path is too long, or it meets something that it
cannot pass. -/
inductive Stopped (t : FileTree) (root : Path) : ScanFailure → Prop
  | root (hlong : t.locate root = .error .tooLong) : Stopped t root (.inaccessible ⟨.tooLong, root⟩)
  | below {base : Place} {failure : ScanFailure} (hroot : t.locate root = .ok base)
      (hdirectory : t.node? base = some .directory)
      (hobstacle : t.obstacle? root base = some failure) : Stopped t root failure

/-- Nothing stops the search of a root: its path is not too long, nor is one below it, and
no directory below it is deeper than the host follows. -/
structure Clear (t : FileTree) (root : Path) : Prop where
  notTooLong : t.locate root ≠ .error .tooLong
  below : ∀ base, t.locate root = .ok base → ∀ n ∈ t.nodesBelow base,
    isTooLong (root.join { segments := n.1 }) = false ∧
      (n.2 = .directory → n.1.length ≤ t.host.searchDepth)

theorem Clear.not_stopped {failure : ScanFailure} (h : t.Clear root) :
    ¬ t.Stopped root failure := by
  intro hstopped
  cases hstopped with
  | root hlong => exact h.notTooLong hlong
  | @below base _ hroot _ hobstacle =>
      have hnone : t.obstacle? root base = none := List.findSome?_eq_none_iff.mpr fun n hn =>
        obstacleAt?_eq_none_iff.mpr (h.below _ hroot n hn)
      rw [hnone] at hobstacle
      cases hobstacle

end FileTree

namespace Scan

variable {t : FileTree} {suffixes : List String} {policy : ScanPolicy} {encoding : String}
variable {r : Reader} {roots paths : List Path} {path : Path} {failure : ScanFailure}

/-! ## Roots -/

/-- **The search of a root fails** without a message if it stops, and for nothing else. -/
theorem glueFiles_eq_unreported_iff {root : Path} :
    t.glueFiles suffixes root = .error failure ∧ failure.concernsGlueCode = false ↔
      t.Stopped root failure := by
  constructor
  · rintro ⟨h, hunreported⟩
    rw [FileTree.glueFiles] at h
    cases hroot : t.locate root with
    | error kind =>
        simp only [hroot, Except.error.injEq] at h
        rcases FileTree.kind_of_locate hroot with habsent | rfl
        · rw [if_pos habsent] at h
          subst h
          cases hunreported
        · exact h ▸ .root hroot
    | ok base =>
        simp only [hroot] at h
        split at h
        · rename_i hbase
          split at h
          · rename_i cause hobstacle
            obtain rfl := Except.error.inj h
            exact .below hroot hbase hobstacle
          · cases h
        · cases h
          cases hunreported
  · intro h
    cases h with
    | root hlong => exact ⟨by simp only [FileTree.glueFiles, hlong]; rfl, rfl⟩
    | below hroot hdirectory hobstacle =>
        refine ⟨by simp only [FileTree.glueFiles, hroot, if_pos hdirectory, hobstacle], ?_⟩
        rcases FileTree.cases_of_obstacle? hobstacle with ⟨p, rfl⟩ | rfl <;> rfl

/-- Some root reaches a glue code file. -/
def FindsGlue (t : FileTree) (suffixes : List String) (roots : List Path) : Prop :=
  ∃ place, t.HoldsGlue suffixes place ∧ ∃ root ∈ roots, t.Reaches root place

section Found

variable (ht : t.WellFormed) (h : (discover t suffixes [] roots).result = .ok paths)

include ht h

/-- Every path that is found leads to a glue code file that some root reaches. -/
theorem exists_place_of_discover (hpath : path ∈ paths) :
    ∃ place, t.locate path = .ok place ∧ t.HoldsGlue suffixes place ∧
      ∃ root ∈ roots, t.Reaches root place := by
  obtain ⟨hmap, -, hmem, -⟩ := discover_eq_ok_of_start ht h
  have hlocated : t.locate path ∈ (placesOf t paths).map .ok := by
    rw [← hmap]
    exact List.mem_map_of_mem hpath
  obtain ⟨place, hplace, hlocate⟩ := List.mem_map.mp hlocated
  exact ⟨place, hlocate.symm, (hmem place).mp hplace⟩

/-- **Every file that is found can be read.** -/
theorem exists_read_of_discover (hpath : path ∈ paths) : ∃ bytes, t.read path = .ok bytes := by
  obtain ⟨place, hlocate, ⟨⟨content, hcontent⟩, -⟩, -⟩ := exists_place_of_discover ht h hpath
  exact ⟨content, by simp only [FileTree.read, hlocate, hcontent]⟩

/-- A file is found if some root reaches one. -/
theorem ne_nil_iff_findsGlue : paths ≠ [] ↔ FindsGlue t suffixes roots := by
  constructor
  · intro hne
    obtain ⟨path, hpath⟩ := List.exists_mem_of_ne_nil paths hne
    obtain ⟨place, -, hplace⟩ := exists_place_of_discover ht h hpath
    exact ⟨place, hplace⟩
  · rintro ⟨place, hplace⟩ rfl
    obtain ⟨-, -, hmem, -⟩ := discover_eq_ok_of_start ht h
    cases (hmem place).mpr hplace

end Found

/-! ## Files -/

/-- The host has no codec of a name.  A null character in the name is told first. -/
inductive NoCodec (t : FileTree) (encoding : String) : ScanFailure → Prop
  | null (hnull : '\x00' ∈ encoding.toList) : NoCodec t encoding .nullInEncoding
  | unknown (hnull : '\x00' ∉ encoding.toList) (hname : t.host.codec? encoding = none) :
      NoCodec t encoding (.unknownEncoding encoding)

/-- The encodings that are written out refuse bytes for being no text only. -/
theorem codec_ne_other (e : Encoding) (bytes : Bytes) (message : String) :
    e.codec bytes ≠ .error (.other message) := by
  unfold Encoding.codec
  cases e.decode bytes <;> simp [Except.mapError]

/-- The codec of a name gives up at some bytes. -/
structure CodecGivesUp (t : FileTree) (encoding : String) (bytes : Bytes) (message : String) :
    Prop where
  null : '\x00' ∉ encoding.toList
  codec : ∃ codec, t.host.codec? encoding = some codec ∧ codec bytes = .error (.other message)

/-- **A file whose bytes are there is not read** without a message if there is no codec, or
the codec gives up, and for nothing else. -/
theorem readLines_eq_unreported_iff {bytes : Bytes} (hread : t.read path = .ok bytes) :
    t.readLines encoding path = .error failure ∧ failure.concernsGlueCode = false ↔
      NoCodec t encoding failure ∨
        ∃ message, failure = .codecGaveUp message ∧ CodecGivesUp t encoding bytes message := by
  constructor
  · rintro ⟨h, hunreported⟩
    rw [FileTree.readLines] at h
    split at h
    · rename_i hnull
      cases h
      exact .inl (.null (by simpa using hnull))
    · rename_i hnull
      have hallowed : '\x00' ∉ encoding.toList := by simpa using hnull
      simp only [hread] at h
      split at h
      · rename_i hname
        cases h
        exact .inl (.unknown hallowed hname)
      · rename_i codec hcodec
        split at h
        · cases h
          cases hunreported
        · rename_i message hmessage
          cases h
          exact .inr ⟨message, rfl, hallowed, codec, hcodec, hmessage⟩
        · cases h
  · rintro (h | ⟨message, rfl, hnull, codec, hcodec, hmessage⟩)
    · cases h with
      | null hnull => exact ⟨by simp [FileTree.readLines, hnull], rfl⟩
      | unknown hnull hname => exact ⟨by simp [FileTree.readLines, hnull, hread, hname], rfl⟩
    · exact ⟨by simp [FileTree.readLines, hnull, hread, hcodec, hmessage], rfl⟩

/-- What is fed is refused for a malformed line only. -/
theorem Fed.exists_malformed {number : Nat} {lines : List String} {f : Feed}
    (h : Fed policy path r number lines f) {refusal : Reader.LineFailure}
    (hfailure : f.failure = some refusal) : ∃ cause, refusal = .malformed cause := by
  induction h with
  | done | ended => cases hfailure
  | accepted _ _ ih => exact ih hfailure
  | passed _ _ _ ih => exact ih hfailure
  | stopped => exact ⟨_, (Option.some.inj hfailure).symm⟩

/-- A scan of a file fails without a message if the file is not read. -/
theorem file_eq_unreported (h : (file t policy encoding r path).result = .error failure)
    (hunreported : failure.concernsGlueCode = false) :
    t.readLines encoding path = .error failure := by
  cases hlines : t.readLines encoding path with
  | error cause =>
      obtain rfl : cause = failure := by simpa only [file, hlines, Except.error.injEq] using h
      rfl
  | ok lines =>
      -- lines that are read are refused for a malformed line, and that has a message
      rw [file_of_readLines hlines] at h
      cases hend : (feed policy path r 1 lines).failure with
      | none =>
          rw [ofLines_of_finished hend] at h
          cases h
      | some refusal =>
          obtain ⟨cause, rfl⟩ := (fed_feed policy path r 1 lines).exists_malformed hend
          rw [ofLines_of_failure hend] at h
          cases h
          cases hunreported

/-- The codec gives up at a file, behind others that are scanned. -/
inductive GivesUp (t : FileTree) (policy : ScanPolicy) (encoding : String) (r : Reader) :
    List Path → String → Prop
  | intro {before after : List Path} {path : Path} {report : Report} {bytes : Bytes}
      {message : String} (hbefore : (files t policy encoding r before).result = .ok report)
      (hread : t.read path = .ok bytes) (hcodec : CodecGivesUp t encoding bytes message) :
      GivesUp t policy encoding r (before ++ path :: after) message

/-- **Files whose bytes are there are not read** without a message if there is one at least
and no codec, or if the codec gives up at one of them. -/
theorem files_eq_unreported_iff (hread : ∀ p ∈ paths, ∃ bytes, t.read p = .ok bytes) :
    (files t policy encoding r paths).result = .error failure ∧
        failure.concernsGlueCode = false ↔
      (paths ≠ [] ∧ NoCodec t encoding failure) ∨
        ∃ message, failure = .codecGaveUp message ∧ GivesUp t policy encoding r paths message := by
  constructor
  · rintro ⟨h, hunreported⟩
    obtain ⟨before, path, after, rfl, ⟨report, hreport⟩, hfailed, -⟩ := files_eq_error h
    obtain ⟨bytes, hbytes⟩ := hread path (List.mem_append_right before List.mem_cons_self)
    have hunread := file_eq_unreported hfailed hunreported
    rcases (readLines_eq_unreported_iff hbytes).mp ⟨hunread, hunreported⟩ with
      hnone | ⟨message, rfl, hcodec⟩
    · exact .inl ⟨by simp, hnone⟩
    · exact .inr ⟨message, rfl, .intro hreport hbytes hcodec⟩
  · rintro (⟨hne, hnone⟩ | ⟨message, rfl, hgivesUp⟩)
    · obtain ⟨first, rest, rfl⟩ := List.exists_cons_of_ne_nil hne
      obtain ⟨bytes, hbytes⟩ := hread first List.mem_cons_self
      -- the first file is not read, and no other one is looked at
      obtain ⟨hlines, hunreported⟩ := (readLines_eq_unreported_iff hbytes).mpr (.inl hnone)
      refine ⟨?_, hunreported⟩
      simp only [files, file, hlines]
    · cases hgivesUp with
      | intro hbefore hbytes hcodec =>
          obtain ⟨hlines, hunreported⟩ :=
            (readLines_eq_unreported_iff hbytes).mpr (.inr ⟨message, rfl, hcodec⟩)
          exact ⟨files_append_eq_error hbefore (by simp only [file, hlines]), hunreported⟩

/-! ## Scans -/

/-- The scans that fail without a message.  The search of a root stops, or all roots are
searched and a file is found, and the host has no codec of the name that is asked for, or
the codec gives up at a file. -/
inductive Unreported (t : FileTree) (suffixes : List String) (policy : ScanPolicy)
    (encoding : String) (r : Reader) (roots : List Path) : ScanFailure → Prop
  | stopped {before : List Path} {root : Path} {after : List Path} {failure : ScanFailure}
      (hroots : roots = before ++ root :: after)
      (hbefore : ∀ other ∈ before, t.Searchable other) (hstopped : t.Stopped root failure) :
      Unreported t suffixes policy encoding r roots failure
  | noCodec {failure : ScanFailure} (hroots : ∀ root ∈ roots, t.Searchable root)
      (hglue : FindsGlue t suffixes roots) (hnone : NoCodec t encoding failure) :
      Unreported t suffixes policy encoding r roots failure
  | givesUp {paths : List Path} {message : String}
      (hfound : (discover t suffixes [] roots).result = .ok paths)
      (hgivesUp : GivesUp t policy encoding r paths message) :
      Unreported t suffixes policy encoding r roots (.codecGaveUp message)

/-- Without roots no scan fails. -/
theorem Unreported.ne_nil (h : Unreported t suffixes policy encoding r roots failure) :
    roots ≠ [] := by
  cases h with
  | stopped hroots _ _ =>
      rw [hroots]
      exact List.append_ne_nil_of_right_ne_nil _ (List.cons_ne_nil _ _)
  | noCodec _ hglue _ =>
      obtain ⟨place, -, root, hroot, -⟩ := hglue
      exact List.ne_nil_of_mem hroot
  | givesUp hfound hgivesUp =>
      rintro rfl
      obtain rfl := Except.ok.inj hfound
      generalize hnil : ([] : List Path) = paths at hgivesUp
      cases hgivesUp with
      | intro => exact absurd hnil (by simp)

/-- **The scans that fail without a message** are exactly these. -/
theorem directories_eq_unreported_iff (ht : t.WellFormed) :
    (directories t suffixes policy encoding r roots).result = .error failure ∧
        failure.concernsGlueCode = false ↔
      Unreported t suffixes policy encoding r roots failure := by
  have hfiles : ∀ {paths}, (discover t suffixes [] roots).result = .ok paths →
      (directories t suffixes policy encoding r roots).result =
        (files t policy encoding r paths).result := fun hfound =>
    (directories_result_of_ok hfound).trans (files_addRoots t policy encoding r roots _).1
  constructor
  · rintro ⟨h, hunreported⟩
    cases hfound : (discover t suffixes [] roots).result with
    | error cause =>
        obtain rfl : cause = failure := by
          simpa only [directories, hfound, Except.error.injEq] using h
        obtain ⟨before, root, after, hroots, hbefore, hroot⟩ := discover_eq_error_iff.mp hfound
        exact .stopped hroots hbefore (glueFiles_eq_unreported_iff.mp ⟨hroot, hunreported⟩)
    | ok paths =>
        rw [hfiles hfound] at h
        rcases (files_eq_unreported_iff fun _ => exists_read_of_discover ht hfound).mp
          ⟨h, hunreported⟩ with ⟨hne, hnone⟩ | ⟨message, rfl, hgivesUp⟩
        · exact .noCodec (exists_discover_iff.mp ⟨paths, hfound⟩)
            ((ne_nil_iff_findsGlue ht hfound).mp hne) hnone
        · exact .givesUp hfound hgivesUp
  · intro h
    cases h with
    | stopped hroots hbefore hstopped =>
        obtain ⟨hroot, hunreported⟩ := glueFiles_eq_unreported_iff.mpr hstopped
        have hfound : (discover t suffixes [] roots).result = .error _ :=
          discover_eq_error_iff.mpr ⟨_, _, _, hroots, hbefore, hroot⟩
        exact ⟨by simp only [directories, hfound], hunreported⟩
    | noCodec hroots hglue hnone =>
        obtain ⟨paths, hfound⟩ : ∃ paths, (discover t suffixes [] roots).result = .ok paths :=
          exists_discover_iff.mpr hroots
        rw [hfiles hfound]
        exact (files_eq_unreported_iff fun _ => exists_read_of_discover ht hfound).mpr
          (.inl ⟨(ne_nil_iff_findsGlue ht hfound).mpr hglue, hnone⟩)
    | givesUp hfound hgivesUp =>
        rw [hfiles hfound]
        exact (files_eq_unreported_iff fun _ => exists_read_of_discover ht hfound).mpr
          (.inr ⟨_, rfl, hgivesUp⟩)

end Scan

end Stepbook
