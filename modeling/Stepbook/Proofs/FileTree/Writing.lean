import Stepbook.Proofs.FileTree.Changes

/-!
# What a change leaves

Making directories leaves every file as it is, and writing one file changes no other.
The path that a file has been written to leads to that file afterwards.

## Main definitions

* `FileTree.LeftAt` — a place that a change leaves as it is.
* `FileTree.Grown` — a tree that new directories have come into.
* `FileTree.Written` — a tree that a file has been written in.

## Main statements

* `FileTree.follow_put` — a path that leads somewhere still leads there.
* `FileTree.grown_of_makeDirectories` — what making directories leaves.
* `FileTree.Grown.written` — what writing a file leaves, behind directories made for it.
* `FileTree.Written.read` — reading what has been written.

## Design notes

Nothing here asks for a well-formed tree: following a path only ever looks at what
stands at the places on its way.
-/

namespace Stepbook.FileTree

variable {t t' t'' : FileTree} {p : Path} {place : Place} {node : Node} {content : Bytes}

/-! ## Places that are left as they are -/

/-- A place is left as it is.  Where nothing stood there may be a directory now. -/
def LeftAt (t t' : FileTree) (place : Place) : Prop :=
  t'.node? place = t.node? place ∨ t.node? place = none ∧ t'.node? place = some .directory

theorem LeftAt.refl (t : FileTree) (place : Place) : t.LeftAt t place := .inl rfl

theorem LeftAt.trans (h : t.LeftAt t' place) (h' : t'.LeftAt t'' place) : t.LeftAt t'' place := by
  rcases h with hsame | ⟨hnone, hmade⟩
  · rwa [LeftAt, hsame] at h'
  · rcases h' with hsame' | ⟨hnone', -⟩
    · exact .inr ⟨hnone, hsame'.trans hmade⟩
    · rw [hmade] at hnone'
      cases hnone'

/-- Directories are not lost. -/
theorem LeftAt.directory (h : t.LeftAt t' place) (hdirectory : t.node? place = some .directory) :
    t'.node? place = some .directory := by
  rcases h with hsame | ⟨hnone, -⟩
  · rw [hsame, hdirectory]
  · rw [hdirectory] at hnone
    cases hnone

/-! ## New directories -/

/-- A tree that new directories have come into, and nothing else. -/
structure Grown (t t' : FileTree) : Prop where
  workingDirectory : t'.workingDirectory = t.workingDirectory
  leftAt : ∀ place, t.LeftAt t' place

theorem Grown.refl (t : FileTree) : t.Grown t := ⟨rfl, LeftAt.refl t⟩

theorem Grown.trans (h : t.Grown t') (h' : t'.Grown t'') : t.Grown t'' :=
  ⟨h'.workingDirectory.trans h.workingDirectory,
    fun place => (h.leftAt place).trans (h'.leftAt place)⟩

/-- A new directory at a vacant place. -/
theorem Vacant.grown {above : Place} {name : String} (h : t.Vacant p above name) :
    t.Grown (t.put (above ++ [name]) .directory) where
  workingDirectory := rfl
  leftAt place := by
    rw [LeftAt, node?_put (by simp)]
    split
    · rename_i hplace
      exact .inr ⟨hplace ▸ h.node?, rfl⟩
    · exact .inl rfl

/-- **Making directories** leaves every file as it is. -/
theorem grown_of_makeDirectories (h : t.makeDirectories p = .ok t') : t.Grown t' := by
  have hreaches := reaches_of_makeDirectories h
  clear h
  induction hreaches with
  | refl => exact .refl t
  | tail _ hmakes ih =>
      obtain ⟨q, hmake⟩ := hmakes
      obtain ⟨above, name, rfl, hvacant⟩ := makeDirectory_eq_ok hmake
      exact ih.trans hvacant.grown

/-! ## Paths after a change -/

/-- **A path that leads somewhere still leads there** after a node has been put where
no directory was. -/
theorem follow_put (hplace : t.node? place ≠ some .directory) {base reached : Place}
    {segments : List String} (h : t.follow base segments = .ok reached) :
    (t.put place node).follow base segments = .ok reached := by
  have hne : place ≠ [] := by
    rintro rfl
    exact hplace rfl
  induction segments generalizing base with
  | nil => exact h
  | cons s rest ih =>
      rw [follow] at h ⊢
      cases hbase : t.node? base with
      | none =>
          rw [hbase] at h
          cases h
      | some here =>
          rw [hbase] at h
          cases here with
          | file content => cases h
          | directory =>
              -- the way leads through directories only, and none of them is replaced
              have hother : base ≠ place := by
                rintro rfl
                exact hplace hbase
              have hbase' : (t.put place node).node? base = some .directory := by
                rw [node?_put hne, if_neg hother, hbase]
              rw [hbase']
              dsimp only at h ⊢
              by_cases hup : s = ".."
              · rw [if_pos hup] at h ⊢
                exact ih h
              · rw [if_neg hup] at h ⊢
                by_cases hlong : longestName < s.utf8ByteSize
                · rw [if_pos hlong] at h
                  cases h
                · rw [if_neg hlong] at h ⊢
                  by_cases hentry : (t.node? (base ++ [s])).isSome = true
                  · rw [if_pos hentry] at h
                    have hentry' : ((t.put place node).node? (base ++ [s])).isSome = true := by
                      rw [node?_put hne]
                      split
                      · rfl
                      · exact hentry
                    rw [if_pos hentry']
                    exact ih h
                  · rw [if_neg hentry] at h
                    cases h

/-- A path to something else than a directory leads to what is put there. -/
theorem locate_put (hplace : t.node? place ≠ some .directory) {reached : Place}
    (h : t.locate p = .ok reached) : (t.put place node).locate p = .ok reached := by
  obtain ⟨hnull, hshort, hfollow⟩ := locate_eq_ok_iff.mp h
  exact locate_eq_ok_iff.mpr ⟨hnull, hshort, follow_put hplace hfollow⟩

/-- A path that led nowhere leads to what is put at the vacant place under it. -/
theorem Vacant.locate_put {above : Place} {name : String} (h : t.Vacant p above name) :
    (t.put (above ++ [name]) node).locate p = .ok (above ++ [name]) := by
  have hfree : t.node? (above ++ [name]) ≠ some .directory := by simp [h.node?]
  obtain ⟨-, -, habove⟩ := locate_eq_ok_iff.mp h.locate
  have hdirectory : (t.put (above ++ [name]) node).node? above = some .directory := by
    rw [node?_put (by simp), if_neg (by simp), h.directory]
  have hentry : ((t.put (above ++ [name]) node).node? (above ++ [name])).isSome = true := by
    rw [node?_put (by simp), if_pos rfl]
    rfl
  have hstart : (t.put (above ++ [name]) node).start p = t.start p.parent := rfl
  refine locate_eq_ok_iff.mpr ⟨h.noNull, h.short, ?_⟩
  rw [h.segments, follow_append, hstart, follow_put hfree habove]
  change follow _ above [name] = _
  rw [follow, hdirectory]
  simp only [if_neg h.ne_parent, if_neg (Nat.not_lt.mpr h.size_le), if_pos hentry, follow]

/-! ## Written files -/

/-- A tree that a file has been written in: the path leads to a file with that
content, which took the place of another file or of nothing, and all other places are
left as they were. -/
def Written (t t' : FileTree) (p : Path) (content : Bytes) : Prop :=
  t'.workingDirectory = t.workingDirectory ∧
    ∃ place, t'.locate p = .ok place ∧ t'.node? place = some (.file content) ∧
      t.node? place ≠ some .directory ∧ ∀ other, other ≠ place → t.LeftAt t' other

/-- **Reading what has been written.** -/
theorem Written.read (h : t.Written t' p content) : t'.read p = .ok content := by
  obtain ⟨-, place, hlocate, hnode, -⟩ := h
  simp only [FileTree.read, hlocate, hnode]

/-- **Writing a file** after directories have been made for it changes no other
file. -/
theorem Grown.written (hgrown : t.Grown t') (h : t'.write p content = .ok t'') :
    t.Written t'' p content := by
  obtain ⟨place, rfl, hplace⟩ := write_eq_ok h
  have hfile : t'.node? place ≠ some .directory := by
    rcases hplace with ⟨-, hfile⟩ | ⟨above, name, rfl, hvacant⟩
    · exact hfile
    · simp [hvacant.node?]
  have hne : place ≠ [] := by
    rintro rfl
    exact hfile rfl
  refine ⟨hgrown.workingDirectory, place, ?_, ?_, ?_, ?_⟩
  · rcases hplace with ⟨hlocate, -⟩ | ⟨above, name, rfl, hvacant⟩
    · exact locate_put hfile hlocate
    · exact hvacant.locate_put
  · rw [node?_put hne, if_pos rfl]
  · exact fun hdirectory => hfile ((hgrown.leftAt place).directory hdirectory)
  · intro other hother
    refine (hgrown.leftAt other).trans (.inl ?_)
    rw [node?_put hne, if_neg hother]

end Stepbook.FileTree
