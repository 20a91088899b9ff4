import Mathlib.Logic.Relation
import Stepbook.Proofs.FileTree

/-!
# Changes of a file tree

A change by path puts one node into the tree: a new node comes into a directory that
is there, under a name that can be followed down to it, and a file takes the place of
a file only.  So writing a file and making directories keep a tree well-formed.

## Main definitions

* `FileTree.Sound` — a well-formed tree with its working directory.
* `FileTree.Room` — a place that a node can be put at.
* `FileTree.Vacant` — the place of a new node under a path that leads nowhere.
* `FileTree.Makes` — a tree with one more directory.

## Main statements

* `FileTree.write_eq_ok`, `FileTree.makeDirectory_eq_ok` — the node that a change puts.
* `FileTree.reaches_of_makeDirectories` — directories are made one after the other.
* `FileTree.Sound.put` — a node put where there is room.
* `FileTree.Sound.write`, `FileTree.Sound.makeDirectories` — the changes by path.

## Design notes

Following a path does not ask whether something stands where it starts.  Without a
working directory the empty path would lead to a place that nothing lies above.
-/

namespace Stepbook.FileTree

/-- A well-formed tree whose working directory is one of its directories. -/
structure Sound (t : FileTree) : Prop extends WellFormed t where
  workingDirectory : t.node? t.workingDirectory = some .directory

/-- A place that a node can be put at: it lies in a directory, its names are names of
entries, and a directory is not replaced by a file. -/
structure Room (t : FileTree) (place : Place) (node : Node) : Prop where
  ne_nil : place ≠ []
  parent : t.node? place.dropLast = some .directory
  names : ∀ name ∈ place, IsEntryName name
  keeps : t.node? place = some .directory → node = .directory

variable {t t' : FileTree} {p : Path} {place : Place} {node : Node}

/-! ## Putting a node -/

/-- Putting a node changes what stands at its place. -/
theorem node?_put (hne : place ≠ []) (other : Place) :
    (t.put place node).node? other = if other = place then some node else t.node? other := by
  by_cases hroot : other = []
  · rw [node?, node?, if_pos hroot, if_pos hroot, if_neg (by rw [hroot]; exact hne.symm)]
  · rw [node?, node?, if_neg hroot, if_neg hroot, put, List.find?_append]
    split
    · rename_i hplace
      have hgone : (t.nodes.filter fun n => n.1 != place).find? (fun n => n.1 == other) = none := by
        simp [List.find?_eq_none, hplace]
      rw [hgone]
      simp [hplace]
    · rename_i hplace
      have hkept : (t.nodes.filter fun n => n.1 != place).find? (fun n => n.1 == other) =
          t.nodes.find? fun n => n.1 == other := by
        rw [List.find?_filter]
        refine congrArg (List.find? · t.nodes) (funext fun n => ?_)
        by_cases hn : n.1 = other
        · simp [hn, hplace]
        · simp [hn]
      rw [hkept, List.find?_cons_of_neg (by simpa using Ne.symm hplace), List.find?_nil,
        Option.or_none]

/-! ## Changes by path -/

/-- A name that leads to nothing from a directory can be that of an entry. -/
theorem follow_singleton_eq_notFound {above : Place} {name : String}
    (habove : t.node? above = some .directory)
    (h : t.follow above [name] = .error .notFound) :
    name ≠ ".." ∧ name.utf8ByteSize ≤ longestName ∧ t.node? (above ++ [name]) = none := by
  simp only [follow, habove] at h
  split at h
  · cases h
  · rename_i hname
    split at h
    · cases h
    · rename_i hsize
      split at h
      · cases h
      · rename_i hentry
        exact ⟨hname, Nat.le_of_not_lt hsize, by simpa using hentry⟩

/-- The place of a new node under a path that leads nowhere.  Nothing stands there, and
its last name can be followed down to it from the directory above. -/
structure Vacant (t : FileTree) (p : Path) (above : Place) (name : String) : Prop where
  segments : p.segments = p.parent.segments ++ [name]
  noNull : p.hasNull = false
  short : isTooLong p = false
  locate : t.locate p.parent = .ok above
  directory : t.node? above = some .directory
  ne_parent : name ≠ ".."
  size_le : name.utf8ByteSize ≤ longestName
  node? : t.node? (above ++ [name]) = none

/-- The free place for a path that leads nowhere is vacant. -/
theorem vacant_of_freePlace (hnowhere : t.locate p = .error .notFound)
    (h : t.freePlace p = .ok place) :
    ∃ above name, place = above ++ [name] ∧ t.Vacant p above name := by
  rw [freePlace] at h
  split at h
  · cases h
  · cases h
  · rename_i name _ hlast
    have hsegments : p.segments = p.parent.segments ++ [name] :=
      (List.dropLast_append_getLast? name hlast).symm
    split at h
    · cases h
    · rename_i above habove
      split at h
      · rename_i hdirectory
        cases h
        obtain ⟨-, -, hfollow⟩ := locate_eq_ok_iff.mp habove
        obtain ⟨hnull, hshort, hnotFound⟩ := locate_eq_notFound_iff.mp hnowhere
        have hstart : t.start p.parent = t.start p := rfl
        rw [hsegments, follow_append, ← hstart, hfollow] at hnotFound
        obtain ⟨hname, hsize, hnone⟩ := follow_singleton_eq_notFound hdirectory hnotFound
        exact ⟨above, name, rfl, hsegments, hnull, hshort, habove, hdirectory, hname, hsize, hnone⟩
      · cases h

/-- **Writing a file** puts it in the place of what the path leads to, if that is no
directory, or else at the vacant place under the path. -/
theorem write_eq_ok {content : Bytes} (h : t.write p content = .ok t') :
    ∃ place, t' = t.put place (.file content) ∧
      ((t.locate p = .ok place ∧ t.node? place ≠ some .directory) ∨
        ∃ above name, place = above ++ [name] ∧ t.Vacant p above name) := by
  rw [write] at h
  split at h
  · rename_i place hplace
    split at h
    · cases h
    · rename_i hfile
      cases h
      exact ⟨place, rfl, .inl ⟨hplace, hfile⟩⟩
  · rename_i hnowhere
    split at h
    · rename_i place hfree
      cases h
      exact ⟨place, rfl, .inr (vacant_of_freePlace hnowhere hfree)⟩
    · cases h
  · cases h

/-- **Making a directory** puts it at the vacant place under the path. -/
theorem makeDirectory_eq_ok (h : t.makeDirectory p = .ok t') :
    ∃ above name, t' = t.put (above ++ [name]) .directory ∧ t.Vacant p above name := by
  rw [makeDirectory] at h
  split at h
  · cases h
  · rename_i hnowhere
    split at h
    · rename_i place hfree
      cases h
      obtain ⟨above, name, rfl, hvacant⟩ := vacant_of_freePlace hnowhere hfree
      exact ⟨above, name, rfl, hvacant⟩
    · cases h
  · cases h

/-- A tree with one more directory. -/
def Makes (t t' : FileTree) : Prop := ∃ p, t.makeDirectory p = .ok t'

theorem reaches_of_ensureDirectory (h : t.ensureDirectory p = .ok t') :
    Relation.ReflTransGen Makes t t' := by
  rw [ensureDirectory] at h
  split at h
  · rename_i made hmade
    cases h
    exact .single ⟨p, hmade⟩
  · split at h
    · cases h
      exact .refl
    · cases h

theorem reaches_of_makeDirectoriesUpTo {depth : Nat}
    (h : t.makeDirectoriesUpTo p depth = .ok t') : Relation.ReflTransGen Makes t t' := by
  induction depth generalizing p t' with
  | zero => exact reaches_of_ensureDirectory h
  | succ depth ih =>
      rw [makeDirectoriesUpTo] at h
      split at h
      · rename_i made hmade
        cases h
        exact reaches_of_ensureDirectory hmade
      · split at h
        · split at h
          · rename_i above habove
            exact (ih habove).trans (reaches_of_ensureDirectory h)
          · cases h
        · cases h

/-- **Directories are made one after the other.** -/
theorem reaches_of_makeDirectories (h : t.makeDirectories p = .ok t') :
    Relation.ReflTransGen Makes t t' :=
  reaches_of_makeDirectoriesUpTo h

/-! ## Well-formed trees -/

namespace WellFormed

/-- A node put where there is room keeps the tree well-formed. -/
theorem put (ht : t.WellFormed) (h : t.Room place node) : (t.put place node).WellFormed where
  nodup := by
    rw [FileTree.put, List.map_append, List.map_singleton, List.nodup_append']
    refine ⟨ht.nodup.sublist (List.filter_sublist.map _), List.nodup_singleton place, ?_⟩
    simp [List.disjoint_singleton]
  names := by
    intro n hn
    rcases List.mem_append.mp hn with hn | hn
    · exact ht.names n (List.mem_of_mem_filter hn)
    · rw [List.mem_singleton.mp hn]
      exact h.names
  parents := by
    intro n hn
    rcases List.mem_append.mp hn with hn | hn
    · obtain ⟨hne, hparent⟩ := ht.parents n (List.mem_of_mem_filter hn)
      refine ⟨hne, ?_⟩
      rw [node?_put h.ne_nil]
      split
      · rename_i hplace
        rw [h.keeps (hplace ▸ hparent)]
      · exact hparent
    · rw [List.mem_singleton.mp hn]
      refine ⟨h.ne_nil, ?_⟩
      have hlength : place.dropLast ≠ place := by
        intro heq
        have hlt := List.length_pos_iff.mpr h.ne_nil
        have hlen := congrArg List.length heq
        rw [List.length_dropLast] at hlen
        omega
      rw [node?_put h.ne_nil, if_neg hlength]
      exact h.parent

/-- Following segments from a place that holds something leads to such a place. -/
theorem isSome_of_follow (ht : t.WellFormed) {segments : List String} {reached : Place}
    (hplace : (t.node? place).isSome) (h : t.follow place segments = .ok reached) :
    (t.node? reached).isSome := by
  induction segments generalizing place with
  | nil =>
      cases h
      exact hplace
  | cons s rest ih =>
      obtain ⟨node, hnode⟩ := Option.isSome_iff_exists.mp hplace
      rw [follow, hnode] at h
      cases node with
      | file content => cases h
      | directory =>
          dsimp only at h
          split at h
          · refine ih ?_ h
            by_cases hroot : place = []
            · rw [hroot]
              rfl
            · rw [(ht.parents _ (mem_nodes_of_node? hroot hnode)).2]
              rfl
          · split at h
            · cases h
            · split at h
              · rename_i hentry
                exact ih hentry h
              · cases h

end WellFormed

namespace Sound

/-- A node put where there is room keeps the tree sound. -/
theorem put (ht : t.Sound) (h : t.Room place node) : (t.put place node).Sound where
  toWellFormed := ht.toWellFormed.put h
  workingDirectory := by
    change (t.put place node).node? t.workingDirectory = _
    rw [node?_put h.ne_nil]
    split
    · rename_i hplace
      rw [h.keeps (hplace ▸ ht.workingDirectory)]
    · exact ht.workingDirectory

/-- A path that leads somewhere leads to something. -/
theorem isSome_of_locate (ht : t.Sound) (h : t.locate p = .ok place) :
    (t.node? place).isSome := by
  obtain ⟨-, -, hfollow⟩ := locate_eq_ok_iff.mp h
  refine ht.isSome_of_follow ?_ hfollow
  rw [start]
  split
  · rw [ht.workingDirectory]
    rfl
  · rfl

/-- A file that a path leads to has room for another one. -/
theorem room_of_locate (ht : t.Sound) (h : t.locate p = .ok place)
    (hfile : t.node? place ≠ some .directory) : t.Room place node := by
  obtain ⟨old, hold⟩ := Option.isSome_iff_exists.mp (ht.isSome_of_locate h)
  have hne : place ≠ [] := by
    rintro rfl
    exact hfile rfl
  have hmem := mem_nodes_of_node? hne hold
  exact ⟨hne, (ht.parents _ hmem).2, ht.names _ hmem, fun hdirectory => absurd hdirectory hfile⟩

/-- There is room at a vacant place. -/
theorem room_of_vacant (ht : t.Sound) {above : Place} {name : String}
    (h : t.Vacant p above name) (node : Node) : t.Room (above ++ [name]) node := by
  refine ⟨by simp, by rw [List.dropLast_concat, h.directory], fun other hother => ?_, ?_⟩
  · rcases List.mem_append.mp hother with hother | hother
    · have habove : (t.node? ([] ++ above)).isSome := by
        rw [List.nil_append, h.directory]
        rfl
      exact ht.isEntryName habove hother
    · rw [List.mem_singleton.mp hother]
      refine ⟨h.ne_parent, h.size_le, fun hmem => ?_⟩
      have hnull := h.noNull
      rw [Path.hasNull, List.any_eq_false] at hnull
      exact hnull name (by simp [h.segments]) (by simpa using hmem)
  · rw [h.node?]
    rintro ⟨⟩

/-- **Writing a file keeps the tree sound.** -/
theorem write (ht : t.Sound) {content : Bytes} (h : t.write p content = .ok t') : t'.Sound := by
  obtain ⟨place, rfl, ⟨hplace, hfile⟩ | ⟨above, name, rfl, hvacant⟩⟩ := write_eq_ok h
  · exact ht.put (ht.room_of_locate hplace hfile)
  · exact ht.put (ht.room_of_vacant hvacant _)

/-- **Making a directory and those above it keeps the tree sound.** -/
theorem makeDirectories (ht : t.Sound) (h : t.makeDirectories p = .ok t') : t'.Sound := by
  have hreaches := reaches_of_makeDirectories h
  clear h
  induction hreaches with
  | refl => exact ht
  | tail _ hmakes ih =>
      obtain ⟨q, hmake⟩ := hmakes
      obtain ⟨above, name, rfl, hvacant⟩ := makeDirectory_eq_ok hmake
      exact ih.put (ih.room_of_vacant hvacant _)

end Sound

end Stepbook.FileTree
