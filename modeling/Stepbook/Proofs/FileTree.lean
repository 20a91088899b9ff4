import Mathlib.Data.List.Induction
import Mathlib.Data.List.Nodup
import Stepbook.FileTree

/-!
# Well-formed file trees

In a file tree each place stands once, and everything but the root lies in a
directory.  Following names down from a directory then leads to the place that they
spell, so that a path that goes on from another one leads on from where that one
leads to.

## Main definitions

* `FileTree.IsEntryName` — a name that can be followed down to an entry.
* `FileTree.WellFormed` — a tree as file systems have it.

## Main statements

* `FileTree.WellFormed.node?_eq_some_iff` — a place holds what the list of nodes says.
* `FileTree.WellFormed.follow_eq` — names followed down from a directory.
* `FileTree.kind_of_locate` — a path that leads nowhere.
* `FileTree.WellFormed.locate_join` — a path that goes on from another one.

## Design notes

A path that goes on may become too long to be looked up.  There is no other way in
which it can fail to lead to what stands there.
-/

namespace Stepbook.FileTree

/-- A name that can be followed down to an entry of a directory. -/
structure IsEntryName (name : String) : Prop where
  ne_parent : name ≠ ".."
  size_le : name.utf8ByteSize ≤ longestName
  not_null : '\x00' ∉ name.toList

instance (name : String) : Decidable (IsEntryName name) :=
  decidable_of_iff (name ≠ ".." ∧ name.utf8ByteSize ≤ longestName ∧ '\x00' ∉ name.toList)
    ⟨fun ⟨hne, hsize, hnull⟩ => ⟨hne, hsize, hnull⟩, fun ⟨hne, hsize, hnull⟩ => ⟨hne, hsize, hnull⟩⟩

/-- A tree as file systems have it: each place stands once, its names are names of
entries, and it lies in a directory. -/
structure WellFormed (t : FileTree) : Prop where
  nodup : (t.nodes.map Prod.fst).Nodup
  names : ∀ n ∈ t.nodes, ∀ name ∈ n.1, IsEntryName name
  parents : ∀ n ∈ t.nodes, n.1 ≠ [] ∧ t.node? n.1.dropLast = some .directory

instance (t : FileTree) : Decidable t.WellFormed :=
  decidable_of_iff ((t.nodes.map Prod.fst).Nodup ∧ (∀ n ∈ t.nodes, ∀ name ∈ n.1, IsEntryName name) ∧
      ∀ n ∈ t.nodes, n.1 ≠ [] ∧ t.node? n.1.dropLast = some .directory)
    ⟨fun ⟨hnodup, hnames, hparents⟩ => ⟨hnodup, hnames, hparents⟩,
      fun ⟨hnodup, hnames, hparents⟩ => ⟨hnodup, hnames, hparents⟩⟩

variable {t : FileTree}

/-! ## Nodes -/

/-- What stands at a place other than the root is in the list of nodes. -/
theorem mem_nodes_of_node? {place : Place} {node : Node} (hne : place ≠ [])
    (h : t.node? place = some node) : (place, node) ∈ t.nodes := by
  rw [node?, if_neg hne, Option.map_eq_some_iff] at h
  obtain ⟨n, hfind, rfl⟩ := h
  have hplace : n.1 = place := by simpa using List.find?_some hfind
  have hmem := List.mem_of_find?_eq_some hfind
  rwa [← hplace]

namespace WellFormed

/-- **A place holds what the list of nodes says.** -/
theorem node?_eq_some_iff (ht : t.WellFormed) {place : Place} {node : Node} (hne : place ≠ []) :
    t.node? place = some node ↔ (place, node) ∈ t.nodes := by
  refine ⟨mem_nodes_of_node? hne, fun hmem => ?_⟩
  have hsome : (t.nodes.find? fun n => n.1 == place).isSome := by
    rw [List.find?_isSome]
    exact ⟨_, hmem, by simp⟩
  obtain ⟨n, hfind⟩ := Option.isSome_iff_exists.mp hsome
  have hplace : n.1 = place := by simpa using List.find?_some hfind
  have hn : n = (place, node) :=
    List.inj_on_of_nodup_map ht.nodup (List.mem_of_find?_eq_some hfind) hmem hplace
  rw [node?, if_neg hne, hfind, hn]
  rfl

/-- Everything above a place that holds something is a directory. -/
theorem node?_of_append (ht : t.WellFormed) {place : Place} {names : List String}
    (hne : names ≠ []) (h : (t.node? (place ++ names)).isSome) :
    t.node? place = some .directory := by
  induction names using List.reverseRecOn with
  | nil => exact absurd rfl hne
  | append_singleton names name ih =>
      obtain ⟨node, hnode⟩ := Option.isSome_iff_exists.mp h
      rw [← List.append_assoc] at hnode
      have hparent := (ht.parents _ (mem_nodes_of_node? (by simp) hnode)).2
      rw [List.dropLast_concat] at hparent
      by_cases hnames : names = []
      · rwa [hnames, List.append_nil] at hparent
      · exact ih hnames (by rw [hparent]; rfl)

/-- The names on the way to something are names of entries. -/
theorem isEntryName (ht : t.WellFormed) {place : Place} {names : List String} {name : String}
    (h : (t.node? (place ++ names)).isSome) (hname : name ∈ names) : IsEntryName name := by
  obtain ⟨node, hnode⟩ := Option.isSome_iff_exists.mp h
  have hmem : name ∈ place ++ names := List.mem_append_right place hname
  exact ht.names _ (mem_nodes_of_node? (List.ne_nil_of_mem hmem) hnode) name hmem

/-! ## Following names -/

/-- **Names that are followed down from a place** lead to the place that they spell,
if there is anything. -/
theorem follow_eq (ht : t.WellFormed) {place : Place} {names : List String}
    (h : (t.node? (place ++ names)).isSome) : t.follow place names = .ok (place ++ names) := by
  induction names generalizing place with
  | nil => rw [follow, List.append_nil]
  | cons name names ih =>
      have hname := ht.isEntryName h List.mem_cons_self
      rw [follow, ht.node?_of_append (List.cons_ne_nil name names) h]
      rw [List.append_cons place name names] at h ⊢
      have hentry : (t.node? (place ++ [name])).isSome := by
        by_cases hnames : names = []
        · rwa [hnames, List.append_nil] at h
        · rw [ht.node?_of_append hnames h]
          rfl
      simp only [if_neg hname.ne_parent, if_neg (Nat.not_lt.mpr hname.size_le), if_pos hentry]
      exact ih h

end WellFormed

/-- Following names and then others. -/
theorem follow_append (t : FileTree) (place : Place) (before after : List String) :
    t.follow place (before ++ after) =
      (t.follow place before).bind fun reached => t.follow reached after := by
  induction before generalizing place with
  | nil => rfl
  | cons name before ih =>
      rw [List.cons_append, follow, follow]
      cases t.node? place with
      | none => rfl
      | some node =>
          cases node with
          | file content => rfl
          | directory =>
              dsimp only
              split
              · exact ih _
              · split
                · rfl
                · split
                  · exact ih _
                  · rfl

/-- Names lead nowhere because there is nothing, or because one of them is too long. -/
theorem kind_of_follow {place : Place} {names : List String} {kind : FileError.Kind}
    (h : t.follow place names = .error kind) : kind.meansAbsent = true ∨ kind = .tooLong := by
  induction names generalizing place with
  | nil => cases h
  | cons name names ih =>
      rw [follow] at h
      split at h
      · cases h
        exact Or.inl rfl
      · cases h
        exact Or.inl rfl
      · split at h
        · exact ih h
        · split at h
          · cases h
            exact Or.inr rfl
          · split at h
            · exact ih h
            · cases h
              exact Or.inl rfl

/-! ## Following paths -/

theorem locate_eq_ok_iff {p : Path} {place : Place} :
    t.locate p = .ok place ↔
      p.hasNull = false ∧ isTooLong p = false ∧ t.follow (t.start p) p.segments = .ok place := by
  rw [locate]
  cases p.hasNull <;> cases isTooLong p <;> simp

theorem locate_eq_notFound_iff {p : Path} :
    t.locate p = .error .notFound ↔
      p.hasNull = false ∧ isTooLong p = false ∧
        t.follow (t.start p) p.segments = .error .notFound := by
  rw [locate]
  cases p.hasNull <;> cases isTooLong p <;> simp

/-- A path leads nowhere because there is nothing, or because it is too long. -/
theorem kind_of_locate {p : Path} {kind : FileError.Kind} (h : t.locate p = .error kind) :
    kind.meansAbsent = true ∨ kind = .tooLong := by
  rw [locate] at h
  split at h
  · cases h
    exact Or.inl rfl
  · split at h
    · cases h
      exact Or.inr rfl
    · exact kind_of_follow h

/-- **A path that goes on from another one** leads on from where that one leads to,
unless it is too long. -/
theorem WellFormed.locate_join (ht : t.WellFormed) {root : Path} {base : Place}
    {names : List String} (hroot : t.locate root = .ok base)
    (h : (t.node? (base ++ names)).isSome)
    (hshort : isTooLong (root.join { segments := names }) = false) :
    t.locate (root.join { segments := names }) = .ok (base ++ names) := by
  obtain ⟨hnull, -, hbase⟩ := locate_eq_ok_iff.mp hroot
  have hnames : names.any (fun name => name.toList.contains '\x00') = false := by
    rw [List.any_eq_false]
    intro name hname
    simpa using (ht.isEntryName h hname).not_null
  have hjoin : root.join { segments := names } =
      { root with segments := root.segments ++ names } := rfl
  have hstart : t.start (root.join { segments := names }) = t.start root := rfl
  refine locate_eq_ok_iff.mpr ⟨?_, hshort, ?_⟩
  · rw [hjoin, Path.hasNull, List.any_append, hnames, Bool.or_false]
    exact hnull
  · rw [hstart, hjoin, follow_append, hbase]
    exact ht.follow_eq h

end Stepbook.FileTree
