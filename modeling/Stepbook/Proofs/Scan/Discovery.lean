import Mathlib.Tactic.Tauto
import Stepbook.Proofs.FileTree
import Stepbook.Proofs.Scan.Files
import Stepbook.Proofs.Text.Order

/-!
# The files that source roots reach

Roots may be given more than once, lie in one another, and be spelled in different
ways.  Every glue code file that some root reaches is listed once: under the first
root that reaches it, in that root's spelling, and within the root in the order of
the names on the way.

## Main definitions

* `FileTree.HoldsGlue` — a place with a glue code file.
* `FileTree.Reaches` — a place below the directory that a root leads to.
* `Scan.Group`, `Scan.Grouping` — the files listed under one root, and under one root
  after the other.

## Main statements

* `FileTree.glueFiles_eq_ok` — the files below one root.
* `Scan.discover_eq_ok` — the files below several roots.
* `Scan.each_file_listed_once` — the files of a scan that gives a report.

## Design notes

The search compares places, the listing shows paths.  A search that goes through has
looked up everything below its root, so each path that it lists leads to a place.
-/

namespace Stepbook

namespace FileTree

variable {t : FileTree} {suffixes : List String} {root : Path}

/-- A glue code file stands at a place: a file whose name ends with one of the
suffixes. -/
def HoldsGlue (t : FileTree) (suffixes : List String) (place : Place) : Prop :=
  (∃ content, t.node? place = some (.file content)) ∧
    ∃ suffix ∈ suffixes, suffix.toList <:+ (place.getLastD "").toList

/-- A root reaches a place: it lies below the directory that the root leads to. -/
def Reaches (t : FileTree) (root : Path) (place : Place) : Prop :=
  ∃ base names, t.locate root = .ok base ∧ names ≠ [] ∧ place = base ++ names

/-! ## One root -/

/-- The files below a directory, by the names on the way to them. -/
theorem WellFormed.mem_filesBelow (ht : t.WellFormed) {base : Place} {names : List String}
    (hbase : t.node? base = some .directory) :
    names ∈ t.filesBelow base ↔
      names ≠ [] ∧ ∃ content, t.node? (base ++ names) = some (.file content) := by
  rw [filesBelow, List.mem_filterMap]
  constructor
  · rintro ⟨⟨place, node⟩, hmem, hnames⟩
    cases node with
    | directory => cases hnames
    | file content =>
        simp only [Option.ite_none_right_eq_some, List.isPrefixOf_iff_prefix, Option.some.injEq]
          at hnames
        obtain ⟨⟨rest, rfl⟩, hdrop⟩ := hnames
        rw [List.drop_left] at hdrop
        obtain rfl := hdrop
        have hnode := (ht.node?_eq_some_iff (ht.parents _ hmem).1).mpr hmem
        refine ⟨?_, content, hnode⟩
        rintro rfl
        rw [List.append_nil, hbase] at hnode
        cases hnode
  · rintro ⟨hne, content, hcontent⟩
    have hplace : base ++ names ≠ [] := List.append_ne_nil_of_right_ne_nil base hne
    refine ⟨_, mem_nodes_of_node? hplace hcontent, ?_⟩
    simp [List.isPrefixOf_iff_prefix]

/-- No file below a directory is found twice. -/
theorem WellFormed.nodup_filesBelow (ht : t.WellFormed) (base : Place) :
    (t.filesBelow base).Nodup := by
  have hplaces : t.nodes.Pairwise fun m n => m.1 ≠ n.1 := List.pairwise_map.mp ht.nodup
  refine hplaces.filterMap _ ?_
  rintro ⟨place, node⟩ ⟨place', node'⟩ hne names hnames names' hnames' rfl
  cases node with
  | directory => cases hnames
  | file content =>
      cases node' with
      | directory => cases hnames'
      | file content' =>
          simp only [Option.ite_none_right_eq_some, List.isPrefixOf_iff_prefix,
            Option.some.injEq] at hnames hnames'
          obtain ⟨⟨rest, rfl⟩, hdrop⟩ := hnames
          obtain ⟨⟨rest', rfl⟩, hdrop'⟩ := hnames'
          rw [List.drop_left] at hdrop hdrop'
          exact hne (by rw [hdrop, hdrop'])

/-- The glue code files below a directory are told by their last names. -/
theorem WellFormed.mem_filter_filesBelow (ht : t.WellFormed) {base : Place} {names : List String}
    (hbase : t.node? base = some .directory) :
    names ∈ (t.filesBelow base).filter (fun names => isGlueFile suffixes (names.getLastD "")) ↔
      names ≠ [] ∧ t.HoldsGlue suffixes (base ++ names) := by
  rw [List.mem_filter, ht.mem_filesBelow hbase, HoldsGlue, isGlueFile, and_assoc]
  refine and_congr_right fun hne => and_congr_right fun _ => ?_
  have hlast : (base ++ names).getLastD "" = names.getLastD "" := by
    simp [List.getLastD_eq_getLast?, List.getLast?_append, List.getLast?_eq_some_getLast hne]
  simp only [hlast, List.any_eq_true, List.isSuffixOf_iff_suffix]

/-- **A search passes a node** whose path is not too long, if it is no directory that is too
deep. -/
theorem obstacleAt?_eq_none_iff {names : List String} {node : Node} :
    t.obstacleAt? root names node = none ↔
      isTooLong (root.join { segments := names }) = false ∧
        (node = .directory → names.length ≤ t.host.searchDepth) := by
  unfold obstacleAt?
  dsimp only
  by_cases hlong : isTooLong (root.join { segments := names }) = true
  · simp [hlong]
  · by_cases hdeep : node = .directory ∧ t.host.searchDepth < names.length
    · simp [hlong, hdeep]
    · have hshallow : node = .directory → names.length ≤ t.host.searchDepth :=
        fun hnode => Nat.not_lt.mp fun hless => hdeep ⟨hnode, hless⟩
      simpa [hlong, hdeep] using hshallow

/-- What stops a search is a path that is too long, or a directory that is too deep. -/
theorem cases_of_obstacle? {base : Place} {failure : ScanFailure}
    (h : t.obstacle? root base = some failure) :
    (∃ p, failure = .inaccessible ⟨.tooLong, p⟩) ∨ failure = .searchTooDeep := by
  obtain ⟨n, -, hn⟩ := List.exists_of_findSome?_eq_some h
  unfold obstacleAt? at hn
  dsimp only at hn
  split at hn
  · exact .inl ⟨_, (Option.some.inj hn).symm⟩
  · obtain ⟨-, hn⟩ := Option.ite_none_right_eq_some.mp hn
    exact .inr (Option.some.inj hn).symm

/-- What a search that goes through comes upon has no path too long. -/
theorem isTooLong_of_obstacle? {base : Place} {names : List String} {node : Node}
    (hclear : t.obstacle? root base = none) (hmem : (base ++ names, node) ∈ t.nodes) :
    isTooLong (root.join { segments := names }) = false := by
  have hbelow : (names, node) ∈ t.nodesBelow base := by
    rw [nodesBelow, List.mem_filterMap]
    exact ⟨_, hmem, by simp [List.isPrefixOf_iff_prefix]⟩
  exact (obstacleAt?_eq_none_iff.mp (List.findSome?_eq_none_iff.mp hclear _ hbelow)).1

/-- **The search below one root** finds the glue code files that the root reaches,
each once, in the order of the names on the way, by paths that lead to them. -/
theorem WellFormed.glueFiles_eq_ok (ht : t.WellFormed) {found : List Path}
    (h : t.glueFiles suffixes root = .ok found) :
    ∃ (base : Place) (ordered : List (List String)), t.locate root = .ok base ∧
      found = ordered.map (fun names => root.join { segments := names }) ∧
      ordered.Pairwise (· < ·) ∧
      (∀ names, names ∈ ordered ↔ names ≠ [] ∧ t.HoldsGlue suffixes (base ++ names)) ∧
      ∀ names ∈ ordered, t.locate (root.join { segments := names }) = .ok (base ++ names) := by
  rw [glueFiles] at h
  cases hroot : t.locate root with
  | error kind =>
      rw [hroot] at h
      cases h
  | ok base =>
      simp only [hroot] at h
      split at h
      · rename_i hbase
        split at h
        · cases h
        · rename_i hclear
          cases h
          have hmem : ∀ names, names ∈ ((t.filesBelow base).filter fun names =>
              isGlueFile suffixes (names.getLastD "")).mergeSort Text.namesLe ↔
              names ≠ [] ∧ t.HoldsGlue suffixes (base ++ names) := by
            intro names
            rw [List.mem_mergeSort, ht.mem_filter_filesBelow hbase]
          refine ⟨base, _, rfl, rfl, ?_, hmem, fun names hnames => ?_⟩
          · exact Text.pairwise_lt_mergeSort ((ht.nodup_filesBelow base).filter _)
          · obtain ⟨hne, ⟨content, hcontent⟩, -⟩ := (hmem names).mp hnames
            have hplace : base ++ names ≠ [] := List.append_ne_nil_of_right_ne_nil base hne
            refine ht.locate_join hroot (by rw [hcontent]; rfl) ?_
            exact isTooLong_of_obstacle? hclear (mem_nodes_of_node? hplace hcontent)
      · cases h

end FileTree

namespace Scan

variable {t : FileTree} {suffixes : List String} {root : Path}

/-! ## Several roots -/

/-- The files listed under a root that comes behind others: in the spelling of the
root, those that no earlier root reaches, in the order of the segments. -/
structure Group (t : FileTree) (earlier : List Path) (root : Path) (group : List Path) : Prop where
  sorted : group.Pairwise fun p q => p.segments < q.segments
  listed : ∀ p ∈ group, ∃ names place, p = root.join { segments := names } ∧
    t.locate p = .ok place ∧ t.Reaches root place ∧ ∀ other ∈ earlier, ¬ t.Reaches other place

/-- The files listed under roots that come behind others, root by root. -/
inductive Grouping (t : FileTree) : List Path → List Path → List (List Path) → Prop
  | nil {earlier : List Path} : Grouping t earlier [] []
  | cons {earlier : List Path} {root : Path} {roots group : List Path} {groups : List (List Path)}
      (hgroup : Group t earlier root group)
      (hgroups : Grouping t (earlier ++ [root]) roots groups) :
      Grouping t earlier (root :: roots) (group :: groups)

/-- The files of a root that lead to no place seen. -/
def fresh (t : FileTree) (seen : List Place) (found : List Path) : List Path :=
  found.filter fun p => (t.locate p).toOption.all (· ∉ seen)

/-- The places that paths lead to. -/
def placesOf (t : FileTree) (paths : List Path) : List Place :=
  paths.filterMap fun p => (t.locate p).toOption

/-- The search of one root more. -/
theorem discover_cons_of_ok {found : List Path} (hfound : t.glueFiles suffixes root = .ok found)
    (seen : List Place) (roots : List Path) :
    discover t suffixes seen (root :: roots) =
      let new := fresh t seen found
      let others := discover t suffixes (seen ++ placesOf t new) roots
      { log := .filesFound new.length root :: others.log
        result := others.result.map (new ++ ·) } := by
  have hfilter : ∀ isNew : Path → Bool,
      (∀ p, isNew p = (t.locate p).toOption.all (· ∉ seen)) →
      found.filter isNew = fresh t seen found :=
    fun isNew h => List.filter_congr fun p _ => h p
  rw [discover, hfound]
  dsimp only
  rw [hfilter _ fun p => by cases t.locate p <;> simp [Except.toOption]]
  rfl

/-- A search of one root more finds that root's files that are new, and behind them
the files of the others that are new then. -/
theorem discover_cons_eq_ok {seen : List Place} {roots paths : List Path}
    (h : (discover t suffixes seen (root :: roots)).result = .ok paths) :
    ∃ found others, t.glueFiles suffixes root = .ok found ∧
      (discover t suffixes (seen ++ placesOf t (fresh t seen found)) roots).result = .ok others ∧
      paths = fresh t seen found ++ others := by
  cases hfound : t.glueFiles suffixes root with
  | error failure =>
      rw [discover, hfound] at h
      cases h
  | ok found =>
      rw [discover_cons_of_ok hfound] at h
      cases hothers : (discover t suffixes (seen ++ placesOf t (fresh t seen found))
          roots).result with
      | error failure => simp [hothers, Except.map] at h
      | ok others =>
          simp only [hothers, Except.map, Except.ok.injEq] at h
          exact ⟨found, others, rfl, hothers, h.symm⟩

/-- The new files of one root, by the names on the way to them: these are the glue code
files below the root that were not seen. -/
theorem fresh_eq_map (ht : t.WellFormed) {found : List Path}
    (hfound : t.glueFiles suffixes root = .ok found) (seen : List Place) :
    ∃ (base : Place) (new : List (List String)), t.locate root = .ok base ∧
      fresh t seen found = new.map (fun names => root.join { segments := names }) ∧
      new.Pairwise (· < ·) ∧
      (∀ names, names ∈ new ↔
        names ≠ [] ∧ t.HoldsGlue suffixes (base ++ names) ∧ base ++ names ∉ seen) ∧
      ∀ names ∈ new, t.locate (root.join { segments := names }) = .ok (base ++ names) := by
  obtain ⟨base, ordered, hroot, rfl, hsorted, hmem, hplace⟩ := ht.glueFiles_eq_ok hfound
  have hfresh : fresh t seen (ordered.map fun names => root.join { segments := names }) =
      (ordered.filter (base ++ · ∉ seen)).map fun names => root.join { segments := names } := by
    rw [fresh, List.filter_map]
    refine congrArg _ (List.filter_congr fun names hnames => ?_)
    simp [hplace names hnames, Except.toOption]
  refine ⟨base, _, hroot, hfresh, hsorted.filter _, fun names => ?_, fun names hnames => ?_⟩
  · rw [List.mem_filter, hmem, and_assoc, decide_eq_true_iff]
  · exact hplace names (List.mem_of_mem_filter hnames)

/-- What happens while roots are searched is of the middle level. -/
theorem level_of_mem_discover {seen : List Place} {roots : List Path} {e : Event}
    (h : e ∈ (discover t suffixes seen roots).log) : e.level = .info := by
  induction roots generalizing seen with
  | nil => cases h
  | cons root roots ih =>
      cases hfound : t.glueFiles suffixes root with
      | error failure =>
          rw [discover, hfound] at h
          cases h
      | ok found =>
          rw [discover_cons_of_ok hfound] at h
          rcases List.mem_cons.mp h with rfl | hrest
          · rfl
          · exact ih hrest

/-- **The new files of one root** form a group, and lead to the glue code files that
the root reaches and that were not seen, each once. -/
theorem fresh_spec (ht : t.WellFormed) {found : List Path}
    (hfound : t.glueFiles suffixes root = .ok found) (seen : List Place) :
    (fresh t seen found).map t.locate = (placesOf t (fresh t seen found)).map .ok ∧
      (placesOf t (fresh t seen found)).Nodup ∧
      (∀ place, place ∈ placesOf t (fresh t seen found) ↔
        t.HoldsGlue suffixes place ∧ t.Reaches root place ∧ place ∉ seen) ∧
      (fresh t seen found).Pairwise (fun p q => p.segments < q.segments) ∧
      ∀ p ∈ fresh t seen found, ∃ names, ∃ place ∈ placesOf t (fresh t seen found),
        p = root.join { segments := names } ∧ t.locate p = .ok place := by
  obtain ⟨base, new, hroot, hfresh, hsorted, hmem, hplace⟩ := fresh_eq_map ht hfound seen
  have hplaces : placesOf t (fresh t seen found) = new.map (base ++ ·) := by
    rw [hfresh, placesOf, List.filterMap_map, ← List.filterMap_eq_map]
    refine List.filterMap_congr fun names hnames => ?_
    simp [hplace names hnames, Except.toOption]
  rw [hplaces, hfresh]
  refine ⟨?_, ?_, fun place => ?_, ?_, ?_⟩
  · rw [List.map_map, List.map_map]
    exact List.map_congr_left hplace
  · have hnodup : new.Nodup := hsorted.imp fun hlt => ne_of_lt hlt
    exact hnodup.map (List.append_right_injective base)
  · rw [List.mem_map]
    constructor
    · rintro ⟨names, hnames, rfl⟩
      obtain ⟨hne, hglue, hnew⟩ := (hmem names).mp hnames
      exact ⟨hglue, ⟨base, names, hroot, hne, rfl⟩, hnew⟩
    · rintro ⟨hglue, ⟨base', names, hroot', hne, rfl⟩, hnew⟩
      obtain rfl : base' = base := Except.ok.inj (hroot'.symm.trans hroot)
      exact ⟨names, (hmem names).mpr ⟨hne, hglue, hnew⟩, rfl⟩
  · exact List.pairwise_map.mpr (hsorted.imp fun hlt => List.append_left_lt hlt)
  · intro p hp
    obtain ⟨names, hnames, rfl⟩ := List.mem_map.mp hp
    exact ⟨names, base ++ names, List.mem_map_of_mem hnames, rfl, hplace names hnames⟩

theorem placesOf_append (t : FileTree) (before after : List Path) :
    placesOf t (before ++ after) = placesOf t before ++ placesOf t after := List.filterMap_append

/-- **The search of several roots.**  `seen` holds the places of the files that the
earlier roots reach.  The paths that are listed lead to the files that the roots reach
besides, each once, and they are grouped by the roots. -/
theorem discover_eq_ok (ht : t.WellFormed) {seen : List Place} {earlier roots paths : List Path}
    (hseen : ∀ place, place ∈ seen ↔
      t.HoldsGlue suffixes place ∧ ∃ other ∈ earlier, t.Reaches other place)
    (h : (discover t suffixes seen roots).result = .ok paths) :
    paths.map t.locate = (placesOf t paths).map .ok ∧ (placesOf t paths).Nodup ∧
      (∀ place, place ∈ placesOf t paths ↔
        t.HoldsGlue suffixes place ∧ (∃ root ∈ roots, t.Reaches root place) ∧ place ∉ seen) ∧
      ∃ groups, paths = groups.flatten ∧ Grouping t earlier roots groups ∧
        (discover t suffixes seen roots).log =
          List.zipWith (fun group root => .filesFound group.length root) groups roots := by
  induction roots generalizing seen earlier paths with
  | nil =>
      cases h
      refine ⟨rfl, List.nodup_nil, ?_, [], rfl, .nil, rfl⟩
      simp [placesOf]
  | cons root roots ih =>
      obtain ⟨found, others, hfound, hothers, rfl⟩ := discover_cons_eq_ok h
      obtain ⟨hmap, hnodup, hmem, hsorted, hlisted⟩ := fresh_spec ht hfound seen
      -- what is seen then is what the earlier roots and this one reach
      have hseen' : ∀ place, place ∈ seen ++ placesOf t (fresh t seen found) ↔
          t.HoldsGlue suffixes place ∧ ∃ other ∈ earlier ++ [root], t.Reaches other place := by
        intro place
        rw [List.mem_append, hmem]
        simp only [List.mem_append, List.mem_singleton, or_and_right, exists_or, exists_eq_left,
          and_or_left, ← hseen place]
        tauto
      obtain ⟨hmap', hnodup', hmem', groups, rfl, hgroups, hlog⟩ := ih hseen' hothers
      refine ⟨?_, ?_, ?_, fresh t seen found :: groups, rfl, .cons ⟨hsorted, ?_⟩ hgroups, ?_⟩
      · rw [placesOf_append, List.map_append, List.map_append, hmap, hmap']
      · rw [placesOf_append, List.nodup_append']
        refine ⟨hnodup, hnodup', fun place hplace hplace' => ?_⟩
        exact ((hmem' place).mp hplace').2.2 (List.mem_append_right _ hplace)
      · intro place
        rw [placesOf_append, List.mem_append, hmem, hmem', List.mem_append, hmem,
          List.exists_mem_cons_iff]
        tauto
      · intro p hp
        obtain ⟨names, place, hplace, hjoin, hleads⟩ := hlisted p hp
        obtain ⟨hglue, hreaches, hnew⟩ := (hmem place).mp hplace
        refine ⟨names, place, hjoin, hleads, hreaches, fun other hother hreached => ?_⟩
        exact hnew ((hseen place).mpr ⟨hglue, other, hother, hreached⟩)
      · rw [discover_cons_of_ok hfound, List.zipWith_cons_cons, ← hlog]

/-- The search of several roots when no file has been seen. -/
theorem discover_eq_ok_of_start (ht : t.WellFormed) {roots paths : List Path}
    (h : (discover t suffixes [] roots).result = .ok paths) :
    paths.map t.locate = (placesOf t paths).map .ok ∧ (placesOf t paths).Nodup ∧
      (∀ place, place ∈ placesOf t paths ↔
        t.HoldsGlue suffixes place ∧ ∃ root ∈ roots, t.Reaches root place) ∧
      ∃ groups, paths = groups.flatten ∧ Grouping t [] roots groups ∧
        (discover t suffixes [] roots).log =
          List.zipWith (fun group root => .filesFound group.length root) groups roots := by
  have hseen : ∀ place, place ∈ ([] : List Place) ↔
      t.HoldsGlue suffixes place ∧ ∃ other ∈ ([] : List Path), t.Reaches other place := by simp
  obtain ⟨hmap, hnodup, hmem, hgroups⟩ := discover_eq_ok ht hseen h
  exact ⟨hmap, hnodup, fun place => by simpa using hmem place, hgroups⟩

/-- The events of the middle level are those of the search and the end. -/
theorem filter_level_directories {policy : ScanPolicy} {encoding : String} {reader : Reader}
    {roots : List Path} {report : Report}
    (h : (directories t suffixes policy encoding reader roots).result = .ok report) :
    let final := directories t suffixes policy encoding reader roots
    final.log.filter (fun e => e.level = .info) =
      (discover t suffixes [] roots).log ++
        [.finished final.reader.steps.length final.reader.registry.enumerations.length] := by
  obtain ⟨-, -, hdirectories⟩ := directories_eq_ok h
  have hadded : (addRoots reader roots).2.filter (fun e => e.level = .info) = [] := by
    refine filter_level_eq_nil fun e he => ?_
    rw [level_of_mem_addRoots he]
    decide
  have hfound : (discover t suffixes [] roots).log.filter (fun e => e.level = .info) =
      (discover t suffixes [] roots).log := by
    rw [List.filter_eq_self]
    intro e he
    exact decide_eq_true (level_of_mem_discover he)
  have hread : (files t policy encoding (addRoots reader roots).1 report.files).log.filter
      (fun e => e.level = .info) = [] := by
    refine filter_level_eq_nil fun e he => ?_
    rcases level_of_mem_files he with hlevel | hlevel
    · rw [hlevel]
      decide
    · rw [hlevel]
      decide
  rw [hdirectories]
  simp only [List.filter_append, hadded, hfound, hread, List.nil_append, List.append_nil]
  rfl

/-- **Every matching file is listed once.**  In a scan of several roots that gives a
report, the files of the report lead to the glue code files that some root reaches,
and no two of them to the same one.  They are grouped by the roots: each stands under
the first root that reaches it, in the spelling of that root, and the groups are in
ascending order.  The events of the middle level are the sizes of the groups, root by
root, and the end of the scan. -/
theorem each_file_listed_once (ht : t.WellFormed) {policy : ScanPolicy} {encoding : String}
    {reader : Reader} {roots : List Path} {report : Report}
    (h : (directories t suffixes policy encoding reader roots).result = .ok report) :
    ∃ (places : List Place) (groups : List (List Path)),
      report.files.map t.locate = places.map .ok ∧ places.Nodup ∧
      (∀ place, place ∈ places ↔
        t.HoldsGlue suffixes place ∧ ∃ root ∈ roots, t.Reaches root place) ∧
      report.files = groups.flatten ∧ Grouping t [] roots groups ∧
      (let final := directories t suffixes policy encoding reader roots
       final.log.filter (fun e => e.level = .info) =
        List.zipWith (fun group root => .filesFound group.length root) groups roots ++
          [.finished final.reader.steps.length final.reader.registry.enumerations.length]) := by
  obtain ⟨hdiscover, -, -⟩ := directories_eq_ok h
  obtain ⟨hmap, hnodup, hmem, groups, hflatten, hgroups, hlog⟩ :=
    discover_eq_ok_of_start ht hdiscover
  refine ⟨placesOf t report.files, groups, hmap, hnodup, hmem, hflatten, hgroups, ?_⟩
  rw [← hlog]
  exact filter_level_directories h

/-- Three roots in one another, the first of them reached again by the second and the
second spelled in another way by the third. -/
theorem nested_roots_listed_once :
    let t : FileTree :=
      { nodes := [(["g"], .directory),
          (["g", "a.java"], .file "@Given(\"^a$\")\nvoid a()".toUTF8.toList),
          (["g", "sub"], .directory),
          (["g", "sub", "b.java"], .file "@Given(\"^b$\")\nvoid b()".toUTF8.toList),
          (["g", "sub", "notes.txt"], .file [])] }
    let roots : List Path :=
      [{ segments := ["g", "sub"] }, { segments := ["g"] }, { segments := ["g", "sub", ".."] }]
    let report : Report :=
      { files := [{ segments := ["g", "sub", "b.java"] }, { segments := ["g", "a.java"] }]
        lines := 4 }
    t.WellFormed ∧ (directories t [".java"] .strict "utf-8" {} roots).result = .ok report ∧
      ∃ groups, report.files = groups.flatten ∧ Grouping t [] roots groups ∧
        (let final := directories t [".java"] .strict "utf-8" {} roots
         final.log.filter (fun e => e.level = .info) =
          List.zipWith (fun group root => .filesFound group.length root) groups roots ++
            [.finished final.reader.steps.length final.reader.registry.enumerations.length]) := by
  intro t roots report
  have ht : t.WellFormed := by decide +kernel
  have hsub : t.glueFiles [".java"] { segments := ["g", "sub"] } = _ :=
    glueFiles_of_sorted ["g", "sub"] [["b.java"]]
      (by decide +kernel) (by decide +kernel) (by decide +kernel) (by decide +kernel)
      (by decide +kernel)
  have hroot : t.glueFiles [".java"] { segments := ["g"] } = _ :=
    glueFiles_of_sorted ["g"] [["a.java"], ["sub", "b.java"]]
      (by decide +kernel) (by decide +kernel) (by decide +kernel) (by decide +kernel)
      (by decide +kernel)
  have hagain : t.glueFiles [".java"] { segments := ["g", "sub", ".."] } = _ :=
    glueFiles_of_sorted ["g"] [["a.java"], ["sub", "b.java"]]
      (by decide +kernel) (by decide +kernel) (by decide +kernel) (by decide +kernel)
      (by decide +kernel)
  have hfound : (discover t [".java"] [] roots).result = .ok report.files := by
    simp only [roots, discover, hsub, hroot, hagain]
    decide +kernel
  have hreport : (directories t [".java"] .strict "utf-8" {} roots).result = .ok report := by
    rw [directories_result_of_ok hfound]
    decide +kernel
  obtain ⟨places, groups, -, -, -, hgroups⟩ := each_file_listed_once ht hreport
  exact ⟨ht, hreport, groups, hgroups⟩

end Scan

end Stepbook
