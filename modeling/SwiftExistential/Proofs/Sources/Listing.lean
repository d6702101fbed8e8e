import Mathlib.Data.List.Nodup
import SwiftExistential.Proofs.FileTree.Canonical
import SwiftExistential.Proofs.FileTree.Reach
import SwiftExistential.Sources

/-!
# The listed sources

What the walk below a directory finds: a file is a source if its name is one and the walk enters all
directories on the way (`IsSourceBelow`, `mem_below_iff`). Each source is found once, so the sorted
list increases strictly (`pairwise_list`), in the order of names below the root and, where names are
plain, in that of paths.

The path of a listed source leads to the file that the walk has found, and no link stands at its end
(`leadsTo_of_mem_list`). Different paths lead to different files (`eq_of_leadsTo`), and on the way
from the root there are only directories that the walk enters (`IsSourceBelow.admits`).

The two walks differ in the directories that they enter (`SourceScope.Enters`). A file is in the
scope of a walk if it ends in `swift` and every directory between the root and the file is one that
the walk enters (`InScope`). A file or a root may be hidden; only the directories in between are
asked for their names. The sources below a directory are exactly these files, in the order of their
paths, and the wider walk finds what the narrow one finds (`list_directory`).
-/

set_option autoImplicit false

namespace SwiftExistential

/-- All names in the tree can only be read as one name. -/
def FileTree.HasPlainNames (tree : FileTree) : Prop :=
  ∀ location ∈ tree.entries.keys, ∀ name ∈ location, FileTree.IsPlain name

instance (part : Text) : Decidable (FileTree.IsPlain part) :=
  inferInstanceAs (Decidable (part ≠ [] ∧ '/' ∉ part ∧ part ≠ ['.'] ∧ part ≠ ['.', '.'] ∧
    ¬ FileTree.byteCount part > FileTree.maxName))

instance (tree : FileTree) : Decidable tree.HasPlainNames :=
  inferInstanceAs (Decidable (∀ location ∈ tree.entries.keys, ∀ name ∈ location,
    FileTree.IsPlain name))

namespace Sources

open FileTree (IsPlain)

variable {tree : FileTree} {scope : SourceScope} {directory : Location} {name : Text}
  {names : List Text} {root : Text} {files : List Text}

/-! ## What is found

Two walks are compared: the function, with a bound on the depth, and the relation, without one. -/

/-- **A source below a directory**, by the names that lead to it: the walk enters what they lead
through, and a file with the name of a source stands at the end. -/
inductive IsSourceBelow (tree : FileTree) (scope : SourceScope) : Location → List Text → Prop
  | file {directory : Location} {name : Text} {bytes : ByteArray} {mode : Nat}
      (hget : tree.get? (directory ++ [name]) = some (.file bytes mode))
      (hname : isSourceName name = true) : IsSourceBelow tree scope directory [name]
  | enter {directory : Location} {name : Text} {names : List Text}
      (hget : tree.get? (directory ++ [name]) = some .directory)
      (hadmits : scope.admits name = true)
      (rest : IsSourceBelow tree scope (directory ++ [name]) names) :
      IsSourceBelow tree scope directory (name :: names)

theorem mem_keys_of_get? {location : Location} {node : Node} (hne : location ≠ [])
    (h : tree.get? location = some node) : location ∈ tree.entries.keys := by
  rw [FileTree.get?, if_neg (by simpa using hne)] at h
  rw [Std.TreeMap.mem_keys, Std.TreeMap.mem_iff_contains, Std.TreeMap.contains_eq_isSome_getElem?,
    h]
  rfl

theorem mem_names {node : Node} (h : tree.get? (directory ++ [name]) = some node) :
    name ∈ tree.names directory := by
  refine List.mem_filterMap.mpr ⟨directory ++ [name], mem_keys_of_get? (by simp) h, ?_⟩
  rw [List.dropLast_concat, if_pos rfl, List.getLast?_concat]

theorem nodup_names : (tree.names directory).Nodup := by
  refine List.pairwise_filterMap.mpr (Std.TreeMap.distinct_keys.imp ?_)
  intro key key' hne name hname name' hname' heq
  have hconcat {key : Location} {name : Text}
      (h : (if key.dropLast = directory then key.getLast? else none) = some name) :
      key = directory ++ [name] := by
    split at h
    · rename_i hdrop
      rw [← hdrop, List.dropLast_append_getLast? name h]
    · cases h
  rw [hconcat hname, hconcat hname', heq] at hne
  exact hne Std.ReflCmp.compare_self

/-- What the walk finds through one name of a directory. -/
def belowName (tree : FileTree) (scope : SourceScope) (n : Nat) (directory : Location) (name : Text) :
    List (List Text) :=
  match tree.get? (directory ++ [name]) with
  | some (.file _ _) => if isSourceName name then [[name]] else []
  | some .directory =>
      if scope.admits name then
        (below tree scope n (directory ++ [name])).map (name :: ·)
      else []
  | _ => []

theorem below_succ (n : Nat) : below tree scope (n + 1) directory =
    (tree.names directory).flatMap (belowName tree scope n directory) := rfl

theorem mem_belowName_iff {n : Nat} :
    names ∈ belowName tree scope n directory name ↔
      (∃ bytes mode, tree.get? (directory ++ [name]) = some (.file bytes mode) ∧
        isSourceName name = true ∧ names = [name]) ∨
      (∃ rest, tree.get? (directory ++ [name]) = some .directory ∧ scope.admits name = true ∧
        rest ∈ below tree scope n (directory ++ [name]) ∧ names = name :: rest) := by
  rw [belowName]
  cases hget : tree.get? (directory ++ [name]) with
  | none => simp
  | some node =>
      cases node with
      | file bytes mode =>
          by_cases hname : isSourceName name = true
          · simp [hname]
          · simp [hname]
      | directory =>
          by_cases hadmits : scope.admits name = true
          · simp [hadmits, eq_comm (a := names)]
          · simp [hadmits]
      | link target => simp
      | device => simp

/-- **What the walk finds**, if it goes deep enough. -/
theorem mem_below_iff {n : Nat} :
    names ∈ below tree scope n directory ↔
      IsSourceBelow tree scope directory names ∧ names.length ≤ n := by
  induction n generalizing directory names with
  | zero =>
      refine ⟨fun h => absurd h List.not_mem_nil, fun ⟨hsource, hlength⟩ => ?_⟩
      cases hsource <;> cases hlength
  | succ n ih =>
      rw [below_succ, List.mem_flatMap]
      constructor
      · rintro ⟨name, -, hfound⟩
        rcases mem_belowName_iff.mp hfound with
          ⟨bytes, mode, hget, hname, rfl⟩ | ⟨rest, hget, hadmits, hrest, rfl⟩
        · exact ⟨.file hget hname, Nat.succ_le_succ (Nat.zero_le n)⟩
        · obtain ⟨hsource, hlength⟩ := ih.mp hrest
          exact ⟨.enter hget hadmits hsource, Nat.succ_le_succ hlength⟩
      · rintro ⟨hsource, hlength⟩
        cases hsource with
        | @file _ name bytes mode hget hname =>
            exact ⟨name, mem_names hget,
              mem_belowName_iff.mpr (.inl ⟨bytes, mode, hget, hname, rfl⟩)⟩
        | @enter _ name rest hget hadmits hsource =>
            exact ⟨name, mem_names hget, mem_belowName_iff.mpr (.inr ⟨rest, hget, hadmits,
              ih.mpr ⟨hsource, Nat.le_of_succ_le_succ hlength⟩, rfl⟩)⟩

/-- **No source is found twice.** -/
theorem nodup_below (n : Nat) : (below tree scope n directory).Nodup := by
  induction n generalizing directory with
  | zero => exact List.nodup_nil
  | succ n ih =>
      rw [below_succ, List.nodup_flatMap]
      refine ⟨fun name _ => ?_, nodup_names.imp fun {name name'} hne => ?_⟩
      · rw [belowName]
        split
        · split
          · exact List.nodup_singleton _
          · exact List.nodup_nil
        · split
          · exact ih.map fun _ _ heq => (List.cons.inj heq).2
          · exact List.nodup_nil
        · exact List.nodup_nil
      · -- what is found through a name begins with it
        have hhead {name : Text} {names : List Text}
            (h : names ∈ belowName tree scope n directory name) : names.head? = some name := by
          rcases mem_belowName_iff.mp h with ⟨_, _, -, -, rfl⟩ | ⟨rest, -, -, -, rfl⟩ <;> rfl
        rintro names hmem hmem'
        exact hne (Option.some.inj ((hhead hmem).symm.trans (hhead hmem')))

/-! ## How deep sources lie

Every location of the tree has an entry, so no source lies deeper than the longest of them, and the
bound of the walk is never reached. -/

/-- A file stands at the end of the names, below the directory. -/
theorem IsSourceBelow.get? (h : IsSourceBelow tree scope directory names) :
    names ≠ [] ∧ ∃ bytes mode, tree.get? (directory ++ names) = some (.file bytes mode) := by
  induction h with
  | file hget hname => exact ⟨List.cons_ne_nil _ _, _, _, hget⟩
  | enter hget hadmits rest ih =>
      obtain ⟨-, bytes, mode, hfile⟩ := ih
      rw [List.append_assoc, List.singleton_append] at hfile
      exact ⟨List.cons_ne_nil _ _, bytes, mode, hfile⟩

theorem IsSourceBelow.mem_keys (h : IsSourceBelow tree scope directory names) :
    directory ++ names ∈ tree.entries.keys := by
  obtain ⟨hne, bytes, mode, hfile⟩ := h.get?
  exact mem_keys_of_get? (by simp [hne]) hfile

theorem IsSourceBelow.isPlain (h : IsSourceBelow tree scope directory names)
    (hplain : tree.HasPlainNames) : ∀ name ∈ names, IsPlain name := fun name hmem =>
  hplain _ h.mem_keys name (List.mem_append_right directory hmem)

theorem IsSourceBelow.length_le_depthBound (h : IsSourceBelow tree scope directory names) :
    names.length ≤ depthBound tree := by
  have hmax (keys : List Location) (n : Nat) : n ≤ keys.foldl (fun n key => max n key.length) n ∧
      ∀ key ∈ keys, key.length ≤ keys.foldl (fun n key => max n key.length) n := by
    induction keys generalizing n with
    | nil => simp
    | cons key keys ih =>
        obtain ⟨hle, hkeys⟩ := ih (max n key.length)
        rw [List.foldl_cons]
        refine ⟨by omega, List.forall_mem_cons.mpr ⟨by omega, hkeys⟩⟩
  have hkey := (hmax tree.entries.keys 0).2 _ h.mem_keys
  rw [List.length_append] at hkey
  rw [depthBound]
  omega

/-- **The sources below a directory** are what the whole walk finds. -/
theorem mem_below_depthBound_iff :
    names ∈ below tree scope (depthBound tree) directory ↔
      IsSourceBelow tree scope directory names := by
  rw [mem_below_iff]
  exact ⟨And.left, fun h => ⟨h, h.length_le_depthBound⟩⟩

/-! ## The order of the list

Paths are ordered by their components. Below one root this is the order of the names, since the
components of the root are the same. -/

/-- Sorted names without repetitions increase strictly. -/
theorem pairwise_sort {found : List (List Text)} (h : found.Nodup) :
    (sort found).Pairwise fun a b => compare a b = .lt := by
  have htrans (a b c : List Text) (hab : (compare a b).isLE = true)
      (hbc : (compare b c).isLE = true) : (compare a c).isLE = true :=
    Std.TransCmp.isLE_trans hab hbc
  have htotal (a b : List Text) : ((compare a b).isLE || (compare b a).isLE) = true := by
    have hswap : compare b a = (compare a b).swap := Std.OrientedCmp.eq_swap
    rw [hswap]
    cases compare a b <;> rfl
  have hsorted := List.pairwise_mergeSort htrans htotal found
  have hnodup : (sort found).Nodup := (List.mergeSort_perm found _).nodup_iff.mpr h
  refine (hsorted.and hnodup).imp fun {a b} ⟨hle, hne⟩ => ?_
  cases hcmp : compare a b with
  | lt => rfl
  | eq => exact absurd (Std.LawfulEqCmp.compare_eq_iff_eq.mp hcmp) hne
  | gt => rw [hcmp] at hle; cases hle

theorem compare_named (a b : Text) :
    compare (Path.Component.named a) (Path.Component.named b) = compare a b :=
  Ordering.then_eq

theorem compare_map_named (names names' : List Text) :
    compare (names.map Path.Component.named) (names'.map Path.Component.named) =
      compare names names' := by
  induction names generalizing names' with
  | nil => cases names' <;> rfl
  | cons name names ih =>
      cases names' with
      | nil => rfl
      | cons name' names' =>
          simp only [List.map_cons, List.compare_cons_cons, compare_named, ih]

theorem compare_append_left (cs as bs : List Path.Component) :
    compare (cs ++ as) (cs ++ bs) = compare as bs := by
  have hself (c : Path.Component) : compare c c = .eq := by
    cases c with
    | named name => exact (compare_named name name).trans Std.ReflCmp.compare_self
    | root => rfl
    | current => rfl
    | parent => rfl
  induction cs with
  | nil => rfl
  | cons c cs ih =>
      simp only [List.cons_append, List.compare_cons_cons, hself, ih, Ordering.eq_then]

/-- **Paths below a root are in the order of their names.** -/
theorem compare_pathOf {names' : List Text} (hnames : ∀ name ∈ names, IsPlain name)
    (hnames' : ∀ name ∈ names', IsPlain name) (root : Text) :
    compare (Path.components (pathOf root names)) (Path.components (pathOf root names')) =
      compare names names' := by
  rw [FileTree.components_pathOf hnames, FileTree.components_pathOf hnames', compare_append_left,
    compare_map_named]

/-- **What a list of sources is**: empty, the root alone if a file is there, or what is found below
the directory there. -/
theorem list_eq_ok (h : list tree scope root = .ok files) :
    files = [] ∨
    (files = [root] ∧
      ∃ location bytes mode, tree.locate false root = .ok ⟨location, some (.file bytes mode)⟩) ∨
    ∃ top, tree.find root = .ok (top, .directory) ∧
      files = (sort (below tree scope (depthBound tree) top)).map (pathOf root) := by
  rw [list] at h
  split at h
  · cases h
  · cases h
  · rename_i location bytes mode hlocate
    cases h
    split
    · exact .inr (.inl ⟨rfl, location, bytes, mode, hlocate⟩)
    · exact .inl rfl
  · split at h
    · cases h
    · rename_i top hfind
      cases h
      exact .inr (.inr ⟨top, hfind, rfl⟩)
    · cases h
      exact .inl rfl

theorem exists_names_of_mem_list (hplain : tree.HasPlainNames)
    (h : list tree scope root = .ok files) {file : Text} (hfile : file ∈ files) :
    ∃ names, (∀ name ∈ names, IsPlain name) ∧ file = pathOf root names := by
  rcases list_eq_ok h with rfl | ⟨rfl, -⟩ | ⟨top, -, rfl⟩
  · cases hfile
  · rw [List.mem_singleton.mp hfile]
    exact ⟨[], by simp, rfl⟩
  · obtain ⟨names, hnames, rfl⟩ := List.mem_map.mp hfile
    exact ⟨names, (mem_below_depthBound_iff.mp (List.mem_mergeSort.mp hnames)).isPlain hplain, rfl⟩

/-- **The listed paths increase strictly.** -/
theorem pairwise_list (hplain : tree.HasPlainNames) (h : list tree scope root = .ok files) :
    files.Pairwise fun a b => compare (Path.components a) (Path.components b) = .lt := by
  rcases list_eq_ok h with rfl | ⟨rfl, -⟩ | ⟨top, -, rfl⟩
  · exact .nil
  · exact List.pairwise_singleton _ _
  · rw [List.pairwise_map]
    have hnames {names : List Text} (hmem : names ∈ sort (below tree scope (depthBound tree) top)) :
        ∀ name ∈ names, IsPlain name :=
      (mem_below_depthBound_iff.mp (List.mem_mergeSort.mp hmem)).isPlain hplain
    refine (pairwise_sort (nodup_below (depthBound tree))).imp_of_mem fun ha hb hlt => ?_
    rw [compare_pathOf (hnames ha) (hnames hb), hlt]

theorem nodup_list (hplain : tree.HasPlainNames) (h : list tree scope root = .ok files) :
    files.Nodup := by
  refine (pairwise_list hplain h).imp fun {a b} hlt heq => ?_
  have hself := compare_append_left (Path.components a) [] []
  rw [← heq, ← List.append_nil (Path.components a), hself] at hlt
  cases hlt

/-! ## From a directory to a source -/

open FileTree (Walks LeadsTo)

variable {location : Location} {file : Text} {node : Node}

/-- A source is reached from the directory over its names, whether links are followed or not. -/
theorem IsSourceBelow.walks (h : IsSourceBelow tree scope directory names)
    (hplain : ∀ name ∈ names, IsPlain name) (follow : Bool) (n : Nat) :
    Walks tree follow n directory names ⟨directory ++ names, tree.get? (directory ++ names)⟩ := by
  induction h with
  | @file directory name bytes mode hget hname =>
      exact .last n directory (hplain name List.mem_cons_self).2.2 (by rw [hget]; trivial)
  | @enter directory name names hget hadmits rest ih =>
      obtain ⟨hname, hnames⟩ := List.forall_mem_cons.mp hplain
      have htail := ih hnames
      rw [List.append_assoc, List.singleton_append] at htail
      exact .enter hname.2.2 hget htail

theorem IsSourceBelow.admits (h : IsSourceBelow tree scope directory names) :
    ∀ name ∈ names.dropLast, scope.admits name = true := by
  induction h with
  | file hget hname => simp
  | @enter directory name names hget hadmits rest ih =>
      rw [List.dropLast_cons_of_ne_nil rest.get?.1]
      exact List.forall_mem_cons.mpr ⟨hadmits, ih⟩

/-- **A path below a root that leads somewhere leads to the source** that the names lead to. -/
theorem leadsTo_pathOf {top : Location} (htop : tree.find root = .ok (top, .directory))
    (h : IsSourceBelow tree scope top names) (hplain : ∀ name ∈ names, IsPlain name)
    (hfind : tree.find (pathOf root names) = .ok (location, node)) :
    location = top ++ names ∧ LeadsTo tree (pathOf root names) location := by
  obtain ⟨hne, bytes, mode, hfile⟩ := h.get?
  obtain ⟨-, -, hroot⟩ := FileTree.locate_eq_ok_iff.mp (FileTree.find_eq_ok_iff.mp htop)
  obtain ⟨hpath, hshort, hwalks⟩ := FileTree.locate_eq_ok_iff.mp (FileTree.find_eq_ok_iff.mp hfind)
  rw [FileTree.isAbsolute_pathOf hplain, FileTree.parts_pathOf hplain hne] at hwalks
  -- a separator at the end of the root means nothing when names come behind it
  have hdirectory : Walks tree true FileTree.maxLinks
      (if Path.isAbsolute root then [] else tree.current) (FileTree.inner root)
      ⟨top, some .directory⟩ := by
    rcases FileTree.parts_eq_inner root with hparts | hparts
    · rwa [hparts] at hroot
    · rw [hparts] at hroot
      exact hroot.of_concat_dot
  obtain ⟨k, hk, hother⟩ := hdirectory.cut hne hwalks
  obtain ⟨rfl, hnode⟩ := FileTree.Place.mk.inj (hk.unique (h.walks hplain true k))
  obtain rfl : node = .file bytes mode := Option.some.inj (hnode.trans hfile)
  refine ⟨rfl, ⟨bytes, mode, hfind⟩, tree.get? (top ++ names),
    FileTree.locate_eq_ok_iff.mpr ⟨hpath, hshort, ?_⟩⟩
  rw [FileTree.isAbsolute_pathOf hplain, FileTree.parts_pathOf hplain hne]
  exact hother hne (h.walks hplain false k)

/-! ## The listed sources -/

/-- **Where a listed source is**: at the root itself, or below the directory there, over names that
the walk admits. -/
inductive IsPlaceOf (tree : FileTree) (scope : SourceScope) (root : Text) : Text → Location → Prop
  | root {location : Location} {bytes : ByteArray} {mode : Nat}
      (hfind : tree.find root = .ok (location, .file bytes mode)) :
      IsPlaceOf tree scope root root location
  | below {top : Location} {names : List Text} (htop : tree.find root = .ok (top, .directory))
      (hsource : IsSourceBelow tree scope top names) :
      IsPlaceOf tree scope root (pathOf root names) (top ++ names)

/-- **A listed path that leads somewhere leads to its source.** -/
theorem leadsTo_of_mem_list (hplain : tree.HasPlainNames) (h : list tree scope root = .ok files)
    (hfile : file ∈ files) (hfind : tree.find file = .ok (location, node)) :
    LeadsTo tree file location ∧ IsPlaceOf tree scope root file location := by
  rcases list_eq_ok h with rfl | ⟨rfl, place, bytes, mode, hlocate⟩ | ⟨top, htop, rfl⟩
  · cases hfile
  · obtain rfl := List.mem_singleton.mp hfile
    -- no link stands at the root, so it is found where it stands
    obtain ⟨hne, hshort, hwalks⟩ := FileTree.locate_eq_ok_iff.mp hlocate
    obtain ⟨-, -, hfollowed⟩ := FileTree.locate_eq_ok_iff.mp (FileTree.find_eq_ok_iff.mp hfind)
    obtain ⟨rfl, hnode⟩ := FileTree.Place.mk.inj
      (hfollowed.unique (hwalks.of_no_link fun target heq => by cases heq))
    obtain rfl := Option.some.inj hnode
    exact ⟨⟨⟨bytes, mode, hfind⟩, _, hlocate⟩, .root hfind⟩
  · obtain ⟨names, hmem, rfl⟩ := List.mem_map.mp hfile
    have hsource := mem_below_depthBound_iff.mp (List.mem_mergeSort.mp hmem)
    obtain ⟨rfl, hleads⟩ := leadsTo_pathOf htop hsource (hsource.isPlain hplain) hfind
    exact ⟨hleads, .below htop hsource⟩

/-- **Different listed paths lead to different files.** -/
theorem eq_of_leadsTo (hplain : tree.HasPlainNames) (h : list tree scope root = .ok files)
    {file' : Text} (hfile : file ∈ files) (hfile' : file' ∈ files)
    (hleads : LeadsTo tree file location) (hleads' : LeadsTo tree file' location) : file = file' := by
  rcases list_eq_ok h with rfl | ⟨rfl, -⟩ | ⟨top, htop, rfl⟩
  · cases hfile
  · rw [List.mem_singleton.mp hfile, List.mem_singleton.mp hfile']
  · obtain ⟨names, hmem, rfl⟩ := List.mem_map.mp hfile
    obtain ⟨names', hmem', rfl⟩ := List.mem_map.mp hfile'
    have hsource := mem_below_depthBound_iff.mp (List.mem_mergeSort.mp hmem)
    have hsource' := mem_below_depthBound_iff.mp (List.mem_mergeSort.mp hmem')
    obtain ⟨bytes, mode, hfind⟩ := hleads.find
    obtain ⟨bytes', mode', hfind'⟩ := hleads'.find
    have hlocation := (leadsTo_pathOf htop hsource (hsource.isPlain hplain) hfind).1
    have hlocation' := (leadsTo_pathOf htop hsource' (hsource'.isPlain hplain) hfind').1
    rw [List.append_cancel_left (hlocation.symm.trans hlocation')]

end Sources

/-! ## Which files are listed

The scope is said with the names between the root and the file, without a walk. -/

/-- **The names of the directories that a walk enters.** -/
def SourceScope.Enters : SourceScope → Text → Prop
  | .withCheckouts, name => name ≠ ".git".toList
  | .projectOnly, name => ¬ ['.'] <+: name ∧ name ≠ "DerivedData".toList

theorem SourceScope.admits_iff {scope : SourceScope} {name : Text} :
    scope.admits name = true ↔ scope.Enters name := by
  cases scope with
  | withCheckouts => exact bne_iff_ne
  | projectOnly =>
      have hhidden : name.head? != some '.' ↔ ¬ ['.'] <+: name := by
        cases name with
        | nil => simp
        | cons c rest =>
            rw [bne_iff_ne, List.head?_cons, List.cons_prefix_cons]
            simp [eq_comm]
      rw [SourceScope.admits, Bool.and_eq_true, hhidden, bne_iff_ne, Enters]

/-- The version history is hidden, so the narrow walk enters no directory that the wide one does
not. -/
theorem SourceScope.Enters.withCheckouts {name : Text} (h : projectOnly.Enters name) :
    SourceScope.withCheckouts.Enters name := by
  rintro rfl
  exact h.1 (List.prefix_append ['.'] "git".toList)

namespace Sources

open FileTree (IsPlain)

variable {tree : FileTree} {scope : SourceScope} {directory top : Location} {name : Text}
  {names : List Text} {root : Text}

/-- What lies between a directory and the end of some names is entered. -/
def OnEnteredWay (tree : FileTree) (scope : SourceScope) (directory : Location) (names : List Text) :
    Prop :=
  ∀ above name rest, names = above ++ name :: rest → rest ≠ [] →
    tree.get? (directory ++ (above ++ [name])) = some .directory ∧ scope.Enters name

/-- **A file in the scope of a walk**, by the names that lead to it from the directory at the root.
-/
structure InScope (tree : FileTree) (scope : SourceScope) (root : Text) (top : Location)
    (names : List Text) : Prop where
  isFile : ∃ bytes mode, tree.get? (top ++ names) = some (.file bytes mode)
  extension : Path.extension? (pathOf root names) = some "swift".toList
  entered : OnEnteredWay tree scope top names

theorem onEnteredWay_singleton : OnEnteredWay tree scope directory [name] := by
  intro above other rest heq hrest
  have hlength := congrArg List.length heq
  simp only [List.length_append, List.length_cons, List.length_nil] at hlength
  exact absurd (List.length_eq_zero_iff.mp (by omega)) hrest

theorem onEnteredWay_cons (hne : names ≠ []) :
    OnEnteredWay tree scope directory (name :: names) ↔
      (tree.get? (directory ++ [name]) = some .directory ∧ scope.Enters name) ∧
        OnEnteredWay tree scope (directory ++ [name]) names := by
  constructor
  · intro h
    refine ⟨h [] name names rfl hne, fun above other rest heq hrest => ?_⟩
    rw [List.append_assoc]
    exact h (name :: above) other rest (by rw [heq]; rfl) hrest
  · rintro ⟨hfirst, h⟩ above other rest heq hrest
    cases above with
    | nil =>
        obtain ⟨rfl, -⟩ := List.cons.inj heq
        exact hfirst
    | cons first above =>
        obtain ⟨rfl, hnames⟩ := List.cons.inj heq
        have hentered := h above other rest hnames hrest
        rwa [List.append_assoc] at hentered

/-- **What the walk reaches**, without the walk. -/
theorem isSourceBelow_iff :
    IsSourceBelow tree scope directory names ↔
      (∃ bytes mode, tree.get? (directory ++ names) = some (.file bytes mode)) ∧
        (∃ name, names.getLast? = some name ∧ isSourceName name = true) ∧
        OnEnteredWay tree scope directory names := by
  constructor
  -- The relation goes down one directory at a time, and so does the list of names.
  · intro h
    induction h with
    | @file directory name bytes mode hget hname =>
        exact ⟨⟨bytes, mode, hget⟩, ⟨name, rfl, hname⟩, onEnteredWay_singleton⟩
    | @enter directory name names hget hadmits rest ih =>
        obtain ⟨hfile, ⟨last, hlast, hname⟩, hentered⟩ := ih
        refine ⟨?_, ⟨last, ?_, hname⟩, (onEnteredWay_cons rest.get?.1).mpr
          ⟨⟨hget, SourceScope.admits_iff.mp hadmits⟩, hentered⟩⟩
        · rwa [List.append_assoc] at hfile
        · rw [List.getLast?_cons, hlast]
          rfl
  · rintro ⟨⟨bytes, mode, hget⟩, ⟨last, hlast, hname⟩, hentered⟩
    induction names generalizing directory with
    | nil => cases hlast
    | cons name names ih =>
        by_cases hne : names = []
        · subst hne
          obtain rfl : name = last := Option.some.inj hlast
          exact .file hget hname
        · obtain ⟨⟨hdirectory, henters⟩, hrest⟩ := (onEnteredWay_cons hne).mp hentered
          refine .enter hdirectory (SourceScope.admits_iff.mpr henters) (ih ?_ hrest ?_)
          · rwa [List.append_assoc]
          · rwa [List.getLast?_cons_of_ne_nil hne] at hlast

theorem extension?_pathOf (hplain : ∀ name ∈ names, IsPlain name)
    (hlast : names.getLast? = some name) :
    Path.extension? (pathOf root names) = (Path.splitName name).2 := by
  obtain ⟨before, rfl⟩ := List.getLast?_eq_some_iff.mp hlast
  rw [Path.extension?, Path.fileName?, FileTree.components_pathOf hplain, List.map_append,
    ← List.append_assoc, List.map_singleton, List.getLast?_concat]
  rfl

/-- **The files in the scope of a walk are what it reaches.** -/
theorem isSourceBelow_iff_inScope (hplain : tree.HasPlainNames)
    (htop : tree.get? top = some .directory) :
    IsSourceBelow tree scope top names ↔ InScope tree scope root top names := by
  have hextension {name : Text} (hfile : ∃ bytes mode, tree.get? (top ++ names) = some (.file bytes mode))
      (hlast : names.getLast? = some name) :
      Path.extension? (pathOf root names) = some "swift".toList ↔ isSourceName name = true := by
    obtain ⟨bytes, mode, hget⟩ := hfile
    have hne : names ≠ [] := by
      rintro rfl
      cases hlast
    have hnames : ∀ other ∈ names, IsPlain other := fun other hmem =>
      hplain _ (mem_keys_of_get? (by simp [hne]) hget) other (List.mem_append_right top hmem)
    rw [extension?_pathOf hnames hlast, isSourceName, beq_iff_eq]
  rw [isSourceBelow_iff]
  constructor
  · rintro ⟨hfile, ⟨name, hlast, hname⟩, hentered⟩
    exact ⟨hfile, (hextension hfile hlast).mpr hname, hentered⟩
  · rintro ⟨hfile, hswift, hentered⟩
    refine ⟨hfile, ?_, hentered⟩
    cases hlast : names.getLast? with
    | none =>
        -- without names there would be a file where the directory is
        obtain ⟨bytes, mode, hget⟩ := hfile
        rw [List.getLast?_eq_none_iff.mp hlast, List.append_nil, htop] at hget
        cases hget
    | some name => exact ⟨name, rfl, (hextension hfile hlast).mp hswift⟩

theorem InScope.withCheckouts (h : InScope tree .projectOnly root top names) :
    InScope tree .withCheckouts root top names where
  isFile := h.isFile
  extension := h.extension
  entered above name rest heq hrest := (h.entered above name rest heq hrest).imp_right .withCheckouts

/-! ## Roots that are directories -/

/-- A root that leads to a directory is walked, whether it is one or a link to one. -/
theorem list_eq_of_find (hroot : tree.find root = .ok (top, .directory)) :
    list tree scope root =
      .ok ((sort (below tree scope (depthBound tree) top)).map (pathOf root)) := by
  obtain ⟨hne, hshort, hwalks⟩ := FileTree.locate_eq_ok_iff.mp (FileTree.find_eq_ok_iff.mp hroot)
  obtain ⟨stop, hstop, hnode⟩ := hwalks.exists_stop
  have hlocate : tree.locate false root = .ok stop :=
    FileTree.locate_eq_ok_iff.mpr ⟨hne, hshort, hstop⟩
  obtain ⟨location, node⟩ := stop
  rcases hnode with heq | ⟨target, rfl⟩
  · obtain ⟨rfl, rfl⟩ := FileTree.Place.mk.inj heq
    simp only [list, hlocate, hroot]
  · simp only [list, hlocate, hroot]

theorem list_of_directory {found : List (List Text)}
    (hroot : tree.find root = .ok (top, .directory))
    (hfound : below tree scope (depthBound tree) top = found)
    (hsorted : found.Pairwise fun a b => (compare a b).isLE = true) :
    list tree scope root = .ok (found.map (pathOf root)) := by
  rw [list_eq_of_find hroot, hfound, sort, List.mergeSort_of_pairwise hsorted]

/-- **The sources below a directory** are the files in scope, each once and in the order of their
paths; those of the narrow walk are among those of the wide one. -/
theorem list_directory (tree : FileTree) (root : Text) (top : Location)
    (hplain : tree.HasPlainNames)
    (hroot : tree.find root = .ok (top, .directory)) :
    ∃ files : SourceScope → List Text,
      (∀ scope, list tree scope root = .ok (files scope) ∧
        ((files scope).Pairwise fun a b =>
          compare (Path.components a) (Path.components b) = .lt) ∧
        ∀ file, file ∈ files scope ↔
          ∃ names, InScope tree scope root top names ∧ file = pathOf root names) ∧
      files .projectOnly ⊆ files .withCheckouts := by
  have htop : tree.get? top = some .directory := FileTree.find_eq_ok_get? hroot
  have hmem (scope : SourceScope) (file : Text) :
      file ∈ (sort (below tree scope (depthBound tree) top)).map (pathOf root) ↔
        ∃ names, InScope tree scope root top names ∧ file = pathOf root names := by
    rw [List.mem_map]
    refine exists_congr fun names => and_congr ?_ eq_comm
    rw [sort, List.mem_mergeSort, mem_below_depthBound_iff, isSourceBelow_iff_inScope hplain htop]
  refine ⟨fun scope => (sort (below tree scope (depthBound tree) top)).map (pathOf root),
    fun scope => ⟨list_eq_of_find hroot, pairwise_list hplain (list_eq_of_find hroot), hmem scope⟩,
    fun file hfile => ?_⟩
  obtain ⟨names, hscope, rfl⟩ := (hmem .projectOnly file).mp hfile
  exact (hmem .withCheckouts _).mpr ⟨names, hscope.withCheckouts, rfl⟩

/-- A project with hidden files and directories, products of a build, a link and a version history.
-/
def mixedTree : FileTree := .ofEntries [
  (FileTree.locationOf "proj/.build/checkouts/Dep/F.swift", .file .empty 0o644),
  (FileTree.locationOf "proj/.git/G.swift", .file .empty 0o644),
  (FileTree.locationOf "proj/.hidden.swift", .file .empty 0o644),
  (FileTree.locationOf "proj/DerivedData/D.swift", .file .empty 0o644),
  (FileTree.locationOf "proj/L.swift", .link "Sub.swift/S.swift".toList),
  (FileTree.locationOf "proj/Sub.swift/S.swift", .file .empty 0o644)]

/-- Both walks find the hidden file and the one in a directory that is named like a source. -/
theorem list_directory_of_mixedTree :
    mixedTree.HasPlainNames ∧
    mixedTree.find "/proj".toList = .ok (["proj".toList], .directory) ∧
    ∃ files : SourceScope → List Text,
      (∀ scope, list mixedTree scope "/proj".toList = .ok (files scope)) ∧
      files .projectOnly = ["/proj/.hidden.swift".toList, "/proj/Sub.swift/S.swift".toList] ∧
      files .withCheckouts = ["/proj/.build/checkouts/Dep/F.swift".toList,
        "/proj/.hidden.swift".toList, "/proj/DerivedData/D.swift".toList,
        "/proj/Sub.swift/S.swift".toList] ∧
      files .projectOnly ⊆ files .withCheckouts := by
  obtain ⟨hplain, hroot, hnarrow, hwide⟩ : mixedTree.HasPlainNames ∧
      mixedTree.find "/proj".toList = .ok (["proj".toList], .directory) ∧
      below mixedTree .projectOnly (depthBound mixedTree) ["proj".toList] =
        [[".hidden.swift".toList], ["Sub.swift".toList, "S.swift".toList]] ∧
      below mixedTree .withCheckouts (depthBound mixedTree) ["proj".toList] =
        [[".build".toList, "checkouts".toList, "Dep".toList, "F.swift".toList],
          [".hidden.swift".toList], ["DerivedData".toList, "D.swift".toList],
          ["Sub.swift".toList, "S.swift".toList]] := by
    unfold mixedTree FileTree.locationOf
    repeat rewrite [String.toList_ofList]
    decide +kernel
  obtain ⟨files, hfiles, hsubset⟩ := list_directory mixedTree "/proj".toList _ hplain hroot
  -- The listing is the walk in order, and here the walk already meets the files in order.
  have hlisted (scope : SourceScope) {found : List (List Text)}
      (hfound : below mixedTree scope (depthBound mixedTree) ["proj".toList] = found)
      (hsorted : found.Pairwise fun a b => (compare a b).isLE = true) :
      files scope = found.map (pathOf "/proj".toList) :=
    Except.ok.inj ((hfiles scope).1.symm.trans (list_of_directory hroot hfound hsorted))
  refine ⟨hplain, hroot, files, fun scope => (hfiles scope).1, (hlisted _ hnarrow ?_).trans ?_,
    (hlisted _ hwide ?_).trans ?_, hsubset⟩
  all_goals
    repeat rewrite [String.toList_ofList]
    decide +kernel

end Sources

end SwiftExistential
