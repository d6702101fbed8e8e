import SwiftExistential.Proofs.Registry.FirstWriter
import SwiftExistential.Proofs.Sources.Listing

/-!
# What a registry is built of

The registry of a project is the seeds of the system, the protocols that its sources declare, a
table of known protocols, and a list of names to leave out. Which of them decides about a name is
settled by the order in which they are written and by the removal at the end (`originOf?`), and
`get?_discover` says so of every name.

The sources are read in the order of their paths, so of two files that declare a name the first one
is its origin, and a file that cannot be read as a text declares nothing.
-/

set_option autoImplicit false

namespace SwiftExistential

open Registry (declaredNames systemSeeds denied)
open FileTree (locationOf)

namespace Sources

/-! ## Which source declares a name

A source declares what its text declares, and the origin is its path as seen from the root of the
project. -/

/-- Whether a file can be read and declares a protocol of that name. -/
def declares (tree : FileTree) (name file : Text) : Bool :=
  match tree.readText file with
  | .error _ => false
  | .ok source => (declaredNames source).contains name

/-- The path of a file as it is seen from a root. -/
def seenFrom (root file : Text) : Text := (Path.relativeTo? file root).getD file

/-- **The origin that a name ends up with.** Denied names have none. For the others the seeds of the
system come first, then the first source that declares the name, then the table of known protocols.
-/
def originOf? (tree : FileTree) (root : Text) (files : List Text) (known : List (Text × Text))
    (extra : List Text) (name : Text) : Option Origin :=
  if name ∈ denied ++ extra then none
  else
    (systemSeeds.lookup name).or <|
      ((files.find? (declares tree name)).map fun file => Origin.file (seenFrom root file)).or <|
        (known.lookup name).map Origin.ofText

variable {tree : FileTree} {root : Text} {files : List Text}

/-- A file's declarations hold the name if and only if the file declares it. -/
theorem lookup_declarations (tree : FileTree) (root file name : Text) :
    (declarations tree root file).lookup name =
      if declares tree name file then some (.file (seenFrom root file)) else none := by
  have hlookup (names : List Text) (origin : Origin) :
      (names.map fun name => (name, origin)).lookup name =
        if names.contains name then some origin else none := by
    induction names with
    | nil => rfl
    | cons other names ih =>
        rw [List.map_cons, List.lookup_cons, ih, List.contains_cons]
        cases name == other <;> rfl
  rw [declarations, declares]
  cases tree.readText file with
  | error cause => rfl
  | ok source => exact hlookup (declaredNames source) _

/-- **Files in turn**: the first one that declares a name decides. -/
theorem get?_foldl_declarations (r : Registry) (name : Text) :
    (files.foldl (fun r file => r.insertAll (declarations tree root file)) r).get? name =
      (r.get? name).or
        ((files.find? (declares tree name)).map fun file => .file (seenFrom root file)) := by
  induction files generalizing r with
  | nil => exact (Option.or_none).symm
  | cons file files ih =>
      rw [List.foldl_cons, ih, Registry.get?_insertAll, lookup_declarations, Option.or_assoc,
        List.find?_cons]
      congr 1
      cases declares tree name file <;> rfl

theorem lookup_known (known : List (Text × Text)) (name : Text) :
    (known.map fun e => (e.1, Origin.ofText e.2)).lookup name =
      (known.lookup name).map Origin.ofText := by
  induction known with
  | nil => rfl
  | cons entry known ih =>
      obtain ⟨other, value⟩ := entry
      rw [List.map_cons, List.lookup_cons, List.lookup_cons, ih]
      cases name == other <;> rfl

/-! ## The registry of a project

In the example each of the rules decides about one name, and one of the files is no text. -/

/-- **The registry of a project**, name by name: a denied name is not there, and for any other one
the seeds of the system, the sources in the order of their paths and the table decide in this order.
The origin of a declared name is the path of the file below the root. -/
theorem get?_discover (tree : FileTree) (root : Text) (known : List (Text × Text))
    (extra : List Text) (files : List Text) (hfiles : list tree .withCheckouts root = .ok files) :
    (∃ r, discover tree root = .ok r ∧ ∀ name,
      ((r.merge known).finalize extra).get? name = originOf? tree root files known extra name) ∧
    (tree.HasPlainNames →
      (files.Pairwise fun a b => compare (Path.components a) (Path.components b) = .lt) ∧
      ∀ file ∈ files, ∃ names, file = pathOf root names ∧ seenFrom root file = pathOf [] names) := by
  refine ⟨⟨_, by rw [discover, hfiles]; rfl, fun name => ?_⟩, fun hplain => ⟨?_, ?_⟩⟩
  · rw [Registry.get?_finalize, Registry.merge, Registry.get?_insertAll, lookup_known,
      get?_foldl_declarations, Registry.get?_seeded, Option.or_assoc, originOf?]
  · exact pairwise_list hplain hfiles
  · intro file hfile
    obtain ⟨names, hnames, rfl⟩ := exists_names_of_mem_list hplain hfiles hfile
    refine ⟨names, rfl, ?_⟩
    rw [seenFrom, FileTree.relativeTo?_pathOf hnames, Option.getD_some]

/-- Three sources: the first is no text, and the others declare the same protocol. -/
def declaringTree : FileTree := .ofEntries [
  (locationOf "p/A.swift", .file ⟨#[255]⟩ 0o644),
  (locationOf "p/B.swift", .file (FileTree.encode
    "protocol Worker \x7b\x7d\nprotocol Error \x7b\x7d\nprotocol Sequence \x7b\x7d\n".toList) 0o644),
  (locationOf "p/C.swift", .file (FileTree.encode
    "protocol Worker \x7b\x7d\nprotocol Shape \x7b\x7d\n".toList) 0o644)]

/-- A table with one name that a source declares, and one that none does. -/
def knownTable : List (Text × Text) :=
  [("Shape".toList, "Shape.swift".toList), ("Table".toList, "$s5TableP".toList)]

/-- Each of the rules decides about one name. -/
theorem get?_discover_of_declaringTree :
    list declaringTree .withCheckouts "/p".toList =
      .ok ["/p/A.swift".toList, "/p/B.swift".toList, "/p/C.swift".toList] ∧
    ∃ r, discover declaringTree "/p".toList = .ok r ∧
      (["Sequence", "Error", "Worker", "Shape", "Table", "Other"].map fun name =>
        ((r.merge knownTable).finalize []).get? name.toList) =
      [none, some (.system "$ss5ErrorP".toList), some (.file "B.swift".toList),
        some (.file "C.swift".toList), some (.system "$s5TableP".toList), none] ∧
    declaringTree.HasPlainNames ∧
    ∃ names, "/p/B.swift".toList = pathOf "/p".toList names ∧
      seenFrom "/p".toList "/p/B.swift".toList = pathOf [] names := by
  obtain ⟨hplain, hroot, hbelow, hsorted, hpaths⟩ : declaringTree.HasPlainNames ∧
      declaringTree.find "/p".toList = .ok (["p".toList], .directory) ∧
      below declaringTree .withCheckouts (depthBound declaringTree) ["p".toList] =
        [["A.swift".toList], ["B.swift".toList], ["C.swift".toList]] ∧
      [["A.swift".toList], ["B.swift".toList], ["C.swift".toList]].Pairwise
        (fun a b => (compare a b).isLE) ∧
      [["A.swift".toList], ["B.swift".toList], ["C.swift".toList]].map (pathOf "/p".toList) =
        ["/p/A.swift".toList, "/p/B.swift".toList, "/p/C.swift".toList] := by
    unfold declaringTree locationOf
    repeat rewrite [String.toList_ofList]
    decide +kernel
  -- The listing is the walk in order; `get?_discover` says of it what is found for each name.
  have hfiles : list declaringTree .withCheckouts "/p".toList =
      .ok ["/p/A.swift".toList, "/p/B.swift".toList, "/p/C.swift".toList] :=
    hpaths ▸ list_of_directory hroot hbelow hsorted
  obtain ⟨⟨r, hr, hget⟩, hrelative⟩ :=
    get?_discover declaringTree "/p".toList knownTable [] _ hfiles
  refine ⟨hfiles, r, hr, ?_, hplain,
    (hrelative hplain).2 _ (List.mem_cons_of_mem _ List.mem_cons_self)⟩
  simp only [hget, List.map_cons, List.map_nil]
  unfold declaringTree knownTable locationOf
  repeat rewrite [String.toList_ofList]
  decide +kernel

end Sources

end SwiftExistential
