import SwiftExistential.FileTree.Basic
import SwiftExistential.Registry

/-!
# Sources of a project

The Swift files below a directory, found by a walk that does not enter links or unwanted
directories. Two walks are made: one over the files that may be changed, and a wider one over the
files that may declare protocols.

Which directories a walk enters depends on their names. The narrow walk leaves out those that are
hidden and the one of build products; the wide walk enters everything but the version history. The
files are listed in the order of their paths. A root that is a file itself stands for itself if it
is a Swift file.
-/

set_option autoImplicit false

namespace SwiftExistential

/-- Which directories a walk enters. -/
inductive SourceScope where
  /-- All but the version history. -/
  | withCheckouts
  /-- No hidden directories and no build products. -/
  | projectOnly
deriving DecidableEq, Repr

/-- Whether a walk enters a directory of that name. -/
def SourceScope.admits : SourceScope → Text → Bool
  | withCheckouts, name => name != ".git".toList
  | projectOnly, name => name.head? != some '.' && name != "DerivedData".toList

namespace Sources

def isSourceName (name : Text) : Bool := (Path.splitName name).2 == some "swift".toList

/-- The sources below a directory, as names from there, in no particular order. The number bounds
the depth of the walk. -/
def below (tree : FileTree) (scope : SourceScope) : Nat → Location → List (List Text)
  | 0, _ => []
  | n + 1, directory =>
      (tree.names directory).flatMap fun name =>
        match tree.get? (directory ++ [name]) with
        | some (.file _ _) => if isSourceName name then [[name]] else []
        | some .directory =>
            if scope.admits name then
              (below tree scope n (directory ++ [name])).map (name :: ·)
            else []
        | _ => []

/-- The length of the longest location, which bounds the depth of every walk. -/
def depthBound (tree : FileTree) : Nat :=
  tree.entries.keys.foldl (fun n key => max n key.length) 0 + 1

/-- Why a directory cannot be walked. -/
structure Error where
  root : Text
  cause : FileError
deriving DecidableEq, Repr

/-- The wording of the failure of the walk itself. -/
def Error.walkMessage (e : Error) : String :=
  "IO error for operation on " ++ String.ofList e.root ++ ": " ++ e.cause.message

def Error.message (e : Error) : String :=
  "Cannot enumerate project at " ++ String.ofList e.root ++ ": " ++ e.walkMessage

/-- The path of names below a root. -/
def pathOf (root : Text) (names : List Text) : Text := names.foldl Path.join root

/-- Names from the root, in the order of paths. -/
def sort (found : List (List Text)) : List (List Text) :=
  found.mergeSort fun a b => (compare a b).isLE

/-- **The sources below a root**, in the order of their paths. A root that is a file stands for
itself; a link at the root is followed, if it leads to a directory. -/
def list (tree : FileTree) (scope : SourceScope) (root : Text) : Except Error (List Text) :=
  match tree.locate false root with
  | .error cause => .error ⟨root, cause⟩
  | .ok ⟨_, none⟩ => .error ⟨root, .notFound⟩
  | .ok ⟨_, some (.file _ _)⟩ =>
      .ok (if Path.extension? root = some "swift".toList then [root] else [])
  | .ok ⟨_, some _⟩ =>
      -- A link at the root is a directory here if it leads to one.
      match tree.find root with
      | .error cause => .error ⟨root, cause⟩
      | .ok (location, .directory) =>
          .ok ((sort (below tree scope (depthBound tree) location)).map (pathOf root))
      | .ok (_, _) => .ok []

/-- The protocols that a file declares, with the file's path below the root as origin. Files that
cannot be read declare none. -/
def declarations (tree : FileTree) (root file : Text) : List (Text × Origin) :=
  match tree.readText file with
  | .error _ => []
  | .ok source =>
      -- A file that is not below the root keeps its path as it was found.
      let origin := (Path.relativeTo? file root).getD file
      (Registry.declaredNames source).map fun name => (name, .file origin)

/-- **The protocols declared below a root**, together with the built-in ones. -/
def discover (tree : FileTree) (root : Text) : Except Error Registry :=
  (list tree .withCheckouts root).map fun files =>
    files.foldl (fun r file => r.insertAll (declarations tree root file)) Registry.seeded

end Sources

end SwiftExistential
