import SwiftExistential.Diagnostic
import SwiftExistential.FileTree.Basic

/-!
# Repair of precompiled headers

The name of a precompiled bridging header has a part that changes from build to build. When a build
misses one, a link to another header of the same stem and ending takes its place.

The candidates are the names in the directory of the stem, in order, and the first one is taken. Its
path is put together from the directory as it was written and the name, and the link holds this
path. Whether anything stands behind it is not looked at.
-/

set_option autoImplicit false

namespace SwiftExistential.HeaderRepair

open Diagnostic (MissingHeader)

/-- Why a header cannot be repaired. -/
inductive Error where
  /-- There is no header like it. -/
  | noCandidate (stem ending : Text)
  | notLinked (path : Text) (cause : FileError)
deriving DecidableEq, Repr

def Error.message : Error → String
  | noCandidate stem ending =>
      "No precompiled header matching " ++ String.ofList stem ++ "*" ++ String.ofList ending
  | notLinked path cause =>
      "Cannot link precompiled header " ++ String.ofList path ++ ": " ++ cause.message

/-- The headers in a directory that can stand in for the missing one, in order. -/
def candidates (header : MissingHeader) (directory stemName : Text) (names : List Text) :
    List Text :=
  (names.filter fun name => stemName.isPrefixOf name && header.ending.isSuffixOf name).map
      -- A link that leads nowhere may have the missing header's own name.
      (Path.join directory) |>.filter fun path =>
        Path.components path != Path.components header.path

/-- **Links the missing header to the first candidate.** Returns the candidate and the new tree. -/
def repair (tree : FileTree) (header : MissingHeader) : Except Error (Text × FileTree) :=
  match Path.parent? header.stem, Path.fileName? header.stem with
  | some directory, some stemName =>
      match tree.list directory with
      | .error cause => .error (.notLinked header.path cause)
      | .ok names =>
          match candidates header directory stemName names with
          | [] => .error (.noCandidate header.stem header.ending)
          | target :: _ =>
              match tree.makeLink target header.path with
              | .error cause => .error (.notLinked header.path cause)
              | .ok tree' => .ok (target, tree')
  | _, _ => .error (.noCandidate header.stem header.ending)

end SwiftExistential.HeaderRepair
