import SwiftExistential.FileTree.Basic

/-!
# Changes of a file tree

What differs between two trees below a directory, one entry a location, each with the names from the
directory on. A directory is an entry only if something else or nothing stood there before, a file
if its bytes or its mode have changed, and what has gone is an entry without anything in it.

Two trees without such entries hold the same below the directory, as far as kinds, bytes, modes of
files and targets of links go. Times, owners and the modes of directories are kept elsewhere and are
not compared, and a device is never an entry.
-/

set_option autoImplicit false

namespace SwiftExistential.FileTree

/-- How a location differs from before. -/
inductive Change where
  | directory
  | link (target : Text)
  /-- A file, with its mode if it was a file of another mode before. -/
  | file (bytes : ByteArray) (newMode : Option Nat)
  | gone

def change? (before after : Option Node) : Option Change :=
  if before = after then none
  else match before, after with
    | _, none => some .gone
    | _, some .directory => some .directory
    | _, some (.link target) => some (.link target)
    | _, some .device => none
    | some (.file old oldMode), some (.file bytes mode) =>
        if oldMode % 0o1000 != mode % 0o1000 then some (.file bytes (some (mode % 0o1000)))
        else if old.data = bytes.data then none
        else some (.file bytes none)
    | _, some (.file bytes _) => some (.file bytes none)

def below (t : FileTree) (directory : Location) : List Location :=
  t.entries.keys.filter fun key => directory.isPrefixOf key && directory != key

/-- **What changed below a directory**, with locations relative to it. -/
def changes (before after : FileTree) (directory : Location) : List (Location × Change) :=
  let all := before.below directory ++
    (after.below directory).filter fun key => (before.get? key).isNone
  all.filterMap fun key =>
    (change? (before.get? key) (after.get? key)).map fun c => (key.drop directory.length, c)

end SwiftExistential.FileTree
