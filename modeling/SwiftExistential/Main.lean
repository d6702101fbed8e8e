import SwiftExistential.CommandLine.Run
import SwiftExistential.FileTree.Change

/-!
# The program

Reads the directories that the arguments name into a file tree, runs the command line on it, writes
back what changed, and prints. Links are read as links to where they lead in the end, and files as
executable.

This is the only file that touches the world. All decisions are made by the run on the tree; what is
done here is to load it before and to store its changes afterwards. A change that cannot be stored
is reported and does not keep the others from being stored.
-/

set_option autoImplicit false

namespace SwiftExistential.Program

def loadedMode : Nat := 0o755

def pathOf (location : Location) : String := String.ofList (FileTree.render location)

/-- A location as an entry of the directory above it. -/
def entryOf (location : Location) : IO.FS.DirEntry :=
  ⟨pathOf location.dropLast, String.ofList (location.getLast?.getD [])⟩

/-- Reads what stands at a location, and all that is below it, into a tree. What cannot be read is
left out. -/
partial def load (location : Location) (tree : FileTree) : IO FileTree := do
  try
    match (← (entryOf location).path.symlinkMetadata).type with
    | .dir =>
        let mut result := tree.set location .directory
        for entry in ← (entryOf location).path.readDir do
          result ← load (location ++ [entry.fileName.toList]) result
        return result
    | .file => return tree.set location (.file (← IO.FS.readBinFile (pathOf location)) loadedMode)
    | .symlink =>
        return tree.set location (.link (← IO.FS.realPath (pathOf location)).toString.toList)
    | .other => return tree
  catch _ => return tree

/-- The directories above a location, put into a tree. -/
def loadAbove (location : Location) (tree : FileTree) : FileTree :=
  (List.range location.length).foldl
    (fun t n => if (t.get? (location.take n)).isNone then t.set (location.take n) .directory else t)
    tree

/-- Reads what a path leads to into a tree. -/
def loadPath (path : Text) (tree : FileTree) : IO FileTree := do
  try
    let location := FileTree.parts (← IO.FS.realPath (String.ofList path)).toString.toList
    load location (loadAbove location tree)
  catch _ => return tree

/-- Reads a project into a tree: its directory, or the one that holds its manifest or bundle. -/
def loadProject (path : Text) (tree : FileTree) : IO FileTree := do
  try
    let real := (← IO.FS.realPath (String.ofList path)).toString.toList
    let location := FileTree.parts real
    let isRoot := Path.extension? real != some Project.bundleExtension &&
      (← (entryOf location).path.isDir)
    let root := if isRoot then location else location.dropLast
    load root (loadAbove root tree)
  catch _ => return tree

/-- Reads what arguments name into a tree. -/
def loadArguments (arguments : List Text) (tree : FileTree) : IO FileTree := do
  match CommandLine.parse arguments with
  | .ok (.migrate a) =>
      let others := a.config.toList ++ a.sites.toList ++ a.toolchain.toList
      others.foldlM (fun t path => loadPath path t) (← loadProject a.project tree)
  | _ => return tree

def rightsOf (mode : Nat) : IO.FileRight :=
  let part := fun (bits : Nat) => (⟨bits &&& 4 != 0, bits &&& 2 != 0, bits &&& 1 != 0⟩ : IO.AccessRight)
  ⟨part (mode / 64), part (mode / 8), part mode⟩

def store (location : Location) (change : FileTree.Change) : IO Unit := do
  let path := pathOf location
  match change with
  | .directory => IO.FS.createDir path
  | .file bytes mode =>
      IO.FS.writeBinFile path bytes
      if let some m := mode then IO.setAccessRights path (rightsOf m)
  | .gone =>
      if ← (entryOf location).path.isDir then IO.FS.removeDirAll path
      else IO.FS.removeFile path
  | .link _ => IO.eprintln ("cannot make the link " ++ path)

/-- The variables of the environment that the program looks at. -/
def environment : IO (List (Text × Text)) := do
  ["HOME", "PATH"].filterMapM fun name => do
    return (← IO.getEnv name).map fun value => (name.toList, value.toList)

/-- Runs the program and returns its exit code. -/
def run (arguments : List Text) : IO UInt32 := do
  let current := FileTree.parts (← IO.currentDir).toString.toList
  let start := FileTree.withSystem { entries := ∅, current := current } Utility.names
  let tree ← loadArguments arguments (loadAbove (current ++ [[]]) start)
  let result := CommandLine.run (← environment) arguments tree
  for (location, change) in FileTree.changes tree result.tree [] do
    try store location change catch e => IO.eprintln (toString e)
  IO.print (String.ofList result.out)
  IO.eprint (String.ofList result.err)
  return result.exitCode.toUInt32

end SwiftExistential.Program

def main (arguments : List String) : IO UInt32 :=
  SwiftExistential.Program.run (arguments.map String.toList)
