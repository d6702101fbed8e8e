import SwiftExistential.FileTree.Basic

/-!
# Writing to a file tree

How programs change files and directories besides replacing a file, and the file tree they start in.

The first part has the operations: making files and directories, adding to a file, linking, moving,
and removing things with all that is below them. The second part puts the files of the system into a
tree, so that commands find the programs that they name.
-/

set_option autoImplicit false

/-! ## Making and removing files

A file may have several names; what happens to its bytes under one name happens under all. Removing
a name leaves the others. -/

namespace SwiftExistential.FileTree

/-! ### Files -/

/-- Puts a file at a location, under all its names. -/
def putFile (t : FileTree) (location : Location) (bytes : ByteArray) (mode : Nat) : FileTree :=
  (t.namesOf location).foldl (fun t l => t.set l (.file bytes mode)) t

def hasParent (t : FileTree) (location : Location) : Bool :=
  t.get? location.dropLast = some .directory

/-- **Opens a file to write**, and makes it with a mode if nothing stands there. Its old content
stays only if `keep` says so. Returns where it is. -/
def openFile (t : FileTree) (path : Text) (keep : Bool) (mode : Nat) :
    Except FileError (Location × FileTree) :=
  match t.locate true path with
  | .error e => .error e
  | .ok ⟨_, some .directory⟩ => .error .isDirectory
  | .ok ⟨location, some .device⟩ => .ok (location, t)
  | .ok ⟨location, some (.file bytes mode)⟩ =>
      .ok (location, if keep || bytes.isEmpty then t else (t.putFile location .empty mode).stamp location)
  | .ok ⟨location, _⟩ =>
      if path.getLast? = some '/' then .error .isDirectory
      else if t.hasParent location then
        .ok (location, (t.set location (.file .empty mode)).stampNew location 0)
      else .error .notFound

def bytesAt (t : FileTree) (location : Location) : ByteArray :=
  match t.get? location with
  | some (.file bytes _) => bytes
  | _ => .empty

/-- Puts bytes in place of others, from an offset on. Zeros fill what lies before it. -/
def patched (old : ByteArray) (offset : Nat) (bytes : ByteArray) : ByteArray :=
  if offset = old.size then old ++ bytes
  else
    let gap : ByteArray := ⟨Array.replicate (offset - old.size) 0⟩
    old.extract 0 offset ++ gap ++ bytes ++ old.extract (offset + bytes.size) old.size

/-- Writes bytes into the file at a location, from an offset on. -/
def writeBytes (t : FileTree) (location : Location) (offset : Nat) (bytes : ByteArray) : FileTree :=
  match t.get? location with
  | some (.file old mode) => (t.putFile location (patched old offset bytes) mode).stamp location
  | _ => t

/-- Adds bytes at the end of the file at a location. -/
def appendBytes (t : FileTree) (location : Location) (bytes : ByteArray) : FileTree :=
  match t.get? location with
  | some (.file old mode) => (t.putFile location (old ++ bytes) mode).stamp location
  | _ => t

/-- Gives the file at a location one more name. -/
def addName (t : FileTree) (location name : Location) : FileTree :=
  match t.get? location with
  | none => t
  | some node =>
      let group := (t.namesOf location).filter (· != name)
      let others := (t.twins.map (·.filter (· != name))).filter fun g => !g.contains location
      let t := { t with twins := (group ++ [name]) :: others }
      (t.set name node).setRecord name (t.recordAt location)

/-! ### Directories -/

def makeDirectory (t : FileTree) (path : Text) (mode : Nat) : Except FileError FileTree :=
  match t.locate false path with
  | .error e => .error e
  | .ok ⟨_, some _⟩ => .error .alreadyExists
  | .ok ⟨location, none⟩ =>
      if t.hasParent location then .ok ((t.set location .directory).stampNew location mode)
      else .error .notFound

/-- Whether a location is another one or lies below it. -/
def isBelow (location top : Location) : Bool := top.isPrefixOf location

def removeBelow (t : FileTree) (location : Location) : FileTree :=
  { t with
    entries := t.entries.filter fun key _ => !isBelow key location,
    records := t.records.filter fun key _ => !isBelow key location,
    twins := t.twins.map (·.filter fun key => !isBelow key location) }

/-- **Moves** what stands at a location, with all that is below it, to another one. -/
def moveBelow (t : FileTree) (source target : Location) : FileTree :=
  let moved := fun (key : Location) =>
    if isBelow key source then target ++ key.drop source.length else key
  let t := t.removeBelow target
  { t with
    entries := t.entries.toList.foldl (fun all (key, node) => all.insert (moved key) node) {},
    records := t.records.toList.foldl (fun all (key, record) => all.insert (moved key) record) {},
    twins := t.twins.map (·.map moved) }

def allBelow (t : FileTree) (location : Location) : List Location :=
  t.entries.keys.filter fun key => isBelow key location

end SwiftExistential.FileTree

/-! ## The files of the system

A program of the system is an executable file that holds its name behind a mark. Behind the name
stands what the program says about itself, part by part, if it is known; all other answers of the
program are those of its model. `withSystem` puts the null device, the usual directories and the
programs into a tree, but nothing where something stands already. -/

namespace SwiftExistential.FileTree

/-- What stands at the start of a program of the system. -/
def programMark : List UInt8 := [0x7F, 0x45, 0x4C, 0x46]

/-- The file of a program, with what the program says about itself. -/
def programNode (name : Text) (sayings : List Text := []) : Node :=
  .file (⟨programMark.toArray⟩ ++ encode (Text.join ['\x00'] (name :: sayings))) 0o755

def hasProgramMark (bytes : ByteArray) : Bool := (bytes.extract 0 4).toList == programMark

/-- The name of the program that some bytes hold, and what it says about itself. -/
def program? (bytes : ByteArray) : Option (Text × List Text) :=
  if hasProgramMark bytes then
    (decode? (bytes.extract 4 bytes.size)).map fun t =>
      let parts := Text.splitOn '\x00' t
      (parts.headD [], parts.tail)
  else none

def programDirectory : Location := ["usr".toList, "bin".toList]

def systemDirectories : List String :=
  ["bin", "dev", "etc", "home", "opt", "root", "tmp", "usr", "var"]

def users : String := "root:x:0:0:root:/root:/bin/bash\n"

/-- Puts a node where nothing stands. -/
def setNew (t : FileTree) (location : Location) (node : Node) : FileTree :=
  if (t.get? location).isSome then t else t.set location node

/-- **A tree with the files of the system**, and programs of these names. -/
def withSystem (t : FileTree) (programs : List String) : FileTree :=
  let link := t.setNew ["bin".toList] (.link "usr/bin".toList)
  let all := systemDirectories.foldl (fun t name => t.setNew [name.toList] .directory) link
  let all := ["full", "null", "random", "tty", "urandom", "zero"].foldl
    (fun t name => t.setNew ["dev".toList, name.toList] .device) all
  let all := all.setNew ["etc".toList, "passwd".toList] (.file users.toUTF8 0o644)
  let all := [["usr", "bin"], ["usr", "local"], ["usr", "lib"], ["usr", "share"], ["var", "tmp"]].foldl
    (fun t names => t.setNew (names.map String.toList) .directory) all
  programs.foldl
    (fun t name => t.setNew (programDirectory ++ [name.toList]) (programNode name.toList)) all

end SwiftExistential.FileTree
