import SwiftExistential.FileTree.Basic
import SwiftExistential.Json
import SwiftExistential.Site

/-!
# Dumps of sites

The sites of a project, file by file. A dump is a JSON object from paths to lists of sites; relative
paths are taken below the root of the project. Files are told apart by the components of their
paths, and a file without an entry has no sites.

A dump is read as a whole or refused as a whole. Unknown fields of a site are ignored, but a known
one that stands twice is a mistake, and so is an offset that does not fit 64 bits. Of two lists
under paths with the same components the later one counts. Only lists that come to the same path
below the root, one of them from a relative path and one from an absolute one, are joined.
-/

set_option autoImplicit false

namespace SwiftExistential

/-- The sites of each file. Files are told apart by the components of their paths. -/
structure SiteMap where
  files : List (List Path.Component × List Site)
deriving DecidableEq, Repr

namespace SiteMap

def empty : SiteMap := ⟨[]⟩

def size (map : SiteMap) : Nat := map.files.length

def sites (map : SiteMap) (file : Text) : List Site :=
  (map.files.lookup (Path.components file)).getD []

/-- Appends sites to the list of a key, or adds the key. -/
def appendAt (key : List Path.Component) (sites : List Site) :
    List (List Path.Component × List Site) → List (List Path.Component × List Site)
  | [] => [(key, sites)]
  | (k, old) :: rest =>
      if k = key then (k, old ++ sites) :: rest else (k, old) :: appendAt key sites rest

def insert (map : SiteMap) (file : Text) (sites : List Site) : SiteMap :=
  ⟨appendAt (Path.components file) sites map.files⟩

/-! ## Reading a dump

Each reader takes a value and returns what it stands for, or nothing. -/

def offset? : Json.Value → Option Nat
  | .natural n => if n < UInt64.size then some n else none
  | _ => none

def text? : Json.Value → Option Text
  | .text t => t
  | _ => none

def optionalText? : Json.Value → Option (Option Text)
  | .null => some none
  | .text t => t.map some
  | _ => none

/-- The value of a member that may be written at most once. -/
def member? (key : Text) (members : List (Option Text × Json.Value)) :
    Option (Option Json.Value) :=
  match members.filter (·.1 == some key) with
  | [] => some none
  | [(_, v)] => some (some v)
  | _ => none

/-- A site written as an object. Unknown members are ignored if their names are texts. -/
def siteOfMembers? (members : List (Option Text × Json.Value)) : Option Site :=
  if members.any fun m => m.1.isNone then none
  else do
    let offset ← (← member? "offset".toList members).bind offset?
    let kind ← (← member? "kind".toList members).bind text?
    let typeText ← ((← member? "type_name".toList members).getD .null) |> optionalText?
    return ⟨offset, kind, typeText⟩

/-- A site: an object, or a list of its offset, kind and type. -/
def site? : Json.Value → Option Site
  | .object members => siteOfMembers? members
  | .list [offset, kind] => do return ⟨← offset? offset, ← text? kind, none⟩
  | .list [offset, kind, typeText] => do
      return ⟨← offset? offset, ← text? kind, ← optionalText? typeText⟩
  | _ => none

def siteList? : Json.Value → Option (List Site)
  | .list items => items.mapM site?
  | _ => none

/-- Replaces the list of a key, or adds the key. -/
def replaceAt (key : Text) (sites : List Site) : List (Text × List Site) → List (Text × List Site)
  | [] => [(key, sites)]
  | (k, old) :: rest =>
      if Path.components k = Path.components key then (k, sites) :: rest
      else (k, old) :: replaceAt key sites rest

/-- The lists of a dump. Of two entries for the same path the last one counts. -/
def listed? (members : List (Option Text × Json.Value)) : Option (List (Text × List Site)) :=
  members.foldlM (fun acc (key, v) => do return replaceAt (← key) (← siteList? v) acc) []

/-- **Reads a dump.** -/
def ofJson? (root : Text) (json : Text) : Option SiteMap :=
  match Json.parse? json with
  | some (.object members) =>
      (listed? members).map fun lists =>
        lists.foldl (fun map (file, sites) => map.insert (Path.join root file) sites) empty
  | _ => none

/-- Why a dump cannot be used. -/
inductive Error where
  | unreadable (path : Text) (cause : FileError)
  | malformed (path : Text)
deriving DecidableEq, Repr

/-- The wording of the failure. What is wrong with a malformed dump is not told. -/
def Error.message : Error → String
  | unreadable path cause =>
      "Cannot read site dump " ++ String.ofList path ++ ": " ++ cause.message
  | malformed path => "Malformed site dump " ++ String.ofList path

def load (tree : FileTree) (path root : Text) : Except Error SiteMap :=
  match tree.readText path with
  | .error cause => .error (.unreadable path cause)
  | .ok json =>
      match ofJson? root json with
      | none => .error (.malformed path)
      | some map => .ok map

end SiteMap

end SwiftExistential
