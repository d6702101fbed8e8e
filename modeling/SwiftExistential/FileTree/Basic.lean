import SwiftExistential.Path
import Std.Data.TreeMap

/-!
# File trees

A file tree is a value: directories, files with their bytes and mode, symbolic links and the null
device, each under its location, the list of names from the root. A path is looked up from the
current directory, one part at a time, and the links on its way are followed; more than forty links
are too many.

Every operation that succeeds returns the new tree, so what a run changes is what differs between
two values. An operation that fails returns the reason instead.

A file may have several names. They are kept beside the tree, and a change of its mode is made under
all of them at once (`setModeAt`). A file that is replaced is a new file: it takes over one name,
and the others keep the old one (`putNew`).
-/

set_option autoImplicit false

namespace SwiftExistential

/-- What stands at a location. -/
inductive Node where
  | directory
  | file (bytes : ByteArray) (mode : Nat)
  | link (target : Text)
  /-- The device that holds nothing and takes everything. -/
  | device

/-- Files are the same if they have the same bytes and mode. -/
instance : DecidableEq Node := fun a b =>
  match a, b with
  | .directory, .directory => isTrue rfl
  | .file ⟨bytes⟩ mode, .file ⟨bytes'⟩ mode' =>
      decidable_of_decidable_of_iff (p := bytes = bytes' ∧ mode = mode') (by simp)
  | .link target, .link target' =>
      decidable_of_decidable_of_iff (p := target = target') (by simp)
  | .device, .device => isTrue rfl
  | .directory, .file .. | .directory, .link _ | .directory, .device | .file .., .directory
  | .file .., .link _ | .file .., .device | .link _, .directory | .link _, .file ..
  | .link _, .device | .device, .directory | .device, .file .. | .device, .link _ =>
      isFalse (by simp)

/-- Why a file operation fails. -/
inductive FileError where
  | notFound
  | alreadyExists
  | notDirectory
  | isDirectory
  | tooManyLinks
  | nameTooLong
  /-- The bytes are no text. -/
  | notText
deriving DecidableEq, Repr

def FileError.message : FileError → String
  | notFound => "No such file or directory (os error 2)"
  | alreadyExists => "File exists (os error 17)"
  | notDirectory => "Not a directory (os error 20)"
  | isDirectory => "Is a directory (os error 21)"
  | tooManyLinks => "Too many levels of symbolic links (os error 40)"
  | nameTooLong => "File name too long (os error 36)"
  | notText => "stream did not contain valid UTF-8"

abbrev Location := List Text

/-- What is known of a location besides its node. Times are nanoseconds since 1970. -/
structure Record where
  /-- The mode of a directory. -/
  rights : Nat
  owner : Nat
  group : Nat
  modified : Int
  accessed : Int
deriving DecidableEq, Repr

/-- Files and directories, seen from a current directory. -/
structure FileTree where
  entries : Std.TreeMap Location Node
  current : Location
  /-- What is known of the locations that programs have touched. -/
  records : Std.TreeMap Location Record := {}
  /-- The groups of locations that are names of one file. -/
  twins : List (List Location) := []
  /-- The microseconds that have passed. -/
  now : Nat := 0

namespace FileTree

/-! ## Locations -/

/-- What stands at a location. The root is always a directory. -/
def get? (t : FileTree) (location : Location) : Option Node :=
  if location.isEmpty then some .directory else t.entries[location]?

def set (t : FileTree) (location : Location) (node : Node) : FileTree :=
  { t with entries := t.entries.insert location node }

def remove (t : FileTree) (location : Location) : FileTree :=
  { t with
    entries := t.entries.erase location,
    records := t.records.erase location,
    twins := t.twins.map (·.filter (· != location)) }

def render : Location → Text
  | [] => ['/']
  | names => names.flatMap ('/' :: ·)

def names (t : FileTree) (directory : Location) : List Text :=
  t.entries.keys.filterMap fun key =>
    if key.dropLast = directory then key.getLast? else none

/-! ## Looking up paths

A look-up ends at a place: a location with what stands there, or with nothing if only the last part
is missing. The recursion is on the links that may still be followed and, between two links, on the
parts. -/

/-- The parts of a path that are walked. A separator at the end stands for a dot, so that only a
directory can stand before it. -/
def parts (path : Text) : List Text :=
  let all := Text.splitOn '/' path
  all.filter (· != []) ++ if all.getLast? = some [] then [['.']] else []

/-- A place in the tree, with what stands there. -/
structure Place where
  location : Location
  node : Option Node

/-- How to go on behind a link: from a location, over the parts of the link and those after it. -/
abbrev Continuation := Location → List Text → Except FileError Place

def maxName : Nat := 255

def maxPath : Nat := 4095

def byteCount (t : Text) : Nat := (String.ofList t).utf8ByteSize

/-- Walks over parts from a directory. A link is handed to the continuation, except the last part's
if links are not to be followed there. Only the last part may be missing. -/
def walkParts (t : FileTree) (follow : Bool) (behindLink : Continuation) : Continuation
  | location, [] => .ok ⟨location, t.get? location⟩
  | location, part :: rest =>
      if part = ['.'] then walkParts t follow behindLink location rest
      else if part = ['.', '.'] then walkParts t follow behindLink location.dropLast rest
      else if byteCount part > maxName then .error .nameTooLong
      else
        let next := location ++ [part]
        match t.get? next with
        | none => if rest.isEmpty then .ok ⟨next, none⟩ else .error .notFound
        | some .directory => walkParts t follow behindLink next rest
        | some (.file bytes mode) =>
            if rest.isEmpty then .ok ⟨next, some (.file bytes mode)⟩ else .error .notDirectory
        | some .device => if rest.isEmpty then .ok ⟨next, some .device⟩ else .error .notDirectory
        | some (.link target) =>
            if rest.isEmpty && !follow then .ok ⟨next, some (.link target)⟩
            else if target.isEmpty then .error .notFound
            else
              behindLink (if Path.isAbsolute target then [] else location) (parts target ++ rest)

/-- Walks over parts, following at most so many links. -/
def walk (t : FileTree) (follow : Bool) : Nat → Continuation
  | 0 => walkParts t follow fun _ _ => .error .tooManyLinks
  | n + 1 => walkParts t follow (walk t follow n)

/-- The most links that one look-up follows. -/
def maxLinks : Nat := 40

/-- **Looks up a path.** With `follow`, a link at its end is followed too. -/
def locate (t : FileTree) (follow : Bool) (path : Text) : Except FileError Place :=
  if path.isEmpty then .error .notFound
  else if byteCount path > maxPath then .error .nameTooLong
  else walk t follow maxLinks (if Path.isAbsolute path then [] else t.current) (parts path)

/-- What a path leads to, links followed, with its location. -/
def find (t : FileTree) (path : Text) : Except FileError (Location × Node) :=
  match t.locate true path with
  | .error e => .error e
  | .ok ⟨_, none⟩ => .error .notFound
  | .ok ⟨location, some node⟩ => .ok (location, node)

/-- The absolute path without links that a path leads to. -/
def canonicalize (t : FileTree) (path : Text) : Except FileError Location :=
  (t.find path).map (·.1)

def isDirectory (t : FileTree) (path : Text) : Bool :=
  match t.find path with
  | .ok (_, .directory) => true
  | _ => false

def isFile (t : FileTree) (path : Text) : Bool :=
  match t.find path with
  | .ok (_, .file _ _) => true
  | _ => false

/-! ## Names and records

A record holds what a tree knows about a location beside its node: times, an owner and a group, and
the mode of a directory. A location that nothing was noted about has a record all the same. -/

/-- The moment at which time starts to pass, in nanoseconds. -/
def start : Int := 1750000000000000000

/-- The moment that a change gets. The clock of files ticks every four milliseconds. -/
def moment (t : FileTree) : Int := start + (t.now / 4000 * 4000000 : Nat)

def recordAt (t : FileTree) (location : Location) : Record :=
  (t.records[location]?).getD ⟨0o755, 0, 0, start, start⟩

/-- All names of the file at a location: one file may have several. -/
def namesOf (t : FileTree) (location : Location) : List Location :=
  (t.twins.find? fun group => group.contains location).getD [location]

/-- Notes something about the file at a location, under all its names. -/
def setRecord (t : FileTree) (location : Location) (record : Record) : FileTree :=
  { t with records := (t.namesOf location).foldl (fun records l => records.insert l record) t.records }

/-- Notes that a location was changed now. -/
def stamp (t : FileTree) (location : Location) : FileTree :=
  t.setRecord location { t.recordAt location with modified := t.moment }

def stampNew (t : FileTree) (location : Location) (rights : Nat) : FileTree :=
  t.setRecord location ⟨rights, 0, 0, t.moment, t.moment⟩

def modeAt (t : FileTree) (location : Location) : Nat :=
  match t.get? location with
  | some (.file _ mode) => mode
  | some .directory => (t.recordAt location).rights
  | some (.link _) => 0o777
  | some .device => 0o666
  | none => 0

/-- Sets the mode of what has a name, as far as it has one: a link and a device keep theirs. -/
def setModeOf (mode : Nat) (t : FileTree) (name : Location) : FileTree :=
  match t.get? name with
  | some (.file bytes _) => t.set name (.file bytes mode)
  | some .directory =>
      { t with records := t.records.insert name { t.recordAt name with rights := mode } }
  | _ => t

/-- **Sets the mode of what stands at a location**, under all its names. -/
def setModeAt (t : FileTree) (location : Location) (mode : Nat) : FileTree :=
  (t.namesOf location).foldl (setModeOf mode) t

/-- Puts a new file at a location. It shares its name with no other: a file that stood there keeps
its other names. -/
def putNew (t : FileTree) (location : Location) (bytes : ByteArray) (mode : Nat) : FileTree :=
  let alone : FileTree := { t with twins := t.twins.map (·.filter (· != location)) }
  (alone.set location (.file bytes mode)).stampNew location 0

/-! ## Reading and writing

Only what is well-formed UTF-8 is read as a text. A file is replaced as a whole, and the new one
keeps the mode of the old. -/

def encode (content : Text) : ByteArray := (String.ofList content).toUTF8

def decode? (bytes : ByteArray) : Option Text := (String.fromUTF8? bytes).map String.toList

/-- How many bytes a device without end gives. -/
def deviceLength : Nat := 2097152

/-- The bytes that a device gives: none, or zeros. -/
def deviceBytes (location : Location) : ByteArray :=
  if location.getLast?.any fun name => ["zero", "full", "random", "urandom"].contains (String.ofList name) then
    ⟨Array.replicate deviceLength 0⟩
  else .empty

def readBytes (t : FileTree) (path : Text) : Except FileError ByteArray :=
  match t.find path with
  | .error e => .error e
  | .ok (_, .file bytes _) => .ok bytes
  | .ok (location, .device) => .ok (deviceBytes location)
  | .ok (_, _) => .error .isDirectory

/-- **The text of a file.** -/
def readText (t : FileTree) (path : Text) : Except FileError Text :=
  match t.readBytes path with
  | .error e => .error e
  | .ok bytes =>
      match decode? bytes with
      | none => .error .notText
      | some content => .ok content

/-- The mode of a file that is made anew. -/
def privateMode : Nat := 0o600

/-- **Replaces a file as a whole**, or makes it. The new file takes the place of a link and has the
mode of what the path led to. -/
def replaceFile (t : FileTree) (path : Text) (content : Text) : Except FileError FileTree :=
  match t.locate false path with
  | .error e => .error e
  | .ok ⟨_, some .directory⟩ => .error .isDirectory
  | .ok ⟨location, _⟩ =>
      let mode := match t.find path with
        | .ok (_, .file _ mode) => mode
        | .ok (_, _) => 0o755
        | .error _ => privateMode
      .ok (t.putNew location (encode content) mode)

def setMode (t : FileTree) (path : Text) (mode : Nat) : Except FileError FileTree :=
  (t.find path).map fun (location, _) => t.setModeAt location mode

def makeLink (t : FileTree) (target path : Text) : Except FileError FileTree :=
  match t.locate false path with
  | .error e => .error e
  | .ok ⟨_, some _⟩ => .error .alreadyExists
  | .ok ⟨location, none⟩ => .ok (t.set location (.link target))

/-- The names in the directory that a path leads to. -/
def list (t : FileTree) (path : Text) : Except FileError (List Text) :=
  match t.find path with
  | .error e => .error e
  | .ok (location, .directory) => .ok (t.names location)
  | .ok (_, _) => .error .notDirectory

/-! ## Laws -/

/-- A location other than the root holds what was put there, and all others what they held. -/
theorem get?_set (t : FileTree) {location : Location} (other : Location) (node : Node)
    (h : location ≠ []) :
    (t.set location node).get? other = if location = other then some node else t.get? other := by
  unfold get? set
  by_cases ho : other = []
  · subst ho; simp [h]
  · simp only [List.isEmpty_iff, ho, if_false, Std.TreeMap.getElem?_insert,
      Std.LawfulEqCmp.compare_eq_iff_eq]

/-- A new file stands at its location, and all others hold what they held. -/
theorem get?_putNew (t : FileTree) {location : Location} (other : Location) (bytes : ByteArray)
    (mode : Nat) (h : location ≠ []) :
    (t.putNew location bytes mode).get? other =
      if location = other then some (.file bytes mode) else t.get? other :=
  get?_set t other (.file bytes mode) h

end FileTree

end SwiftExistential
