import SwiftExistential.FileTree.Rights
import SwiftExistential.FileTree.Write
import SwiftExistential.Shell.Glob
import SwiftExistential.Utility.Options

/-!
# Paths and entries

What programs of the shell do with the paths they are given, and what can be said about the file
that a path leads to.

A path is taken apart as a text, without a look at the tree; only `pwd` compares a path with the
directory that it should lead to. An `Entry` is what stands at a location together with all that is
known of it, so that programs that list, copy or test files see the same facts.
-/

set_option autoImplicit false

/-! ## Programs about paths

`basename` and `dirname` print the two parts of a path, its last name and what stands before it.
Slashes at the end of a path do not count. -/

namespace SwiftExistential.Utility

open Process

/-- Turns around choices that begin with a caret, as those with an exclamation mark. -/
def withMarks : Text → Text
  | '\\' :: c :: rest => '\\' :: c :: withMarks rest
  | '[' :: '^' :: rest => '[' :: '!' :: withMarks rest
  | c :: rest => c :: withMarks rest
  | [] => []

/-- Whether a text fits a pattern as those of the shell, where a star also stands for slashes. -/
def fitsPattern (pattern t : Text) : Bool :=
  Shell.Glob.accepts (Shell.Glob.pieces ((withMarks pattern).map fun c => ⟨c, false⟩)) t

/-- A path without slashes at its end. -/
def trimSlashes (path : Text) : Text := (path.reverse.dropWhile (· == '/')).reverse

def lastName (path : Text) : Text :=
  let trimmed := trimSlashes path
  if trimmed.isEmpty then path.take 1 else (Text.splitOn '/' trimmed).getLast?.getD []

/-- A path without its last name. -/
def parentPath (path : Text) : Text :=
  let trimmed := trimSlashes path
  let above := trimSlashes (trimmed.reverse.dropWhile (· != '/')).reverse
  if !above.isEmpty then above
  else if path.head? == some '/' then ['/'] else ['.']

def inside (directory name : Text) : Text :=
  if directory.getLast? = some '/' then directory ++ name else directory ++ '/' :: name

/-- A name without a suffix, unless nothing would be left. -/
def dropSuffix (suffix name : Text) : Text :=
  let short := name.take (name.length - suffix.length)
  if !suffix.isEmpty && !short.isEmpty && short ++ suffix == name then short else name

def basenameOptions : Specification :=
  { name := "basename", letters := "as:z", isMixed := false,
    words := [("multiple", 'a', .none), ("suffix", 's', .one), ("zero", 'z', .none)] }

def basename : Utility := fun _ arguments =>
  withOptions basenameOptions arguments fun g => do
    let put := fun (names : List Text) => do
      Job.put (names.flatMap (· ++ [if g.has 'z' then '\x00' else '\n']))
      pure 0
    if g.has 'a' || g.has 's' then
      if g.operands.isEmpty then misuse basenameOptions "missing operand".toList
      else
        put (g.operands.map fun path => dropSuffix ((g.value? 's').getD []) (lastName path))
    else match g.operands with
      | [] => misuse basenameOptions "missing operand".toList
      | [path] =>
          put [lastName path]
      | [path, suffix] =>
          put [dropSuffix suffix (lastName path)]
      | _ :: _ :: extra :: _ => misuse basenameOptions ("extra operand ".toList ++ cited extra)

def dirnameOptions : Specification := { name := "dirname", letters := "z", words := [("zero", 'z', .none)] }

def dirname : Utility := fun _ arguments =>
  withOptions dirnameOptions arguments fun g => do
    if g.operands.isEmpty then misuse dirnameOptions "missing operand".toList
    else
      Job.put (g.operands.flatMap fun path => parentPath path ++ [if g.has 'z' then '\x00' else '\n'])
      return 0

def pwdOptions : Specification :=
  { name := "pwd", letters := "LP", words := [("logical", 'L', .none), ("physical", 'P', .none)] }

/-- Whether a path is a name of a directory without dots in it. -/
def isNameOf (t : FileTree) (directory : Location) (path : Text) : Bool :=
  path.head? = some '/' && !(Text.splitOn '/' path).any (fun part => part = ['.'] || part = ['.', '.']) &&
    (t.canonicalize (Octets.toText path)).toOption = some directory

def pwd : Utility := fun _ arguments =>
  withOptions pwdOptions arguments fun g => do
    if !g.operands.isEmpty then complain "pwd" "ignoring non-option arguments".toList
    let directory := (← read).directory
    let shown := (← Job.environment? "PWD".toList).filter (isNameOf (← Job.tree) directory)
    Job.putLine (match g.last? "LP", shown with
      | some 'L', some path => path
      | _, _ => Octets.ofText (FileTree.render directory))
    return 0

end SwiftExistential.Utility

/-! ## What stands in a directory

The facts about a file that programs show: its kind, its mode, its sizes, its owner and its times.
-/

namespace SwiftExistential.Utility

open Process

/-- What stands at a location, with what is known of it. -/
structure Entry where
  location : Location
  node : Node
  mode : Nat
  record : Record
  /-- The number of names that it has. -/
  links : Nat

namespace Entry

def make (tree : FileTree) (location : Location) (node : Node) : Entry :=
  let links := match node with
    | .directory =>
        2 + ((tree.names location).filter fun name => tree.get? (location ++ [name]) = some .directory).length
    | _ => (tree.namesOf location).length
  ⟨location, node, tree.modeAt location, tree.recordAt location, links⟩

def find (tree : FileTree) (follow : Bool) (path : Text) : Except FileError Entry :=
  match tree.locate follow (Octets.toText path) with
  | .error e => .error e
  | .ok ⟨_, none⟩ => .error .notFound
  | .ok ⟨location, some node⟩ => .ok (make tree location node)

def letter (e : Entry) : Char :=
  match e.node with
  | .file .. => '-'
  | .directory => 'd'
  | .link _ => 'l'
  | .device => 'c'

def modeLetters (e : Entry) : Text := e.letter :: Rights.letters e.mode

def size (e : Entry) : Nat :=
  match e.node with
  | .file bytes _ => bytes.size
  | .link target => (Octets.ofText target).length
  | .directory => 4096
  | .device => 0

def blocks (e : Entry) : Nat :=
  match e.node with
  | .file bytes _ => (bytes.size + 4095) / 4096 * 4
  | .directory => 4
  | _ => 0

def kind (e : Entry) : Text :=
  (match e.node with
    | .file bytes _ => if bytes.isEmpty then "regular empty file" else "regular file"
    | .link _ => "symbolic link"
    | .directory => "directory"
    | .device => "character special file").toList

/-- The bits of the kind above those of the mode. -/
def kindBits (e : Entry) : Nat :=
  match e.node with
  | .file .. => 0o100000
  | .link _ => 0o120000
  | .directory => 0o040000
  | .device => 0o020000

/-- A number that is the same for all names of a file. -/
def serial (tree : FileTree) (e : Entry) : Nat :=
  let first := ((tree.namesOf e.location).head?).getD e.location
  1000000 + ((tree.entries.keys.findIdx? (· == first)).getD 0)

def isDirectory (e : Entry) : Bool := e.letter == 'd'

end Entry

/-! ### Users

There are few users and groups, and their names and numbers are known. A number without a name is
shown as it is. -/


def knownUsers : List (String × Nat) :=
  [("root", 0), ("daemon", 1), ("bin", 2), ("sys", 3), ("sync", 4), ("games", 5), ("man", 6), ("lp", 7),
    ("mail", 8), ("news", 9), ("uucp", 10), ("proxy", 13), ("www-data", 33), ("backup", 34), ("list", 38),
    ("irc", 39), ("nobody", 65534)]

def knownGroups : List (String × Nat) :=
  [("root", 0), ("daemon", 1), ("bin", 2), ("sys", 3), ("adm", 4), ("tty", 5), ("disk", 6), ("lp", 7),
    ("mail", 8), ("news", 9), ("uucp", 10), ("man", 12), ("proxy", 13), ("kmem", 15), ("dialout", 20),
    ("fax", 21), ("voice", 22), ("cdrom", 24), ("floppy", 25), ("tape", 26), ("sudo", 27), ("audio", 29),
    ("www-data", 33), ("backup", 34), ("operator", 37), ("list", 38), ("irc", 39), ("src", 40),
    ("shadow", 42), ("utmp", 43), ("video", 44), ("sasl", 45), ("plugdev", 46), ("staff", 50), ("games", 60),
    ("users", 100), ("nogroup", 65534)]

def nameIn (known : List (String × Nat)) (n : Nat) : Text :=
  match known.find? fun (_, m) => m = n with
  | some (name, _) => name.toList
  | none => shownNat n

/-- The number that a name or digits stand for. -/
def numberIn? (known : List (String × Nat)) (t : Text) : Option Nat :=
  match known.lookup (String.ofList t) with
  | some n => some n
  | none => if !t.isEmpty && t.all Char.isDigit then some (Number.value 10 t) else none

end SwiftExistential.Utility
