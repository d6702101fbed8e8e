import SwiftExistential.Text.Basic

/-!
# Paths

A path is a text; what it means is its list of components. Empty parts and inner dots mean nothing,
so `a//b`, `a/./b` and `a/b/` are the same path, while a leading dot and the parent `..` are kept.
Paths are compared component by component.

All of this looks at the text alone. What a path leads to in a file tree, and which links are on its
way, is a matter of the tree. File names, stems and extensions are those of the last component, and
a path seen from another one is what is left of its components.
-/

set_option autoImplicit false

namespace SwiftExistential.Path

/-- One step of a path. The order of the constructors is the order of the steps. -/
inductive Component where
  /-- The root directory. -/
  | root
  /-- A dot at the start. -/
  | current
  /-- Two dots. -/
  | parent
  | named (name : Text)
deriving DecidableEq, Ord, Repr

def Component.text : Component → Text
  | root => ['/']
  | current => ['.']
  | parent => ['.', '.']
  | named name => name

/-- Whether the path starts at the root directory. -/
def isAbsolute (path : Text) : Bool := path.head? == some '/'

/-- The component for a part that means something. -/
def component? (part : Text) : Option Component :=
  if part = [] ∨ part = ['.'] then none
  else if part = ['.', '.'] then some .parent
  else some (.named part)

/-- **The components of a path.** -/
def components (path : Text) : List Component :=
  let parts := Text.splitOn '/' path
  let inner := parts.filterMap component?
  if isAbsolute path then .root :: inner
  else if parts.head? = some ['.'] then .current :: inner
  else inner

/-- Puts a path behind another one. An absolute path replaces it. -/
def join (base path : Text) : Text :=
  if isAbsolute path then path
  else if base.isEmpty || base.getLast? = some '/' then base ++ path
  else base ++ '/' :: path

/-- The plain text of a list of components. -/
def ofComponents (cs : List Component) : Text := cs.foldl (fun acc c => join acc c.text) []

def le (a b : Text) : Bool := (compare (components a) (components b)).isLE

def fileName? (path : Text) : Option Text :=
  match (components path).getLast? with
  | some (.named name) => some name
  | _ => none

/-- Drops separators at the end, and dots that mean nothing there. The text is reversed. -/
def dropEmptyParts : Text → Text
  | '/' :: rest => if rest.isEmpty then ['/'] else dropEmptyParts rest
  | '.' :: '/' :: rest => dropEmptyParts ('/' :: rest)
  | t => t

/-- The text of a path without its last component. The root and the empty path have none. -/
def parent? (path : Text) : Option Text :=
  match (components path).getLast? with
  | none => none
  | some .root => none
  | some _ =>
      let trimmed := dropEmptyParts path.reverse
      some (dropEmptyParts (trimmed.dropWhile (· != '/'))).reverse

/-- The parts of a name before and after its last dot. A dot at the start parts nothing. -/
def splitName (name : Text) : Text × Option Text :=
  let back := name.reverse
  let ending := back.takeWhile (· != '.')
  match back.dropWhile (· != '.') with
  | [] => (name, none)
  | _ :: stem => if stem.isEmpty then (name, none) else (stem.reverse, some ending.reverse)

/-- The ending of the last name, without its dot. -/
def extension? (path : Text) : Option Text := (fileName? path).bind fun name => (splitName name).2

/-- The last name without its ending. -/
def fileStem? (path : Text) : Option Text := (fileName? path).map fun name => (splitName name).1

/-- The rest of a path below a base. -/
def relativeTo? (path base : Text) : Option Text :=
  let cs := components path
  let bs := components base
  if bs.isPrefixOf cs then some (ofComponents (cs.drop bs.length)) else none

end SwiftExistential.Path
