import SwiftExistential.Edit
import SwiftExistential.FileTree.Basic

/-!
# Source files

A file that is read once, edited in memory and written back as a whole, and only if its text differs
from the one that was read.

The text that was read is kept beside the one in memory. A commit compares the two and writes
nothing if they are the same; it does not look at what is on disk, and it does not change the text
that was read. A file that is no text cannot be read.
-/

set_option autoImplicit false

namespace SwiftExistential

/-- The text of a file, as it was read and as it is now. -/
structure SourceFile where
  path : Text
  loaded : Text
  content : Text
deriving DecidableEq, Repr

/-- Why a file cannot be read. -/
structure SourceFile.ReadError where
  path : Text
  cause : FileError
deriving DecidableEq, Repr

def SourceFile.ReadError.message (e : ReadError) : String :=
  "Cannot read " ++ String.ofList e.path ++ ": " ++ e.cause.message

namespace SourceFile

def ofText (path content : Text) : SourceFile := ⟨path, content, content⟩

def read (tree : FileTree) (path : Text) : Except ReadError SourceFile :=
  match tree.readText path with
  | .error cause => .error ⟨path, cause⟩
  | .ok content => .ok (ofText path content)

def setContent (file : SourceFile) (content : Text) : SourceFile := { file with content := content }

/-- Applies an edit to the text in memory. A refused edit changes nothing. -/
def apply (file : SourceFile) (edit : Edit) : SourceFile × Except EditError EditResult :=
  match edit.apply file.content with
  | .ok (result, content) => (file.setContent content, .ok result)
  | .error e => (file, .error e)

def isModified (file : SourceFile) : Bool := file.content != file.loaded

/-- **Writes the text back** if it differs from the one that was read. Returns the tree and whether
it was written. -/
def commit (file : SourceFile) (tree : FileTree) : Except FileError (FileTree × Bool) :=
  if file.isModified then (tree.replaceFile file.path file.content).map fun t => (t, true)
  else .ok (tree, false)

end SourceFile

end SwiftExistential
