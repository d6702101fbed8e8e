import SwiftExistential.FileTree.Basic

/-!
# Projects

The project that a path stands for: a package with its manifest, or a project bundle, told by its
extension. A directory stands for the package whose manifest it holds.

The path is made canonical first, so a link to a project is the project that it leads to. The root
of a project is the directory that holds its manifest or its bundle: commands run there, and the
files below it are those of the project. A path that is neither is refused, and so is one that leads
nowhere.
-/

set_option autoImplicit false

namespace SwiftExistential

/-- What builds the project. -/
inductive ProjectKind where
  /-- The package manager, from a manifest. -/
  | package
  /-- The development environment, from a project bundle. -/
  | xcode
deriving DecidableEq, Repr

/-- A project to migrate. -/
structure Project where
  kind : ProjectKind
  /-- The manifest or the bundle. -/
  path : Text
  /-- The directory that the build runs in. -/
  root : Text
  name : Text
deriving DecidableEq, Repr

namespace Project

/-- Why a path stands for no project. -/
inductive Error where
  | notFound (path : Text) (cause : FileError)
  | unsupported (path : Text)
deriving DecidableEq, Repr

def Error.message : Error → String
  | notFound path _ => "Project path does not exist: " ++ String.ofList path
  | unsupported path =>
      "Not a Package.swift, .xcodeproj or package directory: " ++ String.ofList path

def manifestName : Text := "Package.swift".toList

def bundleExtension : Text := "xcodeproj".toList

/-- The project that a canonical path to a manifest or bundle stands for. -/
def ofCanonical (path : Text) : Except Error Project :=
  match Path.parent? path with
  | none => .error (.unsupported path)
  | some root =>
      if Path.fileName? path = some manifestName then
        .ok ⟨.package, path, root, (Path.fileName? root).getD []⟩
      else if Path.extension? path = some bundleExtension then
        .ok ⟨.xcode, path, root, (Path.fileStem? path).getD []⟩
      else .error (.unsupported path)

/-- **The project that a path stands for.** -/
def resolve (tree : FileTree) (path : Text) : Except Error Project :=
  match tree.canonicalize path with
  | .error cause => .error (.notFound path cause)
  | .ok location =>
      let canonical := FileTree.render location
      let manifest := Path.join canonical manifestName
      if tree.isDirectory canonical && tree.isFile manifest then
        match tree.canonicalize manifest with
        | .error cause => .error (.notFound manifest cause)
        | .ok inner => ofCanonical (FileTree.render inner)
      else ofCanonical canonical

end Project

end SwiftExistential
