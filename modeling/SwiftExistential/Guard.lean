import SwiftExistential.FileTree.Basic

/-!
# Which files may be patched

Diagnostics can name any file: one of the project, one of a checked-out dependency, or one of the
toolchain. The guard admits the first two. All comparisons are made on canonical locations, so that
no link leads around them.

A file of a checkout is admitted wherever it is, and is told apart as a file of its package. Any
other file has to lie in the project, and in none of the forbidden directories: the toolchain, and
what was downloaded of others.
-/

set_option autoImplicit false

namespace SwiftExistential

open SwiftExistential.Path (Component)

/-! ## Dependency checkouts

A checkout is told by two directories, one in the other, and the name of a package in them. The
outermost one counts. -/

def checkoutParents : List Text := [".build".toList, "SourcePackages".toList]

/-- Whether three components in a row are a package in a directory of checkouts. -/
def isCheckout (holder middle package : Component) : Bool :=
  middle.text == "checkouts".toList && checkoutParents.contains holder.text &&
    match package with
    | .named _ => true
    | _ => false

def packageComponents? : List Component → Option (List Component)
  | a :: b :: c :: rest =>
      if isCheckout a b c then some [a, b, c]
      else (packageComponents? (b :: c :: rest)).map (a :: ·)
  | _ => none

/-- **The package that a file belongs to**, if it lies in a checkout. -/
def dependencyPackage? (path : Text) : Option Text :=
  (packageComponents? (Path.components path)).map Path.ofComponents

def packageManifest (package : Text) : Text := Path.join package "Package.swift".toList

/-! ## The guard

The guard is made once for a project, from directories that are canonical themselves. A directory
that cannot be found forbids nothing. -/

/-- Where an admitted file lives. -/
inductive FileOwner where
  | project
  /-- In the checkout of this package. -/
  | dependency (package : Text)
deriving DecidableEq, Repr

def FileOwner.manifest? : FileOwner → Option Text
  | project => none
  | dependency package => some (packageManifest package)

/-- Why a file is not admitted. -/
inductive GuardError where
  | outsideProject (path project : Location)
  | forbidden (path directory : Location)
  /-- The path leads nowhere. -/
  | unresolved (cause : FileError)
deriving DecidableEq, Repr

def GuardError.message : GuardError → String
  | outsideProject path project =>
      "Path is outside project: " ++ String.ofList (FileTree.render path) ++ " (project: " ++
        String.ofList (FileTree.render project) ++ ")"
  | forbidden path directory =>
      "Path is in forbidden directory: " ++ String.ofList (FileTree.render path) ++
        " (forbidden: " ++ String.ofList (FileTree.render directory) ++ ")"
  | unresolved cause => "Failed to canonicalize path: " ++ cause.message

/-- The canonical root of a project and the directories in which nothing may be changed. -/
structure Guard where
  root : Location
  forbidden : List Location
deriving DecidableEq, Repr

namespace Guard

/-- Where downloaded toolchains live, below the home directory. -/
def downloadedToolchains : Text := "Library/Developer/Toolchains".toList

/-- The forbidden directories that exist: the toolchain, the downloaded toolchains, and the products
of the build. -/
def forbiddenDirectories (tree : FileTree) (root : Location) (home toolchain : Option Text) :
    List Location :=
  [toolchain, home.map (Path.join · downloadedToolchains),
    -- The checkouts in here are admitted all the same, since they are told apart before.
    some (Path.join (FileTree.render root) ".build".toList)].filterMap fun path =>
      path.bind fun p => (tree.canonicalize p).toOption

def make (tree : FileTree) (home : Option Text) (project : Text) (toolchain : Option Text) :
    Except GuardError Guard :=
  match tree.canonicalize project with
  | .error cause => .error (.unresolved cause)
  | .ok root => .ok ⟨root, forbiddenDirectories tree root home toolchain⟩

/-- **Admits a file or refuses it.** A relative path is taken below the root of the project. A file
of a checkout is admitted wherever the checkout is. -/
def validate (guard : Guard) (tree : FileTree) (path : Text) :
    Except GuardError (Location × FileOwner) :=
  match tree.canonicalize (Path.join (FileTree.render guard.root) path) with
  | .error cause => .error (.unresolved cause)
  | .ok location =>
      match dependencyPackage? (FileTree.render location) with
      | some package => .ok (location, .dependency package)
      | none =>
          if !guard.root.isPrefixOf location then .error (.outsideProject location guard.root)
          else
            match guard.forbidden.find? (·.isPrefixOf location) with
            | some directory => .error (.forbidden location directory)
            | none => .ok (location, .project)

end Guard

/-- The mode of a file that its owner may write. -/
def writableMode : Nat := 0o644

/-- Makes a file writable; the files of a checkout are not. -/
def makeWritable (tree : FileTree) (path : Text) : Except FileError FileTree :=
  tree.setMode path writableMode

end SwiftExistential
