import SwiftExistential.BuildSystem
import SwiftExistential.Invocation
import SwiftExistential.Project
import SwiftExistential.Shell.Execute

/-!
# Toolchains

A toolchain builds a project by commands of the shell, run in the project's root. Paths stand in the
commands as quoted words. A verbose build shows the invocations of the compiler, and they are the
state of the build system.

A package is built by the driver of the compiler, and a bundle by the build tool of the development
environment. A command whose shell ends with one of two statuses could not be run; any other ending
is an output, and whether the command succeeded is a part of it. The lines of a build are sorted,
each once, and those of a single file are not.
-/

set_option autoImplicit false

namespace SwiftExistential

/-- A toolchain for a project. -/
structure Toolchain where
  project : Project
  /-- An application bundle of the development environment, or a directory with `usr/bin/swift`. -/
  directory : Text
  /-- The environment that commands are run with. -/
  environment : List (Text × Text)

namespace Toolchain

def bundledDriver : Text :=
  "Contents/Developer/Toolchains/XcodeDefault.xctoolchain/usr/bin/swift".toList

def exists' (tree : FileTree) (path : Text) : Bool := (tree.find path).toOption.isSome

/-- The driver of the compiler: the one of the directory, or else the one of the bundle. -/
def driver (t : Toolchain) (tree : FileTree) : Text :=
  let standalone := Path.join t.directory "usr/bin/swift".toList
  if exists' tree standalone then standalone else Path.join t.directory bundledDriver

def buildTool (t : Toolchain) : Text :=
  Path.join t.directory "Contents/Developer/usr/bin/xcodebuild".toList

/-- The command of a clean, verbose build. -/
def captureCommand (t : Toolchain) (tree : FileTree) : Text :=
  match t.project.kind with
  | .package =>
      let driver := Shell.quote (t.driver tree)
      driver ++ " package clean && ".toList ++ driver ++ " build -v".toList
  | .xcode =>
      let tool := Shell.quote t.buildTool
      let bundle := Shell.quote t.project.path
      tool ++ " clean -project ".toList ++ bundle ++ "; ".toList ++ tool ++ " -project ".toList ++
        bundle

/-- The command of a build with the feature switched on. A failed build of a bundle is tried again
after a clean. -/
def buildCommand (t : Toolchain) (tree : FileTree) : Text :=
  match t.project.kind with
  | .package =>
      Shell.quote (t.driver tree) ++
        " build -Xswiftc -enable-upcoming-feature -Xswiftc ExistentialAny".toList
  | .xcode =>
      let tool := Shell.quote t.buildTool
      let build := tool ++
        " OTHER_SWIFT_FLAGS='-DDEBUG -enable-upcoming-feature ExistentialAny' -project ".toList ++
        Shell.quote t.project.path
      build ++ " || (".toList ++ tool ++ " clean && ".toList ++ build ++ ")".toList

/-- The command that records the state of the project. -/
def checkpointCommand : Text := "git add .".toList

/-- **Runs a command in the project's root.** Its messages go with its output. A status of 126 or
127 means that the shell could not run a program. -/
def runCommand (t : Toolchain) (command : Text) (tree : FileTree) :
    Except RunnerError BuildOutput × FileTree :=
  match tree.find t.project.root with
  | .error cause => (.error (.spawn command cause), tree)
  | .ok (location, .directory) =>
      let source := '(' :: command ++ ") 2>&1".toList
      let outcome := Shell.execute t.environment tree location source
      let result := match outcome.status with
        | some 126 => .error (.notRunnable command 126)
        | some 127 => .error (.notRunnable command 127)
        | status => .ok ⟨status == some 0, Text.printedLines (Text.decode outcome.output)⟩
      (result, outcome.tree)
  | .ok _ => (.error (.spawn command .notDirectory), tree)

/-- Runs a clean, verbose build and keeps the invocations that it shows. Returns their number. -/
def capture (t : Toolchain) : BuildStep (List Text) Nat := fun captured tree =>
  match t.runCommand (t.captureCommand tree) tree with
  | (.error e, tree') => (.error e, captured, tree')
  | (.ok output, tree') =>
      let found := Invocation.capture output.lines
      (.ok found.length, found, tree')

/-- **The build system of a toolchain.** The output of a build is sorted, each line once. -/
def system (t : Toolchain) : BuildSystem (List Text) where
  build := fun captured tree =>
    let (result, tree') := t.runCommand (t.buildCommand tree) tree
    (result.map fun o => { o with lines := Text.sortDistinct o.lines }, captured, tree')
  compile := fun command captured tree =>
    let (result, tree') := t.runCommand command tree
    (result, captured, tree')
  checkpoint := fun captured tree =>
    match t.runCommand checkpointCommand tree with
    | (.error e, tree') => (.error e, captured, tree')
    | (.ok output, tree') =>
        if output.success then (.ok (), captured, tree')
        else (.error (.checkpoint (Text.join ['\n'] output.lines)), captured, tree')
  invocations := id

end Toolchain

end SwiftExistential
