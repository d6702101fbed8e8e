import SwiftExistential.FileTree.Basic

/-!
# Build systems

What the verification needs of a build: to run it, to compile one file, and to record the state of
the project before its first change. A build system has a state of its own and may change the file
tree, and nothing else is assumed of it.

So a build may succeed or fail as it likes, print anything, or not run at all; the three calls may
even depend on each other through the state. What is said about a verification is then said about
all of them, and the toolchain that runs real commands is one instance. The invocations are read off
the state, since a build shows them on its way.
-/

set_option autoImplicit false

namespace SwiftExistential

/-- What a command printed, and whether it succeeded. -/
structure BuildOutput where
  success : Bool
  lines : List Text
deriving DecidableEq, Repr

/-- Why a command has no output. -/
inductive RunnerError where
  /-- No process could be started. -/
  | spawn (command : Text) (cause : FileError)
  /-- The shell found no program to run, or could not run it. -/
  | notRunnable (command : Text) (code : Nat)
  /-- The state of the project could not be recorded. -/
  | checkpoint (output : Text)
deriving DecidableEq, Repr

def RunnerError.message : RunnerError → String
  | spawn command cause =>
      "Failed to spawn `" ++ String.ofList command ++ "`: " ++ cause.message
  | notRunnable command code =>
      "`" ++ String.ofList command ++ "` could not be executed (exit status " ++
        toString code ++ ")"
  | checkpoint output => "Checkpoint failed: " ++ String.ofList output

/-- A step of a build system: a result, its new state and the new file tree. -/
abbrev BuildStep (σ α : Type) := σ → FileTree → Except RunnerError α × σ × FileTree

/-- A way to build a project, with a state of type `σ`. -/
structure BuildSystem (σ : Type) where
  /-- Builds the whole project. An error means that the build could not be run. -/
  build : BuildStep σ BuildOutput
  /-- Runs one invocation of the compiler. -/
  compile : Text → BuildStep σ BuildOutput
  /-- Records the state of the project. -/
  checkpoint : BuildStep σ Unit
  /-- The invocations that compile one file each. -/
  invocations : σ → List Text

end SwiftExistential
