import SwiftExistential.FileTree.Write
import SwiftExistential.Shell.Run
import SwiftExistential.Utility.Table

/-!
# Executing programs

A program is a file that may be run. It is one of the system, or a script that names its interpreter
in its first line; all others are read by a shell, unless they look like no text at all.

Programs start shells, and shells start programs: `runAt` and `executeAt` are defined together, by
how deep they may stand in each other. All other parts of the shell take the two as parameters and
know nothing of the depth.

`execute` is what others use of the shell. It starts with a tree, an environment and a directory,
and returns the status, the output and the new tree.
-/

set_option autoImplicit false

namespace SwiftExistential.Shell

open Process

/-- The interpreter that the first line of a script names, and what it gets before the script. -/
def interpreter? (content : Text) : Option (Text × List Text) :=
  match content with
  | '#' :: '!' :: rest =>
      let isBlank := fun (c : Char) => c == ' ' || c == '\t'
      let line := ((rest.takeWhile (· != '\n')).take 254).dropWhile isBlank
      let path := line.takeWhile fun c => !isBlank c
      let argument := (((line.drop path.length).dropWhile isBlank).reverse.dropWhile isBlank).reverse
      if path.isEmpty then none
      else some (path, if argument.isEmpty then [] else [argument])
  | _ => none

/-- Whether a file is no script at all: there is a zero in its first line. -/
def isStrange (content : Text) : Bool :=
  ((content.take 256).takeWhile (· != '\n')).contains '\x00'

/-- The shell that reads scripts which name no interpreter. -/
def commonShell : Text := "/bin/sh".toList

/-- Whether someone may run a file of a mode. -/
def isExecutable (mode : Nat) : Bool := (mode &&& 0o111) != 0

/-- Runs the program of a name, which its file says something about. -/
def runNamed (run : Runner) (launch : Launch) (name : Text) (sayings arguments : List Text) :
    Job (Except StartError Ending) := do
  if Utility.shellNames.contains (String.ofList name) then return .ok (← start run arguments)
  else match Utility.find? name with
    | none => return .error .strange
    | some utility =>
        let job := withReader (fun seat : Seat =>
          { seat with title := arguments.headD [], sayings := sayings })
          (utility launch arguments.tail)
        match ← job with
        | .exited status => return .ok (.exited (status % 256))
        | killed => return .ok killed

/-- Finds the program that a first argument names. -/
def searchPath (name : Text) : Job (Except StartError Text) := do
  if name.isEmpty then return .error .missing
  else if name.contains '/' then return .ok name
  else
    let tree ← Job.tree
    let places := Text.splitOn ':' ((← Job.environment? "PATH".toList).getD "/bin:/usr/bin".toList)
    let candidates := places.map fun d => if d.isEmpty then name else d ++ '/' :: name
    let modes := candidates.filterMap fun path =>
      match tree.find (Octets.toText path) with
      | .ok (_, .file _ mode) => some (path, isExecutable mode)
      | .ok (_, .directory) => some (path, false)
      | _ => none
    match modes.find? Prod.snd with
    | some (path, _) => return .ok path
    | none => return .error (if modes.isEmpty then .missing else .denied)

mutual

/-- How commands run in shells that may stand so deep in each other. -/
def runAt : Nat → Runner
  | 0 => fun _ _ => throw (.killed 11)
  | depth + 1 => stepWithSignals (runAt depth) (executeAt depth)

/-- How programs run that may stand so deep in each other. -/
def executeAt : Nat → Executor
  | 0 => fun _ _ => return .error .strange
  | depth + 1 => fun path arguments => do
      match ← Job.find path with
      | .error _ => return .error .missing
      | .ok (_, .file bytes mode) =>
          let launch : Launch := fun arguments => do
            match ← searchPath (arguments.headD []) with
            | .error e => return .error e
            | .ok path => executeAt depth path arguments
          if !isExecutable mode then return .error .denied
          else match FileTree.program? bytes with
            | some (name, sayings) => runNamed (runAt depth) launch name sayings arguments
            | none =>
                let content := Octets.ofArray (bytes.extract 0 256)
                match interpreter? content with
                | some (interpreter, before) =>
                    executeAt depth interpreter (interpreter :: before ++ path :: arguments.tail)
                | none =>
                    if isStrange content then return .error .strange
                    else executeAt depth commonShell (commonShell :: path :: arguments.tail)
      | .ok _ => return .error .denied

end

/-- How deep programs and commands may stand in each other. -/
def maxDepth : Nat := 30000

/-- What a script did. -/
structure Outcome where
  /-- The status, if no signal ended the shell. -/
  status : Option Nat
  output : ByteArray
  tree : FileTree

/-- The channels that a script starts with: no input, an output that is kept, and messages that are
dropped. -/
def initialMachine (tree : FileTree) : Machine :=
  { tree := tree, channels := #[.null, .pipe .empty 0, .null], processes := 1, signals := [],
    background := none, late := #[], waiting := [], isFull := false,
    deadline := none, snapshot := none }

/-- **Runs a script** in a directory, with variables for it and for the programs it calls. Its
output is collected, its messages are not. -/
def execute (environment : List (Text × Text)) (tree : FileTree) (directory : Location)
    (source : Text) : Outcome :=
  let seat : Seat :=
    { directory := directory, descriptors := [(0, 0), (1, 1), (2, 2)],
      environment := environment.map fun (name, value) => (Octets.ofText name, Octets.ofText value),
      number := 1, process := 1, mask := 0o022 }
  let job := start (runAt maxDepth) ["sh".toList, "-c".toList, Octets.ofText source]
  let (ending, ended) := (job.run seat).run (initialMachine tree)
  let machine := ended.close 1
  let status := match ending with
    | .exited status => some status
    | .killed _ => none
  ⟨status, (machine.remaining 1).toOption.getD .empty, { machine.tree with current := tree.current }⟩

end SwiftExistential.Shell
