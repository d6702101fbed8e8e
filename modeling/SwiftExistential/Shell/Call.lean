import SwiftExistential.Shell.Builtin.Lookup
import SwiftExistential.Shell.Builtin.Variables
import SwiftExistential.Shell.Redirect

/-!
# Calls

A simple command has a name and arguments, and its name stands for a function, for a command of the
shell or for a program. This module finds which, and runs each of them.

The order in which a simple command is carried out matters: its words are expanded first, its
redirections come next, then its assignments, and what its name stands for runs at last. What was
changed for the command alone is put back behind it, however it ends. Commands that fail may end the
shell, but only those with a special standing do.
-/

set_option autoImplicit false

/-! ## What names stand for

A name stands for a function, for a command of the shell or for a program. This file finds which,
and runs each of them with arguments that are ready. -/

namespace SwiftExistential.Shell

open Process

section

variable (run : Runner)

/-! ### Functions and commands of the shell

A function runs in the shell that calls it, with arguments of its own. Some commands of the shell
need to run commands and so are defined here and not with the others. -/

/-- The most functions that may call each other. -/
def maxCalls : Nat := 1000

def runFunction (flags : Flags) (body : Command) (arguments : List Text) : Action Nat := do
  let before ← Action.ask id
  if before.calls ≥ maxCalls then
    Action.fail ["Maximum function recursion depth (1000) reached".toList]
  Action.change fun s =>
    { s with arguments := arguments, loops := 0, calls := before.calls + 1, cursor := ⟨1, 0⟩ }
  let result ← attempt (run { flags with isLast := false } body)
  Action.change fun s =>
    { s with
      arguments := before.arguments, loops := before.loops, calls := before.calls, cursor := before.cursor }
  match result with
  | .ok status => return status
  | .error .return' => Action.ask (·.status)
  | .error e => throw e

def scriptBytes (tree : FileTree) (path : Text) : Except FileError ByteArray :=
  if tree.isDirectory (Octets.toText path) then .ok .empty else tree.readBytes (Octets.toText path)

/-- Runs the script of a file in this shell. -/
def runDot (arguments : List Text) : Action Nat := do
  match arguments with
  | [] => return 0
  | name :: _ =>
      let tree ← Action.tree
      let path ←
        if name.contains '/' then pure name
        else do
          let places := Text.splitOn ':' ((← Action.value? "PATH".toList).getD [])
          let candidates := places.map fun d => if d.isEmpty then name else d ++ '/' :: name
          match candidates.find? fun path => tree.isFile (Octets.toText path) with
          | some path => pure path
          | none => Action.fail [name, "not found".toList]
      match scriptBytes tree path with
      | .error e => Action.fail ["cannot open ".toList ++ path, openReason false e]
      | .ok bytes =>
          Action.change fun s => { s with speaker := some path }
          match ← attempt (runText run ⟨false, false⟩ (Octets.ofArray bytes)) with
          | .ok status => return status
          | .error .return' => Action.ask (·.status)
          | .error e => throw e

def leaveLoops (stop : Nat → Stop) (arguments : List Text) : Action Nat := do
  let n ← match arguments.head? with
    | some t => do
        let n ← Builtin.number t
        if n = 0 then Action.illegalNumber t else pure n
    | none => pure 1
  match min n (← Action.ask (·.loops)) with
  | 0 => return 0
  | n =>
      Action.setStatus 0
      throw (stop n)

def givenStatus (arguments : List Text) : Action Unit := do
  if let some t := arguments.head? then Action.setStatus (← Builtin.number t)

/-- Says what names stand for, or does nothing. Other uses of `command` are taken apart before. -/
def describeCommand (arguments : List Text) : Action Nat := do
  let (options, names) ← Builtin.readOptions "pvV" arguments
  match names.head? with
  | none => return 0
  | some name =>
      match options.find? fun (c, _) => c == 'v' || c == 'V' with
      | some (c, _) => Builtin.describe (c == 'v') name
      | none => return 0

/-- **The command of the shell of a name.** -/
def builtin? (flags : Flags) (name : Text) : Option Builtin.Handler :=
  match String.ofList name with
  | ":" | "true" => some fun _ => return 0
  | "bg" | "fg" => some fun _ => Action.fail ["No current job".toList]
  | "ulimit" => some fun _ => Builtin.putLines ["unlimited".toList]
  | "false" => some fun _ => return 1
  | "." => some (runDot run)
  | "[" | "test" => some (Builtin.test name)
  | "alias" => some Builtin.alias'
  | "break" => some (leaveLoops .leave)
  | "cd" | "chdir" => some Builtin.cd
  | "command" => some describeCommand
  | "continue" => some (leaveLoops .again)
  | "echo" => some Builtin.echo
  | "eval" => some fun arguments =>
      runText run { flags with isLast := false } (Text.join [' '] arguments)
  | "exec" => some fun _ => return 0
  | "exit" => some fun arguments => do
      givenStatus arguments
      throw .exit
  | "export" => some Builtin.export'
  | "getopts" => some Builtin.getopts
  | "hash" => some Builtin.hash
  | "jobs" => some Builtin.jobs
  | "kill" => some Builtin.kill
  | "local" => some Builtin.local'
  | "printf" => some Builtin.printf
  | "pwd" => some Builtin.pwd
  | "read" => some Builtin.read
  | "readonly" => some Builtin.readonly
  | "return" => some fun arguments => do
      givenStatus arguments
      throw .return'
  | "set" => some Builtin.set'
  | "shift" => some Builtin.shift
  | "times" => some Builtin.times
  | "trap" => some Builtin.trap
  | "type" => some Builtin.type
  | "umask" => some Builtin.umask
  | "unalias" => some Builtin.unalias
  | "unset" => some Builtin.unset
  | "wait" => some (Builtin.wait (waitFor run))
  | _ => none

/-- Runs a command of the shell. Its failure ends the shell only if it is a special one. -/
def runBuiltin (isSpecial : Bool) (name : Text) (builtin : Builtin.Handler) (arguments : List Text) :
    Action Nat := do
  let speaker ← Action.ask (·.speaker)
  Action.change fun s => { s with speaker := some name }
  let result ← attempt (builtin arguments)
  Action.change fun s => { s with speaker := speaker }
  match result with
  | .ok status => return status
  | .error .failure => if isSpecial then throw .failure else Action.ask (·.status)
  | .error e => throw e

/-! ### Programs

A program gets the variables that are exported and the descriptors of the shell. A file that cannot
be started is reported, and the status says whether it is missing or not allowed. -/

variable (execute : Executor)

def reportStart (name : Text) : StartError → Action Nat
  | .missing => do
      Action.complain [name, "not found".toList]
      return 127
  | .denied => do
      Action.complain [name, "Permission denied".toList]
      return 126
  | .strange => do
      Action.complain [name, "Exec format error".toList]
      return 126

/-- Runs a program at a path from the seat of the shell. -/
def startProgram (path : Text) (arguments : List Text) : Action (Except StartError Ending) := do
  let s ← get
  let (result, machine) := ((execute path arguments).run (Action.programSeat s.shell)).run s.machine
  set { s with machine := machine }
  return result

def findProgram (name : Text) : Action (Except Nat Text) := do
  if name.contains '/' then return .ok name
  else match ← searchProgram name with
    | .program path =>
        Action.track name
        return .ok path
    | .denied =>
        Action.complain [name, "Permission denied".toList]
        return .error 127
    | .missing =>
        Action.complain [name, "not found".toList]
        return .error 127

def runProgram (flags : Flags) (name : Text) (arguments : List Text) : Action Nat := do
  match ← findProgram name with
  | .error status => return status
  | .ok path =>
      pass run (programTime + if flags.isLast then 0 else forkTime + startTime)
      runDue run (sleepTime name arguments)
      match ← startProgram execute path (name :: arguments) with
      | .error e => reportStart name e
      | .ok ending =>
          if flags.isLast && !(← hasTraps) then endAs ending
          else settle ending

def runExec (arguments : List Text) : Action Nat := do
  match arguments with
  | [] => return 0
  | name :: rest =>
      let speaker ← Action.ask (·.speaker)
      Action.change fun s => { s with speaker := some "exec".toList }
      let status ← match ← findProgram name with
        | .error status => pure status
        | .ok path =>
            pass run programTime
            runDue run (sleepTime name rest)
            match ← startProgram execute path (name :: rest) with
            | .error e => reportStart name e
            | .ok ending =>
                Action.change fun s => { s with traps := [] }
                endAs ending
      Action.change fun s => { s with speaker := speaker }
      Action.setStatus status
      throw .exit

/-! ### Targets

The target of a name is found before anything runs, since assignments and redirections are treated
differently for different targets. -/

/-- What a name stands for when it is run. -/
inductive Target where
  | nothing
  | function (body : Command)
  | builtin (isSpecial : Bool) (command : Builtin.Handler)
  | exec
  | program

def target (flags : Flags) (skipsFunctions : Bool) (name : Text) : Action Target := do
  let functions ← Action.ask (·.functions)
  match (if skipsFunctions then none else functions[name]?) with
  | some body => return .function body
  | none =>
      if name = "exec".toList then return .exec
      else match builtin? run flags name with
        | some command => return .builtin (isSpecialBuiltin name && !skipsFunctions) command
        | none => return .program

end

end SwiftExistential.Shell

/-! ## Simple commands

The words of a simple command are expanded, then its redirections are carried out and its variables
set. What its name stands for runs last, and what was changed for it alone is put back. -/

namespace SwiftExistential.Shell

open Process

section

variable (run : Runner) (execute : Executor)

/-- Expands words until there is a first field. Returns the fields and the words that are left. -/
def expandFirst : List Word → Action (List Text × List Word)
  | [] => return ([], [])
  | word :: rest => do
      match ← expandFields (substitute run) word with
      | [] => expandFirst rest
      | fields => return (fields, rest)

/-- The name of a command behind `command` and its options, if they only ask for programs and
commands of the shell. The flag says whether there was such a start. -/
def behindCommand : Nat → List Text → Bool × List Text
  | fuel + 1, first :: rest =>
      if first = "command".toList then
        let rest := rest.dropWhile (· = "-p".toList)
        let rest := if rest.head? = some "--".toList then rest.drop 1 else rest
        match rest with
        | [] => (false, [first])
        | ('-' :: _ :: _) :: _ => (false, first :: rest)
        | rest => (true, (behindCommand fuel rest).2)
      else (false, first :: rest)
  | _, fields => (false, fields)

/-- Expands the words behind the first field. Arguments of the form of an assignment are not split
if the command takes assignments. -/
def expandArguments (takesAssignments : Bool) : List Word → Action (List Text)
  | [] => return []
  | word :: rest => do
      let first ← match (if takesAssignments then word.assignment? else none) with
        | some (name, value) => do
            pure [name ++ '=' :: (← expandValue (substitute run) value)]
        | none => expandFields (substitute run) word
      return first ++ (← expandArguments takesAssignments rest)

def takesAssignments (name : Text) : Bool :=
  ["export", "readonly", "local", "alias"].contains (String.ofList name)

/-- Sets the variables of assignments. In a frame they are put back at its end, and programs get
them. Returns them as they are shown. -/
def assignWords (isFramed isExported : Bool) : List Word → Action (List Text)
  | [] => return []
  | word :: rest => do
      match word.assignment? with
      | none => assignWords isFramed isExported rest
      | some (name, valueWord) =>
          let value ← expandValue (substitute run) valueWord
          if isFramed then Action.remember name
          Action.assign name value
          if isFramed || isExported then
            Action.putEntry name { ← Action.entry name with isExported := true }
          return (name ++ '=' :: value) :: (← assignWords isFramed isExported rest)

/-- Shows a command before it runs, if that is asked for. -/
def trace (seat : Seat) (shown : List Text) : Action Unit := do
  if (← Action.isOn 'x') && !shown.isEmpty then
    let start := (← Action.value? "PS4".toList).getD []
    if let some index := seat.channel? 2 then
      modify fun s => { s with
        machine := s.machine.write index (start ++ Text.join [' '] shown ++ ['\n']) }

def runSimple (flags : Flags) (line : Nat) (assignments words : List Word)
    (redirections : List Redirection) : Action Nat := do
  Action.change fun s => { s with line := line, substituted := 0 }
  let (first, others) ← expandFirst run words
  let (skipsFunctions, named) := behindCommand (first.length + 1) first
  let (first, others, skipsFunctions) ←
    if first = ["command".toList] then do
      let more ← expandArguments run false others
      let (skips, fields) := behindCommand (more.length + 2) (first ++ more)
      pure (fields, [], skips)
    else pure (named, others, skipsFunctions)
  let name := first.headD []
  let fields := first ++
    (← expandArguments run (first.length = 1 && takesAssignments name) others)
  let target ← if fields.isEmpty then pure Target.nothing
    else target run flags skipsFunctions name
  let isSpecial := match target with
    | .builtin isSpecial _ => isSpecial
    | .exec => !skipsFunctions
    | _ => false
  let isFramed := match target with
    | .nothing | .exec => false
    | .builtin isSpecial _ => !isSpecial
    | _ => true
  let resolved ← resolveAll run redirections
  let seat ← Action.ask (·.seat)
  if isFramed then Action.pushFrame
  let body : Action Nat := do
    if !(← redirectSafely run resolved) then
      if isSpecial then throw .failure else return 2
    else
      let isExported := match target with
        | .exec => fields.length > 1
        | _ => false
      let shown ← assignWords run isFramed isExported assignments
      trace seat (shown ++ fields)
      match target with
      | .nothing => Action.ask (·.substituted)
      | .function body => runFunction run flags body fields.tail
      | .builtin isSpecial command => runBuiltin isSpecial name command fields.tail
      | .exec => runExec run execute fields.tail
      | .program => runProgram run execute flags name fields.tail
  let keepsSeat := match target with
    | .exec => true
    | _ => false
  finally' body do
    if !keepsSeat && !redirections.isEmpty then restoreSeat seat
    if isFramed then Action.popFrame

end

end SwiftExistential.Shell
