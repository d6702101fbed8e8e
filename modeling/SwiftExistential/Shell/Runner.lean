import SwiftExistential.Shell.Builtin.Signal
import SwiftExistential.Shell.Expand
import SwiftExistential.Shell.Reader

/-!
# Runners

A runner says how commands run. Given one, this module runs the texts of scripts, does what was set
for signals, and runs commands apart from the shell. Parts that run apart work on a copy of the
shell; only the machine keeps what they did.

A command has to know two things about its place: whether someone asks for its failure, because then
a failure is no reason to end the shell, and whether the shell ends after it, because then it needs
no process of its own.
-/

set_option autoImplicit false

namespace SwiftExistential.Shell

open Process

/-- What a command has to know about its place. -/
structure Flags where
  /-- Whether someone asks for the failure of the command. -/
  isTested : Bool
  /-- Whether the shell ends after the command. -/
  isLast : Bool

/-- How commands run. The result is the status. -/
abbrev Runner := Flags → Command → Action Nat

abbrev Executor := Text → List Text → Job (Except StartError Ending)

/-- Runs an action and keeps how it was stopped. -/
def attempt {α : Type} (action : Action α) : Action (Except Stop α) := fun s =>
  match action s with
  | .ok a s' => .ok (.ok a) s'
  | .error e s' => .ok (.error e) s'

/-- Runs an action, then another one however it went. -/
def finally' {α : Type} (action : Action α) (last : Action Unit) : Action α := do
  let result ← attempt action
  last
  match result with
  | .ok a => return a
  | .error e => throw e

section

variable (run : Runner)

/-! ## Sources

The lines of a script are read and run in turn, so that what a line defines is known to the lines
behind it. -/

/-- Runs the lines of a script, behind those that have run with a status. -/
def runLines (flags : Flags) : Nat → Nat → Source → Action Nat
  | 0, status, _ => return status
  | fuel + 1, status, source => do
      let aliases ← Action.ask (·.aliases)
      match Reader.readLine.run { source with aliases := aliases } with
      | .error mistake _ =>
          Action.change fun s => { s with line := mistake.line }
          Action.fail ["Syntax error".toList, mistake.message]
      | .ok none _ => return status
      | .ok (some (command, isLast)) source' =>
          let new ← run { flags with isLast := flags.isLast && isLast } command
          let status := match command with
            | .nothing => status
            | _ => new
          if isLast then return status else runLines flags fuel status source'

/-- **Runs a script.** -/
def runText (flags : Flags) (t : Text) : Action Nat :=
  runLines run flags (t.length + 1) 0 (Source.ofText t [])

/-! ## Signals and ends

Signals are noticed between commands. At the end of a shell, what was set for it still runs, and the
ending is that of the shell all the same. -/

/-- Runs what was set for a signal. The status stays. -/
def runTrap (command : Text) : Action Unit := do
  let status ← Action.ask (·.status)
  discard (runText run ⟨false, false⟩ command)
  Action.setStatus status

/-- Does what was set for signals. A signal that nothing was set for ends the process. -/
def handleAll : List Nat → Action Unit
  | [] => return
  | signal :: rest => do
      match (← Action.ask (·.traps)).lookup signal with
      | some [] => pure ()
      | some command => runTrap run command
      | none => throw (.killed signal)
      handleAll rest

/-- Notices the signals that were sent to this process. -/
def handleSignals : Action Unit := do
  let s ← get
  if s.machine.snapshot.isSome then throw (.killed 15)
  if s.machine.signals.isEmpty then return
  else
    let (mine, others) := s.machine.signals.partition fun (n, _) => n = s.shell.seat.process
    set { s with machine := { s.machine with signals := others } }
    handleAll run (mine.map Prod.snd)

/-- Ends a process whose action has ended: what was set for the end still runs. -/
def finish (result : Except Stop Nat) : Action Ending := do
  match result with
  | .error (.killed n) => return .killed n
  | result =>
      if let .ok status := result then Action.setStatus status
      let status ← Action.ask (·.status)
      match (← Action.ask (·.traps)).lookup 0 with
      | none | some [] => return .exited (status % 256)
      | some command =>
          Action.change fun s => { s with traps := s.traps.filter fun (n, _) => n != 0 }
          match ← attempt (runText run ⟨false, false⟩ command) with
          | .ok _ => return .exited (status % 256)
          | .error (.killed n) => return .killed n
          | .error .exit | .error .failure => return .exited ((← Action.ask (·.status)) % 256)
          | .error _ => return .exited (status % 256)

/-- What another process gets of a shell: nothing is set for signals, and it has no processes in the
background. -/
def detached (s : Session) : Session :=
  { s with traps := s.traps.filter fun (_, command) => command.isEmpty, jobs := [] }

/-- Goes on as a new process, for which this one waits. -/
def fork : Action Unit := modify fun s =>
  let number := s.machine.processes + 1
  { s with
    machine := { s.machine with
      processes := number, waiting := s.shell.seat.process :: s.machine.waiting },
    shell := { s.shell with seat := { s.shell.seat with process := number } } }

/-- Runs an action on a copy of the shell that was changed before, in a process of its own or not.
Only what the machine has done stays. -/
def apart (isForked : Bool) (prepare : Session → Session) (action : Action Nat) : Action Ending := do
  let before ← get
  if isForked then fork
  Action.change fun s => detached (prepare s)
  let ending ← finish run (← attempt action)
  modify fun s =>
    { s with shell := before.shell, machine := { s.machine with waiting := before.machine.waiting } }
  return ending

/-- Says what a signal did to a process. -/
def reportEnding : Ending → Action Unit
  | .exited _ => return
  | .killed n => do
      if let some message := Signal.message? n then
        discard (Action.write 2 (message.toList ++ ['\n']))

def settle (ending : Ending) : Action Nat := do
  reportEnding ending
  return ending.status

def endAs {α : Type} (ending : Ending) : Action α := do
  match ending with
  | .exited status =>
      Action.setStatus status
      throw .exit
  | .killed n => throw (.killed n)

def hasTraps : Action Bool := do return (← Action.ask (·.traps)).any fun (_, command) => !command.isEmpty

end

end SwiftExistential.Shell
