import SwiftExistential.Process.Signal
import SwiftExistential.Shell.Builtin.Basic

/-!
# Commands for signals and processes

Commands that set what is done at a signal, send signals, and deal with processes in the background.

A process is named by its number or by its place in the list of the shell. What a number stands for
is settled when a command asks for it: the shell itself, one of its processes, a shell that waits
for it, or nobody. How a process is waited for is handed in, since waiting runs commands.
-/

set_option autoImplicit false

namespace SwiftExistential.Shell.Builtin

open Process

/-! ## Traps

What is set for a signal is the text of commands, or nothing if the signal is to be ignored. The end
of the shell has a place among the signals. -/

def setTraps (action : Option Text) : List Text → Action Nat
  | [] => return 0
  | t :: rest => do
      match Signal.ofText? t with
      | none =>
          discard (Action.write 2 ("trap: ".toList ++ t ++ ": bad trap\n".toList))
          return 1
      | some n =>
          Action.change fun s =>
            let others := s.traps.filter fun (m, _) => m != n
            { s with traps := match action with
                | some command => (n, command) :: others
                | none => others }
          setTraps action rest

def trap : Handler := fun arguments => do
  let (_, rest) ← readOptions "" arguments
  match rest with
  | [] =>
      let traps := (← Action.ask (·.traps)).mergeSort fun (a, _) (b, _) => a ≤ b
      putLines (traps.map fun (n, command) =>
        "trap -- ".toList ++ Action.shownQuoted command ++ ' ' :: Signal.name n)
  | [t] => setTraps none [t]
  | command :: events => setTraps (if command = ['-'] then none else some command) events

/-! ## Processes -/

/-- What a number stands for. -/
inductive Addressee where
  | self
  /-- A process of the background that runs. -/
  | running (number : Nat)
  /-- A process of the background that has ended, which its shell does not know yet. -/
  | ended
  /-- A shell that waits for this one. -/
  | waiting
  | nobody

def addressee (n : Int) : Action Addressee := do
  let s ← get
  if n = (s.shell.seat.process : Int) then return .self
  else if s.machine.waiting.any fun m => (m : Int) = n then return .waiting
  else match s.pending.find? fun p => (p.number : Int) = n with
    | some p => return .running p.number
    | none =>
        match s.settled.find? fun p => (p.number : Int) = n with
        | none => return .nobody
        | some p =>
            if p.time > s.machine.clock then return .running p.number
            else if s.shell.jobs.any fun job => job.number = p.number && !job.isWaited then return .ended
            else return .nobody

def endProcess (signal number : Nat) : Action Unit :=
  modify fun s => { s with
    pending := s.pending.filter fun p => p.number != number,
    settled := ⟨number, s.machine.clock, .killed signal⟩ :: s.settled,
    machine := s.machine.silence number }

def sendAll (signal : Nat) : List Text → Action Nat
  | [] => return 0
  | t :: rest => do
      let n ← match Number.whole? 10 t with
        | some n => pure n
        | none => Action.illegalNumber t
      let status ← match ← addressee n with
        | .self | .waiting => do
            if !Signal.isHarmless signal then
              modify fun s => { s with
                machine := { s.machine with signals := s.machine.signals ++ [(n.toNat, signal)] } }
            pure 0
        | .running number => do
            if !Signal.isHarmless signal then endProcess signal number
            pure 0
        | .ended => pure 0
        | .nobody => do
            Action.complain ["No such process\n".toList]
            pure 1
      return max status (← sendAll signal rest)

def listSignals (arguments : List Text) : Action Nat := do
  match arguments.head? with
  | none => putLines (("0" :: Signal.names.drop 1).map String.toList)
  | some t =>
      let n ← number t
      let n := if n > 128 then n - 128 else n
      if 0 < n && n < Signal.names.length then putLines [Signal.name n]
      else Action.fail ["invalid signal number or exit status".toList, t]

def kill : Handler := fun arguments => do
  match arguments with
  | [] | [['-']] =>
      Action.fail [("Usage: kill [-s sigspec | -signum | -sigspec] [pid | job]... or\n" ++
        "kill -l [exitstatus]").toList]
  | ('-' :: name) :: rest =>
      match Signal.ofText? name with
      | some n => sendAll n rest
      | none =>
          if name = ['-'] then sendAll 15 rest
          else
            let (options, rest) ← readOptions "ls:" arguments
            if options.any fun (c, _) => c == 'l' then listSignals rest
            else match options.head? with
              | some (_, t) =>
                  match Signal.ofText? t with
                  | some n => sendAll n rest
                  | none => Action.fail ["invalid signal number or name".toList, t]
              | none => sendAll 15 rest
  | arguments => sendAll 15 arguments

/-! ## Processes in the background

A process that has ended is listed once more, with its ending, and is then forgotten. -/

/-- The number of the process that an argument names: its number, or its place in the list. -/
def jobNumber? (t : Text) : Action (Option Nat) := do
  let jobs ← Action.ask (·.jobs)
  match t with
  | '%' :: rest =>
      let found := match rest with
        | [] | ['%'] | ['+'] => jobs.head?
        | ['-'] => jobs.tail.head?
        | rest => jobs.find? fun job => (toString job.slot).toList = rest
      match found with
      | some job => return some job.number
      | none => Action.fail ["No such job".toList, t]
  | t =>
      let n ← number t
      return if jobs.any fun job => job.number = n then some n else none

/-- Waits for processes, given how to wait for one. Returns the status of the last. -/
def waitAll (waitFor : Nat → Action (Option Process.Ending)) : Nat → List Text → Action Nat
  | status, [] => return status
  | _, t :: rest => do
      match ← jobNumber? t with
      | none => waitAll waitFor 127 rest
      | some n =>
          match ← waitFor n with
          | none => waitAll waitFor 127 rest
          | some ending =>
              if let .killed signal := ending then
                if let some message := Signal.message? signal then
                  discard (Action.write 2 (message.toList ++ ['\n']))
              waitAll waitFor ending.status rest

def waitEach (waitFor : Nat → Action (Option Process.Ending)) : List Nat → Action Nat
  | [] => return 0
  | n :: rest => do
      discard (waitFor n)
      waitEach waitFor rest

def wait (waitFor : Nat → Action (Option Process.Ending)) : Handler := fun arguments => do
  let (_, rest) ← readOptions "" arguments
  if rest.isEmpty then waitEach waitFor ((← Action.ask (·.jobs)).reverse.map Listed.number)
  else waitAll waitFor 0 rest

/-- What a list says about a process. -/
def shownState : Option Process.Ending → Text
  | none => "Running".toList
  | some (.exited 0) => "Done".toList
  | some (.exited n) => "Done(".toList ++ (toString n).toList ++ [')']
  | some (.killed n) => ((Signal.message? n).getD "").toList

/-- Lists processes. Those that have ended are listed for the last time. -/
def listJobs : List Char → List Listed → Action (List Text)
  | _, [] => return []
  | marks, job :: rest => do
      let s ← get
      let ending := (s.settled.find? fun p => p.number = job.number && p.time ≤ s.machine.clock).map
        Settled.ending
      let line := '[' :: (toString job.slot).toList ++ "] ".toList ++ [marks.headD ' ', ' '] ++ shownState ending
      if ending.isSome then
        Action.change fun s => { s with jobs := s.jobs.filter fun other => other.number != job.number }
      return (line ++ List.replicate (max 1 (33 - line.length)) ' ') :: (← listJobs marks.tail rest)

def jobs : Handler := fun _ => do
  putLines (← listJobs ['+', '-'] (← Action.ask (·.jobs)))

def times : Handler := fun _ =>
  putLines ["0m0.00s 0m0.00s".toList, "0m0.00s 0m0.00s".toList]

end SwiftExistential.Shell.Builtin
