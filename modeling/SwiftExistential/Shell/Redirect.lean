import SwiftExistential.Process.Signal
import SwiftExistential.Shell.Runner

/-!
# Beside the shell

What runs beside the shell, and where its descriptors lead: commands in the background, substituted
commands, and redirections.

All of them need to run commands, by the runner that is handed in. What runs beside the shell works
on a copy of it, and what the two have in common is the machine.
-/

set_option autoImplicit false

/-! ## Processes in the background

A process in the background has a time of its own. It is put off until the shell waits for something
that takes longer than the process needs to be noticed, and then runs to its end at once. What it
writes to pipes is seen at the time at which it was written, so that the order of lines is that of
processes side by side. -/

namespace SwiftExistential.Shell

open Process

/-! ### Times

How long a process takes is not known before it runs. What counts is when it is first noticed, and
this depends on how long it sleeps at its start; so much is read off the command. -/

/-- What a shell needs to start a process. -/
def forkTime : Nat := 140

/-- What a process needs until it does something. -/
def startTime : Nat := 300

def programTime : Nat := 700

/-- The text of a word as far as it is known before the word is expanded. -/
def knownText (s : Session) : Word → Option Text
  | [] => some []
  | .plain chars :: rest => (knownText s rest).map (chars ++ ·)
  | .quoted chars :: rest => (knownText s rest).map (chars ++ ·)
  | .parameter _ name .plain _ :: rest => do
      return (← (s.values[name]?).bind Variable.value) ++ (← knownText s rest)
  | _ :: _ => none

def sleepTime (name : Text) (arguments : List Text) : Nat :=
  if name = "sleep".toList then (Duration.ofTexts? arguments).getD 0 else 0

/-- How long a command sleeps before it does anything else, and whether it only sleeps. -/
def leadingSleep (s : Session) : Command → Nat × Bool
  | .simple _ [] words _ =>
      match words.map fun word => (knownText s word).getD [] with
      | name :: arguments => (sleepTime name arguments, name = "sleep".toList)
      | [] => (0, false)
  | .subshell _ body _ => leadingSleep s body
  | .redirected _ body _ => leadingSleep s body
  | .sequence first second | .andThen first second =>
      let (time, isOnly) := leadingSleep s first
      if isOnly then
        let (more, isOnly) := leadingSleep s second
        (time + more, isOnly)
      else (time, false)
  | _ => (0, false)

section

variable (run : Runner)

/-! ### Running -/

/-- Runs a process of the background to its end. -/
def runPending (p : Pending) : Action Unit := do
  let before ← get
  set { before with
    shell := p.session,
    machine := { before.machine.setClock p.start with
      background := some ⟨p.number, before.machine.channels.size⟩,
      waiting := before.shell.seat.process :: before.machine.waiting } }
  let ending ← finish run (← attempt (run ⟨false, true⟩ p.body))
  modify fun s => { s with
    shell := before.shell,
    settled := ⟨p.number, s.machine.clock, ending⟩ :: s.settled,
    machine := { s.machine.setClock before.machine.clock with
      background := before.machine.background, waiting := before.machine.waiting } }

def first? (pending : List Pending) : Option Pending :=
  pending.foldl (fun best p => match best with
    | none => some p
    | some q => if p.due < q.due then some p else some q) none

/-- Runs the processes of the background that are chosen, in the order in which they are noticed, so
many at most. -/
def runSome (isChosen : Pending → Bool) : Nat → Action Unit
  | 0 => return
  | count + 1 => do
      let s ← get
      match first? (s.pending.filter isChosen) with
      | none => return
      | some p =>
          set { s with pending := s.pending.filter fun q => q.number != p.number }
          runPending run p
          runSome isChosen count

/-- How many processes start each other at most. -/
def maxPending : Nat := 10000

def runChosen (isChosen : Pending → Bool) : Action Unit := do
  if (← get).pending.isEmpty then return else runSome run isChosen maxPending

/-- Runs the processes that are noticed in the time that is to pass. -/
def runDue (time : Nat) : Action Unit := do
  let now := (← get).machine.clock
  runChosen run fun p => p.due ≤ now + time

def pass (time : Nat) : Action Unit := do
  runDue run time
  modify fun s => { s with machine := s.machine.elapse time }

/-- Waits until nobody writes to a channel any more. Processes up to a number do not write to it. -/
def closeChannel (index number : Nat) : Action Unit := do
  runChosen run fun p => p.number > number
  modify fun s => { s with machine := s.machine.close index }

/-! ### Starting and waiting -/

def freeSlot (jobs : List Listed) : Nat :=
  ((List.range (jobs.length + 1)).find? fun n => jobs.all fun job => job.slot != n + 1).getD 0 + 1

def runBackground (body : Command) : Action Nat := do
  let s ← get
  let (index, machine) := s.machine.openChannel .null
  let number := machine.processes + 1
  let session := detached { s.shell with seat := { s.shell.seat.connect 0 index with process := number } }
  let start := machine.clock + startTime
  let pending : Pending :=
    { number := number, start := start, due := start + (leadingSleep session body).1, session := session,
      body := body }
  let jobs := s.shell.jobs.filter fun job => !job.isWaited
  set { s with
    machine := { machine with processes := number }.elapse forkTime,
    pending := s.pending ++ [pending],
    shell := { s.shell with
      background := some number, jobs := ⟨freeSlot jobs, number, false⟩ :: jobs } }
  return 0

/-- Waits for a process of the background. Returns how it ended, if it is known. -/
def waitFor (number : Nat) : Action (Option Ending) := do
  runChosen run fun _ => true
  match (← get).settled.find? fun s => s.number = number with
  | none => return none
  | some settled =>
      modify fun s => { s with machine := s.machine.elapseTo settled.time }
      Action.change fun s => { s with jobs := s.jobs.map fun job =>
        if job.number = number then { job with isWaited := true } else job }
      return some settled.ending

end

end SwiftExistential.Shell

/-! ## Command substitution

The commands of a substitution run apart, and what they have written takes their place, without the
line ends at its end. The status is that of the commands. -/

namespace SwiftExistential.Shell

open Process

section

variable (run : Runner)

/-- Runs the commands of a substitution. Line ends at the end of their output are dropped. -/
def substitute : Substitute := fun body => do
  match body with
  | .nothing => return []
  | body =>
      let s ← get
      let (index, machine) := s.machine.openChannel (.pipe .empty 0)
      set { s with machine := machine }
      pass run (forkTime + startTime)
      let ending ← apart run true
        (fun s => { s with seat := s.seat.connect 1 index })
        (run ⟨false, true⟩ body)
      closeChannel run index machine.processes
      let status ← settle ending
      Action.change fun s => { s with substituted := status }
      match (← get).machine.remaining index with
      | .error _ => return []
      | .ok bytes =>
          modify fun s => { s with machine := s.machine.skip index bytes.size }
          let output := (Octets.ofArray bytes).filter (· != '\x00')
          return (output.reverse.dropWhile (· == '\n')).reverse

end

end SwiftExistential.Shell

/-! ## Redirections

The words of redirections are expanded first. Then the descriptors of the shell are led to files, to
other descriptors or to documents, one after the other; a document is expanded only then. -/

namespace SwiftExistential.Shell

open Process

section

variable (run : Runner)

/-- A redirection whose words are expanded. A document is expanded when its turn comes. -/
inductive Resolved where
  | file (descriptor : Nat) (access : Access) (path : Text)
  | duplicate (descriptor : Nat) (source : Nat)
  | close (descriptor : Nat)
  | document (descriptor : Nat) (body : Word)

def resolveAll : List Redirection → Action (List Resolved)
  | [] => return []
  | redirection :: rest => do
      let first ← match redirection with
        | .file descriptor access target =>
            pure (Resolved.file descriptor access (← expandText (substitute run) target))
        | .document descriptor body => pure (.document descriptor body)
        | .duplicate descriptor target =>
            match ← expandText (substitute run) target with
            | ['-'] => pure (.close descriptor)
            | [d] =>
                if d.isDigit then pure (.duplicate descriptor (d.toNat - '0'.toNat))
                else Action.fail ["Syntax error: Bad fd number".toList]
            | _ => Action.fail ["Syntax error: Bad fd number".toList]
      return first :: (← resolveAll rest)

/-- Why a file cannot be opened, in the words of the shell. -/
def openReason (isNew : Bool) : FileError → Text
  | .notFound | .notDirectory =>
      (if isNew then "Directory nonexistent" else "No such file").toList
  | e => reason e

/-- Lets a descriptor lead to a new channel. -/
def connectTo (descriptor : Nat) (channel : Channel) : Action Unit := do
  let s ← get
  let (index, machine) := s.machine.openChannel channel
  set { s with machine := machine, shell := { s.shell with seat := s.shell.seat.connect descriptor index } }

def deviceChannel (location : Location) : Channel :=
  let bytes := FileTree.deviceBytes location
  if bytes.isEmpty then .null else .pipe bytes 0

def openFor (descriptor : Nat) (access : Access) (path : Text) : Action Unit := do
  let tree ← Action.tree
  let seat ← Action.ask (·.seat)
  let name := Octets.toText path
  match (Job.descriptorOf? path).bind seat.channel? with
  | some index => Action.change fun s => { s with seat := s.seat.connect descriptor index }
  | none =>
      match access with
      | .input =>
          match tree.find name with
          | .ok (location, .device) => connectTo descriptor (deviceChannel location)
          | .ok (location, _) => connectTo descriptor (.file location 0 false)
          | .error e => Action.fail ["cannot open ".toList ++ path, openReason false e]
      | access =>
          let isThere := tree.isFile name
          if access = .output && isThere && (← Action.isOn 'C') then
            Action.fail ["cannot create ".toList ++ path, reason .alreadyExists]
          else
            match tree.openFile name (access = .append || access = .update) (← Action.perform Job.fileMode) with
            | .error e => Action.fail ["cannot create ".toList ++ path, openReason true e]
            | .ok (location, tree') =>
                if tree'.get? location = some .device then
                  connectTo descriptor (if location.getLast? = some "full".toList then .full else .null)
                else
                  modify fun s => { s with machine := { s.machine with tree := tree' } }
                  connectTo descriptor (.file location 0 (access = .append))

def redirectAll : List Resolved → Action Unit
  | [] => return
  | redirection :: rest => do
      match redirection with
      | .file descriptor access path => openFor descriptor access path
      | .close descriptor => Action.change fun s => { s with seat := s.seat.close descriptor }
      | .document descriptor body =>
          let content ← expandDocument (substitute run) body
          connectTo descriptor (.pipe (Octets.toArray content) 0)
      | .duplicate descriptor source =>
          match (← Action.ask (·.seat)).channel? source with
          | some index => Action.change fun s => { s with seat := s.seat.connect descriptor index }
          | none => Action.fail [(toString source).toList, "Bad file descriptor".toList]
      redirectAll rest

/-- Carries out redirections, and returns whether that was possible. -/
def redirectSafely (all : List Resolved) : Action Bool := do
  match ← attempt (redirectAll run all) with
  | .ok _ => return true
  | .error .failure => return false
  | .error e => throw e

/-- Lets the descriptors lead where they led at a seat. -/
def restoreSeat (seat : Seat) : Action Unit :=
  Action.change fun s => { s with seat := { s.seat with descriptors := seat.descriptors } }

end

end SwiftExistential.Shell
