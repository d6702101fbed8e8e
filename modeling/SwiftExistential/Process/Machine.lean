import SwiftExistential.FileTree.Write
import SwiftExistential.Text.Octets

/-!
# Machines and jobs

All processes of a machine share its file tree and its channels. A channel is an open file with the
place where it is read or written next, a pipe, or the null device. A process sits at a seat: it has
a directory, an environment, and descriptors that lead to channels. A job is what a program does
from its seat; all texts that it reads and writes are octets.

Processes do not run at the same time. One in the background is put off and then runs at once, with
a clock of its own, and what it writes is kept until its time has come for the others.
-/

set_option autoImplicit false

namespace SwiftExistential.Process

/-- Where a descriptor leads. -/
inductive Channel where
  | null
  /-- The device that takes nothing. -/
  | full
  /-- The bytes that were written, and how many of them have been read. -/
  | pipe (bytes : ByteArray) (taken : Nat)
  /-- A file, and the place in it. With `appends`, writing goes to the end. -/
  | file (location : Location) (offset : Nat) (appends : Bool)

/-- Bytes that a process in the background writes to a pipe at some time. -/
structure Late where
  time : Nat
  /-- The number of the process. -/
  writer : Nat
  channel : Nat
  bytes : ByteArray

/-- A process in the background while it runs. -/
structure Background where
  number : Nat
  /-- The number of channels that there were when it began. -/
  shared : Nat

/-- When something has to end. -/
structure Deadline where
  time : Nat
  /-- The process of the background whose time counts, if it is one. -/
  owner : Option Nat
deriving DecidableEq, Repr

/-- What there is at a time. -/
structure Snapshot where
  tree : FileTree
  channels : Array Channel
  late : Array Late
  isFull : Bool

/-- What all processes share. -/
structure Machine where
  tree : FileTree
  channels : Array Channel
  /-- The number of the last process. -/
  processes : Nat
  /-- The signals that were sent to a process and not yet noticed. -/
  signals : List (Nat × Nat)
  /-- The process that runs, if it is one in the background. -/
  background : Option Background
  /-- What processes in the background have written, and nobody has seen yet. -/
  late : Array Late
  /-- The numbers of the shells that wait for the process that runs. -/
  waiting : List Nat
  /-- Whether something could not be written because there was no space. -/
  isFull : Bool
  /-- When the process that runs has to end. -/
  deadline : Option Deadline
  /-- What there was at the deadline, once it has passed. -/
  snapshot : Option Snapshot

namespace Machine

/-- The time of the process that runs, in microseconds. -/
def clock (m : Machine) : Nat := m.tree.now

/-- Sets the time of the process that runs. -/
def setClock (m : Machine) (time : Nat) : Machine := { m with tree := { m.tree with now := time } }

def openChannel (m : Machine) (channel : Channel) : Nat × Machine :=
  (m.channels.size, { m with channels := m.channels.push channel })

def putBytes (bytes : ByteArray) : Channel → Channel
  | .pipe old taken => .pipe (old ++ bytes) taken
  | channel => channel

/-- Whether the process that runs shares a channel with processes that have a time of their own. -/
def isShared (m : Machine) (index : Nat) : Bool :=
  match m.background with
  | some b => index < b.shared
  | none => false

/-- Writes octets to a channel. What goes to a shared pipe is kept until its time. -/
def write (m : Machine) (index : Nat) (t : Text) : Machine :=
  match m.channels[index]? with
  | some (.pipe ..) =>
      if m.isShared index then
        let writer := (m.background.map Background.number).getD 0
        { m with late := m.late.push ⟨m.clock, writer, index, Octets.toArray t⟩ }
      else { m with channels := m.channels.modify index (putBytes (Octets.toArray t)) }
  | some (.file location offset appends) =>
      let bytes := Octets.toArray t
      let start := if appends then (m.tree.bytesAt location).size else offset
      { m with
        tree := m.tree.writeBytes location start bytes,
        channels := m.channels.setIfInBounds index (.file location (start + bytes.size) appends) }
  | some .full => if t.isEmpty then m else { m with isFull := true }
  | _ => m

/-- The bytes that a channel has left to read. -/
def remaining (m : Machine) (index : Nat) : Except FileError ByteArray :=
  match m.channels[index]? with
  | some (.pipe bytes taken) => .ok (bytes.extract taken bytes.size)
  | some (.file location offset _) =>
      match m.tree.get? location with
      | some .directory => .error .isDirectory
      | _ =>
          let bytes := m.tree.bytesAt location
          .ok (bytes.extract offset bytes.size)
  | _ => .ok .empty

/-- Goes on behind bytes that have been read. -/
def advance (count : Nat) : Channel → Channel
  | .pipe bytes taken => .pipe bytes (taken + count)
  | .file location offset appends => .file location (offset + count) appends
  | channel => channel

def skip (m : Machine) (index count : Nat) : Machine :=
  { m with channels := m.channels.modify index (advance count) }

/-! ## Time

The clock goes on by what programs take, and by what they wait for. What was written up to the new
time can be seen then, and a deadline that is passed on the way keeps what there was at that time.
-/

/-- Puts late bytes where they belong, by their times, for those that are chosen. -/
def release (m : Machine) (isChosen : Late → Bool) : Machine :=
  if m.late.isEmpty then m
  else
    let (due, others) := m.late.toList.partition isChosen
    let sorted := due.mergeSort fun a b => a.time ≤ b.time
    { m with
      late := others.toArray,
      channels := sorted.foldl (fun channels l => channels.modify l.channel (putBytes l.bytes)) m.channels }

/-- Lets time pass. What was written up to the new time can be seen then. -/
def goOn (m : Machine) (time : Nat) : Machine :=
  let now := m.clock + time
  let m := m.setClock now
  m.release fun l => l.time ≤ now && !m.isShared l.channel

/-- **Lets time pass**, and keeps what there is at a deadline in it. -/
def elapse (m : Machine) (time : Nat) : Machine :=
  match m.deadline, m.snapshot with
  | some d, none =>
      if m.background.map Background.number = d.owner && d.time ≤ m.clock + time then
        let past := m.goOn (d.time - m.clock)
        let m := m.goOn time
        { m with snapshot := some ⟨past.tree, past.channels, past.late, past.isFull⟩ }
      else m.goOn time
  | _, _ => m.goOn time

/-- Waits until a time, unless it has passed. -/
def elapseTo (m : Machine) (time : Nat) : Machine := m.elapse (time - m.clock)

/-- Waits until nobody writes to a channel any more. -/
def close (m : Machine) (index : Nat) : Machine :=
  if m.isShared index then m
  else
    let last := m.late.foldl (fun time l => if l.channel = index then max time l.time else time) m.clock
    (m.setClock last).release fun l => l.channel = index || (l.time ≤ last && !m.isShared l.channel)

/-- Takes back what a process would have written after now. -/
def silence (m : Machine) (number : Nat) : Machine :=
  { m with late := m.late.filter fun l => !(l.writer = number && l.time > m.clock) }

end Machine

/-- What belongs to one process. -/
structure Seat where
  directory : Location
  descriptors : List (Nat × Nat)
  environment : List (Text × Text)
  /-- The number of the shell that the process belongs to. -/
  number : Nat
  /-- The number of the process. -/
  process : Nat
  /-- The bits that a new file's mode does not get. -/
  mask : Nat
  /-- The name by which the program was started. -/
  title : Text := []
  /-- What the file of the program holds about it: its version, its use, and where to ask for more.
  -/
  sayings : List Text := []
  /-- How far the process stands back for others. -/
  niceness : Int := 0

namespace Seat

def channel? (s : Seat) (descriptor : Nat) : Option Nat := s.descriptors.lookup descriptor

/-- The name of a program in messages: the path by which it was started, if it was. -/
def named (s : Seat) (name : Text) : Text := if ('/' :: name).isSuffixOf s.title then s.title else name

def close (s : Seat) (descriptor : Nat) : Seat :=
  { s with descriptors := s.descriptors.filter fun (d, _) => d != descriptor }

/-- Lets a descriptor lead to a channel. -/
def connect (s : Seat) (descriptor channel : Nat) : Seat :=
  { s.close descriptor with descriptors := (descriptor, channel) :: (s.close descriptor).descriptors }

end Seat

abbrev Job := ReaderT Seat (StateM Machine)

def reason : FileError → Text
  | .notFound => "No such file or directory".toList
  | .alreadyExists => "File exists".toList
  | .notDirectory => "Not a directory".toList
  | .isDirectory => "Is a directory".toList
  | .tooManyLinks => "Too many levels of symbolic links".toList
  | .nameTooLong => "File name too long".toList
  | .notText => "Invalid argument".toList

namespace Job

/-! ## Reading and writing

Octets that are written go where the descriptor leads. A descriptor that is closed takes nothing and
gives nothing. -/

def write (descriptor : Nat) (t : Text) : Job Unit := do
  match (← read).channel? descriptor with
  | some index => modify fun m => m.write index t
  | none => pure ()

def put (t : Text) : Job Unit := write 1 t

def putLine (t : Text) : Job Unit := write 1 (t ++ ['\n'])

/-- Reports a failure: the name of the program and what failed. -/
def complain (parts : List Text) : Job Unit := do
  let title := (parts.take 1).map (← read).named
  write 2 (Text.join ": ".toList (title ++ parts.drop 1) ++ ['\n'])

/-- What the program says about itself, or the usual text if its file does not hold that. -/
def saying (index : Nat) (usual : Text) : Job Text := do return (← read).sayings[index]?.getD usual

def putVersion (usual : Text) : Job Unit := do putLine (← saying 0 usual)

/-- Takes all that is left of what a descriptor leads to. -/
def inputOf (descriptor : Nat) : Job (Except FileError Text) := do
  match (← read).channel? descriptor with
  | none => return .error .notFound
  | some index =>
      match (← get).remaining index with
      | .error e => return .error e
      | .ok bytes =>
          modify fun m => m.skip index bytes.size
          return .ok (Octets.ofArray bytes)

def input : Job (Except FileError Text) := inputOf 0

/-- Takes the next line of the input, with its end. -/
def inputLine : Job Text := do
  match (← read).channel? 0 with
  | none => return []
  | some index =>
      match (← get).remaining index with
      | .error _ => return []
      | .ok bytes =>
          let size := match bytes.toList.findIdx? (· == 10) with
            | some n => n + 1
            | none => bytes.size
          modify fun m => m.skip index size
          return Octets.ofArray (bytes.extract 0 size)

/-- Takes so much of the input at most, or all that is left. -/
def takeInput (most : Option Nat) : Job Text := do
  match (← read).channel? 0 with
  | none => return []
  | some index =>
      match (← get).remaining index with
      | .error _ => return []
      | .ok bytes =>
          let size := (most.getD bytes.size).min bytes.size
          modify fun m => m.skip index size
          return Octets.ofArray (bytes.extract 0 size)

/-- Gives back the last octets that were taken from the input, if it is a file. -/
def giveBack (count : Nat) : Job Unit := do
  match (← read).channel? 0 with
  | none => pure ()
  | some index =>
      modify fun m => { m with channels := m.channels.modify index fun
        | .file location offset appends => .file location (offset - count) appends
        | channel => channel }

/-! ## Files

Paths are looked up from the directory of the process, and its mask takes bits from the modes of new
files. -/

/-- The tree as seen from the directory of the process. -/
def tree : Job FileTree := do return { (← get).tree with current := (← read).directory }

/-- Takes over a changed tree. -/
def setTree (t : FileTree) : Job Unit := modify fun m => { m with tree := { t with now := m.clock } }

def fileMode : Job Nat := do return 0o666 &&& (0o777 - (← read).mask % 0o1000)

def directoryMode : Job Nat := do return 0o777 - (← read).mask % 0o1000

def find (path : Text) : Job (Except FileError (Location × Node)) := do
  return (← tree).find (Octets.toText path)

/-- What stands at a path, a link at its end not followed. -/
def locate (path : Text) : Job (Except FileError FileTree.Place) := do
  return (← tree).locate false (Octets.toText path)

/-- The descriptor that a special path stands for. -/
def descriptorOf? (path : Text) : Option Nat :=
  match String.ofList path with
  | "/dev/stdin" => some 0
  | "/dev/stdout" => some 1
  | "/dev/stderr" => some 2
  | _ =>
      match Text.dropPart? "/dev/fd/".toList path with
      | some [d] => if d.isDigit then some (d.toNat - '0'.toNat) else none
      | _ => none

def readFile (path : Text) : Job (Except FileError Text) := do
  match descriptorOf? path with
  | some descriptor => inputOf descriptor
  | none => return ((← tree).readBytes (Octets.toText path)).map Octets.ofArray

/-- The octets of a file, or of the input for a dash. -/
def readSource (path : Text) : Job (Except FileError Text) := if path = ['-'] then input else readFile path

/-- Puts octets into a file, which is made if nothing stands there. -/
def writeFile (path : Text) (keep : Bool) (content : Text) : Job (Except FileError Unit) := do
  match descriptorOf? path with
  | some descriptor =>
      if ((← read).channel? descriptor).isNone then return .error .notFound
      write descriptor content
      return .ok ()
  | none =>
      match (← tree).openFile (Octets.toText path) keep (← fileMode) with
      | .error e => return .error e
      | .ok (location, t) =>
          if t.get? location = some .device then
            if location.getLast? = some "full".toList && !content.isEmpty then
              modify fun m => { m with isFull := true }
          else setTree (t.appendBytes location (Octets.toArray content))
          return .ok ()

def environment? (name : Text) : Job (Option Text) := do
  return (← read).environment.lookup name

end Job

/-! ## Programs

A program is a job with arguments. It may start others, by a function that is handed in. -/

/-- How a process ended. -/
inductive Ending where
  | exited (status : Nat)
  | killed (signal : Nat)
deriving DecidableEq, Repr

/-- The status that a shell shows for an ending. -/
def Ending.status : Ending → Nat
  | exited status => status
  | killed signal => 128 + signal

/-- Why a program cannot be started. -/
inductive StartError where
  | missing
  | denied
  /-- It is no program. -/
  | strange
deriving DecidableEq, Repr

/-- Starts a program, of which the first text is the name, and waits for it. -/
abbrev Launch := List Text → Job (Except StartError Ending)

/-- A standard program: it may start others, takes its arguments and returns its status. -/
abbrev Utility := Launch → List Text → Job Nat

/-- A standard program that another one may take the place of. It ends as that one does. -/
abbrev Starter := Launch → List Text → Job Ending

def Utility.starter (u : Utility) : Starter := fun launch arguments => do
  return .exited (← u launch arguments)

/-- **Does something that may take so much time.** What would happen later does not happen. -/
def Job.within {α : Type} (limit : Nat) (job : Job α) : Job (Option α) := do
  let m ← get
  let outer := m.deadline
  let time := m.clock + limit
  if outer.any fun d => d.time ≤ time then return some (← job)
  set { m with deadline := some ⟨time, m.background.map Background.number⟩ }
  let a ← job
  let m ← get
  match m.snapshot with
  | some s =>
      set { m with
        tree := s.tree, channels := s.channels, late := s.late, isFull := s.isFull, deadline := outer,
        snapshot := none }
      return none
  | none =>
      set { m with deadline := outer }
      return some a

end SwiftExistential.Process
