import SwiftExistential.Process.Machine
import SwiftExistential.Shell.Command
import Std.Data.TreeMap

/-!
# The state of a shell

A shell has a name and arguments, variables, functions, aliases and options, and a seat at the
machine. A subshell works on a copy of all that; only the machine is shared.

An action of the shell can be stopped: by the end of the shell, by a failure that ends it unless
someone expects failures, or by a jump out of loops and functions. A stop keeps the state, so what
was done before it stays done.

Processes in the background are part of the state too: those that have not run yet, with a copy of
the shell that started them, and those that have ended, with their endings.
-/

set_option autoImplicit false

namespace SwiftExistential.Shell

open Process

/-- A variable. It may be marked before it has a value. -/
structure Variable where
  value : Option Text
  isExported : Bool
  isReadOnly : Bool
  /-- How many variables were made before it. -/
  age : Nat
deriving DecidableEq, Repr

/-- A variable without a value and marks. -/
def Variable.unset : Variable := ⟨none, false, false, 0⟩

/-- How an action is stopped. -/
inductive Stop where
  /-- The shell is to end. -/
  | exit
  /-- A failure was reported, and ends the shell unless someone expects it. -/
  | failure
  /-- So many loops are to end. -/
  | leave (loops : Nat)
  /-- The loop that lies so many loops out is to go on. -/
  | again (loops : Nat)
  /-- The function is to end. -/
  | return'
  /-- The process was ended by a signal. -/
  | killed (signal : Nat)
deriving DecidableEq, Repr

/-- Where `getopts` goes on. -/
structure OptionCursor where
  /-- The number of the next argument, from one. -/
  index : Nat
  /-- The letters of the current argument that have been read. -/
  letters : Nat
deriving DecidableEq, Repr

/-- A process in the background, as its shell lists it. -/
structure Listed where
  /-- The place in the list, from one. -/
  slot : Nat
  number : Nat
  /-- Whether the shell knows that it has ended. -/
  isWaited : Bool
deriving DecidableEq, Repr

/-- What belongs to one shell. -/
structure Session where
  name : Text
  arguments : List Text
  values : Std.TreeMap Text Variable
  /-- How many variables were made so far. -/
  made : Nat
  functions : Std.TreeMap Text Command
  aliases : List (Text × Text)
  /-- The letters of the options that are on. -/
  options : Text
  /-- What runs at a signal. The end of the shell is signal zero. -/
  traps : List (Nat × Text)
  /-- The variables that were replaced inside of functions, to be put back at their ends. -/
  frames : List (List (Text × Option Variable))
  seat : Seat
  /-- The path of the directory by which it was entered. -/
  here : Text
  /-- The programs that were found by a search. -/
  tracked : List Text
  /-- The status of the last command. -/
  status : Nat
  /-- The status of the last command substitution in the current command. -/
  substituted : Nat
  /-- The number of loops around the current command. -/
  loops : Nat
  /-- The number of functions around the current command. -/
  calls : Nat
  /-- The line of the current command. -/
  line : Nat
  /-- The command that messages are about. -/
  speaker : Option Text
  cursor : OptionCursor
  /-- The last process in the background. -/
  background : Option Nat
  /-- The processes in the background, the last first. -/
  jobs : List Listed

/-- A process in the background that has not run yet. -/
structure Pending where
  number : Nat
  /-- When it starts. -/
  start : Nat
  /-- When it is first noticed. -/
  due : Nat
  session : Session
  body : Command

/-- How and when a process in the background has ended. -/
structure Settled where
  number : Nat
  time : Nat
  ending : Ending

/-- The shell and the machine, and the processes in the background. -/
structure State where
  machine : Machine
  shell : Session
  pending : List Pending
  settled : List Settled

abbrev Action := EStateM Stop State

namespace Action

def ask {α : Type} (f : Session → α) : Action α := do return f (← get).shell

def change (f : Session → Session) : Action Unit := modify fun s => { s with shell := f s.shell }

def setStatus (status : Nat) : Action Unit := change fun s => { s with status := status }

/-- Does a job from the seat of the shell. -/
def perform {α : Type} (job : Job α) : Action α := do
  let s ← get
  let (a, machine) := (job.run s.shell.seat).run s.machine
  set { s with machine := machine }
  return a

/-- The tree as seen from the directory of the shell. -/
def tree : Action FileTree := perform Job.tree

/-! ## Output

What the shell has to say about a mistake goes to its messages, behind its name and the number of
the line. -/

/-- The most bytes that a pipe takes before someone reads them. -/
def pipeLimit : Nat := 1000000

/-- Writes octets to a descriptor. Returns whether it is open. Whoever fills a pipe without end is
ended. -/
def write (descriptor : Nat) (t : Text) : Action Bool := do
  match (← get).shell.seat.channel? descriptor with
  | none => return false
  | some index =>
      modify fun s => { s with machine := s.machine.write index t }
      match (← get).machine.channels[index]? with
      | some (.pipe bytes taken) => if bytes.size - taken > pipeLimit then throw (.killed 13) else return true
      | some .full => return t.isEmpty
      | _ => return true

/-- Reports something: the name of the shell, the line, the command and what it is about. -/
def complain (parts : List Text) : Action Unit := do
  let s ← ask id
  discard (write 2 (Text.join ": ".toList
    (s.name :: (toString s.line).toList :: (s.speaker.toList ++ parts)) ++ ['\n']))

def fail {α : Type} (parts : List Text) : Action α := do
  complain parts
  setStatus 2
  throw .failure

/-- Fails because of a text that is no number. -/
def illegalNumber {α : Type} (t : Text) : Action α := fail ["Illegal number".toList, t]

/-! ## Variables

A variable that can only be read keeps its value, and to set it is a failure. Frames remember what
was changed in them, for functions and for assignments before a command. -/

def value? (name : Text) : Action (Option Text) := do
  return ((← ask (·.values))[name]?).bind Variable.value

def entry (name : Text) : Action Variable := do
  return ((← ask (·.values))[name]?).getD .unset

/-- Puts a variable in place of the one of that name. -/
def putEntry (name : Text) (entry : Variable) : Action Unit :=
  change fun s =>
    if s.values.contains name then { s with values := s.values.insert name entry }
    else { s with values := s.values.insert name { entry with age := s.made }, made := s.made + 1 }

def isOn (letter : Char) : Action Bool := ask (·.options.contains letter)

/-- Fails if a text is not the name of a variable. -/
def checkName (name : Text) : Action Unit := do
  if !isName name then fail [name, "bad variable name".toList]

def digitsValue (digits : Text) : Nat :=
  digits.foldl (fun n d => 10 * n + (d.toNat - '0'.toNat)) 0

/-- **Sets a variable.** One that can only be read stays. -/
def assign (name value : Text) : Action Unit := do
  checkName name
  let old ← entry name
  if old.isReadOnly then fail [name, "is read only".toList]
  let isExported := old.isExported || (← isOn 'a')
  putEntry name { old with value := some value, isExported := isExported }
  if name = "OPTIND".toList then
    change fun s => { s with cursor := ⟨max 1 (digitsValue (value.takeWhile Char.isDigit)), 0⟩ }

def unset (name : Text) : Action Unit := do
  let old ← entry name
  if old.isReadOnly then fail [name, "is read only".toList]
  change fun s => { s with values := s.values.erase name }

/-- Remembers a variable, to be put back at the end of the current frame. -/
def remember (name : Text) : Action Unit := do
  let old := (← ask (·.values))[name]?
  change fun s => match s.frames with
    | [] => s
    | frame :: rest =>
        if frame.any fun (n, _) => n = name then s
        else { s with frames := ((name, old) :: frame) :: rest }

def pushFrame : Action Unit := change fun s => { s with frames := [] :: s.frames }

/-- Ends a frame, and puts back what was remembered in it. -/
def popFrame : Action Unit := change fun s =>
  match s.frames with
  | [] => s
  | frame :: rest =>
      { s with
        frames := rest,
        values := frame.foldl
          (fun values (name, old) => match old with
            | some entry => values.insert name entry
            | none => values.erase name) s.values }

def separators : Action Text := do return (← value? "IFS".toList).getD [' ', '\t', '\n']

def shownOptions (options : Text) : Text :=
  "ubaCEVvxsnmiIfe".toList.filter options.contains

/-- **The value of a parameter**, if it is set. All arguments at once are joined by the first
separator. -/
def parameter? (name : Text) : Action (Option Text) := do
  let s ← ask id
  match name with
  | ['#'] => return some (toString s.arguments.length).toList
  | ['?'] => return some (toString s.status).toList
  | ['$'] => return some (toString s.seat.number).toList
  | ['-'] => return some (shownOptions s.options)
  | ['!'] => return s.background.map fun n => (toString n).toList
  | ['@'] | ['*'] => return some (Text.join ((← separators).take 1) s.arguments)
  | _ =>
      if name.all Char.isDigit then
        match digitsValue name with
        | 0 => return some s.name
        | n + 1 => return s.arguments[n]?
      else value? name

/-- Remembers a program that was found by a search. -/
def track (name : Text) : Action Unit :=
  change fun s => if s.tracked.contains name then s else { s with tracked := s.tracked ++ [name] }

/-! ## Environment

Programs get the variables that are exported, in the order in which the shell keeps them in its
table. -/

/-- The place of a name in an order of so many buckets. -/
def bucketOf (buckets : Nat) (name : Text) : Nat :=
  (16 * (name.headD ' ').toNat + name.foldl (fun n c => n + c.toNat) 0) % buckets

/-- The place of a variable in the order in which programs get them. -/
def bucket (name : Text) : Nat := bucketOf 39 name

def environment (s : Session) : List (Text × Text) :=
  let place := fun ((name, entry) : Text × Variable) => (bucket name, entry.age)
  let sorted := (s.values.toList.filter (·.2.isExported)).mergeSort fun a b =>
    (place a).1 < (place b).1 || ((place a).1 == (place b).1 && (place a).2 ≤ (place b).2)
  sorted.filterMap fun (name, entry) => entry.value.map fun value => (name, value)

def programSeat (s : Session) : Seat := { s.seat with environment := environment s }

/-- A text in quotes, as the shell shows values. Single quotes stand in double quotes. -/
def shownQuoted (t : Text) : Text := go (t.length + 1) t
where
  /-- Shows a text of so many characters at most. -/
  go : Nat → Text → Text
    | 0, _ => []
    | fuel + 1, t =>
        let run := t.takeWhile (· != '\'')
        let rest := t.drop run.length
        let marks := rest.takeWhile (· == '\'')
        let after := rest.drop marks.length
        '\'' :: run ++ ['\''] ++
          (if marks.isEmpty then [] else '"' :: marks ++ ['"']) ++
          (if after.isEmpty then [] else go fuel after)

end Action

end SwiftExistential.Shell
