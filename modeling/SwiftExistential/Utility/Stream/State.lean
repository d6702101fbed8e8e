import SwiftExistential.Text.Basic
import SwiftExistential.Utility.Options
import SwiftExistential.Utility.Stream.Script

/-!
# The state of the stream editor

What the stream editor says about its use, and what it keeps while it runs: the text that it works
on and the one that is kept, the files that it reads, and what it has written.

Where the editor writes to the file that it reads, the output takes its place when the file is
closed, and a copy of the file may be kept.
-/

set_option autoImplicit false

/-! ## How the stream editor is used -/

namespace SwiftExistential.Utility.Stream

/-- The lines that say how the editor is used. -/
def usageLines : List String :=
  ["Usage: sed [OPTION]... \x7bscript-only-if-no-other-script\x7d [input-file]...",
    "",
    "  -n, --quiet, --silent",
    "                 suppress automatic printing of pattern space",
    "      --debug",
    "                 annotate program execution",
    "  -e script, --expression=script",
    "                 add the script to the commands to be executed",
    "  -f script-file, --file=script-file",
    "                 add the contents of script-file to the commands to be executed",
    "  --follow-symlinks",
    "                 follow symlinks when processing in place",
    "  -i[SUFFIX], --in-place[=SUFFIX]",
    "                 edit files in place (makes backup if SUFFIX supplied)",
    "  -l N, --line-length=N",
    "                 specify the desired line-wrap length for the \x60l' command",
    "  --posix",
    "                 disable all extensions.",
    "  -E, -r, --regexp-extended",
    "                 use extended regular expressions in the script",
    "                 (for portability use POSIX -E).",
    "  -s, --separate",
    "                 consider files as separate rather than as a single,",
    "                 continuous long stream.",
    "      --sandbox",
    "                 operate in sandbox mode (disable e/r/w commands).",
    "  -u, --unbuffered",
    "                 load minimal amounts of data from the input files and flush",
    "                 the output buffers more often",
    "  -z, --null-data",
    "                 separate lines by NUL characters",
    "      --help     display this help and exit",
    "      --version  output version information and exit",
    "",
    "If no -e, --expression, -f, or --file option is given, then the first",
    "non-option argument is taken as the sed script to interpret.  All",
    "remaining arguments are names of input files; if no input files are",
    "specified, then the standard input is read."]

def usageText : Text := (String.join (usageLines.map (· ++ "\n"))).toList

end SwiftExistential.Utility.Stream

/-! ## The state of the stream editor

The editor reads lines from files, one file after the other, and writes to its output, to files that
its script names, or to the place of the file that it reads. An end of a line that is missing is
written only when something follows. -/

namespace SwiftExistential.Utility.Stream

open Process

/-- A text that the editor works on. -/
structure Space where
  text : Text
  /-- Whether an end belongs behind it. -/
  hasEnd : Bool

/-- What is printed at the end of a cycle. -/
inductive Queued where
  | text (t : Text)
  | file (path : Text)

/-- How a range of lines goes on. -/
inductive RangeState where
  | upTo (line : Nat)
  | upToFit
  /-- It has ended. One that starts at a line does not start again. -/
  | closed
deriving DecidableEq, Repr

/-- What was written to one place. -/
structure Output where
  /-- The pieces, the last first. -/
  pieces : List Text
  /-- Whether an end of a line is missing. -/
  owesEnd : Bool

def Output.none : Output := ⟨[], false⟩

/-- What is known of the files that are read. -/
structure Input where
  /-- The lines that are left of the file that is open. -/
  current : Option (List (Text × Bool))
  files : List Text
  name : Text
  line : Nat
  /-- Whether the next file begins a new count of lines. -/
  startsAnew : Bool
  /-- The status that files have caused that cannot be read. -/
  status : Nat

/-- The state of the work. -/
structure State where
  space : Space
  hold : Space
  input : Input
  main : Output
  /-- What takes the place of the file that is read. -/
  inPlace : Output
  /-- Which of the other places miss an end of a line. -/
  owed : List Text
  queue : List Queued
  /-- Whether something was replaced since a line was read or a branch was taken. -/
  isReplaced : Bool
  ranges : List (Nat × RangeState)
  lastWanted : Wanted
  /-- The lines that are left of files that are read line by line. -/
  readers : List (Text × List (Text × Bool))

/-- What does not change during the work. -/
structure Setting where
  launch : Launch
  commands : Array Command
  isSilent : Bool
  /-- The character that ends lines. -/
  ending : Char
  /-- Whether each file has its own lines. -/
  isSeparate : Bool
  /-- The ending of names of copies, if files are edited in place. -/
  suffix : Option Text
  /-- The usual width of shown lines. -/
  width : Nat

/-- Work that may be given up with a status. -/
abbrev Work := ExceptT Nat (StateT State Job)

/-- Does something that does not concern the state. -/
def outside {α : Type} (job : Job α) : Work α := ExceptT.lift (StateT.lift job)

def giveUp {α : Type} (status : Nat) (message : Text) : Work α := do
  outside (complain "sed" message)
  throw status

def inputLines (ending : Char) (t : Text) : List (Text × Bool) :=
  let lines := splitRecords ending [] [] t
  if t.getLast?.any (· != ending) then
    lines.dropLast.map (·, true) ++ lines.getLast?.toList.map (·, false)
  else lines.map (·, true)

/-! ### Writing -/

namespace Output

/-- Adds a text, and an end of a line if it has one. -/
def emit (o : Output) (ending : Char) (t : Text) (hasEnd : Bool) : Output :=
  ⟨(if hasEnd then [ending] else []) :: t :: (if o.owesEnd then [ending] else []) :: o.pieces, !hasEnd⟩

def emitRaw (o : Output) (ending : Char) (t : Text) : Output :=
  if t.isEmpty then o else ⟨t :: (if o.owesEnd then [ending] else []) :: o.pieces, false⟩

def text (o : Output) : Text := o.pieces.reverse.flatten

end Output

/-- Changes what was written where lines usually go. -/
def onOutput (setting : Setting) (change : Output → Output) : Work Unit :=
  modify fun s =>
    if setting.suffix.isSome then { s with inPlace := change s.inPlace } else { s with main := change s.main }

def emit (setting : Setting) (t : Text) (hasEnd : Bool) : Work Unit :=
  onOutput setting fun o => o.emit setting.ending t hasEnd

def emitRaw (setting : Setting) (t : Text) : Work Unit := onOutput setting fun o => o.emitRaw setting.ending t

def emitTo (setting : Setting) (path t : Text) (hasEnd : Bool) : Work Unit := do
  let s ← get
  let whole := (if s.owed.contains path then [setting.ending] else []) ++ t ++
    if hasEnd then [setting.ending] else []
  let s := { s with owed := if hasEnd then s.owed.filter (· != path) else path :: s.owed.filter (· != path) }
  if path = "/dev/stdout".toList then set { s with main := { s.main with pieces := whole :: s.main.pieces } }
  else
    set s
    if path = "/dev/stderr".toList then outside (Job.write 2 whole)
    else discard (outside (Job.writeFile path true whole))

def flush : Work Unit := do
  let s ← get
  outside (Job.put s.main.text)
  set { s with main := { s.main with pieces := [] } }

/-- The text of a file, or of the input, that may be missing. -/
def contentOf (path : Text) : Work Text := do
  return (← outside (Job.readFile path)).toOption.getD []

/-- Prints what waits for the end of the cycle. -/
def emitQueue (setting : Setting) : Work Unit := do
  let waiting := (← get).queue.reverse
  modify fun s => { s with queue := [] }
  waiting.forM fun
    | .text t => emitRaw setting t
    | .file path => do emitRaw setting (← contentOf path)

/-! ### Reading

The next line may stand in a later file, and whether a line is the last one depends on that. So
files are opened ahead. -/

/-- Puts what was written in the place of the file that was read. -/
def replaceFile (setting : Setting) : Work Unit := do
  match setting.suffix with
  | none => return
  | some suffix =>
      let s ← get
      let path := s.input.name
      let old ← contentOf path
      if !suffix.isEmpty then
        let copy := if suffix.contains '*' then Text.replacePart ['*'] path suffix else path ++ suffix
        match ← outside (Job.writeFile copy false old) with
        | .ok _ => pure ()
        | .error e => giveUp 4 ("cannot rename ".toList ++ path ++ ": ".toList ++ reason e)
      discard (outside (Job.writeFile path false s.inPlace.text))
      set { s with inPlace := .none }

def closeFile (setting : Setting) : Work Unit := do
  if (← get).input.current.isSome then
    replaceFile setting
    modify fun s => { s with input := { s.input with current := none } }

def openFile (setting : Setting) (path : Text) : Work Unit := do
  let s ← get
  if s.input.startsAnew then
    set { s with
      hold := ⟨[], true⟩, ranges := [], readers := [], input := { s.input with line := 0 },
      main := if setting.suffix.isNone && s.main.owesEnd then ⟨[setting.ending] :: s.main.pieces, false⟩
        else s.main }
  modify fun s => { s with input := { s.input with startsAnew := setting.isSeparate, name := path } }
  let fail := fun (status : Nat) (what : String) (why : Text) => do
    outside (Job.complain ["sed".toList, what.toList ++ path, why])
    modify fun s => { s with input := { s.input with status := max s.input.status status } }
  let source := if setting.suffix.isSome then Job.readFile path else Job.readSource path
  match ← outside source with
  | .ok content =>
      modify fun s => { s with input := { s.input with current := some (inputLines setting.ending content) } }
  | .error .isDirectory =>
      if setting.suffix.isSome then fail 4 "couldn't edit " "not a regular file".toList
      else
        outside (Job.complain ["sed".toList, "read error on ".toList ++ path, reason .isDirectory])
        throw 4
  | .error e => fail 2 "can't read " (reason e)

/-- Goes on to a line that is left, through so many files at most. Returns whether there is one. -/
def findLine (setting : Setting) : Nat → Work Bool
  | 0 => return false
  | fuel + 1 => do
      match (← get).input with
      | { current := some (_ :: _), .. } => return true
      | { current := _, files := [], .. } => return false
      | { current := _, files := path :: rest, .. } =>
          closeFile setting
          modify fun s => { s with input := { s.input with files := rest } }
          openFile setting path
          findLine setting fuel

def isAtEnd (setting : Setting) : Work Bool := do
  match (← get).input.current with
  | some (_ :: _) => return false
  | _ =>
      if setting.isSeparate then return true
      else return !(← findLine setting ((← get).input.files.length + 1))

/-- Takes the next line, if there is one. What waits for the end of the cycle is printed before. -/
def nextLine? (setting : Setting) : Work (Option (Text × Bool)) := do
  emitQueue setting
  modify fun s => { s with isReplaced := false }
  let isFound ← findLine setting ((← get).input.files.length + 1)
  let s ← get
  match isFound, s.input.current with
  | true, some (line :: rest) =>
      set { s with input := { s.input with current := some rest, line := s.input.line + 1 } }
      return some line
  | _, _ => return none

/-- Takes the next line of a file that is read line by line. -/
def nextOf (setting : Setting) (path : Text) : Work (Option Text) := do
  let left ← match (← get).readers.lookup path with
    | some lines => pure lines
    | none => do pure (inputLines setting.ending (← contentOf path))
  let keep := fun (lines : List (Text × Bool)) => modify fun (s : State) =>
    { s with readers := (path, lines) :: s.readers.filter fun (p, _) => p != path }
  match left with
  | [] =>
      keep []
      return none
  | (t, hasEnd) :: rest =>
      keep rest
      return some (t ++ if hasEnd then [setting.ending] else [])

/-- What a command prints when a shell runs it. -/
def outputOf (setting : Setting) (command : Text) : Work Text := do
  flush
  outside do
    let (index, machine) := (← get).openChannel (.pipe .empty 0)
    set machine
    discard ((setting.launch ["/bin/sh".toList, "-c".toList, command]).run ((← read).connect 1 index))
    modify fun m => m.close index
    let content := match (← get).remaining index with
      | .ok bytes => Octets.ofArray bytes
      | .error _ => []
    modify fun m => m.skip index content.length
    return content

end SwiftExistential.Utility.Stream
