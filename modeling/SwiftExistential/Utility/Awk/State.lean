import Std.Data.TreeMap
import SwiftExistential.Process.Machine
import SwiftExistential.Utility.Awk.Program
import SwiftExistential.Utility.Awk.Source
import SwiftExistential.Utility.Awk.Value

/-!
# The state of awk

What a running program changes: its variables, the fields of the record, its input and its output.

The record and its fields are two forms of the same. Each is made from the other only when somebody
asks for it, and the state knows which of them is the latest. Some names are variables and parts of
the input at the same time, such as the number of fields, so names are set by one function that
knows them.
-/

set_option autoImplicit false

/-! ## The state of a pattern program

What a program knows while it runs: the values of its names, the record with its fields, and what it
reads and writes. Commands that it starts read and write when they are opened and closed. -/

namespace SwiftExistential.Utility.Awk

open Process

/-- A parameter of a function that runs: its value, or the name of its table. -/
inductive Slot where
  | value (v : Value)
  | table (key : Text)

/-- A file or a command that is read. -/
structure Inflow where
  name : Text
  isCommand : Bool
  rest : Text
  status : Nat

/-- A file or a command that is written to, with what is not yet written, the last part first. -/
structure Outflow where
  name : Text
  direction : Direction
  waiting : List Text

/-- How far the files have been read. -/
structure Files where
  /-- What is left of the current one. -/
  current : Option Text
  /-- The number of the next argument. -/
  next : Nat
  /-- Whether a file was named. -/
  isNamed : Bool

structure State where
  values : Std.TreeMap Text Value
  tables : Std.TreeMap Text Table
  /-- How many tables belong to parameters. -/
  tableCount : Nat
  frame : Array Slot
  record : Text
  fields : Array Value
  /-- Whether the fields are those of the record. -/
  isSplit : Bool
  /-- Whether the record is made of the fields. -/
  isJoined : Bool
  files : Files
  inflows : List Inflow
  outflows : List Outflow
  /-- What goes to the output, the last part first. -/
  output : List Text
  status : Nat
  /-- The rules whose range is open. -/
  ranges : List Nat
  /-- The value that random numbers started with, and the one they have come to. -/
  seed : Value
  random : Nat

/-- Why a part of a program stops. -/
inductive Stop where
  | next
  | nextFile
  | exit
  | return' (v : Value)
  | break'
  | continue'
  /-- The program is given up. -/
  | failed

abbrev Run := ExceptT Stop (StateT State Job)

namespace Run

def outside {α : Type} (j : Job α) : Run α := ExceptT.lift (StateT.lift j)

/-! ### Values -/

def valueOf (t : Text) : Run Value := do return ((← get).values[t]?).getD .unset

def setValue (t : Text) (v : Value) : Run Unit :=
  modify fun s => { s with values := s.values.insert t v }

/-- The format of numbers that become texts. -/
def conversion : Run (Float → Text) := do
  match ← valueOf "CONVFMT".toList with
  | .text t | .given t => return Format.number t
  | _ => return Format.usual

def textOf (v : Value) : Run Text := do
  match v with
  | .text t | .given t => return t
  | v => return v.toText (← conversion)

def named (name : String) : Run Text := do textOf (← valueOf name.toList)

/-! ### Writing

What is written to files and commands waits until it is asked for, or until the program ends. A
command is run when what was written to it is closed. -/

def flushOutput : Run Unit := do
  let waiting := (← get).output
  unless waiting.isEmpty do
    modify fun s => { s with output := [] }
    outside (Job.put waiting.reverse.flatten)

def title : Run Text := do
  let t := (← outside read).title
  let last := (t.reverse.takeWhile (· != '/')).reverse
  return if last.isEmpty then "awk".toList else last

def report (message : Text) : Run Unit := do
  let name ← title
  outside (Job.write 2 (name ++ ": ".toList ++ message ++ ['\n']))

def give {α : Type} (message : Text) : Run α := do
  report message
  modify fun s => { s with status := 2 }
  throw .failed

/-- Gives the program up because of what it does. -/
def fail {α : Type} (message : Text) : Run α := do
  report ("run time error: ".toList ++ message)
  let file ← named "FILENAME"
  let count := fun (v : Value) => numberText Format.usual v.toNumber
  let fnr := count (← valueOf "FNR".toList)
  let nr := count (← valueOf "NR".toList)
  outside (Job.write 2 ("\tFILENAME=\"".toList ++ file ++ "\" FNR=".toList ++ fnr ++ " NR=".toList ++ nr ++
    ['\n']))
  modify fun s => { s with status := 2 }
  throw .failed

def flushFile (o : Outflow) : Run Unit := do
  unless o.waiting.isEmpty do
    discard (outside (Job.writeFile o.name true o.waiting.reverse.flatten))

/-- Writes all that waits for files and the output. -/
def flushAll : Run Unit := do
  flushOutput
  let outflows := (← get).outflows
  go outflows
  modify fun s => { s with
    outflows := outflows.map fun o => if o.direction = .command then o else { o with waiting := [] } }
where
  /-- Writes what waits for files, one after the other. -/
  go : List Outflow → Run Unit
    | [] => return ()
    | o :: rest => do
        unless o.direction = .command do flushFile o
        go rest

/-- The number of an ending that a program gets to see. -/
def endingNumber : Except StartError Ending → Nat
  | .ok (.exited n) => n
  | .ok (.killed n) => 256 + n
  | .error _ => 127

def runCommand (launch : Launch) (sit : Seat → Seat) (command : Text) : Run Nat := do
  let ending ← outside do
    (launch ["/bin/sh".toList, "-c".toList, command]).run (sit (← read))
  return endingNumber ending

/-- Writes to a place, which is opened if it is not yet. -/
def writeTo (direction : Direction) (name t : Text) : Run Unit := do
  match String.ofList name with
  | "/dev/stdout" | "-" => modify fun s => { s with output := t :: s.output }
  | "/dev/stderr" => outside (Job.write 2 t)
  | _ =>
      let isIt := fun (o : Outflow) => o.name == name && (o.direction == .command) == (direction == .command)
      match (← get).outflows.find? isIt with
      | some o =>
          modify fun s => { s with
            outflows := { o with waiting := t :: o.waiting } :: s.outflows.filter fun o => !isIt o }
      | none =>
          if direction = .command then flushAll
          else
            match ← outside (Job.writeFile name (direction = .append) []) with
            | .ok _ => pure ()
            | .error e =>
                give ("cannot open \"".toList ++ name ++ "\" for output (".toList ++ reason e ++ ")".toList)
          modify fun s => { s with outflows := ⟨name, direction, [t]⟩ :: s.outflows }

/-- Closes what was written to. Returns its status. -/
def closeOutflow (launch : Launch) (o : Outflow) : Run Nat := do
  match o.direction with
  | .command =>
      let (index, machine) := (← outside get).openChannel
        (.pipe (Octets.toArray o.waiting.reverse.flatten) 0)
      outside (set machine)
      runCommand launch (·.connect 0 index) o.name
  | _ =>
      flushFile o
      return 0

/-- Closes what was written to, one after the other. -/
def closeOutflows (launch : Launch) : List Outflow → Run Unit
  | [] => return ()
  | o :: rest => do
      discard (closeOutflow launch o)
      closeOutflows launch rest

def close (launch : Launch) (name : Text) : Run Int := do
  let s ← get
  match s.outflows.find? (·.name == name), s.inflows.find? (·.name == name) with
  | some o, _ =>
      set { s with outflows := s.outflows.filter (·.name != name) }
      return (← closeOutflow launch o : Nat)
  | none, some i =>
      set { s with inflows := s.inflows.filter (·.name != name) }
      return (i.status : Nat)
  | none, none => return -1

end Run

end SwiftExistential.Utility.Awk

/-! ## Records and fields

A text is divided into records, and a record into fields. The separator of fields is one character,
or a pattern; a blank stands for all blanks, and nothing divides a text into its characters. A field
that is changed changes the record, and the other way round. -/

namespace SwiftExistential.Utility.Awk

/-- What divides a text. -/
inductive Separator where
  | blanks
  | character (c : Char)
  | pattern (e : Expression)
  | nothing

namespace Separator

/-- What a text stands for that is given as a separator. -/
def ofText (t : Text) : Except Pattern.Mistake Separator :=
  match t with
  | [] => .ok .nothing
  | [c] => .ok (if c == ' ' then .blanks else .character c)
  | t => (Pattern.read t).map .pattern

def isBlank (c : Char) : Bool := c == ' ' || c == '\t' || c == '\n'

/-- The words of a text, with so many steps at most. -/
def words : Nat → Text → List Text
  | 0, _ => []
  | fuel + 1, t =>
      match t.dropWhile isBlank with
      | [] => []
      | start =>
          let word := start.takeWhile (!isBlank ·)
          word :: words fuel (start.drop word.length)

/-- The pieces of a text between places where something holds. -/
def pieces (holds : Char → Bool) (start : Text) : Text → List Text
  | [] => [start.reverse]
  | c :: rest =>
      if holds c then start.reverse :: pieces holds [] rest else pieces holds (c :: start) rest

/-- The pieces of a text between fits of a pattern, with so many steps at most. A fit has to take
something. -/
def between (e : Expression) : Nat → Text → Option Char → Text → List Text
  | 0, start, _, t => [start.reverse ++ t]
  | fuel + 1, start, before, t =>
      match Pattern.find? e before t with
      | none => [start.reverse ++ t]
      | some f =>
          if f.taken.isEmpty then
            match f.rest with
            | [] => [start.reverse ++ t]
            | c :: rest => between e fuel (c :: f.skipped.reverse ++ start) (some c) rest
          else (start.reverse ++ f.skipped) :: between e fuel [] f.before f.rest

/-- **Divides a text.** -/
def divide (s : Separator) (t : Text) : List Text :=
  if t.isEmpty then []
  else match s with
    | .blanks => words (t.length + 1) t
    | .character c => pieces (· == c) [] t
    | .pattern e => between e (t.length + 1) [] none t
    | .nothing => t.map fun c => [c]

end Separator

/-! ### Records -/

inductive RecordEnd where
  | character (c : Char)
  /-- Records are apart by empty lines. -/
  | paragraph
  | pattern (e : Expression)

/-- What a text stands for that ends records. -/
def RecordEnd.ofText (t : Text) : Except Pattern.Mistake RecordEnd :=
  match t with
  | [] => .ok .paragraph
  | [c] => .ok (.character c)
  | t => (Pattern.read t).map .pattern

/-- The lines up to the next empty one, and the text behind it. -/
def splitParagraph (start : Text) : Text → Text × Text
  | [] => (start.reverse, [])
  | '\n' :: '\n' :: rest => (start.reverse, rest.dropWhile (· == '\n'))
  | ['\n'] => (start.reverse, [])
  | c :: rest => splitParagraph (c :: start) rest

def splitAtChar (c : Char) (start : Text) : Text → Text × Text
  | [] => (start.reverse, [])
  | d :: rest => if d == c then (start.reverse, rest) else splitAtChar c (d :: start) rest

/-- **The next record of a text**, and the text behind it. -/
def RecordEnd.next? (r : RecordEnd) (t : Text) : Option (Text × Text) :=
  match r with
  | .paragraph =>
      match t.dropWhile (· == '\n') with
      | [] => none
      | start => some (splitParagraph [] start)
  | .character c => if t.isEmpty then none else some (splitAtChar c [] t)
  | .pattern e =>
      if t.isEmpty then none
      else match Pattern.find? e none t with
        | some f => if f.taken.isEmpty then some (t, []) else some (f.skipped, f.rest)
        | none => some (t, [])

namespace Run

/-- Gives the program up because of a pattern. -/
def failPattern {α : Type} (t : Text) (m : Pattern.Mistake) : Run α :=
  fail ("regular expression compile failed (".toList ++ m.message.toList ++ ")\n".toList ++ t)

def fieldSeparator : Run Separator := do
  let t ← named "FS"
  match Separator.ofText t with
  | .ok s => return s
  | .error m => failPattern t m

/-- Divides the record into fields, if that is not yet done. -/
def splitRecord : Run Unit := do
  unless (← get).isSplit do
    let separator ← fieldSeparator
    modify fun s => { s with
      fields := ((separator.divide s.record).map Value.given).toArray, isSplit := true }

/-- Puts the record together, if that is not yet done. -/
def joinFields : Run Unit := do
  unless (← get).isJoined do
    let between ← named "OFS"
    let format ← conversion
    modify fun s => { s with
      record := Text.join between (s.fields.toList.map (Value.toText format)), isJoined := true }

def setRecord (t : Text) : Run Unit :=
  modify fun s => { s with record := t, isSplit := false, isJoined := true, fields := #[] }

def record : Run Text := do
  joinFields
  return (← get).record

def fieldNumber (x : Float) : Run Nat := do
  let n := toInt x
  if n < 0 then fail ("negative field index $".toList ++ Number.shown n)
  else return n.toNat

def field (n : Nat) : Run Value := do
  if n = 0 then return .given (← record)
  else
    splitRecord
    return ((← get).fields[n - 1]?).getD .unset

def resize (fields : Array Value) (n : Nat) : Array Value :=
  if n ≤ fields.size then fields.extract 0 n
  else fields ++ Array.replicate (n - fields.size) (Value.text [])

def setField (n : Nat) (v : Value) : Run Unit := do
  if n = 0 then setRecord (← textOf v)
  else
    splitRecord
    modify fun s =>
      let fields := if s.fields.size < n then resize s.fields n else s.fields
      { s with fields := fields.setIfInBounds (n - 1) v, isJoined := false }

def fieldCount : Run Nat := do
  splitRecord
  return (← get).fields.size

def setFieldCount (v : Value) : Run Unit := do
  let n := toInt v.toNumber
  if n < 0 then fail "negative value assigned to NF".toList
  splitRecord
  modify fun s => { s with fields := resize s.fields n.toNat, isJoined := false }

end Run

end SwiftExistential.Utility.Awk

/-! ## Reading records

The arguments of a program are files and assignments, which are taken in turn. If no file is among
them, the input is read. A program may also read from other files, and from commands. -/

namespace SwiftExistential.Utility.Awk

open Process

def assignment? (t : Text) : Option (Text × Text) :=
  let name := t.takeWhile isNameChar
  match name.head?.any isNameStart, t.drop name.length with
  | true, '=' :: value => some (name, unescape (value.length + 1) value)
  | _, _ => none

namespace Run

/-- **Sets a name**: some names change the record. -/
def setName (t : Text) (v : Value) : Run Unit := do
  match String.ofList t with
  | "NF" => setFieldCount v
  | "FS" | "RS" =>
      splitRecord
      setValue t v
  | "OFS" =>
      joinFields
      setValue t v
  | _ => setValue t v

def recordEnd : Run RecordEnd := do
  let t ← named "RS"
  match RecordEnd.ofText t with
  | .ok r => return r
  | .error m => failPattern t m

def begin (name content : Text) : Run Unit := do
  setValue "FILENAME".toList (.text name)
  setValue "FNR".toList (.number 0)
  modify fun s => { s with files := { s.files with current := some content, isNamed := true } }

def openFile (name : Text) : Run Unit := do
  match ← outside (Job.readSource (if name = "/dev/stdin".toList then ['-'] else name)) with
  | .ok content => begin name content
  | .error .isDirectory => give "read error (Is a directory)".toList
  | .error e => give ("cannot open \"".toList ++ name ++ "\" (".toList ++ reason e ++ ")".toList)

def argument (n : Nat) : Run Text := do
  let table := ((← get).tables["ARGV".toList]?).getD .empty
  match table.has (.number n) with
  | (true, table) => textOf (table.get (.number n)).1
  | (false, _) => return []

/-- Goes on to the next file among the arguments, of which there are so many at most. Returns
whether there is one. -/
def openNext : Nat → Run Bool
  | 0 => return false
  | fuel + 1 => do
      let files := (← get).files
      let count := toInt (← valueOf "ARGC".toList).toNumber
      if (files.next : Int) < count then
        modify fun s => { s with files := { s.files with next := files.next + 1 } }
        let t ← argument files.next
        if t.isEmpty then openNext fuel
        else match assignment? t with
          | some (name, value) =>
              setName name (.given value)
              openNext fuel
          | none =>
              openFile t
              return true
      else if files.isNamed then return false
      else
        openFile ['-']
        return true

/-- The next record of the files, with so many files at most. -/
def nextRecordFrom : Nat → Run (Option Text)
  | 0 => return none
  | fuel + 1 => do
      match (← get).files.current with
      | none => if ← openNext 100000 then nextRecordFrom fuel else return none
      | some content =>
          match (← recordEnd).next? content with
          | some (t, rest) =>
              modify fun s => { s with files := { s.files with current := some rest } }
              return some t
          | none =>
              modify fun s => { s with files := { s.files with current := none } }
              nextRecordFrom fuel

def nextRecord : Run (Option Text) := do
  match ← nextRecordFrom 100000 with
  | none => return none
  | some t =>
      let count := fun (name : String) => do
        setValue name.toList (.number ((← valueOf name.toList).toNumber + 1))
      count "NR"
      count "FNR"
      return some t

/-- Passes the rest of the current file. -/
def skipFile : Run Unit := modify fun s => { s with files := { s.files with current := none } }

/-- Opens a file or a command to read from it, if it can be read. -/
def inflow (launch : Launch) (isCommand : Bool) (name : Text) : Run (Option Inflow) := do
  match (← get).inflows.find? fun i => i.name == name && i.isCommand == isCommand with
  | some i => return some i
  | none =>
      let opened ← if isCommand then
          flushAll
          let (index, machine) := (← outside get).openChannel (.pipe .empty 0)
          outside (set machine)
          let status ← runCommand launch (·.connect 1 index) name
          outside (modify fun m => m.close index)
          let content := match (← outside get).remaining index with
            | .ok bytes => Octets.ofArray bytes
            | .error _ => []
          outside (modify fun m => m.skip index content.length)
          pure (some (⟨name, true, content, status⟩ : Inflow))
        else
          match ← outside (Job.readSource (if name = "/dev/stdin".toList then ['-'] else name)) with
          | .ok content => pure (some ⟨name, false, content, 0⟩)
          | .error _ => pure none
      match opened with
      | some i => modify fun s => { s with inflows := i :: s.inflows }
      | none => pure ()
      return opened

/-- The next record of a file or a command. There is `none` if it cannot be read, and nothing behind
its end. -/
def nextFrom (launch : Launch) (isCommand : Bool) (name : Text) : Run (Option (Option Text)) := do
  match ← inflow launch isCommand name with
  | none => return none
  | some i =>
      match (← recordEnd).next? i.rest with
      | none => return some none
      | some (t, rest) =>
          modify fun s => { s with
            inflows := s.inflows.map fun j =>
              if j.name == name && j.isCommand == isCommand then { j with rest := rest } else j }
          return some (some t)

end Run

end SwiftExistential.Utility.Awk
