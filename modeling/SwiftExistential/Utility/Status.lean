import SwiftExistential.Moment.Basic
import SwiftExistential.Utility.Paths

/-!
# What is known of a file

`stat` shows the facts about files, each by a letter behind a percent sign. There is a usual format,
a short one, and any format that is given.

A fact is a text or a number, and is filled up to a width with the flags that stand before its
letter. Times are shown as moments or in seconds with a fraction. A letter that stands for no fact
is shown as a question mark, and what looks like an escape but is none leads to a warning.
-/

set_option autoImplicit false

namespace SwiftExistential.Utility

open Process

/-- How a fact is filled up. -/
structure FactForm where
  flags : Text
  width : Nat
  /-- The digits behind the point, or nine for a point alone. -/
  precision : Option Nat

namespace FactForm

def text (f : FactForm) (t : Text) : Text :=
  let t := match f.precision with
    | some n => t.take n
    | none => t
  if f.flags.contains '-' then padRight f.width t else padLeft f.width t

/-- Digits with what stands before them, filled up with blanks or zeros. -/
def digits (f : FactForm) (before digits : Text) : Text :=
  let digits := List.replicate ((f.precision.getD 0) - digits.length) '0' ++ digits
  if f.flags.contains '-' then padRight f.width (before ++ digits)
  else if f.flags.contains '0' && f.precision.isNone then
    before ++ List.replicate (f.width - before.length - digits.length) '0' ++ digits
  else padLeft f.width (before ++ digits)

def number (f : FactForm) (n : Int) : Text :=
  let sign := if n < 0 then ['-'] else []
  f.digits sign (shownNat n.natAbs)

/-- A number in base eight or sixteen. -/
def inBase (f : FactForm) (base n : Nat) : Text :=
  let start := if !f.flags.contains '#' || n = 0 then [] else if base = 8 then ['0'] else ['0', 'x']
  f.digits start (Number.digits base n)

/-- A time in seconds, cut to the places that are asked for. -/
def seconds (f : FactForm) (moment : Int) : Text :=
  match f.precision with
  | none => f.number (Moment.seconds moment)
  | some places =>
      let fraction := shownNat (1000000000 + Moment.fraction moment)
      let behind := (fraction.drop 1).take places ++ List.replicate (places - 9) '0'
      let whole := Number.shown (Moment.seconds moment)
      let all := if places = 0 then whole else whole ++ '.' :: behind
      if f.flags.contains '-' then padRight f.width all else padLeft f.width all

end FactForm

def deviceNumber : Nat := 0xfe00

/-- A moment with date, time and zone. -/
def fullTime (moment : Int) : Text := Moment.format moment "%Y-%m-%d %H:%M:%S.%N %z".toList

def fact? (tree : FileTree) (path : Text) (e : Entry) (f : FactForm) (letter : Char) : Option Text :=
  let birth := e.record.modified
  match letter with
  | 'a' => some (f.inBase 8 e.mode)
  | 'A' => some (f.text e.modeLetters)
  | 'b' => some (f.number (e.blocks * 2))
  | 'B' => some (f.number 512)
  | 'd' => some (f.number deviceNumber)
  | 'D' => some (f.inBase 16 deviceNumber)
  | 'f' => some (f.inBase 16 (e.kindBits + e.mode))
  | 'F' => some (f.text e.kind)
  | 'g' => some (f.number e.record.group)
  | 'G' => some (f.text (nameIn knownGroups e.record.group))
  | 'h' => some (f.number e.links)
  | 'i' => some (f.number (e.serial tree))
  | 'm' => some (f.text ['/'])
  | 'n' => some (f.text path)
  | 'N' => some (f.text (match e.node with
      | .link target => quoted path ++ " -> ".toList ++ quoted (Octets.ofText target)
      | _ => quoted path))
  | 'o' => some (f.number 4096)
  | 'r' => some (f.number (if e.letter == 'c' then 0x103 else 0))
  | 'R' => some (f.inBase 16 (if e.letter == 'c' then 0x103 else 0))
  | 's' => some (f.number e.size)
  | 't' => some (f.inBase 16 (if e.letter == 'c' then 1 else 0))
  | 'T' => some (f.inBase 16 (if e.letter == 'c' then 3 else 0))
  | 'u' => some (f.number e.record.owner)
  | 'U' => some (f.text (nameIn knownUsers e.record.owner))
  | 'w' => some (f.text (fullTime birth))
  | 'W' => some (f.seconds birth)
  | 'x' => some (f.text (fullTime e.record.accessed))
  | 'X' => some (f.seconds e.record.accessed)
  | 'y' => some (f.text (fullTime e.record.modified))
  | 'Y' => some (f.seconds e.record.modified)
  | 'z' => some (f.text (fullTime e.record.modified))
  | 'Z' => some (f.seconds e.record.modified)
  | _ => none

/-- Reads flags, width and precision behind a percent sign. -/
def readFactForm (t : Text) : FactForm × Text :=
  let flags := t.takeWhile fun c => "'-+ #0I".toList.contains c
  let t := t.drop flags.length
  let width := t.takeWhile Char.isDigit
  match t.drop width.length with
  | '.' :: rest =>
      let precision := rest.takeWhile Char.isDigit
      (⟨flags, Number.value 10 width, some (if precision.isEmpty then 9 else Number.value 10 precision)⟩,
        rest.drop precision.length)
  | rest => (⟨flags, Number.value 10 width, none⟩, rest)

/-- Fills facts into a format, with so many steps at most, and returns warnings too. -/
def formatFacts (tree : FileTree) (path : Text) (e : Entry) (escapes : Bool) : Nat → Text → Text × List Text
  | 0, _ => ([], [])
  | _, [] => ([], [])
  | fuel + 1, '%' :: t =>
      let (form, rest) := readFactForm t
      match rest with
      | [] => ('%' :: t, [])
      | c :: behind =>
          let (others, warnings) := formatFacts tree path e escapes fuel behind
          if c == '%' then ('%' :: others, warnings)
          else match fact? tree path e form c with
            | some shown => (shown ++ others, warnings)
            | none => ('?' :: others, warnings)
  | fuel + 1, '\\' :: t =>
      if !escapes then
        let (others, warnings) := formatFacts tree path e escapes fuel t
        ('\\' :: others, warnings)
      else
        let (shown, rest, found) := escape t
        let (others, warnings) := formatFacts tree path e escapes fuel rest
        (shown ++ others, found ++ warnings)
  | fuel + 1, c :: t =>
      let (others, warnings) := formatFacts tree path e escapes fuel t
      (c :: others, warnings)
where
  /-- What stands for an escape, what is left, and a warning. -/
  escape : Text → Text × Text × List Text
    | [] => (['\\'], [], ["warning: backslash at end of format".toList])
    | 'x' :: t =>
        let digits := (t.take 2).takeWhile (Number.isDigit 16)
        if digits.isEmpty then (['x'], t, ["warning: unrecognized escape '\\x'".toList])
        else ([Char.ofNat (Number.value 16 digits)], t.drop digits.length, [])
    | c :: t =>
        let octal := ((c :: t).take 3).takeWhile (Number.isDigit 8)
        if !octal.isEmpty then ([Char.ofNat (Number.value 8 octal % 256)], (c :: t).drop octal.length, [])
        else match c with
          | 'a' => (['\x07'], t, [])
          | 'b' => (['\x08'], t, [])
          | 'e' => (['\x1b'], t, [])
          | 'f' => (['\x0c'], t, [])
          | 'n' => (['\n'], t, [])
          | 'r' => (['\r'], t, [])
          | 't' => (['\t'], t, [])
          | 'v' => (['\x0b'], t, [])
          | '"' | '\\' => ([c], t, [])
          | c => ([c], t, ["warning: unrecognized escape '\\".toList ++ [c, '\'']])

def usualFacts (e : Entry) : String :=
  let name := match e.node with
    | .link _ => "  File: \x01\n"
    | _ => "  File: %n\n"
  let kind := if e.letter == 'c' then
      "Device: %d\tInode: %-10i  Links: %-5h Device type: 1,3\n"
    else "Device: 254,0\tInode: %-10i  Links: %h\n"
  name ++ "  Size: %-10s\tBlocks: %-10b IO Block: %-6o %F\n" ++ kind ++
    "Access: (%04a/%10.10A)  Uid: (%5u/%8U)   Gid: (%5g/%8G)\n" ++
    "Access: %x\nModify: %y\nChange: %z\n Birth: %w\n"

def terseFacts : String := "%n %s %b %f %u %g %D %i %h %t %T %X %Y %Z %W %o\n"

def statOptions : Specification :=
  { name := "stat", letters := "c:fLt",
    words := [("cached", '\x01', .one), ("dereference", 'L', .none), ("file-system", 'f', .none),
      ("format", 'c', .one), ("printf", 'p', .one), ("terse", 't', .none)] }

/-- Reports warnings in the name of `stat`. -/
def warnAll : List Text → Job Unit
  | [] => return
  | w :: rest => do
      complain "stat" w
      warnAll rest

/-- Shows the facts about one file. -/
def statOne (g : Given) (path : Text) : Job Nat := do
  let tree ← Job.tree
  match Entry.find tree (g.has 'L') path with
  | .error e =>
      complainOf "stat" "cannot statx " path e
      return 1
  | .ok e =>
      let shown := match g.options.reverse.find? fun (c, _) => c == 'c' || c == 'p' with
        | some ('p', format) => formatFacts tree path e true (format.length + 1) format
        | some (_, format) =>
            let (t, warnings) := formatFacts tree path e false (format.length + 1) format
            (t ++ ['\n'], warnings)
        | none =>
            let format := (if g.has 't' then terseFacts else usualFacts e).toList
            let target := match e.node with
              | .link target => path ++ " -> ".toList ++ Octets.ofText target
              | _ => []
            let (t, warnings) := formatFacts tree path e false (format.length + 1) format
            (t.flatMap fun c => if c == '\x01' then target else [c], warnings)
      warnAll shown.2
      Job.put shown.1
      return 0

def stat : Utility := fun _ arguments =>
  withOptions statOptions arguments fun g => do
    if g.operands.isEmpty then misuse statOptions "missing operand".toList
    else forAll (statOne g) g.operands

end SwiftExistential.Utility
