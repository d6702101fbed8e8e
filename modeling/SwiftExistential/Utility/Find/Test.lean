import SwiftExistential.Expression.Basic
import SwiftExistential.Utility.Status

/-!
# Tests of files

What can be asked of a file that a walk meets, and the form of such questions. A test may be made of
others, and some tests do something: they print, remove the file or run a command.

The tests are asked where the walk is; this module has their form, the facts that they need, and the
formats in which found files are printed.
-/

set_option autoImplicit false

/-! ## Tests of files

What `find` asks about each file that it meets. Some tests do something by themselves; they hold if
it succeeds. -/

namespace SwiftExistential.Utility

/-- A bound on a number. -/
inductive Bound where
  | exactly (n : Nat)
  | more (n : Nat)
  | fewer (n : Nat)
deriving DecidableEq, Repr

def Bound.holds (n : Nat) : Bound → Bool
  | exactly m => n = m
  | more m => m < n
  | fewer m => n < m

/-- How a number of hundredths of a unit of time bounds an age. -/
structure AgeBound where
  /-- Equal, or larger, or smaller. -/
  sense : Ordering
  /-- The hundredths of the unit. -/
  hundredths : Nat
deriving DecidableEq, Repr

/-- Whether an age keeps a bound, given the unit, what is taken off a bound that has to be met
exactly, and what is added to the others. -/
def AgeBound.holds (b : AgeBound) (unit early above below age : Int) : Bool :=
  let n := unit * b.hundredths / 100
  match b.sense with
  | .eq => decide (n - early ≤ age) && decide (age < n - early + unit)
  | .gt => decide (n + above < age)
  | .lt => decide (age < n + below)

/-- One of the times of a file. -/
inductive Stamp where
  | modified
  | accessed
deriving DecidableEq, Repr

def Stamp.of (stamp : Stamp) (e : Entry) : Int :=
  match stamp with
  | .modified => e.record.modified
  | .accessed => e.record.accessed

/-- How the bits of a mode are compared with others. -/
inductive ModeWay where
  | exactly
  | all
  | any
deriving DecidableEq, Repr

/-- A part of a format for the facts about a file. -/
inductive FactPiece where
  | text (t : Text)
  | fact (form : FactForm) (letter : Char)
  /-- A part of one of the times. -/
  | time (form : FactForm) (which letter : Char)
  /-- Nothing more is shown. -/
  | stop

/-- How a command is run for files. -/
structure CommandStyle where
  /-- Whether it takes all files at once. -/
  atOnce : Bool
  /-- Whether it runs in the directory of the file. -/
  isInside : Bool
  /-- Whether somebody is asked before. -/
  asks : Bool
deriving DecidableEq, Repr

/-- What is asked of a file. -/
inductive Test where
  | always
  | never
  | named (ignoresCase : Bool) (pattern : Text)
  | path (ignoresCase : Bool) (pattern : Text)
  | target (ignoresCase : Bool) (pattern : Text)
  | fits (ignoresCase : Bool) (e : Expression)
  /-- The kind is among letters; the other one of a link and what it leads to, if it is a link. -/
  | kind (isOther : Bool) (letters : Text)
  | empty
  | executable
  | size (unit : Nat) (bound : Bound)
  | links (bound : Bound)
  | serial (bound : Bound)
  | owner (bound : Bound)
  | group (bound : Bound)
  /-- The mode has bits, of which directories may need others. -/
  | mode (way : ModeWay) (bits directoryBits : Nat)
  | ageInMinutes (stamp : Stamp) (bound : AgeBound)
  /-- The age in days, counted back from a moment. -/
  | ageInDays (stamp : Stamp) (present : Int) (bound : AgeBound)
  | newerThan (stamp : Stamp) (moment : Int)
  | sameAs (locations : List Location)
  /-- Shows the path, with what stands behind it, in a file or the output. -/
  | print (file : Option Text) (ending : Char)
  | format (file : Option Text) (pieces : List FactPiece)
  | list (file : Option Text)
  | delete
  | prune
  | quit
  | run (style : CommandStyle) (arguments : List Text)
  | not (t : Test)
  | and (a b : Test)
  | or (a b : Test)
  /-- Asks both; the second one answers. -/
  | both (a b : Test)

/-- Whether a test does something by itself, so that paths are not shown. -/
def Test.acts : Test → Bool
  | print .. | format .. | list _ | delete | run .. => true
  | not t => t.acts
  | and a b | or a b | both a b => a.acts || b.acts
  | _ => false

def Test.prunes : Test → Bool
  | prune => true
  | not t => t.prunes
  | and a b | or a b | both a b => a.prunes || b.prunes
  | _ => false

/-- Which links are followed. -/
inductive LinkRule where
  | none
  /-- Those that are named. -/
  | named
  | all
deriving DecidableEq, Repr

/-- What is asked for besides tests. -/
structure FindStyle where
  least : Nat
  most : Option Nat
  isDepthFirst : Bool
  links : LinkRule

end SwiftExistential.Utility

/-! ## Formats for found files

A format is a text with facts about a file, each a percent sign and a letter, and escapes behind
backslashes. It is read once and filled in for each file. -/

namespace SwiftExistential.Utility.Find

open Process

/-- What was met on the way. -/
structure Met where
  /-- The path from which the search began. -/
  start : Text
  path : Text
  depth : Nat
  /-- Where the path itself stands. -/
  location : Location
  /-- What it leads to. -/
  entry : Entry
  /-- What a link leads to that is not followed, or the link that was. -/
  other : Option Entry

/-- Reads flags, width and precision. -/
def readForm (t : Text) : FactForm × Text :=
  let flags := t.takeWhile fun c => "-+ #0".toList.contains c
  let t := t.drop flags.length
  let width := t.takeWhile Char.isDigit
  match t.drop width.length with
  | '.' :: rest =>
      let precision := rest.takeWhile Char.isDigit
      (⟨flags, Number.value 10 width, some (Number.value 10 precision)⟩, rest.drop precision.length)
  | rest => (⟨flags, Number.value 10 width, none⟩, rest)

def factLetters : Text := "abcdDfFgGhHiklmMnpPsStuUyYZ".toList

/-- Adds text before pieces. -/
def behindText (t : Text) : List FactPiece → List FactPiece
  | .text u :: rest => .text (t ++ u) :: rest
  | rest => .text t :: rest

/-- Reads a format, with so many steps at most. Returns the pieces and warnings. -/
def readFormat : Nat → Text → Except Text (List FactPiece × List Text)
  | 0, _ => .ok ([], [])
  | _, [] => .ok ([], [])
  | fuel + 1, '\\' :: t =>
      let literal := fun (shown rest : Text) =>
        (readFormat fuel rest).map fun (pieces, w) => (behindText shown pieces, w)
      match t with
      | [] => .ok ([.text ['\\']], ["warning: escape \x60\\' followed by nothing at all".toList])
      | c :: rest =>
          match c with
          | 'a' => literal ['\x07'] rest
          | 'b' => literal ['\x08'] rest
          | 'f' => literal ['\x0c'] rest
          | 'n' => literal ['\n'] rest
          | 'r' => literal ['\r'] rest
          | 't' => literal ['\t'] rest
          | 'v' => literal ['\x0b'] rest
          | '\\' => literal ['\\'] rest
          | 'c' => .ok ([.stop], [])
          | c =>
              let digits := ((c :: rest).take 3).takeWhile (Number.isDigit 8)
              if !digits.isEmpty then
                literal [Char.ofNat (Number.value 8 digits % 256)] ((c :: rest).drop digits.length)
              else do
                let (pieces, warnings) ← readFormat fuel rest
                return (behindText ['\\', c] pieces,
                  ("warning: unrecognized escape \x60\\".toList ++ [c, '\'']) :: warnings)
  | fuel + 1, '%' :: t =>
      let literal := fun (shown rest : Text) =>
        (readFormat fuel rest).map fun (pieces, w) => (behindText shown pieces, w)
      match t with
      | [] => .error "error: % at end of format string".toList
      | '%' :: rest => literal ['%'] rest
      | t =>
          let (form, behind) := readForm t
          let before := '%' :: t.take (t.length - behind.length)
          let reserved := fun (c : Char) =>
            Except.error ("error: the format directive \x60%".toList ++ c :: "' is reserved for future use".toList)
          match behind with
          | [] => reserved '\x00'
          | c :: rest =>
              if "\x7b[(".toList.contains c then reserved c
              else if c == '%' then literal before rest
              else if "ABCT".toList.contains c then
                match rest with
                | [] => .ok ([.text (before ++ [c])],
                    ["warning: format directive \x60%".toList ++ c :: "' should be followed by another character".toList])
                | d :: rest => (readFormat fuel rest).map fun (pieces, w) => (.time form c d :: pieces, w)
              else if factLetters.contains c then
                (readFormat fuel rest).map fun (pieces, w) => (.fact form c :: pieces, w)
              else do
                let (pieces, warnings) ← readFormat fuel rest
                return (behindText (before ++ [c]) pieces,
                  ("warning: unrecognized format directive \x60%".toList ++ [c, '\'']) :: warnings)
  | fuel + 1, c :: rest => (readFormat fuel rest).map fun (pieces, w) => (behindText [c] pieces, w)

/-! ### Facts -/

/-- The fraction of a second behind its point. -/
def fractionText (moment : Int) : Text :=
  '.' :: (shownNat (1000000000 + Moment.fraction moment)).drop 1 ++ ['0']

def momentText (moment : Int) : Text :=
  Moment.format moment "%a %b %e %H:%M:%S".toList ++ fractionText moment ++ Moment.format moment " %Y".toList

def timeText (moment : Int) (letter : Char) : Text :=
  let fraction := fractionText moment
  match letter with
  | '@' => Number.shown (Moment.seconds moment) ++ fraction
  | 'S' | 'T' | 'X' => Moment.format moment (if letter == 'S' then "%S" else "%H:%M:%S").toList ++ fraction
  | '+' => Moment.format moment "%Y-%m-%d+%H:%M:%S".toList ++ fraction
  | 'c' => Moment.format moment "%a %b %e %H:%M:%S %Y".toList
  | c => Moment.format moment ['%', c]

def momentOf (m : Met) (letter : Char) : Int :=
  if letter == 'A' || letter == 'a' then m.entry.record.accessed else m.entry.record.modified

/-- The name at the end of a path, with a slash behind it if there is one. -/
def nameText (path : Text) : Text :=
  let name := lastName path
  if path.getLast? = some '/' && name != ['/'] then name ++ ['/'] else name

def aboveText (path : Text) : Text :=
  let trimmed := trimSlashes path
  let path := if trimmed.length > 1 then trimmed else path
  if path.contains '/' then ((path.reverse.dropWhile (· != '/')).drop 1).reverse else ['.']

def kindLetter (e : Entry) : Char := if e.letter == '-' then 'f' else e.letter

/-- The path behind the start of the search. -/
def belowText (m : Met) : Text :=
  let rest := m.path.drop m.start.length
  if m.depth = 0 then [] else if rest.head? = some '/' then rest.drop 1 else rest

def factText (tree : FileTree) (m : Met) (form : FactForm) (letter : Char) : Text :=
  let e := m.entry
  let text := fun (t : Text) => form.text t
  let number := fun (n : Nat) => form.text (shownNat n)
  match letter with
  | 'a' | 'c' | 't' => text (momentText (momentOf m letter))
  | 'b' => number (e.blocks * 2)
  | 'd' => form.digits (if form.flags.contains '+' then ['+'] else if form.flags.contains ' ' then [' '] else [])
      (shownNat m.depth)
  | 'D' => number 65024
  | 'f' => text (nameText m.path)
  | 'F' => text "ext4".toList
  | 'g' => text (nameIn knownGroups e.record.group)
  | 'G' => number e.record.group
  | 'h' => text (aboveText m.path)
  | 'H' => text m.start
  | 'i' => number (e.serial tree)
  | 'k' => number e.blocks
  | 'l' => text (match e.node with
      | .link target => Octets.ofText target
      | _ => [])
  | 'm' => form.inBase 8 e.mode
  | 'M' => text e.modeLetters
  | 'n' => number e.links
  | 'p' => text m.path
  | 'P' => text (belowText m)
  | 's' => number e.size
  | 'S' =>
      let used := e.blocks * 1024
      text (if e.size = 0 || used = e.size then ['1'] else shownNat (used / e.size))
  | 'u' => text (nameIn knownUsers e.record.owner)
  | 'U' => number e.record.owner
  | 'y' => text [kindLetter e]
  | 'Y' =>
      match e.node, m.other with
      | .link _, some other => text [kindLetter other]
      | .link _, none => text (match tree.find (Octets.toText m.path) with
          | .error .tooManyLinks => ['L']
          | _ => ['N'])
      | _, _ => text [kindLetter e]
  | _ => []

def fillFormat (tree : FileTree) (m : Met) : List FactPiece → Text
  | [] => []
  | .text t :: rest => t ++ fillFormat tree m rest
  | .fact form letter :: rest => factText tree m form letter ++ fillFormat tree m rest
  | .time form which letter :: rest => form.text (timeText (momentOf m which) letter) ++ fillFormat tree m rest
  | .stop :: _ => []

/-- A name in which odd characters stand behind backslashes. -/
def escapedName (t : Text) : Text :=
  t.flatMap fun c =>
    if c == ' ' || c == '"' || c == '\\' then ['\\', c]
    else if isPrintable c then [c]
    else escapedOctet c

def listLine (tree : FileTree) (now : Int) (m : Met) : Text :=
  let e := m.entry
  let time := e.record.modified
  let isRecent := decide (now - 15552000 * Moment.perSecond < time) && decide (time ≤ now + 3600 * Moment.perSecond)
  let target := match e.node with
    | .link target => " -> ".toList ++ escapedName (Octets.ofText target)
    | _ => []
  Text.join [' '] [padLeft 9 (shownNat (e.serial tree)), padLeft 6 (shownNat e.blocks), e.modeLetters,
    padLeft 3 (shownNat e.links), padRight 8 (nameIn knownUsers e.record.owner),
    padRight 8 (nameIn knownGroups e.record.group), padLeft 8 (shownNat e.size),
    Moment.format time (if isRecent then "%b %e %H:%M" else "%b %e  %Y").toList,
    escapedName m.path ++ target] ++ ['\n']

end SwiftExistential.Utility.Find
