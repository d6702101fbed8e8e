import SwiftExistential.Moment.Basic
import SwiftExistential.Shell.Glob
import SwiftExistential.Utility.Backup
import SwiftExistential.Utility.Times
import SwiftExistential.Utility.Version

/-!
# Listing directories

`ls` lists what stands in directories, in many ways. The same program is known under other names,
which have another usual layout and another way to quote names.

The options are put together into an `LsStyle` first, which then says all about the output: the
layout, the order, the quotes, and the columns of a long list. What is shown is found next, and is
laid out last, because a column is as wide as its widest entry.
-/

set_option autoImplicit false

namespace SwiftExistential.Utility

open Process

/-! ## Names

A name with characters that cannot be shown, or that a shell would read as something else, is quoted
in one of several ways. -/

/-- How names are quoted. -/
inductive Quoting where
  | literal
  | shell
  | shellAlways
  | shellEscape
  | shellEscapeAlways
  | c
  | escape
  | locale
deriving DecidableEq, Repr

def quotingWords : List (String × Quoting) :=
  [("literal", .literal), ("shell", .shell), ("shell-always", .shellAlways), ("shell-escape", .shellEscape),
    ("shell-escape-always", .shellEscapeAlways), ("c", .c), ("c-maybe", .c), ("escape", .escape),
    ("locale", .locale), ("clocale", .locale)]

/-- A character behind a backslash, if it cannot be shown. -/
def cEscaped (alsoBlank : Bool) (c : Char) : Text :=
  if c == '\\' then ['\\', '\\']
  else if c == ' ' && alsoBlank then ['\\', ' ']
  else if isPrintable c then [c] else escapedOctet c

def Quoting.apply (q : Quoting) (t : Text) : Text :=
  let simple := if t.contains '\'' && isAlikeInQuotes t then '"' :: t ++ ['"']
    else '\'' :: Text.replacePart ['\''] ['\'', '\\', '\'', '\''] t ++ ['\'']
  match q with
  | literal => t
  | c => '"' :: t.flatMap (fun c => if c == '"' then ['\\', '"'] else cEscaped false c) ++ ['"']
  | escape => t.flatMap (cEscaped true)
  | locale => cited t
  | shell => if needsQuotes t then simple else t
  | shellAlways => simple
  | shellEscape => shellWord t
  | shellEscapeAlways => quoted t

/-! ## Styles

Where options contradict each other the last one counts, with a few exceptions. -/

/-- How names are laid out. -/
inductive Layout where
  | single
  | long
  | columns
  | rows
  | commas
deriving DecidableEq, Repr

inductive NameOrder where
  | name
  | none
  | size
  | time
  | extension
  | version
  | width
deriving DecidableEq, Repr

/-- Which time of a file counts. -/
inductive TimeKind where
  | modified
  | accessed
deriving DecidableEq, Repr

/-- How `ls` shows things. -/
structure LsStyle where
  /-- What the program is called. -/
  program : String
  layout : Layout
  ordering : NameOrder
  isReversed : Bool
  quoting : Quoting
  /-- Whether characters that cannot be shown are replaced by question marks. -/
  hidesOdd : Bool
  /-- The marks behind names: none, for directories, for all kinds but programs, or for all. -/
  marks : Nat
  showsSerial : Bool
  showsBlocks : Bool
  showsOwner : Bool
  showsGroup : Bool
  showsAuthor : Bool
  isNumeric : Bool
  isHuman : Bool
  isDecimal : Bool
  blockSize : Option Nat
  timeKind : TimeKind
  timeFormat : Option Text
  width : Nat
  tabs : Nat
  isZero : Bool
  directoriesFirst : Bool
  follows : Bool
  /-- Whether more than the kinds of things is shown. -/
  needsFacts : Bool
  showsContext : Bool

def layoutWords : List (String × Layout) :=
  [("verbose", .long), ("long", .long), ("commas", .commas), ("horizontal", .rows), ("across", .rows),
    ("vertical", .columns), ("single-column", .single)]

def orderWords : List (String × NameOrder) :=
  [("none", .none), ("time", .time), ("size", .size), ("extension", .extension), ("version", .version),
    ("width", .width)]

def lsTimeWords : List (String × TimeKind) :=
  [("atime", .accessed), ("access", .accessed), ("use", .accessed), ("ctime", .modified),
    ("status", .modified), ("mtime", .modified), ("modification", .modified), ("birth", .modified),
    ("creation", .modified)]

/-- The words that say when something is done. -/
def whenWords : List (String × Bool) :=
  [("always", true), ("yes", true), ("force", true), ("never", false), ("no", false), ("none", false),
    ("auto", false), ("tty", false), ("if-tty", false)]

def blockSize? (t : Text) : Option Nat :=
  let digits := t.takeWhile Char.isDigit
  let n := if digits.isEmpty then 1 else Number.value 10 digits
  match String.ofList (t.drop digits.length) with
  | "" => some n
  | "k" | "K" | "KiB" => some (n * 1024)
  | "KB" | "kB" => some (n * 1000)
  | "M" | "MiB" => some (n * 1048576)
  | "MB" => some (n * 1000000)
  | _ => none

/-- The options of `ls`, by the name that it is called. -/
def lsOptions (program : String) : Specification :=
  { name := program, letters := "1aAbBcCdDfFgGhHiI:klLmnNopqQrRsStT:uUvw:xXZ", mistake := 2,
    words := [("all", 'a', .none), ("almost-all", 'A', .none), ("author", '\x01', .none),
      ("block-size", '\x02', .one), ("classify", '\x03', .optional), ("color", '\x04', .optional),
      ("context", 'Z', .none), ("dereference", 'L', .none), ("dereference-command-line", 'H', .none),
      ("dereference-command-line-symlink-to-dir", '\x05', .none), ("directory", 'd', .none),
      ("dired", 'D', .none), ("escape", 'b', .none), ("file-type", '\x06', .none), ("format", '\x07', .one),
      ("full-time", '\x08', .none), ("group-directories-first", '\x0e', .none), ("hide", '\x0f', .one),
      ("hide-control-chars", 'q', .none), ("human-readable", 'h', .none), ("hyperlink", '\x10', .optional),
      ("ignore", 'I', .one), ("ignore-backups", 'B', .none), ("indicator-style", '\x11', .one),
      ("inode", 'i', .none), ("kibibytes", 'k', .none), ("literal", 'N', .none), ("no-group", 'G', .none),
      ("numeric-uid-gid", 'n', .none), ("quote-name", 'Q', .none), ("quoting-style", '\x12', .one),
      ("recursive", 'R', .none), ("reverse", 'r', .none), ("show-control-chars", '\x13', .none),
      ("si", '\x14', .none), ("size", 's', .none), ("sort", '\x15', .one), ("tabsize", 'T', .one),
      ("time", '\x16', .one), ("time-style", '\x17', .one), ("width", 'w', .one), ("zero", '\x18', .none)],
    check := fun c t =>
      let word := fun {α : Type} [DecidableEq α] (words : List (String × α)) (option : String)
        (valid : List String) => mistakenChoice? words option valid t
      let time := fun (option : String) =>
        if t.isEmpty then none
        else word whenWords option ["'always', 'yes', 'force'", "'never', 'no', 'none'", "'auto', 'tty', 'if-tty'"]
      let number := fun (what : String) =>
        if t.isEmpty || !t.all Char.isDigit then some (.value (what.toList ++ cited t)) else none
      match c with
      | '\x04' => time "--color"
      | '\x03' => time "--classify"
      | '\x10' => time "--hyperlink"
      | 'T' => number "invalid tab size: "
      | 'w' => number "invalid line width: "
      | '\x02' =>
          if (blockSize? t).isNone then some (.value ("invalid --block-size argument ".toList ++ inQuotes t))
          else none
      | '\x11' => word [("none", 0), ("slash", 1), ("file-type", 2), ("classify", 3)] "--indicator-style"
          ["'none'", "'slash'", "'file-type'", "'classify'"]
      | '\x15' => word orderWords "--sort" (linesOfWords (orderWords.map Prod.fst))
      | '\x16' => word lsTimeWords "--time" ["'atime', 'access', 'use'", "'ctime', 'status'",
          "'mtime', 'modification'", "'birth', 'creation'"]
      | '\x07' => word layoutWords "--format" ["'verbose', 'long'", "'commas'", "'horizontal', 'across'",
          "'vertical'", "'single-column'"]
      | '\x12' => word quotingWords "--quoting-style" (linesOfWords (quotingWords.map Prod.fst))
      | _ => none }

/-- The layout that options ask for. The last counts, but one name a line does not end a long list.
-/
def layoutOf (options : List (Char × Text)) (usual : Layout) : Layout :=
  options.foldl (fun layout (c, t) => match c with
    | 'l' | 'g' | 'o' | 'n' | '\x08' => .long
    | 'C' => .columns
    | 'x' => .rows
    | 'm' => .commas
    | '1' => if layout = .long then .long else .single
    | '\x18' => if layout = .long then .long else .single
    | '\x07' => (choice? layoutWords t).getD layout
    | _ => layout) usual

def orderOf (options : List (Char × Text)) (isLong : Bool) : NameOrder :=
  let chosen := options.foldl (fun (order : Option NameOrder) (c, t) => match c with
    | 'U' | 'f' => some NameOrder.none
    | 'S' => some .size
    | 't' => some .time
    | 'X' => some .extension
    | 'v' => some .version
    | '\x15' => (choice? orderWords t)
    | _ => order) Option.none
  let byTime := options.any (fun (c, _) => c == 'c' || c == 'u' || c == '\x16') && !isLong
  chosen.getD (if byTime then .time else .name)

def timeStyles : List (String × Option Text) :=
  [("full-iso", some "%Y-%m-%d %H:%M:%S.%N %z".toList), ("long-iso", some "%Y-%m-%d %H:%M".toList),
    ("iso", some "\x01".toList), ("locale", none)]

/-- The format of times that options or else the environment ask for, or its name. -/
def timeStyle (g : Given) (usual : Option Text) : Option Text :=
  match g.options.reverse.find? fun (c, _) => c == '\x08' || c == '\x17' with
  | some (c, t) => some (if c == '\x08' then "full-iso".toList else t)
  | none => usual

def mistakenTimeStyle? (t : Text) : Option Mistake :=
  if t.head? = some '+' || "posix-".toList.isPrefixOf t then none
  else mistakenChoice? timeStyles "time style" ["[posix-]full-iso", "[posix-]long-iso", "[posix-]iso",
    "[posix-]locale", "+FORMAT (e.g., +%H:%M) for a 'date'-style format"] t

/-- How options ask `ls` to show things. -/
def lsStyle (program : String) (g : Given) (usual : Layout) (columns time : Option Text)
    (quoting : Option Quoting) : LsStyle :=
  let layout := layoutOf g.options usual
  let marks := g.options.foldl (fun n (c, t) => match c with
    | 'F' => 3
    | '\x03' => if t = "never".toList || t = "no".toList || t = "auto".toList then n else 3
    | 'p' => 1
    | '\x06' => 2
    | '\x11' => match String.ofList t with
        | "none" => 0
        | "slash" => 1
        | "file-type" => 2
        | _ => 3
    | _ => n) 0
  let quoting := g.options.foldl (fun (q : Quoting) (c, t) => match c with
    | 'b' => .escape
    | 'Q' => .c
    | 'N' => .literal
    | '\x12' => (choice? quotingWords t).getD q
    | _ => q) (quoting.getD .literal)
  let number := fun (letter : Char) => (g.value? letter).bind fun t =>
    if t.all Char.isDigit then some (Number.value 10 t) else none
  let ordering := orderOf g.options (layout = .long)
  { program := program, layout := layout, ordering := ordering, isReversed := g.has 'r',
    quoting := quoting, hidesOdd := g.has 'q', marks := marks, showsSerial := g.has 'i',
    showsBlocks := g.has 's', showsOwner := !g.has 'g', showsGroup := !(g.has 'G' || g.has 'o'),
    showsAuthor := g.has '\x01', isNumeric := g.has 'n', isHuman := g.has 'h' || g.has '\x14',
    isDecimal := g.has '\x14', blockSize := (g.value? '\x02').bind blockSize?,
    timeKind := match g.options.reverse.find? fun (c, _) => ['c', 'u', '\x16'].contains c with
      | some ('u', _) => .accessed
      | some ('\x16', t) => (choice? lsTimeWords t).getD .modified
      | _ => .modified,
    timeFormat := (timeStyle g time).bind fun t => match t with
      | '+' :: format => some format
      | t => (choice? timeStyles t).bind id,
    width := match number 'w' with
      | some n => n
      | none =>
          (columns.bind fun t => if !t.isEmpty && t.all Char.isDigit then some (Number.value 10 t) else none).getD 80,
    tabs := (number 'T').getD 8, isZero := g.has '\x18', directoriesFirst := g.has '\x0e', follows := g.has 'L',
    needsFacts := layout = .long || g.has 's' || g.has 'i' || marks > 0 || g.has 'R' || g.has '\x0e' ||
      ordering = .time || ordering = .size,
    showsContext := g.has 'Z' }

/-! ## Lines

A long list has a line for each file with the facts in columns. Short lists are filled in columns
from the top or from the left, in as many columns as fit into the width. -/

/-- A number of octets for humans: with a letter, and one place behind the point below ten. It is
rounded up. -/
def humanSize (isDecimal : Bool) (n : Nat) : Text :=
  let base := if isDecimal then 1000 else 1024
  let units := if isDecimal then "kMGTPE".toList else "KMGTPE".toList
  if n < base then shownNat n else go base n units base
where
  /-- Tries units of growing size. -/
  go (base n : Nat) : Text → Nat → Text
    | [], _ => shownNat n
    | unit :: rest, size =>
        let tenths := (n * 10 + size - 1) / size
        if tenths < 100 then shownNat (tenths / 10) ++ '.' :: shownNat (tenths % 10) ++ [unit]
        else
          let whole := (n + size - 1) / size
          if whole < base then shownNat whole ++ [unit] else go base n rest (size * base)

/-- A thing that is shown, with the name it is shown under. -/
structure Shown where
  name : Text
  entry : Entry

def LsStyle.mark (s : LsStyle) (e : Entry) : Text :=
  match e.letter with
  | 'd' => if s.marks ≥ 1 then ['/'] else []
  | 'l' => if s.marks ≥ 2 then ['@'] else []
  | '-' => if s.marks ≥ 3 && (e.mode &&& 0o111) != 0 then ['*'] else []
  | _ => []

def LsStyle.shownName (s : LsStyle) (t : Text) : Text :=
  let t := if s.hidesOdd && s.quoting = .literal then t.map fun c => if isPrintable c then c else '?' else t
  s.quoting.apply t

def LsStyle.blocks (s : LsStyle) (n : Nat) : Text :=
  if s.isHuman then humanSize s.isDecimal (n * 1024)
  else match s.blockSize with
    | some size => shownNat ((n * 1024 + size - 1) / size)
    | none => shownNat n

def LsStyle.size (s : LsStyle) (e : Entry) : Text :=
  if e.letter == 'c' then "1, 3".toList
  else if s.isHuman then humanSize s.isDecimal e.size
  else match s.blockSize with
    | some size => shownNat ((e.size + size - 1) / size)
    | none => shownNat e.size

def LsStyle.time (s : LsStyle) (e : Entry) : Int :=
  match s.timeKind with
  | .modified => e.record.modified
  | .accessed => e.record.accessed

/-- The time of an entry as it is shown: of the last half year without the year. -/
def LsStyle.shownTime (s : LsStyle) (now : Int) (e : Entry) : Text :=
  let time := s.time e
  let isRecent := decide (now - 15778476 * Moment.perSecond < time) && decide (time ≤ now)
  let format := match s.timeFormat with
    | some ['\x01'] => if isRecent then "%m-%d %H:%M".toList else "%Y-%m-%d ".toList
    | some t => match Text.splitAtPart? ['\n'] t with
        | some (old, recent) => if isRecent then recent else old
        | none => t
    | none => if isRecent then "%b %e %H:%M".toList else "%b %e  %Y".toList
  Moment.format time format

def widest (ts : List Text) : Nat := (ts.map List.length).foldl max 0

/-- The part of a line before the name, for lists that are not long. -/
def LsStyle.before (s : LsStyle) (tree : FileTree) (all : List Shown) (x : Shown) : Text :=
  let serial := fun (y : Shown) => shownNat (y.entry.serial tree)
  let blocks := fun (y : Shown) => s.blocks y.entry.blocks
  let isAligned := s.layout != .commas
  (if s.showsSerial then padLeft (if isAligned then widest (all.map serial) else 0) (serial x) ++ [' '] else []) ++
    (if s.showsBlocks then padLeft (if isAligned then widest (all.map blocks) else 0) (blocks x) ++ [' '] else []) ++
    (if s.showsContext && s.layout != .long then ['?', ' '] else [])

def LsStyle.longLine (s : LsStyle) (tree : FileTree) (now : Int) (all : List Shown) (x : Shown) : Text :=
  let owner := fun (y : Shown) =>
    if s.isNumeric then shownNat y.entry.record.owner else nameIn knownUsers y.entry.record.owner
  let group := fun (y : Shown) =>
    if s.isNumeric then shownNat y.entry.record.group else nameIn knownGroups y.entry.record.group
  let column := fun (isRight : Bool) (f : Shown → Text) =>
    let width := widest (all.map f)
    (if isRight then padLeft width (f x) else padRight width (f x)) ++ [' ']
  let target := match x.entry.node with
    | .link t => " -> ".toList ++ s.shownName (Octets.ofText t) ++ []
    | _ => []
  s.before tree all x ++ x.entry.modeLetters ++ [' '] ++ column true (fun y => shownNat y.entry.links) ++
    (if s.showsOwner then column s.isNumeric owner else []) ++
    (if s.showsGroup then column s.isNumeric group else []) ++
    (if s.showsAuthor then column s.isNumeric owner else []) ++
    column true (fun y => s.size y.entry) ++ s.shownTime now x.entry ++ [' '] ++ s.shownName x.name ++
    (if x.entry.letter == 'l' then target else s.mark x.entry)

/-- Fills up to a column, with tabulators where that is shorter. -/
def fillTo (tabs : Nat) : Nat → Nat → Nat → Text
  | 0, _, _ => []
  | fuel + 1, start, goal =>
      if start ≥ goal then []
      else if tabs != 0 && goal / tabs > (start + 1) / tabs then
        '\t' :: fillTo tabs fuel (start + tabs - start % tabs) goal
      else ' ' :: fillTo tabs fuel (start + 1) goal

def columnWidths (byColumns : Bool) (lengths : List Nat) (columns : Nat) : List Nat :=
  let rows := (lengths.length + columns - 1) / columns
  let place := fun (i : Nat) => if byColumns then i / rows else i % columns
  (List.range columns).map fun k =>
    (lengths.zipIdx.filterMap fun (n, i) =>
      if place i = k then some (n + if k = columns - 1 then 0 else 2) else none).foldl max 3

def fittingColumns (byColumns : Bool) (width : Nat) (lengths : List Nat) : Nat → Nat
  | 0 => 1
  | n + 1 =>
      if (columnWidths byColumns lengths (n + 1)).foldl (· + ·) 0 < width then n + 1
      else fittingColumns byColumns width lengths n

def inColumns (byColumns : Bool) (width tabs : Nat) (cells : List Text) : Text :=
  let lengths := cells.map List.length
  let limit := if width = 0 then cells.length else min cells.length (width / 3 + if width % 3 != 0 then 1 else 0)
  let columns := if width = 0 then max 1 cells.length else max 1 (fittingColumns byColumns width lengths limit)
  let widths := columnWidths byColumns lengths columns
  let rows := (cells.length + columns - 1) / columns
  let index := fun (row column : Nat) => if byColumns then column * rows + row else row * columns + column
  (List.range rows).flatMap fun row =>
    let indices := (List.range columns).map (index row) |>.filter (· < cells.length)
    let (line, _, _) := indices.zipIdx.foldl (fun (line, place, start) (i, column) =>
      let cell := (cells[i]?).getD []
      let fill := if column = 0 then [] else
        if width = 0 then [' ', ' '] else fillTo tabs (start - place + 1) place start
      (line ++ fill ++ cell, start + cell.length, start + (widths[column]?).getD 0)) (([] : Text), 0, 0)
    line ++ ['\n']

/-- Names with commas, broken into lines. -/
def withCommas (width : Nat) (cells : List Text) : Text :=
  let (shown, _) := cells.zipIdx.foldl (fun (shown, place) (cell, i) =>
    if i = 0 then (cell, cell.length)
    else if width = 0 || (place + cell.length + 2 < width) then
      (shown ++ [',', ' '] ++ cell, place + 2 + cell.length)
    else (shown ++ [',', '\n'] ++ cell, cell.length)) (([] : Text), 0)
  if cells.isEmpty then [] else shown ++ ['\n']

def LsStyle.render (s : LsStyle) (tree : FileTree) (now : Int) (all : List Shown) : Text :=
  let cell := fun (x : Shown) => s.before tree all x ++ s.shownName x.name ++ s.mark x.entry
  let ending := if s.isZero then '\x00' else '\n'
  match s.layout with
  | .long => all.flatMap fun x => s.longLine tree now all x ++ [ending]
  | .single => all.flatMap fun x => cell x ++ [ending]
  | .columns => inColumns true s.width s.tabs (all.map cell)
  | .rows => inColumns false s.width s.tabs (all.map cell)
  | .commas => withCommas s.width (all.map cell)

/-! ## Order

Where the order that is asked for leaves two files in one place, their names decide. -/

/-- The part of a name from its last dot on. -/
def extensionOf (t : Text) : Text :=
  let behind := t.reverse.takeWhile (· != '.')
  if behind.length = t.length then [] else '.' :: behind.reverse

def LsStyle.compare (s : LsStyle) (a b : Shown) : Ordering :=
  let byName := Ord.compare a.name b.name
  match s.ordering with
  | .name => byName
  | .none => .eq
  | .size => (Ord.compare b.entry.size a.entry.size).then byName
  | .time => (Ord.compare (s.time b.entry) (s.time a.entry)).then byName
  | .extension => (Ord.compare (extensionOf a.name) (extensionOf b.name)).then byName
  | .version => (Version.order a.name b.name).then byName
  | .width => (Ord.compare a.name.length b.name.length).then byName

def LsStyle.sort (s : LsStyle) (tree : FileTree) (all : List Shown) : List Shown :=
  let isDirectory := fun (x : Shown) => match x.entry.node with
    | .link _ => (match FileTree.walk tree true FileTree.maxLinks [] x.entry.location with
        | .ok place => place.node = some .directory
        | .error _ => false)
    | node => node = .directory
  let sorted := all.mergeSort fun a b =>
    let order := s.compare a b
    (if s.isReversed && s.ordering != .none then order.swap else order).isLE
  let sorted := if s.isReversed && s.ordering = .none then sorted.reverse else sorted
  if s.directoriesFirst then sorted.filter isDirectory ++ sorted.filter fun x => !isDirectory x else sorted

/-! ## Directories

Directories that are named are listed one after the other, with those below them if that is asked
for. What cannot be found is reported before anything is listed. -/

def namesShown (g : Given) (tree : FileTree) (location : Location) : List Text :=
  let names := (tree.names location).map Octets.ofText
  let all := if g.last? "aA" = some 'a' || g.has 'f' then ['.'] :: ['.', '.'] :: names else names
  let isHidden := fun (name : Text) => name.head? = some '.' && !(g.has 'a' || g.has 'A' || g.has 'f')
  let isIgnored := fun (name : Text) =>
    (g.values 'I').any (fun p => fitsPattern p name) || (g.has 'B' && name.getLast? = some '~') ||
      (!(g.has 'a' || g.has 'A') && (g.values '\x0f').any fun p => fitsPattern p name)
  all.filter fun name => !isHidden name && !isIgnored name

def entryIn (s : LsStyle) (tree : FileTree) (location : Location) (name : Text) : Except FileError Entry :=
  let place := if name = ['.'] then location else if name = ['.', '.'] then location.dropLast
    else location ++ [Octets.toText name]
  match tree.get? place with
  | none => .error .notFound
  | some (.link target) =>
      if s.follows && s.needsFacts then
        match FileTree.walk tree true FileTree.maxLinks [] place with
        | .ok ⟨l, some node⟩ => .ok (Entry.make tree l node)
        | .ok ⟨_, none⟩ => .error .notFound
        | .error e => .error e
      else .ok (Entry.make tree place (.link target))
  | some node => .ok (Entry.make tree place node)

/-- Shows one directory. Returns those below it, and a status. -/
def showDirectory (g : Given) (s : LsStyle) (title : Text) (path : Text) (location : Location) :
    Job (List Text × Nat) := do
  let tree ← Job.tree
  let now ← present
  let found := (namesShown g tree location).map fun name => (name, entryIn s tree location name)
  let broken := found.filterMap fun (name, e) => match e with
    | .error e => some (name, e)
    | .ok _ => none
  broken.forM fun (name, e) =>
    complainOf s.program "cannot access " (if path = ['.'] then name else inside path name) e
  let all := s.sort tree (found.filterMap fun (name, e) => e.toOption.map fun e => ⟨name, e⟩)
  let total := (all.map fun x => x.entry.blocks).foldl (· + ·) 0
  let head := if s.layout = .long || s.showsBlocks then "total ".toList ++ s.blocks total ++ ['\n'] else []
  Job.put (title ++ head ++ s.render tree now all)
  let below := all.filterMap fun x =>
    if x.entry.isDirectory && x.name != ['.'] && x.name != ['.', '.'] then some (inside path x.name) else none
  return (below, if broken.isEmpty then 0 else 1)

/-- Shows directories, each with those below it if that is asked for. -/
def showDirectories (g : Given) (s : LsStyle) (hasTitles : Bool) : Nat → Bool → List Text → Job Nat
  | 0, _, _ => return 0
  | _, _, [] => return 0
  | fuel + 1, isFirst, path :: rest => do
      match (← Job.tree).find (Octets.toText path) with
      | .ok (location, .directory) =>
          let title := if hasTitles then (if isFirst then [] else ['\n']) ++ s.shownName path ++ [':', '\n'] else []
          let (below, status) ← showDirectory g s title path location
          let more := if g.has 'R' then below else []
          return max status (← showDirectories g s hasTitles fuel false (more ++ rest))
      | _ => showDirectories g s hasTitles fuel isFirst rest

/-- Finds what paths lead to. Those that lead nowhere are reported. -/
def findShown (g : Given) (s : LsStyle) : List Text → Job (List Shown × Nat)
  | [] => return ([], 0)
  | path :: rest => do
      let tree ← Job.tree
      let plain := Entry.find tree false path
      let through := Entry.find tree true path
      let isLinkToDirectory := match through with
        | .ok e => e.isDirectory
        | .error _ => false
      let staysLink := (s.layout = .long || s.marks = 3 || g.has 'd') && !g.has 'H' && !g.has 'L'
      let entry := if g.has 'L' then through
        else if g.has 'H' then (if through.toOption.isSome then through else plain)
        else if staysLink && !g.has '\x05' then plain
        else if isLinkToDirectory then through else plain
      match entry with
      | .error e =>
          complainOf s.program "cannot access " path e
          return ((← findShown g s rest).1, 2)
      | .ok e =>
          let (others, status) ← findShown g s rest
          return (⟨path, e⟩ :: others, status)

/-- Lists directories under a name of the program, with a usual layout and way of quoting. -/
def lsAs (program : String) (usual : Layout) (quoting : Option Quoting) : Utility := fun _ arguments =>
  withOptions (lsOptions program) arguments fun g => do
    let time ← Job.environment? "TIME_STYLE".toList
    let wrong := if layoutOf g.options usual = .long then (timeStyle g time).bind mistakenTimeStyle? else none
    match wrong with
    | some mistake =>
        discard (report (lsOptions program) mistake)
        return 2
    | none =>
        let s := lsStyle program g usual (← Job.environment? "COLUMNS".toList) time quoting
        let paths := if g.operands.isEmpty then [['.']] else g.operands
        let (found, status) ← findShown g s paths
        let tree ← Job.tree
        let now ← present
        let files := s.sort tree (found.filter fun x => g.has 'd' || !x.entry.isDirectory)
        let directories := s.sort tree (found.filter fun x => !g.has 'd' && x.entry.isDirectory)
        Job.put (s.render tree now files)
        let hasTitles := paths.length > 1 || g.has 'R'
        let below ← showDirectories g s hasTitles (tree.entries.size + directories.length + 1) files.isEmpty
          (directories.map Shown.name)
        return max status below

end SwiftExistential.Utility
