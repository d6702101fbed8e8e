import SwiftExistential.Utility.Pages.Style

/-!
# Printing pages

The lines of a page are printed from left to right, column by column. Blanks are held back until
something stands behind them, since they may become tabs. A form feed ends a page. Where one file
runs down the columns, the lines of a page are kept first, and are then shared out evenly.

The printer is an action on a state with the sources, the columns and the place in the line. It goes
octet by octet, because tabs, form feeds and the widths of columns depend on each of them.
-/

set_option autoImplicit false

namespace SwiftExistential.Utility.Pages

/-- What can be read for a column. -/
inductive Status where
  | reading
  /-- A form feed has been read, so that nothing is read before the next page. -/
  | held
  /-- As before, for a file that runs down the columns. -/
  | marked
  | closed
deriving DecidableEq, Repr

structure Column where
  /-- The number of its file. -/
  source : Nat
  status : Status
  /-- How many lines are kept for it. -/
  kept : Nat
  /-- The number of the next line that was kept. -/
  current : Nat
  /-- Whether the last page ended with its last line. -/
  isFull : Bool
  /-- How many lines of the page are left. -/
  left : Int
  /-- Where it begins; zero if this depends on what stands before it. -/
  start : Nat
  isNumbered : Bool

/-- Where the printing is. -/
structure State where
  sources : Array Text
  columns : Array Column
  /-- How many files can be read. -/
  ready : Int
  /-- The column that has been read up to. -/
  input : Int
  /-- The column that has been printed up to. -/
  output : Int
  /-- How many blanks have been held back. -/
  blanks : Int
  /-- How many separators have been held back. -/
  separators : Int
  /-- Where the column begins, if blanks are needed. -/
  padding : Nat
  /-- Whether a line has been printed. -/
  hasLine : Bool
  /-- Whether columns without text stand before the column. -/
  hasEmpty : Bool
  isLineEmpty : Bool
  hasOnlyFeed : Bool
  /-- Whether a form feed is to be printed. -/
  owesFeed : Bool
  /-- Whether the head of the page is to be printed. -/
  owesHeader : Bool
  /-- The lines that are kept, with where they end. -/
  lines : Array (Text × Int)
  /-- The text of the line that is being kept, in reverse. -/
  line : Text
  /-- The number of the next line. -/
  number : Int
  /-- The number of the first line behind the pages that have been left out. -/
  count : Int
  page : Nat
  /-- What has been printed, in reverse. -/
  printed : Text
  /-- The file that could not be read. -/
  failed : Option Nat

abbrev Paging := StateM State

/-- What the printing goes by. -/
structure Setting where
  style : Style
  /-- What stands at the left of a head. -/
  date : Text
  /-- What stands in the middle of a head. -/
  title : Text
  /-- The files that cannot be read. -/
  unreadable : List Nat

variable (s : Setting)

/-! ## Octets -/

/-- Prints an octet, unless a file could not be read. -/
def put (c : Char) : Paging Unit :=
  modify fun st => if st.failed.isSome then st else { st with printed := c :: st.printed }

def putAll (t : Text) : Paging Unit := t.forM put

def behindTab (width : Nat) (place : Int) : Int := place + (width - place.emod width)

/-- Tabs and blanks from one place to another. -/
def whiteSpace (width : Nat) (tab : Char) (goal : Int) : Nat → Int → Text
  | 0, place => List.replicate (goal - place).toNat ' '
  | fuel + 1, place =>
      let next := behindTab width place
      if goal - place > 1 && next ≤ goal then tab :: whiteSpace width tab goal fuel next
      else List.replicate (goal - place).toNat ' '

/-- Prints the blanks that have been held back. -/
def putBlanks : Paging Unit := do
  let st ← get
  let goal := st.output + st.blanks
  putAll (whiteSpace s.style.outputTabWidth s.style.outputTab goal st.blanks.toNat st.output)
  modify fun st => { st with output := goal, blanks := 0 }

def isVisible (c : Char) : Bool := ' ' ≤ c && c < '\x7f'

def putInLine (c : Char) : Paging Unit := do
  if s.style.writesTabs then
    if c == ' ' then modify fun st => { st with blanks := st.blanks + 1 }
    else
      if (← get).blanks > 0 then putBlanks s
      modify fun st =>
        if isVisible c then { st with output := st.output + 1 }
        else if c == '\x08' then { st with output := st.output - 1 } else st
      put c
  else put c

/-- Prints an octet of a line or keeps it. -/
def takeOctet (c : Char) : Paging Unit :=
  if s.style.keepsLines then modify fun st => { st with line := c :: st.line } else putInLine s c

def moveTo (place : Int) : Paging Unit := do
  let st ← get
  if s.style.writesTabs then set { st with blanks := place - st.output }
  else
    putAll (List.replicate (place - st.output).toNat ' ')
    modify fun st => { st with output := place }

/-- Prints the octets of what stands between columns. -/
def putBetween : Text → Paging Unit
  | [] => return
  | c :: rest => do
      if c == ' ' then modify fun st => { st with blanks := st.blanks + 1 }
      else
        if (← get).blanks > 0 then putBlanks s
        put c
        modify fun st => { st with output := st.output + 1 }
      putBetween rest

/-- Prints what stands between columns, if it has been held back. -/
def putSeparator : Paging Unit := do
  if (← get).separators > 0 then
    putBetween s s.style.between
    modify fun st => { st with separators := 0 }
  if (← get).blanks > 0 then putBlanks s

/-- Puts a number before a line. -/
def takeNumber : Paging Unit := do
  let style := s.style
  let n := (← get).number
  let text := (if n < 0 then ['-'] else []) ++ Number.digits 10 n.natAbs
  let text := List.replicate (style.numberDigits - text.length) ' ' ++ text
  modify fun st => { st with number := st.number + 1 }
  (text.drop (text.length - style.numberDigits)).forM (takeOctet s)
  if style.columns > 1 && style.numberEnd == '\t' then
    (List.replicate (style.numberWidth - style.numberDigits) ' ').forM (takeOctet s)
  else
    takeOctet s style.numberEnd
    if style.columns = 1 && style.numberEnd == '\t' then
      modify fun st => { st with output := behindTab style.outputTabWidth st.output }
  if style.truncates && !style.isParallel then
    modify fun st => { st with input := st.input + style.numberWidth }

def shownOctet (style : Style) (c : Char) (place : Int) : Text × Int :=
  let digits := Number.digits 8 c.toNat
  let number := '\\' :: (List.replicate (3 - digits.length) '0' ++ digits)
  if c == style.inputTab || c == '\t' then
    let width := if c == style.inputTab then style.inputTabWidth else 8
    let next := behindTab width place
    (if style.expandsTabs then List.replicate (next - place).toNat ' ' else [c], next)
  else if isVisible c then ([c], place + 1)
  else if style.usesNumbers || (style.usesCarets && c.toNat ≥ 128) then (number, place + 4)
  else if style.usesCarets then (['^', Char.ofNat (Nat.xor c.toNat 64)], place + 2)
  else if c == '\x08' then (if place = 0 then [] else [c], max 0 (place - 1))
  else ([c], place)

/-! ## Columns

A column has a source and knows whether more can be read for it on this page. It is closed when its
source is at its end. -/

def columnAt (i : Nat) : Paging Column := do
  return ((← get).columns[i]?).getD ⟨0, .closed, 0, 0, false, 0, 0, false⟩

def changeColumn (i : Nat) (change : Column → Column) : Paging Unit :=
  modify fun st => { st with columns := st.columns.modify i change }

def changeAll (change : Column → Column) : Paging Unit :=
  modify fun st => { st with columns := st.columns.map change }

def nextOctet (source : Nat) : Paging (Option Char) := do
  let st ← get
  match (st.sources[source]?).getD [] with
  | [] => return none
  | c :: rest =>
      set { st with sources := st.sources.set! source rest }
      return some c

def skipLineEnd (source : Nat) : Paging Unit := do
  let st ← get
  match st.sources[source]? with
  | some ('\n' :: rest) => set { st with sources := st.sources.set! source rest }
  | _ => return

def hold (i : Nat) : Paging Unit := do
  if s.style.isParallel then changeColumn i fun p => { p with status := .held, left := 0 }
  else
    changeAll fun p => { p with status := if s.style.keepsLines then .marked else .held }
    changeColumn i fun p => { p with left := 0 }
  modify fun st => { st with ready := st.ready - 1 }

def close (i : Nat) : Paging Unit := do
  let p ← columnAt i
  if p.status != .closed then
    if s.unreadable.contains p.source && (← get).failed.isNone then
      modify fun st => { st with failed := some p.source }
    if s.style.isParallel then changeColumn i fun p => { p with status := .closed, left := 0 }
    else changeAll fun p => { p with status := .closed, left := if p.kept = 0 then 0 else p.left }
    modify fun st => { st with ready := st.ready - 1 }

/-- Skips a line end behind a form feed, and reads no more for the page. -/
def endPage (i source : Nat) : Paging Unit := do
  skipLineEnd source
  if s.style.keepsFeeds then modify fun st => { st with owesFeed := true }
  hold s i

/-- Skips the rest of a line. The number bounds the octets. -/
def skipRest (i source : Nat) : Nat → Paging Unit
  | 0 => return
  | fuel + 1 => do
      match ← nextOctet source with
      | some '\n' => return
      | some '\x0c' => endPage s i source
      | none => close s i
      | some _ => skipRest i source fuel

def putHeader : Paging Unit := do
  modify fun st => { st with output := 0 }
  moveTo s s.style.margin
  putBlanks s
  let page := "Page ".toList ++ shownNat (← get).page
  let width := s.style.width - s.date.length - s.title.length - page.length
  let gap := fun (n : Nat) => List.replicate (max 1 n) ' '
  putAll ("\n\n".toList ++ List.replicate s.style.margin ' ' ++ s.date ++ gap (width / 2) ++ s.title ++
    gap (width - width / 2) ++ page ++ "\n\n\n".toList)
  modify fun st => { st with owesHeader := false, output := 0 }

/-- Prints a column without text. -/
def putEmptyColumn (i : Nat) : Paging Unit := do
  let p ← columnAt i
  modify fun st => { st with padding := p.start }
  let width := s.style.between.length
  if width < p.start then
    moveTo s ((p.start : Int) - width)
    modify fun st => { st with padding := 0 }
  if s.style.hasBetween then putSeparator s
  if p.isNumbered then takeNumber s

/-- Prints the first columns, which have no text. -/
def putEmptyColumns (p : Column) : Paging Unit := do
  let count := (← get).separators.toNat
  modify fun st => { st with separators := 0 }
  (List.range count).forM fun i => do
    putEmptyColumn s i
    modify fun st => { st with separators := st.separators + 1 }
  modify fun st =>
    { st with
      padding := p.start, blanks := if s.style.truncates then s.style.columnWidth else 0, hasEmpty := false }

def startColumn : Paging Unit := do
  let width := s.style.between.length
  let padding := (← get).padding
  if width < padding then
    moveTo s ((padding : Int) - width)
    modify fun st => { st with padding := 0 }
  if s.style.hasBetween then putSeparator s

/-- Prints an octet if there is room for it, or says that there is none. -/
def takeShown (c : Char) : Paging Bool := do
  let st ← get
  let (shown, place) := shownOctet s.style c st.input
  if s.style.truncates && place > s.style.columnWidth then return false
  else
    set { st with input := place }
    shown.forM (takeOctet s)
    return true

/-- Reads the rest of a line as far as there is room. Says whether the line was read to its end. The
number bounds the octets. -/
def readOctets (i source : Nat) : Nat → Paging Bool
  | 0 => return true
  | fuel + 1 => do
      match ← nextOctet source with
      | some '\n' => return true
      | some '\x0c' =>
          modify fun st => { st with hasOnlyFeed := false }
          endPage s i source
          return true
      | none =>
          close s i
          return true
      | some c => if ← takeShown s c then readOctets i source fuel else return false

/-- What is done before the first octet of a line is printed. -/
def startLine (i : Nat) : Paging Unit := do
  let p ← columnAt i
  if !s.style.keepsLines then
    modify fun st => { st with hasLine := true }
    if (← get).owesHeader then putHeader s
    if s.style.isParallel && (← get).hasEmpty then putEmptyColumns s p
    startColumn s
  if p.isNumbered then takeNumber s
  modify fun st => { st with isLineEmpty := false }

/-- The first octet of a line. After a page that ended with its last line, a form feed is skipped.
-/
def firstOctet (i source : Nat) (isFull : Bool) : Paging (Option Char) := do
  let c ← nextOctet source
  changeColumn i fun p => { p with isFull := false }
  if c == some '\x0c' && isFull then
    let c ← nextOctet source
    if c == some '\n' then nextOctet source else return c
  else return c

/-- Reads a line, and prints it or keeps it. Says whether it was read to its end. -/
def readLine (i : Nat) : Paging Bool := do
  let p ← columnAt i
  let source := p.source
  match ← firstOctet i source p.isFull with
  | some '\x0c' =>
      skipLineEnd source
      modify fun st => { st with hasOnlyFeed := true }
      if (← get).owesHeader && !s.style.keepsLines then
        modify fun st => { st with hasLine := true }
        putHeader s
      else if s.style.keepsFeeds then modify fun st => { st with owesFeed := true }
      hold s i
      return true
  | none =>
      close s i
      return true
  | some '\n' =>
      startLine s i
      return true
  | some c =>
      let st ← get
      let (shown, place) := shownOctet s.style c st.input
      if s.style.truncates && place > s.style.columnWidth then return false
      else
        set { st with input := place }
        startLine s i
        shown.forM (takeOctet s)
        readOctets s i source (((← get).sources[source]?.map List.length).getD 0 + 1)

def skipLine (i : Nat) : Paging Unit := do
  let source := (← columnAt i).source
  skipRest s i source (((← get).sources[source]?.map List.length).getD 0 + 1)

/-! ## Lines that are kept -/

/-- Keeps lines for a column, so many at most. -/
def keepLines (i : Nat) : Nat → Paging Unit
  | 0 => return
  | count + 1 => do
      if (← get).ready > 0 then
        if (← columnAt i).status = .reading then
          modify fun st => { st with input := 0 }
          if !(← readLine s i) then skipLine s i
          let st ← get
          if (← columnAt i).status = .reading || !st.line.isEmpty then
            set { st with lines := st.lines.push (st.line.reverse, st.input), line := [] }
            changeColumn i fun p => { p with kept := p.kept + 1 }
        keepLines i count

/-- Shares lines out among columns, from one on. -/
def shareOut (total columns : Nat) : Nat → Nat → List Column → List Column
  | _, _, [] => []
  | i, first, p :: rest =>
      let lines := total / columns + if i < total % columns then 1 else 0
      { p with kept := lines, current := first } :: shareOut total columns (i + 1) (first + lines) rest

def keepPage : Paging Unit := do
  modify fun st => { st with lines := #[], line := [] }
  changeAll fun p => { p with kept := 0 }
  (List.range s.style.columns).forM fun i => do
    if (← get).ready > 0 then keepLines s i s.style.lines
  modify fun st =>
    { st with columns := (shareOut st.lines.size s.style.columns 0 0 st.columns.toList).toArray }

def putKept (i : Nat) : Paging Unit := do
  let p ← columnAt i
  changeColumn i fun p => { p with current := p.current + 1 }
  modify fun st => { st with hasLine := true }
  if (← get).owesHeader then putHeader s
  let isMarked := p.status = .marked
  if isMarked then changeAll fun p => { p with status := .held }
  if isMarked && (← columnAt 0).left ≤ 0 then
    if !s.style.hasHeader then modify fun st => { st with hasLine := false }
  else
    startColumn s
    let (line, place) := ((← get).lines[p.current]?).getD ([], 0)
    line.forM (putInLine s)
    let width := s.style.between.length
    modify fun st =>
      if st.blanks = 0 then
        { st with output := p.start + place - if p.start - width = s.style.margin then (width : Int) else 0 }
      else st

/-! ## Pages -/

/-- How many columns can be printed. -/
def printable : Paging Nat := do
  return ((← get).columns.filter fun p =>
    p.status = .reading || p.status = .marked || (s.style.keepsLines && p.kept > 0 && p.left > 0)).size

def putColumns : List Nat → Paging Unit
  | [] => return
  | i :: rest => do
      modify fun st => { st with input := 0 }
      let p ← columnAt i
      let next : Paging Unit := do
        if s.style.hasBetween then modify fun st => { st with separators := st.separators + 1 }
        putColumns rest
      if p.left > 0 || p.status = .marked then
        modify fun st => { st with hasOnlyFeed := false, padding := p.start }
        if s.style.keepsLines then putKept s i
        else if !(← readLine s i) then skipLine s i
        changeColumn i fun p => { p with left := p.left - 1 }
        let p ← columnAt i
        if p.left ≤ 0 && (← printable s) = 0 then return
        else
          if s.style.isParallel && p.status != .reading then
            let st ← get
            if st.isLineEmpty then set { st with hasEmpty := true }
            else if p.status = .closed || (p.status = .held && st.hasOnlyFeed) then putEmptyColumn s i
          next
      else
        if s.style.isParallel then
          if (← get).isLineEmpty then modify fun st => { st with hasEmpty := true }
          else putEmptyColumn s i
        next

/-- Prints the lines of a page, of which so many are left. Returns how many are left then, and
whether any was printed. The number bounds the lines. -/
def putLines (wasPrinted : Bool) : Nat → Int → Paging (Int × Bool)
  | 0, left => return (left, wasPrinted)
  | fuel + 1, left => do
      if left ≤ 0 || (← printable s) = 0 then return (left, wasPrinted)
      else
        modify fun st =>
          { st with
            output := 0, blanks := 0, separators := 0, hasLine := false, hasEmpty := false, isLineEmpty := true }
        putColumns s (List.range s.style.columns)
        let hasLine := (← get).hasLine
        let wasPrinted := wasPrinted || hasLine
        if hasLine then put '\n'
        let left := if hasLine then left - 1 else left
        if (← printable s) = 0 && !s.style.hasHeader then return (left, wasPrinted)
        else if s.style.isDouble && wasPrinted then
          put '\n'
          putLines wasPrinted fuel (left - 1)
        else putLines wasPrinted fuel left

/-- Reads the next page in all columns. -/
def release : Paging Unit := do
  let held := ((← get).columns.filter fun p => p.status = .held).size
  changeAll fun p => if p.status = .held then { p with status := .reading } else p
  modify fun st => { st with ready := st.ready + (held : Nat) }
  if s.style.keepsLines then
    let isClosed := (← columnAt 0).status = .closed
    modify fun st => { st with ready := if isClosed then 0 else 1 }

/-- Prints a page. Says whether there may be more. -/
def putPage : Paging Bool := do
  let style := s.style
  if style.keepsLines then
    keepPage s
    changeAll fun p => { p with left := p.kept }
  else changeAll fun p => { p with left := if p.status = .reading then style.lines else 0 }
  if (← printable s) = 0 then return false
  else
    modify fun st => { st with owesHeader := st.owesHeader || style.hasHeader, hasLine := false }
    let lines := if style.isDouble then style.lines * 2 else style.lines
    let (left, wasPrinted) ← putLines s false (lines + style.columns + 2) lines
    if left = 0 then changeAll fun p => if p.status = .reading then { p with isFull := true } else p
    if wasPrinted && style.hasHeader then
      if style.usesFeed then put '\x0c' else putAll (List.replicate (left + 5).toNat '\n')
    else if style.keepsFeeds && (← get).owesFeed then
      put '\x0c'
      modify fun st => { st with owesFeed := false }
    modify fun st => { st with page := st.page + 1 }
    if style.last.any (· < (← get).page) then return false
    else
      release s
      return true

/-- Prints pages. The number bounds them. -/
def putPages : Nat → Paging Unit
  | 0 => return
  | fuel + 1 => do
      if (← get).failed.isNone && (← putPage s) then putPages fuel

/-! ## Pages that are left out

Pages before the first one that is wanted are read as all others, but nothing of them is printed. -/

/-- Skips a line in a column, which may be the last one of a page. -/
def passLine (i : Nat) (isLast : Bool) : Paging Unit := do
  let p ← columnAt i
  let source := p.source
  let c ← firstOctet i source p.isFull
  if isLast then changeColumn i fun p => { p with isFull := true }
  let text := ((← get).sources[source]?).getD []
  let passed := text.takeWhile fun c => c != '\n' && c != '\x0c'
  let isFeed := fun (c : Option Char) => c == some '\x0c'
  let final ← if c.isNone || c == some '\n' || isFeed c then pure c
    else do
      modify fun st => { st with sources := st.sources.set! source (text.drop passed.length) }
      nextOctet source
  if isFeed final then
    if isLast then
      if s.style.isParallel then changeColumn i fun p => { p with isFull := false }
      else changeAll fun p => { p with isFull := false }
    skipLineEnd source
    hold s i
  else if final.isNone then close s i
  if s.style.firstNumber.isNone && (!s.style.isParallel || i = 0) && !isFeed c then
    modify fun st => { st with count := st.count + 1 }

def passLines (isLast : Bool) : Paging Unit :=
  (List.range s.style.columns).forM fun i => do
    if (← columnAt i).status = .reading then passLine s i isLast

/-- Skips pages, of which some have been skipped. Returns how many there are, if these are too few.
-/
def passPages : Nat → Nat → Paging (Option Nat)
  | 0, _ => return none
  | left + 1, count => do
      (List.range (s.style.lines - 1)).forM fun _ => passLines s false
      passLines s true
      if s.style.keepsLines then
        changeAll fun p => if p.status = .closed then p else { p with status := .held }
      release s
      if (← get).ready < 1 then return some count else passPages left (count + 1)

/-! ## Files -/

/-- The columns of a layout, which begin one behind the other. -/
def columnsFrom (style : Style) : Nat → Nat → Nat → Nat → List Column
  | 0, _, _, _ => []
  | left + 1, i, start, next =>
      let source := if style.isParallel then i else 0
      let p : Column :=
        ⟨source, .reading, 0, 0, false, 0, start, style.isNumbered && (!style.isParallel || i = 0)⟩
      let start := if style.joins then 0 else next + style.between.length
      p :: columnsFrom style left (i + 1) start (if style.joins then 0 else start + style.columnWidth)

def columnsOf (style : Style) : List Column :=
  let wide := if style.isParallel && style.isNumbered then style.numberWidth else 0
  let next := if style.truncates then style.margin + style.columnWidth + wide else 0
  columnsFrom style style.columns 0 (style.margin + style.between.length) next

/-- What printing files leaves: what is printed, the file that could not be read, and how many pages
there are, if these are too few. -/
structure Printed where
  text : Text
  failed : Option Nat
  pages : Option Nat

/-- **Prints files in pages.** -/
def paginate (sources : List Text) : Printed :=
  let style := s.style
  let columns := columnsOf style
  let start : State :=
    { sources := sources.toArray, columns := columns.toArray, ready := sources.length, input := 0, output := 0,
      blanks := 0, separators := 0, padding := 0, hasLine := false, hasEmpty := false, isLineEmpty := true,
      hasOnlyFeed := false, owesFeed := false, owesHeader := false, lines := #[], line := [], number := 1,
      count := style.firstNumber.getD 1, page := 1, printed := [], failed := none }
  let size := sources.foldl (fun n t => n + t.length) 0
  let work : Paging (Option Nat) := do
    match ← passPages s (min (style.first - 1) (size + 2)) 1 with
    | some n => return some n
    | none =>
        modify fun st => { st with number := st.count, page := style.first }
        putPages s (size + 2)
        return none
  let (pages, last) := work.run start
  ⟨last.printed.reverse, last.failed, pages⟩

end SwiftExistential.Utility.Pages
