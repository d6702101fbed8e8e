import SwiftExistential.Utility.Content

/-!
# Filling lines

`fmt` joins the lines of a paragraph and breaks them anew. Each way to break a paragraph has a cost:
a line has one that is far from the wanted width, or whose length differs from the line behind it,
and a break that tears apart what belongs together has one. The breaks with the least cost are
taken.

The search goes from the last word to the first and keeps, for each word, the least cost of a line
that begins with it. A paragraph that becomes too long is cut at a good place, and its start is
printed before the rest is read.
-/

set_option autoImplicit false

namespace SwiftExistential.Utility.Fill

open Process

/-! ## Words

What a word ends or begins with counts: a sentence should not be torn from its last word, nor a mark
from what it opens. -/

/-- A word of a paragraph, with the blanks behind it. -/
structure Word where
  text : Text
  space : Nat
  /-- Whether it begins with something that is closed later. -/
  opens : Bool
  /-- Whether it ends as a sentence does. -/
  isPeriod : Bool
  /-- Whether its last octet is a mark. -/
  isMark : Bool
  /-- Whether a sentence ends here. -/
  isFinal : Bool

namespace Word

def length (w : Word) : Nat := w.text.length

/-- Whether an octet opens something. A zero octet counts as every sort of mark. -/
def isOpening (c : Char) : Bool := c == '\x00' || "(['\x60\"".toList.contains c

def isClosing (c : Char) : Bool := c == '\x00' || ")]'\"".toList.contains c

def isStop (c : Char) : Bool := c == '\x00' || ".?!".toList.contains c

def isMarkOctet (c : Char) : Bool := c > ' ' && c < '\x7f' && !c.isAlphanum

/-- The octet before the marks that close, or the first one. -/
def bareEnd (text : Text) : Option Char :=
  match text.reverse.dropWhile isClosing with
  | [] => text.head?
  | c :: _ => some c

def ofText (text : Text) : Word :=
  { text, space := 0, opens := text.head?.any isOpening, isPeriod := (bareEnd text).any isStop,
    isMark := text.getLast?.any isMarkOctet, isFinal := false }

end Word

/-! ## Costs

Costs are whole numbers. They grow with the square of a difference in width. -/

/-- How paragraphs are filled. -/
structure Style where
  /-- No line becomes so wide, if it can be helped. -/
  width : Nat
  /-- The wanted width. -/
  goal : Nat
  /-- What stands before each line, and is kept. -/
  mark : Text
  /-- The blanks that may stand before the mark, at least. -/
  lead : Nat
  /-- The blanks behind the mark. -/
  gap : Nat
  isCrown : Bool
  isTagged : Bool
  isSplit : Bool
  isUniform : Bool

/-- The least cost to break the words from one on, with the first line of it. -/
structure Laid where
  word : Word
  cost : Int
  /-- How many words stand in the line. -/
  count : Nat
  length : Nat
  /-- Whether it is the last line. -/
  isLast : Bool

def distance (n : Int) : Int := 100 * n * n

/-- What a difference between the widths of two lines costs. -/
def raggedness (n : Int) : Int := distance n / 2

/-- What a line of a length costs before those that follow. -/
def lineCost (s : Style) (length : Int) (next : Laid) : Int :=
  distance ((s.goal : Int) - length) + if next.isLast then 0 else raggedness (length - (next.length : Int))

/-- What it costs to begin a line with a word. The words before it are in reverse. -/
def startCost (earlier : List Word) (w : Word) : Int :=
  let behind : Int :=
    match earlier with
    | [] => 0
    | last :: others =>
        if last.isPeriod then if last.isFinal then -2500 else 360000
        else if last.isMark then -1600
        else match others with
          | before :: _ => if before.isFinal then 40000 / (last.length + 2 : Int) else 0
          | [] => 0
  4900 + behind + (if w.opens then -1600 else if w.isFinal then 22500 / (w.length + 2 : Int) else 0)

/-- The best end of a line that has a length and so many words, of which one is the last; the other
possibilities follow. A line that is not the first of its paragraph has no line before it to compare
with. -/
def bestEnd (s : Style) (before : Option Int) (count : Nat) (length : Nat) (last : Word) (best : Laid) :
    List Laid → Laid
  | [] =>
      let cost := (before.map fun n => raggedness (length - n)).getD 0
      if count = 1 || cost < best.cost then { best with cost, count, length, isLast := true } else best
  | next :: rest =>
      let cost := lineCost s length next + next.cost + (before.map fun n => raggedness (length - n)).getD 0
      let best := if count = 1 || cost < best.cost then { best with cost, count, length, isLast := false } else best
      let longer := length + last.space + next.word.length
      if longer < s.width then bestEnd s before (count + 1) longer next.word best rest else best

/-- Lays the words of a paragraph, which are in reverse, before those that have been laid. The line
before the paragraph has a length. -/
def lay (s : Style) (first other lastLength : Nat) : List Word → List Laid → List Laid
  | [], laid => laid
  | w :: earlier, laid =>
      let isFirst := earlier.isEmpty
      let before : Option Int := if isFirst && lastLength > 0 then some lastLength else none
      let best := bestEnd s before 1 ((if isFirst then first else other) + w.length) w ⟨w, 0, 1, 0, true⟩ laid
      lay s first other lastLength earlier ({ best with cost := best.cost + startCost earlier w } :: laid)

/-- Where each line begins, as the words from there on. The number bounds the lines. -/
def lineStarts : Nat → List Laid → List (List Laid)
  | 0, _ | _, [] => []
  | fuel + 1, first :: rest =>
      (first :: rest) :: lineStarts fuel ((first :: rest).drop first.count)

/-- The line before which a paragraph that is not complete is cut: the one that costs least compared
with what follows. A later line is a little better. -/
def cutBefore (best : Option (Int × Nat)) (place : Nat) : List (List Laid) → Option (Int × Nat)
  | [] => best
  | line :: rest =>
      let costOf := fun (l : List Laid) => (l.head?.map (·.cost)).getD 0
      let cost := costOf line - costOf (rest.headD [])
      let best := if best.all fun (c, _) => cost < c then some (cost, place) else best
      cutBefore (best.map fun (c, n) => (c + 9, n)) (place + 1) rest

/-! ## The text

Which lines belong to a paragraph depends on how they are indented, and that on the options. The
reader keeps its place in a state and prints as it goes. -/

/-- Where the reader of a text is. -/
structure State where
  rest : Text
  /-- What has been printed, in reverse. -/
  pieces : List Text
  /-- The column that has been read up to. -/
  column : Nat
  /-- The blanks before the mark of the line. -/
  indent : Nat
  /-- Whether tabs have been read, so that they are written. -/
  hasTabs : Bool
  /-- The column where the first line of the paragraph begins. -/
  first : Nat
  /-- The column where the other lines begin. -/
  other : Nat
  /-- The blanks before the marks of the paragraph. -/
  markIndent : Nat
  /-- The length of the last line that was printed, or zero. -/
  lastLength : Nat
  /-- The words of the paragraph that have been read, in reverse. -/
  words : List Word
  /-- How many these are. -/
  count : Nat
  /-- How many octets these have, and the start of the next one. -/
  size : Nat
  /-- The start of the next word, in reverse. -/
  part : Text

abbrev Filling := StateM State

def put (t : Text) : Filling Unit := modify fun s => { s with pieces := t :: s.pieces }

def blanks (hasTabs : Bool) (column target : Nat) : Text :=
  let tabTarget := target / 8 * 8
  if hasTabs && column + 1 < tabTarget then
    List.replicate (tabTarget / 8 - column / 8) '\t' ++ List.replicate (target - tabTarget) ' '
  else List.replicate (target - column) ' '

/-- Reads blanks. The column and whether there have been tabs stand before the text. -/
def skipBlanks (column : Nat) (hasTabs : Bool) : Text → Nat × Bool × Text
  | ' ' :: rest => skipBlanks (column + 1) hasTabs rest
  | '\t' :: rest => skipBlanks ((column / 8 + 1) * 8) true rest
  | rest => (column, hasTabs, rest)

def readBlanks : Filling Unit :=
  modify fun s =>
    let (column, hasTabs, rest) := skipBlanks s.column s.hasTabs s.rest
    { s with column, hasTabs, rest }

/-- How much of a mark a text begins with, and the rest of the text. -/
def skipMark : Text → Text → Nat × Text
  | m :: mark, c :: rest =>
      if m == c then
        let (n, behind) := skipMark mark rest
        (n + 1, behind)
      else (0, c :: rest)
  | _, rest => (0, rest)

/-- Reads the start of a line: blanks, the mark and blanks. -/
def readStart (style : Style) : Filling Unit := do
  modify fun s => { s with rest := if s.rest.head? == some '\n' then s.rest.drop 1 else s.rest, column := 0 }
  readBlanks
  let s ← get
  if style.mark.isEmpty then set { s with indent := min style.lead s.column }
  else
    let (read, rest) := skipMark style.mark s.rest
    set { s with indent := s.column, column := s.column + read, rest }
    if read = style.mark.length then readBlanks

/-- Whether the text goes on in the same line. -/
def State.isInside (s : State) : Bool := s.rest.head?.any (· != '\n')

/-- Whether the next line belongs to the paragraph. -/
def State.goesOn (style : Style) (s : State) : Bool :=
  s.indent = s.markIndent && s.column ≥ s.indent + style.mark.length + style.gap && s.isInside

/-- Decides where the lines behind the first begin. -/
def setOther (style : Style) (isSame : Bool) : Filling Unit :=
  modify fun s =>
    let other :=
      if style.isSplit then s.first
      else if style.isCrown then if isSame then s.column else s.first
      else if style.isTagged then
        if isSame && s.column != s.first then s.column
        else if s.other = s.first then if s.first = 0 then 3 else 0
        else s.other
      else s.first
    { s with other }

/-- The words of the paragraph, laid in lines. -/
def State.lines (style : Style) (s : State) : List (List Laid) :=
  lineStarts s.count (lay style s.first s.other s.lastLength s.words [])

/-- The words of a line, with the blanks between them, from a column. Returns the column behind them
too. -/
def lineText (hasTabs : Bool) (column : Nat) : List Word → Text × Nat
  | [] => ([], column)
  | [w] => (w.text, column + w.length)
  | w :: rest =>
      let behind := column + w.length
      let (shown, last) := lineText hasTabs (behind + w.space) rest
      (w.text ++ blanks hasTabs behind (behind + w.space) ++ shown, last)

/-- Prints a line, of which the first word has a column. -/
def putLine (style : Style) (indent : Nat) (line : List Laid) : Filling Unit :=
  modify fun s =>
    let start := blanks s.hasTabs 0 s.markIndent ++ style.mark
    let column := s.markIndent + style.mark.length
    let count := (line.head?.map (·.count)).getD 0
    let (shown, last) := lineText s.hasTabs (max column indent) ((line.take count).map (·.word))
    { s with pieces := (start ++ blanks s.hasTabs column indent ++ shown ++ ['\n']) :: s.pieces, lastLength := last }

def putLines (style : Style) (lines : List (List Laid)) : Filling Unit := do
  let s ← get
  match lines with
  | [] => return
  | line :: others =>
      putLine style s.first line
      others.forM (putLine style s.other)

/-- Prints the start of a paragraph that has become too long to be kept. -/
def flush (style : Style) : Filling Unit := do
  let s ← get
  if s.words.isEmpty then set { s with pieces := s.part.reverse :: s.pieces, part := [], size := 0 }
  else
    let lines := s.lines style
    let kept := ((cutBefore none 1 (lines.drop 1)).map Prod.snd).getD lines.length
    putLines style (lines.take kept)
    let words := ((lines.drop kept).headD []).map (·.word)
    modify fun s =>
      { s with
        words := words.reverse, count := words.length,
        size := words.foldl (fun n w => n + w.length) s.part.length }

def mostOctets : Nat := 5000

/-- The most words of a paragraph that are kept, apart from the last one. -/
def mostWords : Nat := 998

def readOctets (style : Style) : Text → Filling Unit
  | [] => return
  | c :: rest => do
      if (← get).size = mostOctets then
        setOther style true
        flush style
      modify fun s => { s with part := c :: s.part, size := s.size + 1 }
      readOctets style rest

/-- Reads the words of a line and the start of the next one. The number bounds the words. -/
def readLine (style : Style) : Nat → Filling Unit
  | 0 => readStart style
  | fuel + 1 => do
      let s ← get
      let octets := s.rest.takeWhile fun c => c != ' ' && c != '\t' && c != '\n'
      readOctets style octets
      let s ← get
      let w := Word.ofText s.part.reverse
      let start := s.column + w.length
      set { s with column := start, rest := s.rest.drop octets.length }
      readBlanks
      let s ← get
      let isLast := !s.isInside
      let space := s.column - start
      let isFinal := s.rest.isEmpty || w.isPeriod && (isLast || space > 1)
      let w := { w with space := if isLast || style.isUniform then if isFinal then 2 else 1 else space, isFinal }
      if s.count = mostWords then
        setOther style true
        flush style
      modify fun s => { s with words := w :: s.words, count := s.count + 1, part := [] }
      if isLast then readStart style else readLine style fuel

/-- Prints the rest of a line as it stands. -/
def copyRest (style : Style) : Filling Unit := do
  let s ← get
  let hasMore := s.isInside
  let mark := style.mark.take (s.column - s.indent)
  let column := s.indent + mark.length
  if s.column > s.indent || hasMore then
    put (blanks s.hasTabs 0 s.indent ++ mark)
    if hasMore then put (blanks s.hasTabs column s.column)
    if s.rest.isEmpty && s.column ≥ s.indent + style.mark.length then put ['\n']
  let line := s.rest.takeWhile (· != '\n')
  put line
  modify fun s => { s with rest := s.rest.drop line.length }

/-- Copies the lines before a paragraph. Returns whether there is a paragraph. The number bounds the
lines. -/
def skipToParagraph (style : Style) : Nat → Filling Bool
  | 0 => return false
  | fuel + 1 => do
      let s ← get
      if !s.isInside || s.indent < style.lead || s.column < s.indent + style.mark.length + style.gap then
        copyRest style
        if (← get).rest.isEmpty then return false
        else
          put ['\n']
          readStart style
          skipToParagraph style fuel
      else return true

/-- Reads lines as long as they belong to the paragraph. The number bounds the lines. -/
def readLines (style : Style) : Nat → Filling Unit
  | 0 => return
  | fuel + 1 => do
      let s ← get
      if s.goesOn style && s.column = s.other then
        readLine style s.rest.length
        readLines style fuel

def readParagraph (style : Style) : Filling Unit := do
  modify fun s => { s with markIndent := s.indent, first := s.column, words := [], count := 0, size := 0, part := [] }
  readLine style (← get).rest.length
  setOther style ((← get).goesOn style)
  let s ← get
  if style.isSplit then return
  else if style.isCrown || style.isTagged then
    if s.goesOn style && (style.isCrown || s.column != s.first) then
      readLine style s.rest.length
      readLines style s.rest.length
  else readLines style s.rest.length

/-- Fills the paragraphs of a text. The number bounds them. -/
def fillFrom (style : Style) : Nat → Filling Unit
  | 0 => return
  | fuel + 1 => do
      modify fun s => { s with lastLength := 0 }
      if ← skipToParagraph style ((← get).rest.length + 2) then
        readParagraph style
        modify fun s =>
          { s with words := match s.words with
              | [] => []
              | w :: others => { w with isPeriod := true, isFinal := true } :: others }
        putLines style ((← get).lines style)
        fillFrom style fuel

/-- **Fills the paragraphs of a text.** -/
def fill (style : Style) (t : Text) : Text :=
  let start : State := ⟨t, [], 0, 0, false, 0, 0, 0, 0, [], 0, 0, []⟩
  let work : Filling Unit := do
    readStart style
    fillFrom style (t.length + 1)
  (work.run { start with rest := '\n' :: t }).2.pieces.reverse.flatten

/-! ## The program -/

def options : Specification :=
  { name := "fmt", letters := "0123456789cstuw:p:g:",
    words := [("crown-margin", 'c', .none), ("split-only", 's', .none), ("tagged-paragraph", 't', .none),
      ("uniform-spacing", 'u', .none), ("prefix", 'p', .one), ("width", 'w', .one),
      ("goal", 'g', .one)] }

/-- The number that a width is, if it is at most another one, or what is wrong with it. -/
def widthOf (most : Nat) (t : Text) : Except Text Nat :=
  if (t.dropWhile Number.isSpace).head? == some '-' then .error ("invalid width: ".toList ++ cited t)
  else (numberWithin "invalid width" 0 most t).map Int.toNat

def mostWidth : Nat := 2500

/-- The widths that are asked for: of a line at most, and as it is wanted. -/
def widths (width goal : Option Text) : Except Text (Nat × Nat) := do
  let most ← match width with
    | some t => widthOf mostWidth t
    | none => pure 75
  match goal with
  | some t =>
      let wanted ← widthOf most t
      return (if width.isSome then most else wanted + 10, wanted)
  | none => return (most, most * 187 / 200)

/-- Arguments of which the first may be a width by itself. -/
def withWidthFirst : List Text → List Text
  | ('-' :: d :: rest) :: others =>
      (if d.isDigit then "-w".toList ++ d :: rest else '-' :: d :: rest) :: others
  | arguments => arguments

end Fill

open Process in
def fmt : Utility := fun _ arguments =>
  withOptions Fill.options (Fill.withWidthFirst arguments) fun g => do
    match g.options.find? fun (c, _) => c.isDigit with
    | some (c, _) =>
        misuse Fill.options ("invalid option -- ".toList ++ c ::
          ("; -WIDTH is recognized only when it is the first\n" ++ "option; use -w N instead").toList)
    | none =>
    match Fill.widths (g.value? 'w') (g.value? 'g') with
    | .error message =>
        complain "fmt" message
        return 1
    | .ok (width, goal) =>
        let before := (g.value? 'p').getD []
        let full := before.dropWhile (· == ' ')
        let mark := (full.reverse.dropWhile (· == ' ')).reverse
        let style : Fill.Style :=
          ⟨width, goal, mark, before.length - full.length, full.length - mark.length, g.has 'c', g.has 't',
            g.has 's', g.has 'u'⟩
        forAll
          (fun path => do
            match ← Job.readSource path with
            | .ok content =>
                Job.put (Fill.fill style content)
                return 0
            | .error .isDirectory =>
                complain "fmt" "read error".toList
                return 1
            | .error e =>
                complain "fmt" ("cannot open ".toList ++ quoted path ++ " for reading: ".toList ++ reason e)
                return 1)
          (if g.operands.isEmpty then [['-']] else g.operands)

end SwiftExistential.Utility
