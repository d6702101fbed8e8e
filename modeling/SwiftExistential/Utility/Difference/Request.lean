import SwiftExistential.Expression.Reader
import SwiftExistential.Text.Number
import SwiftExistential.Utility.Difference.Lines

/-!
# Requests for differences

How differences are written, and what a command line asks for.

There are eight styles, and each is a function from the changes and both texts to a text; the
`Layout` says what is common to them, such as tabs and the number of lines around changes. The
request collects what the options say and is finished when all of them are read, since some depend
on others that come later.
-/

set_option autoImplicit false

/-! ## How changes are shown

Changes are shown as commands for an editor, with lines around them, or with both texts side by
side. -/

namespace SwiftExistential.Utility.Difference

/-- The ways to show changes. -/
inductive Style where
  | normal
  | context
  | unified
  | editor
  | forward
  | counted
  | sideBySide
  | conditional
deriving DecidableEq, Repr

/-- What is said about showing changes. -/
structure Layout where
  style : Style
  /-- How many lines are shown around changes. -/
  context : Nat
  startsWithTab : Bool
  expandsTabs : Bool
  tabWidth : Nat
  /-- Whether no blank stands before an empty line. -/
  dropsBlanks : Bool
  /-- The width of both texts side by side. -/
  width : Nat
  onlyLeft : Bool
  hidesCommon : Bool
  /-- The line that is shown of a function. -/
  function : Option Expression
  name : Text

namespace Layout

/-- The text of a line, with its end or the note that there is none. -/
def plain (l : Layout) (line : Line) : Text :=
  let t := if l.expandsTabs then tabless l.tabWidth 0 line.text else line.text
  if line.hasEnd then t ++ ['\n'] else t ++ "\n\\ No newline at end of file\n".toList

def marked (l : Layout) (mark : Text) (line : Line) : Text :=
  mark ++ (if l.startsWithTab then '\t'
    else ' ') :: l.plain line

def markedLines (l : Layout) (mark : Text) (lines : List Line) : Text := lines.flatMap (l.marked mark)

end Layout

/-- The numbers of lines, with something between them. -/
def rangeText (between : Char) (start count : Nat) : Text :=
  if count = 0 then shownNat start
  else if count = 1 then shownNat (start + 1)
  else shownNat (start + 1) ++ between :: shownNat (start + count)

def Change.letter (c : Change) : Char :=
  if c.deleted = 0 then 'a' else if c.inserted = 0 then 'd' else 'c'

def normalText (l : Layout) (s : Sides) (c : Change) : Text :=
  rangeText ',' c.first c.deleted ++ c.letter :: rangeText ',' c.second c.inserted ++ '\n' ::
    l.markedLines ['<'] (linesAt s.first c.first c.deleted) ++
    (if c.letter == 'c' then "---\n".toList else []) ++
    l.markedLines ['>'] (linesAt s.second c.second c.inserted)

/-! ### Commands of an editor

In the oldest form the changes stand from the last one to the first, so that the numbers of the
lines before them stay right for an editor. The other two forms keep their order and are for other
readers. -/

/-- The lines that an editor takes in. A line that would end them is written in another way. -/
def editorLines : Bool → List Line → Text
  | isInserting, [] => if isInserting then ".\n".toList else []
  | isInserting, line :: rest =>
      let start := if isInserting then [] else "a\n".toList
      if line.text = ['.'] then start ++ "..\n.\ns/.//\n".toList ++ editorLines false rest
      else start ++ line.text ++ '\n' :: editorLines true rest

def editorText (s : Sides) (c : Change) : Text :=
  rangeText ',' c.first c.deleted ++ [c.letter, '\n'] ++
    if c.inserted = 0 then [] else editorLines true (linesAt s.second c.second c.inserted)

/-- A change as a command with the letter first. -/
def forwardText (s : Sides) (c : Change) : Text :=
  c.letter :: rangeText ' ' c.first c.deleted ++ '\n' ::
    if c.inserted = 0 then []
    else (linesAt s.second c.second c.inserted).flatMap (fun l => l.text ++ ['\n']) ++ ".\n".toList

/-- A change as commands with the number of lines. -/
def countedText (s : Sides) (c : Change) : Text :=
  (if c.deleted = 0 then []
    else 'd' :: shownNat (c.first + 1) ++ ' ' :: shownNat c.deleted ++ ['\n']) ++
  (if c.inserted = 0 then []
    else 'a' :: shownNat (c.first + c.deleted) ++ ' ' :: shownNat c.inserted ++ '\n' ::
      (linesAt s.second c.second c.inserted).flatMap fun l => l.text ++ if l.hasEnd then ['\n'] else [])

/-! ### Lines around changes

Changes with few lines between them are shown together. There is a long form with both texts one
behind the other, and a short form in which they are one. -/

/-- Whether changes are far enough from each other to be shown apart. -/
def isFar (l : Layout) (passes : Change → Bool) (a b : Change) : Bool :=
  let bound := if passes a || passes b then l.context else 2 * l.context + 1
  b.first - (a.first + a.deleted) ≥ bound

/-- Puts changes together that are not far from each other. -/
def groups (l : Layout) (passes : Change → Bool) : List Change → List (List Change)
  | [] => []
  | c :: rest =>
      match groups l passes rest with
      | (d :: others) :: more =>
          if isFar l passes c d then [c] :: (d :: others) :: more else (c :: d :: others) :: more
      | other => [c] :: other

/-- What a group of changes covers, with the lines around it. -/
structure Extent where
  first : Nat
  firstEnd : Nat
  second : Nat
  secondEnd : Nat

def extent (l : Layout) (s : Sides) (group : List Change) : Extent :=
  match group.head?, group.getLast? with
  | some a, some b =>
      ⟨a.first - l.context, min (b.first + b.deleted + l.context) s.first.size,
        a.second - l.context, min (b.second + b.inserted + l.context) s.second.size⟩
  | _, _ => ⟨0, 0, 0, 0⟩

/-- The last line of a function before a place. -/
def functionText (l : Layout) (s : Sides) (start : Nat) : Text :=
  match l.function with
  | none => []
  | some e =>
      let before := (linesAt s.first 0 start).reverse
      match before.find? fun line => (Expression.find? ⟨false, false⟩ e none line.text).isSome with
      | some line => ' ' :: trimEnd ((line.text.dropWhile Number.isSpace).take 40)
      | none => []

/-- The numbers of lines in the short form. -/
def unifiedRange (start stop : Nat) : Text :=
  let count := stop - start
  if count = 0 then shownNat start ++ ",0".toList
  else if count = 1 then shownNat (start + 1)
  else shownNat (start + 1) ++ ',' :: shownNat count

/-- A line behind one character, in the short form. -/
def unifiedLine (l : Layout) (mark : Char) (line : Line) : Text :=
  let start := if mark == ' ' then
      if l.dropsBlanks && line.text.isEmpty then [] else if l.startsWithTab then ['\t'] else [' ']
    else mark :: if l.startsWithTab && !(l.dropsBlanks && line.text.isEmpty) then ['\t'] else []
  start ++ l.plain line

/-- The lines of a group in the short form, from a place on. -/
def unifiedLines (l : Layout) (s : Sides) (stop : Nat) : Nat → List Change → Text
  | place, [] => (linesAt s.first place (stop - place)).flatMap (unifiedLine l ' ')
  | place, c :: rest =>
      (linesAt s.first place (c.first - place)).flatMap (unifiedLine l ' ') ++
        (linesAt s.first c.first c.deleted).flatMap (unifiedLine l '-') ++
        (linesAt s.second c.second c.inserted).flatMap (unifiedLine l '+') ++
        unifiedLines l s stop (c.first + c.deleted) rest

/-- A group of changes in the short form. -/
def unifiedText (l : Layout) (s : Sides) (group : List Change) : Text :=
  let e := extent l s group
  "@@ -".toList ++ unifiedRange e.first e.firstEnd ++ " +".toList ++ unifiedRange e.second e.secondEnd ++
    " @@".toList ++ functionText l s e.first ++ '\n' ::
    unifiedLines l s e.firstEnd e.first group

/-- The numbers of lines in the long form. -/
def contextRange (start stop : Nat) : Text :=
  if stop - start ≤ 1 then shownNat stop else shownNat (start + 1) ++ ',' :: shownNat stop

def contextLine (l : Layout) (mark : Char) (line : Line) : Text :=
  if l.dropsBlanks && line.text.isEmpty then (if mark == ' ' then [] else [mark]) ++ l.plain line
  else l.marked [mark] line

/-- The lines of one side in the long form, from a place on: where changes begin, how many lines
they cover, and with which mark. -/
def contextLines (l : Layout) (lines : Array Line) (stop : Nat) : Nat → List (Nat × Nat × Char) → Text
  | place, [] => (linesAt lines place (stop - place)).flatMap (contextLine l ' ')
  | place, (start, count, mark) :: rest =>
      (linesAt lines place (start - place)).flatMap (contextLine l ' ') ++
        (linesAt lines start count).flatMap (contextLine l mark) ++
        contextLines l lines stop (start + count) rest

/-- A group of changes in the long form. -/
def contextText (l : Layout) (s : Sides) (group : List Change) : Text :=
  let e := extent l s group
  let mark := fun (c : Change) (alone : Char) => if c.deleted != 0 && c.inserted != 0 then '!' else alone
  let old := if group.all (·.deleted = 0) then []
    else contextLines l s.first e.firstEnd e.first (group.map fun c => (c.first, c.deleted, mark c '-'))
  let new := if group.all (·.inserted = 0) then []
    else contextLines l s.second e.secondEnd e.second (group.map fun c => (c.second, c.inserted, mark c '+'))
  "***************".toList ++ functionText l s e.first ++ "\n*** ".toList ++
    contextRange e.first e.firstEnd ++ " ****\n".toList ++ old ++ "--- ".toList ++
    contextRange e.second e.secondEnd ++ " ----\n".toList ++ new

/-! ### Side by side -/

structure Columns where
  half : Nat
  second : Nat

def Layout.columns (l : Layout) : Columns :=
  let step := if l.expandsTabs then 1 else l.tabWidth
  let room := step + 3
  let middle := l.width / 2 + room / 2 + (if l.width % 2 = 1 && room % 2 = 1 then 1 else 0)
  let start := middle - middle % step
  let half := min (start - 3) (l.width - start)
  ⟨half, if half = 0 then l.width else start⟩

/-- Blanks from a column to another one, in tabs as far as possible. -/
def Layout.gap (l : Layout) (start stop : Nat) : Text :=
  if l.expandsTabs then List.replicate (stop - start) ' '
  else
    let tabs := stop / l.tabWidth - start / l.tabWidth
    let place := if tabs = 0 then start else stop / l.tabWidth * l.tabWidth
    List.replicate tabs '\t' ++ List.replicate (stop - place) ' '

/-- As much of a line as fits, and the column behind it. The numbers are the columns in the line and
in the output. -/
def halfFrom (l : Layout) (indent bound : Nat) : Nat → Nat → Text → Text × Nat
  | _, outPlace, [] => ([], outPlace)
  | inPlace, outPlace, c :: rest =>
      let next := fun (t : Text) (inPlace outPlace : Nat) =>
        let (others, column) := halfFrom l indent bound inPlace outPlace rest
        (t ++ others, column)
      match c with
      | '\t' =>
          let spaces := l.tabWidth - inPlace % l.tabWidth
          let stop := outPlace + spaces
          if inPlace != outPlace then next [] (inPlace + spaces) outPlace
          else if l.expandsTabs then
            next (List.replicate (min stop bound - outPlace) ' ') (inPlace + spaces) (min stop bound)
          else if stop < bound then next ['\t'] (inPlace + spaces) stop
          else next [] (inPlace + spaces) outPlace
      | '\r' => next ('\r' :: l.gap 0 indent) 0 0
      | '\x08' =>
          if inPlace = 0 then next [] 0 outPlace
          else
            let back := inPlace - 1
            if back < bound then
              if outPlace ≤ back then next (List.replicate (back - outPlace) ' ') back back
              else next ['\x08'] back back
            else next [] back outPlace
      | '\x0b' | '\x0c' => next (if inPlace < bound then [c] else []) inPlace outPlace
      | c =>
          if inPlace < bound then next [c] (inPlace + 1) (inPlace + 1) else next [] (inPlace + 1) outPlace

/-- One row of both texts side by side. -/
def rowText (l : Layout) (left : Option Line) (sign : Char) (right : Option Line) : Text :=
  let columns := l.columns
  let (start, column) := match left with
    | some line => halfFrom l 0 columns.half 0 0 line.text
    | none => ([], 0)
  let leftEnds := left.any Line.hasEnd
  let (middle, column) := if sign == ' ' then ([], column)
    else
      let place := (columns.half + columns.second - 1) / 2
      let sign := if sign == '|' && leftEnds != right.any Line.hasEnd then if leftEnds then '/' else '\\'
        else sign
      (l.gap column place ++ [sign], place + 1)
  let rest := match right with
    | some line =>
        if line.text.isEmpty && line.hasEnd then []
        else l.gap column columns.second ++ (halfFrom l columns.second columns.half 0 0 line.text).1
    | none => []
  start ++ middle ++ rest ++ if leftEnds || right.any Line.hasEnd then ['\n'] else []

/-- Rows of lines that both texts have. -/
def commonRows (l : Layout) (first second : List Line) : Text :=
  if l.hidesCommon then []
  else if l.onlyLeft then first.flatMap fun a => rowText l (some a) '(' none
  else
    let pairs := first.zip second
    pairs.flatMap (fun (a, b) => rowText l (some a) ' ' (some b)) ++
      (second.drop pairs.length).flatMap (fun b => rowText l none ')' (some b)) ++
      (first.drop pairs.length).flatMap fun a => rowText l (some a) '(' none

/-- Both texts side by side, from places on. -/
def rows (l : Layout) (s : Sides) : Nat → Nat → List Change → Text
  | i, j, [] => commonRows l (linesAt s.first i s.first.size) (linesAt s.second j s.second.size)
  | i, j, c :: rest =>
      let old := linesAt s.first c.first c.deleted
      let new := linesAt s.second c.second c.inserted
      let pairs := old.zip new
      commonRows l (linesAt s.first i (c.first - i)) (linesAt s.second j (c.second - j)) ++
        pairs.flatMap (fun (a, b) => rowText l (some a) '|' (some b)) ++
        (new.drop pairs.length).flatMap (fun b => rowText l none '>' (some b)) ++
        (old.drop pairs.length).flatMap (fun a => rowText l (some a) '<' none) ++
        rows l s (c.first + c.deleted) (c.second + c.inserted) rest

/-! ### Conditions -/

def bareLines (lines : List Line) : Text := lines.flatMap fun l => l.text ++ ['\n']

/-- Both texts in one, with conditions around what differs, from a place on. -/
def conditionalText (l : Layout) (s : Sides) : Nat → List Change → Text
  | i, [] => bareLines (linesAt s.first i s.first.size)
  | i, c :: rest =>
      let old := bareLines (linesAt s.first c.first c.deleted)
      let new := bareLines (linesAt s.second c.second c.inserted)
      let name := l.name
      let stop := "#endif /* ".toList ++ (if c.inserted = 0 then "! ".toList else []) ++ name ++ " */\n".toList
      bareLines (linesAt s.first i (c.first - i)) ++
        (if c.deleted = 0 then "#ifdef ".toList ++ name ++ '\n' :: new
          else "#ifndef ".toList ++ name ++ '\n' :: old ++
            if c.inserted = 0 then [] else "#else /* ".toList ++ name ++ " */\n".toList ++ new) ++
        stop ++ conditionalText l s (c.first + c.deleted) rest

/-! ### All changes -/

/-- **All changes as they are shown.** Those that do not matter are left out. -/
def Layout.text (l : Layout) (s : Sides) (passes : Change → Bool) (changes : List Change) : Text :=
  let shown := changes.filter fun c => !passes c
  match l.style with
  | .normal => shown.flatMap (normalText l s)
  | .editor => shown.reverse.flatMap (editorText s)
  | .forward => shown.flatMap (forwardText s)
  | .counted => shown.flatMap (countedText s)
  | .sideBySide => rows l s 0 0 shown
  | .conditional => conditionalText l s 0 changes
  | .unified => ((groups l passes changes).filter fun g => !g.all passes).flatMap (unifiedText l s)
  | .context => ((groups l passes changes).filter fun g => !g.all passes).flatMap (contextText l s)

end SwiftExistential.Utility.Difference

/-! ## What a comparison is asked to do

The options are read one after the other. The first that contradicts those before it, or whose value
makes no sense, is a mistake. -/

namespace SwiftExistential.Utility.Difference

open Process

/-- What is asked. -/
structure Request where
  regard : Regard
  layout : Layout
  style : Option Style
  /-- The number of lines around changes, if it has been said. -/
  context : Option Nat
  /-- The number of lines that digits give. -/
  digits : Option Nat
  wasDigit : Bool
  hasExactContext : Bool
  width : Option Nat
  tabWidth : Option Nat
  labels : List Text
  isBrief : Bool
  reportsSame : Bool
  treatsAsText : Bool
  isRecursive : Bool
  /-- Whether a file that is missing is empty. -/
  fillsMissing : Bool
  /-- Whether a first file that is missing is empty. -/
  fillsFirst : Bool
  followsLinks : Bool
  showsFunctions : Bool
  excluded : List Text
  start : Option Text
  allFrom : Option Text
  allTo : Option Text

def Request.usual : Request :=
  { regard := ⟨false, .all, false, false, [], false, true, 8⟩
    layout := ⟨.normal, 0, false, false, 8, false, 130, false, false, none, []⟩
    style := none, context := none, digits := none, wasDigit := false, hasExactContext := false, width := none,
    tabWidth := none, labels := [], isBrief := false, reportsSame := false, treatsAsText := false,
    isRecursive := false, fillsMissing := false, fillsFirst := false, followsLinks := true,
    showsFunctions := false, excluded := [], start := none, allFrom := none, allTo := none }

/-- What is wrong with the options. -/
inductive Fault where
  /-- A hint follows the message. -/
  | misused (message : Text)
  | failed (message : Text)

def options : Specification :=
  { name := "diff", letters := "0123456789abBcC:dD:eEfF:hHiI:lL:nNpPqrsS:tTuU:vwW:x:X:yZ", mistake := 2,
    words := [("binary", '\x01', .none), ("brief", 'q', .none), ("changed-group-format", '\x02', .one),
      ("color", '\x03', .optional), ("context", 'c', .optional), ("ed", 'e', .none), ("exclude", 'x', .one),
      ("exclude-from", 'X', .one), ("expand-tabs", 't', .none), ("forward-ed", 'f', .none),
      ("from-file", '\x04', .one), ("help", '\x05', .none), ("horizon-lines", '\x06', .one),
      ("ifdef", 'D', .one), ("ignore-all-space", 'w', .none), ("ignore-blank-lines", 'B', .none),
      ("ignore-case", 'i', .none), ("ignore-file-name-case", '\x07', .none),
      ("ignore-matching-lines", 'I', .one), ("ignore-space-change", 'b', .none),
      ("ignore-tab-expansion", 'E', .none), ("ignore-trailing-space", 'Z', .none), ("initial-tab", 'T', .none),
      ("label", 'L', .one), ("left-column", '\x08', .none), ("line-format", '\x0e', .one),
      ("minimal", 'd', .none), ("new-file", 'N', .none), ("new-group-format", '\x0e', .one),
      ("new-line-format", '\x0e', .one), ("no-dereference", '\x0f', .none),
      ("no-ignore-file-name-case", '\x10', .none), ("normal", '\x11', .none),
      ("old-group-format", '\x0e', .one), ("old-line-format", '\x0e', .one), ("paginate", 'l', .none),
      ("palette", '\x10', .one), ("rcs", 'n', .none), ("recursive", 'r', .none),
      ("report-identical-files", 's', .none), ("show-c-function", 'p', .none), ("show-function-line", 'F', .one),
      ("side-by-side", 'y', .none), ("speed-large-files", 'H', .none), ("starting-file", 'S', .one),
      ("strip-trailing-cr", '\x12', .none), ("suppress-blank-empty", '\x13', .none),
      ("suppress-common-lines", '\x14', .none), ("tabsize", '\x15', .one), ("text", 'a', .none),
      ("to-file", '\x16', .one), ("unchanged-group-format", '\x0e', .one),
      ("unchanged-line-format", '\x0e', .one), ("unidirectional-new-file", 'P', .none),
      ("unified", 'u', .optional), ("version", 'v', .none), ("width", 'W', .one)] }

namespace Request

def withStyle (r : Request) (style : Style) : Except Fault Request :=
  if r.style.all (· = style) then .ok { r with style := some style }
  else .error (.misused "conflicting output style options".toList)

def positive? (t : Text) : Option Nat :=
  if !t.isEmpty && t.all Char.isDigit && Number.value 10 t > 0 then some (Number.value 10 t) else none

/-- Chooses a style with lines around changes. -/
def withContext (r : Request) (style : Style) (value : Text) : Except Fault Request :=
  if value.isEmpty then { r with context := some (max 3 (r.context.getD 0)) }.withStyle style
  else if !value.all Char.isDigit then
    .error (.misused ("invalid context length ".toList ++ quoted value))
  else
    { r with context := some (max (Number.value 10 value) (r.context.getD 0)), hasExactContext := true }.withStyle
      style

def expression (t : Text) : Except Fault Expression :=
  match Expression.read Expression.Dialect.basic t with
  | .ok e => .ok e
  | .error reason => .error (.failed (t ++ ": ".toList ++ reason.message.toList))

def withOption (r : Request) (letter : Char) (value : Text) : Except Fault Request :=
  let regard := fun (change : Regard → Regard) => Except.ok { r with regard := change r.regard }
  let layout := fun (change : Layout → Layout) => Except.ok { r with layout := change r.layout }
  match letter with
  | 'a' => .ok { r with treatsAsText := true }
  | 'b' => regard fun g => { g with blanks := if g.blanks = .ignored then .ignored else .countsIgnored }
  | 'B' => regard fun g => { g with ignoresEmpty := true }
  | 'C' => r.withContext .context (if value.isEmpty then ['?'] else value)
  | 'c' => r.withContext .context value
  | 'U' => r.withContext .unified (if value.isEmpty then ['?'] else value)
  | 'u' => r.withContext .unified value
  | 'd' => regard fun g => { g with isMinimal := true }
  | 'D' => { r with layout := { r.layout with name := value } }.withStyle .conditional
  | 'e' => r.withStyle .editor
  | 'E' => regard fun g => { g with blanks := match g.blanks with
      | .all => .tabsExpanded
      | .endsIgnored => .tabsExpandedEndsIgnored
      | other => other }
  | 'f' => r.withStyle .forward
  | 'F' => (expression value).bind fun e => layout fun l => { l with function := some e }
  | 'i' => regard fun g => { g with ignoresCase := true }
  | 'I' => (expression value).bind fun e => regard fun g => { g with ignored := g.ignored ++ [e] }
  | 'L' =>
      if r.labels.length = 2 then .error (.failed "too many file label options".toList)
      else .ok { r with labels := r.labels ++ [value] }
  | 'n' => r.withStyle .counted
  | 'N' => .ok { r with fillsMissing := true }
  | 'p' =>
      (expression "^[[:alpha:]$_]".toList).bind fun e =>
        .ok { r with showsFunctions := true, layout := { r.layout with function := some e } }
  | 'P' => .ok { r with fillsFirst := true }
  | 'q' => .ok { r with isBrief := true }
  | 'r' => .ok { r with isRecursive := true }
  | 's' => .ok { r with reportsSame := true }
  | 'S' => .ok { r with start := some value }
  | 't' => layout fun l => { l with expandsTabs := true }
  | 'T' => layout fun l => { l with startsWithTab := true }
  | 'w' => regard fun g => { g with blanks := .ignored }
  | 'W' =>
      match positive? value with
      | none => .error (.misused ("invalid width ".toList ++ quoted value))
      | some n =>
          if r.width.all (· = n) then .ok { r with width := some n }
          else .error (.failed "conflicting width options".toList)
  | 'x' => .ok { r with excluded := r.excluded ++ [value] }
  | 'y' => r.withStyle .sideBySide
  | 'Z' => regard fun g => { g with blanks := match g.blanks with
      | .all => .endsIgnored
      | .tabsExpanded => .tabsExpandedEndsIgnored
      | other => other }
  | '\x04' => .ok { r with allFrom := some value }
  | '\x16' => .ok { r with allTo := some value }
  | '\x08' => layout fun l => { l with onlyLeft := true }
  | '\x0f' => .ok { r with followsLinks := false }
  | '\x11' => r.withStyle .normal
  | '\x12' => regard fun g => { g with ignoresReturns := true }
  | '\x13' => layout fun l => { l with dropsBlanks := true }
  | '\x14' => layout fun l => { l with hidesCommon := true }
  | '\x15' =>
      match positive? value with
      | none => .error (.misused ("invalid tabsize ".toList ++ quoted value))
      | some n =>
          if r.tabWidth.all (· = n) then .ok { r with tabWidth := some n }
          else .error (.failed "conflicting tabsize options".toList)
  | c =>
      if c.isDigit then
        let n := c.toNat - '0'.toNat
        .ok { r with digits := some (if r.wasDigit then r.digits.getD 0 * 10 + n else n) }
      else .ok r

/-- Puts together what the options say. -/
def finish (r : Request) : Request :=
  let style := r.style.getD (if r.showsFunctions then .context else .normal)
  let usual := if r.style.isNone && r.showsFunctions && r.digits.isNone then some 3 else r.context
  let hasContext := style = .context || style = .unified
  let context := match r.digits, usual with
    | some n, some m => if n > m || !r.hasExactContext then n else m
    | some n, none => n
    | none, m => m.getD 0
  { r with
    layout := { r.layout with
      style := style, context := if hasContext then context else 0, width := r.width.getD r.layout.width,
      tabWidth := r.tabWidth.getD r.layout.tabWidth }
    regard := { r.regard with
      showsEnds := style != .editor && style != .forward, tabWidth := r.tabWidth.getD r.regard.tabWidth } }

/-- **What options ask for.** -/
def ofOptions : Request → List (Char × Text) → Except Fault Request
  | r, [] => .ok r.finish
  | r, (letter, value) :: rest =>
      match r.withOption letter value with
      | .error fault => .error fault
      | .ok r => ofOptions { r with wasDigit := letter.isDigit } rest

/-- Whether a comparison of texts that are the same shows nothing. -/
def isQuiet (r : Request) : Bool :=
  match r.layout.style with
  | .sideBySide => r.layout.hidesCommon
  | .conditional => false
  | _ => true

end Request

end SwiftExistential.Utility.Difference
