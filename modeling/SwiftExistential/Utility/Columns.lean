import SwiftExistential.Text.Basic
import SwiftExistential.Text.Number
import SwiftExistential.Utility.Options

/-!
# Columns

Programs that work on the columns of lines: `cut`, `paste`, `fold`, `expand` and `unexpand`.

Each of them is a function on texts with a style, and a thin program around it that reads the
options and the files. Columns are counted in octets, except where tabs and backspaces have to be
told apart. Lists of places are shared with other programs that choose fields.
-/

set_option autoImplicit false

/-! ## Lists of places

A list like `1,3-5,7-` chooses places, which are counted from one on. Ranges that have a place in
common become one. -/

namespace SwiftExistential.Utility

/-- A range of numbers, from one on. -/
structure Span where
  first : Nat
  last : Option Nat
deriving DecidableEq, Repr

def Span.holds (n : Nat) (s : Span) : Bool := s.first ≤ n && s.last.all (n ≤ ·)

/-- Why a list of numbers is wrong. -/
inductive SpanMistake where
  | zero
  | wrong (t : Text)
  | twoDashes
  | noEnds
  | decreasing
  | tooLarge (t : Text)
deriving DecidableEq, Repr

/-- What has been read of a range. -/
structure SpanPart where
  first : Option Text
  /-- What stands behind a dash. -/
  last : Option Text
deriving DecidableEq, Repr

namespace SpanPart

/-- The largest number that cannot be reached. -/
def limit : Nat := 18446744073709551615

/-- The value of digits that may be missing. -/
def value (digits : Option Text) : Nat := Number.value 10 (digits.getD [])

/-- The range that a part stands for when it ends. -/
def finish (p : SpanPart) : Except SpanMistake Span :=
  match p.first, p.last with
  | first, none => if value first = 0 then .error .zero else .ok ⟨value first, some (value first)⟩
  | none, some [] => .error .noEnds
  | first, some [] => .ok ⟨value first, none⟩
  | first, some last =>
      let start := if first.isSome then value first else 1
      if value (some last) < start then .error .decreasing else .ok ⟨start, some (value (some last))⟩

end SpanPart

def endsSpan (c : Char) : Bool := c == ',' || c == ' ' || c == '\t'

/-- Reads ranges behind the part of one that was read. -/
def readSpansFrom (p : SpanPart) : Text → Except SpanMistake (List Span)
  | [] => p.finish.map fun s => [s]
  | c :: rest =>
      if c == '-' then
        if p.last.isSome then .error .twoDashes
        else if p.first.isSome && SpanPart.value p.first = 0 then .error .zero
        else readSpansFrom { p with last := some [] } rest
      else if endsSpan c then
        match p.finish with
        | .error e => .error e
        | .ok s => (readSpansFrom ⟨none, none⟩ rest).map (s :: ·)
      else if c.isDigit then
        let digits := (p.last.getD (p.first.getD [])) ++ [c]
        if Number.value 10 digits ≥ SpanPart.limit then
          .error (.tooLarge (digits ++ rest.takeWhile Char.isDigit))
        else match p.last with
          | some _ => readSpansFrom { p with last := some digits } rest
          | none => readSpansFrom { p with first := some digits } rest
      else .error (.wrong (c :: rest))

def Span.endsBefore (s : Span) (n : Nat) : Bool := s.last.any (· < n)

/-- Puts a span to those that begin no later, the last of them first. -/
def mergeSpan (merged : List Span) (s : Span) : List Span :=
  match merged with
  | [] => [s]
  | old :: others =>
      if old.endsBefore s.first then s :: old :: others
      else
        let last := match old.last, s.last with
          | some a, some b => some (max a b)
          | _, _ => none
        ⟨old.first, last⟩ :: others

/-- **Reads a list of places**: the ranges in order, of which no two have a place in common. -/
def readSpans (t : Text) : Except SpanMistake (List Span) :=
  (readSpansFrom ⟨none, none⟩ t).map fun spans =>
    ((spans.mergeSort fun a b => a.first ≤ b.first).foldl mergeSpan []).reverse

/-- The ranges between ranges, from a place on. -/
def complementFrom (start : Nat) : List Span → List Span
  | [] => [⟨start, none⟩]
  | s :: rest =>
      let before := if start < s.first then [⟨start, some (s.first - 1)⟩] else []
      match s.last with
      | some last => before ++ complementFrom (last + 1) rest
      | none => before

def complement (spans : List Span) : List Span := complementFrom 1 spans

end SwiftExistential.Utility

/-! ## Parts of lines

`cut` prints parts of each line: octets, or fields with a delimiter between them. -/

namespace SwiftExistential.Utility

open Process

/-- How lines are cut. -/
structure CutStyle where
  isFields : Bool
  spans : List Span
  delimiter : Char
  /-- What stands between parts, if it was said. -/
  output : Option Text
  onlyDelimited : Bool
  lineEnd : Char

/-- The octets that are chosen, from a place on. Where a range starts, the delimiter stands before
it, unless it is the first one. -/
def cutOctets (s : CutStyle) : Nat → Bool → Text → Text
  | _, _, [] => []
  | n, hasOutput, c :: rest =>
      if s.spans.any (Span.holds n) then
        let between := if hasOutput && s.spans.any (·.first == n) then s.output.getD [] else []
        between ++ c :: cutOctets s (n + 1) true rest
      else cutOctets s (n + 1) hasOutput rest

/-- The fields that are chosen, with delimiters between them. -/
def cutFields (s : CutStyle) (fields : List Text) : Text :=
  Text.join (s.output.getD [s.delimiter])
    ((fields.zipIdx.filter fun (_, i) => s.spans.any (Span.holds (i + 1))).map Prod.fst)

def cutLine (s : CutStyle) (line : Text) : Option Text :=
  if !s.isFields then some (cutOctets s 1 false line)
  else if line.contains s.delimiter then some (cutFields s (Text.splitOn s.delimiter line))
  else if s.onlyDelimited then none else some line

/-- **Cuts the lines of a text.** If lines are the fields, all of them are cut together. -/
def cutText (s : CutStyle) (t : Text) : Text :=
  let lines := splitRecords s.lineEnd [] [] t
  if s.isFields && s.delimiter == s.lineEnd then
    match lines with
    | [] => []
    | [line] => if s.onlyDelimited then [] else line ++ [s.lineEnd]
    | lines => cutFields s lines ++ [s.lineEnd]
  else (lines.filterMap (cutLine s)).flatMap (· ++ [s.lineEnd])

def cutOptions : Specification :=
  { name := "cut", letters := "b:c:d:f:nsz",
    words := [("bytes", 'b', .one), ("characters", 'c', .one), ("delimiter", 'd', .one),
      ("fields", 'f', .one), ("only-delimited", 's', .none), ("complement", 'C', .none),
      ("output-delimiter", 'o', .one), ("zero-terminated", 'z', .none)] }

def SpanMistake.message (isFields : Bool) : SpanMistake → Text
  | zero =>
      (if isFields then "fields are numbered from 1"
        else "byte/character positions are numbered from 1").toList
  | wrong t =>
      (if isFields then "invalid field value " else "invalid byte/character position ").toList ++ cited t
  | twoDashes => (if isFields then "invalid field range" else "invalid byte or character range").toList
  | noEnds => "invalid range with no endpoint: -".toList
  | decreasing => "invalid decreasing range".toList
  | tooLarge t =>
      (if isFields then "field number " else "byte/character offset ").toList ++ cited t ++
        " is too large".toList

def cutMistake? (lists : Nat) : List (Char × Text) → Option String
  | [] => none
  | (c, t) :: rest =>
      if c == 'b' || c == 'c' || c == 'f' then
        if lists = 1 then some "only one list may be specified" else cutMistake? (lists + 1) rest
      else if c == 'd' && t.length > 1 then some "the delimiter must be a single character"
      else cutMistake? lists rest

def cut : Utility := fun _ arguments =>
  withOptions cutOptions arguments fun g => do
    let list := g.options.find? fun (c, _) => c == 'b' || c == 'c' || c == 'f'
    match cutMistake? 0 g.options, list with
    | some message, _ => misuse cutOptions message.toList
    | none, none => misuse cutOptions "you must specify a list of bytes, characters, or fields".toList
    | none, some (letter, list) =>
        let isFields := letter == 'f'
        if !isFields && g.has 'd' then
          misuse cutOptions "an input delimiter may be specified only when operating on fields".toList
        else if !isFields && g.has 's' then
          misuse cutOptions
            "suppressing non-delimited lines makes sense\n\tonly when operating on fields".toList
        else match readSpans list with
          | .error mistake => misuse cutOptions (mistake.message isFields)
          | .ok spans =>
              let style : CutStyle :=
                { isFields := isFields, spans := if g.has 'C' then complement spans else spans,
                  delimiter := ((g.value? 'd').getD ['\t']).headD '\x00',
                  output := (g.value? 'o').map fun t => if t.isEmpty then ['\x00'] else t,
                  onlyDelimited := g.has 's',
                  lineEnd := if g.has 'z' then '\x00' else '\n' }
              printEach "cut" (cutText style) g.operands

end SwiftExistential.Utility

/-! ## Lines side by side

`paste` joins the lines of several files, or all lines of each file. The delimiters are used in
turn. -/

namespace SwiftExistential.Utility

open Process

/-- Puts the delimiters between texts, one after the other. -/
def joinInTurn (delimiters : List Text) : Nat → List Text → Text
  | _, [] => []
  | _, [t] => t
  | n, t :: rest =>
      t ++ (delimiters[n % delimiters.length]?).getD [] ++ joinInTurn delimiters (n + 1) rest

/-- Joins the first lines of all files, then the second ones, and so on. -/
def pasteRows (delimiters : List Text) : Nat → List (List Text) → List Text
  | 0, _ => []
  | fuel + 1, files =>
      if files.all List.isEmpty then []
      else
        joinInTurn delimiters 0 (files.map fun lines => lines.headD []) ::
          pasteRows delimiters fuel (files.map List.tail)

/-- The delimiters, of which some are written with a backslash. There are none behind a backslash
that hides nothing. -/
def readDelimiters : Text → Option (List Text)
  | [] => some []
  | ['\\'] => none
  | '\\' :: c :: rest =>
      let delimiter := match c with
        | '0' => []
        | 'b' => ['\x08']
        | 'f' => ['\x0c']
        | 'n' => ['\n']
        | 'r' => ['\r']
        | 't' => ['\t']
        | 'v' => ['\x0b']
        | c => [c]
      (readDelimiters rest).map (delimiter :: ·)
  | c :: rest => (readDelimiters rest).map ([c] :: ·)

/-- The lines that each file takes part with. Several that stand for the input share its lines. -/
def sharedLines (lineEnd : Char) (files : List (Text × Text)) : List (List Text) :=
  let shared := files.countP fun (path, _) => path == ['-']
  let input := splitRecords lineEnd [] [] ((files.lookup ['-']).getD [])
  files.zipIdx.map fun ((path, content), i) =>
    if path == ['-'] && shared > 1 then
      let turn := (files.take i).countP fun (p, _) => p == ['-']
      (input.zipIdx.filter fun (_, n) => n % shared = turn).map Prod.fst
    else splitRecords lineEnd [] [] content

/-- Reads files one by one up to the first that cannot be read, which is reported. -/
def readOrStop (name : String) : List Text → Job (Option (List (Text × Text)))
  | [] => return some []
  | path :: rest => do
      match ← Job.readSource path with
      | .ok content => return (← readOrStop name rest).map ((path, content) :: ·)
      | .error e =>
          Job.complain [name.toList, readable path, reason e]
          return none

def paste : Utility := fun _ arguments =>
  withOptions
    { name := "paste", letters := "d:sz",
      words := [("delimiters", 'd', .one), ("serial", 's', .none), ("zero-terminated", 'z', .none)] }
    arguments fun g => do
      let given := (g.value? 'd').getD ['\t']
      let lineEnd := if g.has 'z' then '\x00' else '\n'
      let paths := if g.operands.isEmpty then [['-']] else g.operands
      match readDelimiters given with
      | none =>
          complain "paste" ("delimiter list ends with an unescaped backslash: ".toList ++ given)
          return 1
      | some found =>
          let delimiters := if found.isEmpty then [[]] else found
          let put := fun (rows : List Text) => Job.put (rows.flatMap (· ++ [lineEnd]))
          if g.has 's' then
            printEach "paste"
              (fun content => joinInTurn delimiters 0 (splitRecords lineEnd [] [] content) ++ [lineEnd]) paths
          else
            match ← readOrStop "paste" paths with
            | none => return 1
            | some files =>
                let lines := sharedLines lineEnd files
                put (pasteRows delimiters ((lines.map List.length).foldl max 0) lines)
                return 0

end SwiftExistential.Utility

/-! ## Lines of a width

`fold` begins a new line where a line would become too wide, behind the last blank if there is one
and it is asked for. -/

namespace SwiftExistential.Utility

open Process

/-- How lines are folded. -/
structure FoldStyle where
  width : Nat
  countsOctets : Bool
  atBlanks : Bool

namespace FoldStyle

def column (s : FoldStyle) (n : Nat) (c : Char) : Nat :=
  if s.countsOctets then n + 1
  else match c with
    | '\x08' => n - 1
    | '\r' => 0
    | '\t' => n + (8 - n % 8)
    | _ => n + 1

def width' (s : FoldStyle) (t : Text) : Nat := t.foldl s.column 0

/-- Splits the octets of a line, the last one first, behind the last blank. -/
def splitAtBlank (line : Text) : Option (Text × Text) :=
  let after := line.takeWhile fun c => c != ' ' && c != '\t'
  match line.drop after.length with
  | [] => none
  | start => some (start, after)

/-- Adds an octet to a line, the last octet first, of which what does not fit is printed. The number
bounds how often a line is begun. Returns what is printed, and the new line with its column. -/
def add (s : FoldStyle) (c : Char) : Nat → Nat → Text → Text × Nat × Text
  | 0, column, line => ([], column, c :: line)
  | fuel + 1, column, line =>
      let next := s.column column c
      if next ≤ s.width then ([], next, c :: line)
      else match (if s.atBlanks then splitAtBlank line else none) with
        | some (start, after) =>
            let (printed, rest) := s.add c fuel (s.width' after.reverse) after
            (start.reverse ++ '\n' :: printed, rest)
        | none =>
            if line.isEmpty then ([], next, [c])
            else
              let (printed, rest) := s.add c fuel 0 []
              (line.reverse ++ '\n' :: printed, rest)

/-- Folds a text, behind the start of a line, the last octet first. The pieces are in reverse. -/
def foldFrom (s : FoldStyle) (pieces : List Text) (column : Nat) (line : Text) : Text → List Text
  | [] => line.reverse :: pieces
  | '\n' :: rest => s.foldFrom (('\n' :: line).reverse :: pieces) 0 [] rest
  | c :: rest =>
      let (printed, column, line) := s.add c (line.length + 2) column line
      s.foldFrom (if printed.isEmpty then pieces else printed :: pieces) column line rest

/-- **Folds the lines of a text.** -/
def fold (s : FoldStyle) (t : Text) : Text := (s.foldFrom [] 0 [] t).reverse.flatten

end FoldStyle

def foldOptions : Specification :=
  { name := "fold", letters := "bsw:",
    words := [("bytes", 'b', .none), ("spaces", 's', .none), ("width", 'w', .one)] }

/-- An argument in which a number stands for a width. -/
def withWidthLetter (argument : Text) : Text :=
  match argument with
  | '-' :: rest =>
      let flags := rest.takeWhile fun c => c == 'b' || c == 's'
      match rest.drop flags.length with
      | d :: digits => if d.isDigit then '-' :: flags ++ 'w' :: d :: digits else argument
      | [] => argument
  | argument => argument

def fold : Utility := fun _ arguments =>
  withOptions foldOptions (arguments.map withWidthLetter) fun g => do
    let width := (g.value? 'w').getD "80".toList
    let wrong := fun (why : String) => do
      complain "fold" ("invalid number of columns: ".toList ++ cited width ++ why.toList)
      return 1
    let found := Number.read 10 width
    if !found.isNumber || !found.rest.isEmpty || found.value < 0 then wrong ""
    else if found.isCut then wrong ": Value too large for defined data type"
    else if found.value = 0 then wrong ": Numerical result out of range"
    else
      let style : FoldStyle := ⟨found.value.toNat, g.has 'b', g.has 's'⟩
      printEach "fold" style.fold g.operands

end SwiftExistential.Utility

/-! ## Tabs and blanks

`expand` puts blanks in the place of tabs, and `unexpand` tabs in the place of blanks. Where tabs
lead is a number of columns, or a list of columns, behind which there may be a number again. -/

namespace SwiftExistential.Utility

open Process

/-- Where tabs lead. -/
structure TabStops where
  /-- The columns, if they are not all of one width. -/
  columns : List Nat
  /-- The width of all tabs. -/
  width : Option Nat
  /-- The width behind the columns: tabs lead to its multiples. -/
  multiple : Option Nat
  /-- The width behind the columns, counted from the last one. -/
  step : Option Nat

namespace TabStops

def next? (s : TabStops) (column : Nat) : Option Nat :=
  match s.width with
  | some n => some (column + (n - column % n))
  | none =>
      match s.columns.find? (column < ·), s.multiple, s.step with
      | some c, _, _ => some c
      | none, some n, _ => some (column + (n - column % n))
      | none, none, some n =>
          let last := s.columns.getLast?.getD 0
          some (column + (n - (column - last) % n))
      | none, none, none => none

end TabStops

/-- What is read of a list of tabs. -/
structure TabList where
  columns : List Nat
  multiple : Option Nat
  step : Option Nat

/-- How the next number of a list is meant. -/
inductive TabMeaning where
  | column | multiple | step
deriving DecidableEq, Repr

def TabList.put (l : TabList) (m : TabMeaning) (n : Nat) : Except Text TabList :=
  match m with
  | .column => .ok { l with columns := l.columns ++ [n] }
  | .multiple =>
      if l.multiple.any (· != 0) then .error "'/' specifier only allowed with the last value".toList
      else .ok { l with multiple := some n }
  | .step =>
      if l.step.any (· != 0) then .error "'+' specifier only allowed with the last value".toList
      else .ok { l with step := some n }

def TabList.putDigits (l : TabList) (m : TabMeaning) (digits : Text) : Except Text TabList :=
  if digits.isEmpty then .ok l
  else if Number.value 10 digits ≥ 18446744073709551616 then
    .error ("tab stop is too large ".toList ++ cited digits)
  else l.put m (Number.value 10 digits)

/-- Reads a list of tabs behind the digits of a number. -/
def TabList.readFrom (l : TabList) (m : TabMeaning) (digits : Text) : Text → Except Text TabList
  | [] => l.putDigits m digits
  | c :: rest =>
      if c == ',' || c == ' ' || c == '\t' then
        match l.putDigits m digits with
        | .ok l => l.readFrom m [] rest
        | .error e => .error e
      else if c == '/' || c == '+' then
        if !digits.isEmpty then
          .error (['\'', c] ++ "' specifier not at start of number: ".toList ++ cited (c :: rest))
        else l.readFrom (if c == '/' then .multiple else .step) digits rest
      else if c.isDigit then l.readFrom m (digits ++ [c]) rest
      else .error ("tab size contains invalid character(s): ".toList ++ cited (c :: rest))

def TabList.read (l : TabList) (t : Text) : Except Text TabList := l.readFrom .column [] t

def ascends : Nat → List Nat → Except Text Unit
  | _, [] => .ok ()
  | last, n :: rest =>
      if n = 0 then .error "tab size cannot be 0".toList
      else if n ≤ last then .error "tab sizes must be ascending".toList
      else ascends n rest

def TabList.stops (l : TabList) : Except Text TabStops := do
  ascends 0 l.columns
  let multiple := l.multiple.filter (· != 0)
  let step := l.step.filter (· != 0)
  if multiple.isSome && step.isSome then
    throw "'/' specifier is mutually exclusive with '+'".toList
  match l.columns, multiple, step with
  | [], _, _ => return ⟨[], some ((multiple <|> step).getD 8), none, none⟩
  | [n], none, none => return ⟨[], some n, none, none⟩
  | columns, _, _ => return ⟨columns, none, multiple, step⟩

def isBlankOctet (c : Char) : Bool := c == ' ' || c == '\t'

/-! ### From tabs to blanks -/

/-- Puts blanks in the place of tabs, from a column on. With `isInitial`, only at the start of a
line; the second flag says whether the place is still there. -/
def expandFrom (s : TabStops) (isInitial : Bool) : Bool → Nat → Text → Text
  | _, _, [] => []
  | _, _, '\n' :: rest => '\n' :: expandFrom s isInitial true 0 rest
  | false, column, c :: rest => c :: expandFrom s isInitial false column rest
  | true, column, c :: rest =>
      match c with
      | '\t' =>
          let next := (s.next? column).getD (column + 1)
          List.replicate (next - column) ' ' ++ expandFrom s isInitial true next rest
      | '\x08' => c :: expandFrom s isInitial (!isInitial) (column - 1) rest
      | c => c :: expandFrom s isInitial (!isInitial || isBlankOctet c) (column + 1) rest

/-! ### From blanks to tabs

Blanks wait until it is known whether they lead to a tab stop. A single blank before a stop stays,
unless more of them follow. -/

/-- The place in a line in which tabs are put. -/
structure Unexpanding where
  /-- Whether blanks are still changed. -/
  converts : Bool
  column : Nat
  /-- Whether the blanks that wait began right before a tab would lead there. -/
  isSingle : Bool
  /-- Whether the last octet was a blank. -/
  isBlank : Bool
  /-- The blanks that wait, the last one first. -/
  waiting : Text

def Unexpanding.start : Unexpanding := ⟨true, 0, false, true, []⟩

def Unexpanding.printed (u : Unexpanding) : Text :=
  let all := u.waiting.reverse
  if all.length > 1 && u.isSingle then '\t' :: all.drop 1 else all

/-- Puts tabs in the place of blanks. With `isInitial`, only at the start of a line. -/
def unexpandFrom (s : TabStops) (isInitial : Bool) (u : Unexpanding) : Text → Text
  | [] => u.printed
  | c :: rest =>
      if !u.converts then
        c :: unexpandFrom s isInitial (if c == '\n' then .start else u) rest
      else if isBlankOctet c then
        match s.next? u.column with
        | none =>
            let next : Unexpanding := { u with converts := false, waiting := [], isSingle := false }
            u.printed ++ c :: unexpandFrom s isInitial next rest
        | some stop =>
            if c == ' ' && !(u.isBlank && u.column + 1 == stop) then
              unexpandFrom s isInitial
                { u with
                  column := u.column + 1, isSingle := u.isSingle || u.column + 1 == stop, isBlank := true,
                  waiting := c :: u.waiting } rest
            else
              let kept := if u.isSingle then ['\t'] else []
              let next : Unexpanding := ⟨true, if c == ' ' then u.column + 1 else stop, false, true, []⟩
              kept ++ '\t' :: unexpandFrom s isInitial next rest
      else
        let column := if c == '\x08' then u.column - 1 else u.column + 1
        let next : Unexpanding := if c == '\n' then .start else ⟨!isInitial, column, false, false, []⟩
        u.printed ++ c :: unexpandFrom s isInitial next rest

/-! ### The programs -/

def readTabLists (l : TabList) : List Text → Except Text TabStops
  | [] => l.stops
  | t :: rest =>
      match l.read t with
      | .ok l => readTabLists l rest
      | .error e => .error e

def expandOptions : Specification :=
  { name := "expand", letters := "it:", words := [("initial", 'i', .none), ("tabs", 't', .one)] }

/-- An argument in which a number stands for a list of tabs. -/
def withTabLetter (argument : Text) : Text :=
  match argument with
  | '-' :: rest =>
      let flags := rest.takeWhile (· == 'i')
      match rest.drop flags.length with
      | d :: digits => if d.isDigit then '-' :: flags ++ 't' :: d :: digits else argument
      | [] => argument
  | argument => argument

def expand : Utility := fun _ arguments =>
  withOptions expandOptions (arguments.map withTabLetter) fun g => do
    match readTabLists ⟨[], none, none⟩ (g.values 't') with
    | .error message =>
        complain "expand" message
        return 1
    | .ok stops =>
        printJoined "expand" (expandFrom stops (g.has 'i') true 0) g.operands

def unexpandOptions : Specification :=
  { name := "unexpand", letters := "at:,0123456789",
    words := [("all", 'a', .none), ("first-only", 'F', .none), ("tabs", 't', .one)] }

/-- The list of tabs that letters stand for: digits and commas. -/
def tabDigits (options : List (Char × Text)) : Text :=
  (options.map Prod.fst).filter fun c => c.isDigit || c == ','

def unexpand : Utility := fun _ arguments =>
  withOptions unexpandOptions arguments fun g => do
    match readTabLists ⟨[], none, none⟩ (g.values 't' ++ [tabDigits g.options]) with
    | .error message =>
        complain "unexpand" message
        return 1
    | .ok stops =>
        let isInitial := g.has 'F' || !(g.has 'a' || g.has 't')
        printJoined "unexpand" (unexpandFrom stops isInitial .start) g.operands

end SwiftExistential.Utility
