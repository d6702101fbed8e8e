import SwiftExistential.Expression.OrderedReader
import SwiftExistential.Expression.Reader
import SwiftExistential.Utility.Paths

/-!
# Searching lines

`grep` looks for lines in which an expression fits. It shows those lines, or the parts that fit, or
counts, or the names of the files; lines around those that were chosen can be shown as well.

It is known under several names, which differ in the way expressions are written. What is sought is
read first and is then a value that lines are asked with: the longest fit of several expressions, or
the first fit of an ordered one.
-/

set_option autoImplicit false

namespace SwiftExistential.Utility

open Process Expression

/-! ## What is sought

Where a fit has to be a whole word or a whole line, the expression is changed to say so. -/

/-- What is sought in a line. -/
inductive Sought where
  /-- The longest fit of one of the expressions. -/
  | longest (expressions : List Expression) (manner : Manner)
  /-- The first way of an expression. -/
  | ordered (e : Ordered)

namespace Sought

/-- The fit that starts first, behind what stands before the text: the number of characters that are
skipped, and the text that fits. -/
def find? (before t : Text) : Sought → Option (Nat × Text)
  | ordered e => (e.find? before t).map fun f => (f.skipped.length, f.taken)
  | longest expressions manner =>
      expressions.foldl
        (fun best e =>
          match best, Expression.find? manner e before.head? t with
          | none, found => found.map fun f => (f.skipped.length, f.taken)
          | best, none => best
          | some (skipped, taken), some f =>
              if f.skipped.length < skipped || (f.skipped.length = skipped && taken.length < f.taken.length)
              then some (f.skipped.length, f.taken) else some (skipped, taken))
        none

/-- All texts in a line that fit, each with its offset, with so many steps at most. -/
def allFrom (s : Sought) : Nat → Nat → Text → Text → List (Nat × Text)
  | 0, _, _, _ => []
  | fuel + 1, offset, before, t =>
      match s.find? before t with
      | none => []
      | some (skipped, taken) =>
          let size := skipped + max taken.length 1
          let others := allFrom s fuel (offset + size) ((t.take size).reverse ++ before) (t.drop size)
          if t.length < size then [] else if taken.isEmpty then others else (offset + skipped, taken) :: others

/-- All texts in a line that fit, each with its offset. -/
def all (s : Sought) (line : Text) : List (Nat × Text) := s.allFrom (line.length + 1) 0 [] line

end Sought

/-- Where a fit has to end and begin. -/
inductive Frame where
  | none
  | words
  | lines
deriving DecidableEq, Repr

def Frame.around (f : Frame) (e : Expression) : Expression :=
  match f with
  | .none => e
  | .words => .sequence (.edge .noWordBefore) (.sequence e (.edge .noWordAfter))
  | .lines => .sequence (.edge .lineStart) (.sequence e (.edge .lineEnd))

def Frame.readOrdered (f : Frame) (ignoresCase : Bool) (t : Text) : Except Ordered.Fault Ordered :=
  let text := if f = .words then "(?<!\\w)(?:".toList ++ t ++ ")(?!\\w)".toList else t
  (Ordered.read ignoresCase text).map fun e =>
    if f = .lines then .sequence (.edge .textStart) (.sequence e (.edge .textEnd)) else e

/-! ## What is shown

Lines are judged in order, and the judged lines are shown. Of files that look like no texts only is
said that they fit. -/

/-- How `grep` searches and what it shows. -/
structure GrepStyle where
  sought : Sought
  given : Given
  showsNames : Bool
  isColored : Bool
  /-- The most lines that are chosen. -/
  limit : Option Nat
  before : Nat
  after : Nat
  /-- What stands between groups of lines that do not follow each other. -/
  separator : Option Text

namespace GrepStyle

/-- Whether lines that do not fit are chosen. -/
def isInverted (s : GrepStyle) : Bool := s.given.has 'v'

def lineEnd (s : GrepStyle) : Char := if s.given.has 'z' then '\x00' else '\n'

def colored (s : GrepStyle) (color : String) (t : Text) : Text :=
  if s.isColored && !t.isEmpty then
    "\x1b[".toList ++ color.toList ++ "m\x1b[K".toList ++ t ++ "\x1b[m\x1b[K".toList
  else t

/-- A mark between parts of a line. -/
def mark (s : GrepStyle) (c : Char) : Text := s.colored "36" [c]

/-- The name of a file before a mark. -/
def name (s : GrepStyle) (label : Text) (c : Char) : Text :=
  if !s.showsNames then []
  else s.colored "35" label ++ if s.given.has 'Z' then ['\x00'] else s.mark c

/-- What stands before the text of a line: the name, the number and the offset. -/
def head (s : GrepStyle) (label : Text) (width number offset : Nat) (c : Char) : Text :=
  let g := s.given
  let shown := fun (n : Nat) => s.colored "32" (padLeft (if g.has 'T' then width else 0) (shownNat n)) ++ s.mark c
  let before := s.name label c ++ (if g.has 'n' then shown number else []) ++
    if g.has 'b' then shown offset else []
  if g.has 'T' && !before.isEmpty then before ++ ['\t'] else before

/-- The text of a line with the parts that fit in a colour. -/
def painted (s : GrepStyle) (line : Text) : Text :=
  let (out, last) := (s.sought.all line).foldl
    (fun ((out, last) : List Text × Nat) (offset, t) =>
      (s.colored "01;31" t :: (line.drop last).take (offset - last) :: out, offset + t.length))
    ([], 0)
  out.reverse.flatten ++ line.drop last

end GrepStyle

/-- A line with what is known of it. -/
structure Judged where
  number : Nat
  offset : Nat
  line : Text
  isChosen : Bool

/-- Judges lines. When the limit is reached, no more are chosen. -/
def judge (s : GrepStyle) : Nat → Nat → Option Nat → List Text → List Judged
  | _, _, _, [] => []
  | number, offset, limit, line :: rest =>
      let isChosen := limit != some 0 && ((s.sought.find? [] line).isSome != s.isInverted)
      let limit := if isChosen then limit.map (· - 1) else limit
      ⟨number, offset, line, isChosen⟩ :: judge s (number + 1) (offset + line.length + 1) limit rest

/-- The lines that are shown: those that are chosen, and those around them. The first number says
how many lines before have been held back, the second how many more are shown. -/
def withContext (before after : Nat) : List Judged → Nat → List Judged → List Judged
  | _, _, [] => []
  | held, more, j :: rest =>
      if j.isChosen then held.reverse ++ j :: withContext before after [] after rest
      else if more > 0 then j :: withContext before after [] (more - 1) rest
      else withContext before after ((j :: held).take before) 0 rest

/-- What is shown of lines in order, and what stands between those that do not follow each other. -/
def showJudged (s : GrepStyle) (label : Text) (width : Nat) : Option Nat → List Judged → List Text
  | _, [] => []
  | previous, j :: rest =>
      let gap := match previous, s.separator with
        | some n, some text =>
            if n + 1 < j.number then s.colored "36" text ++ ['\n'] else []
        | _, _ => []
      let c := if j.isChosen then ':' else '-'
      let fits := j.isChosen != s.isInverted
      let line := fun (offset : Nat) (t : Text) => s.head label width j.number offset c ++ t ++ [s.lineEnd]
      let shown :=
        if s.given.has 'o' then
          if j.isChosen && fits then
            (s.sought.all j.line).flatMap fun (offset, t) => line (j.offset + offset) (s.colored "01;31" t)
          else []
        else line j.offset (if s.isColored && fits then s.painted j.line else j.line)
      (gap ++ shown) :: showJudged s label width (some j.number) rest

def looksBinary (g : Given) (content : Text) : Bool :=
  let isText := g.has 'a' || g.value? 'Y' = some "text".toList
  !isText && content.contains (if g.has 'z' then '\x80' else '\x00')

/-- Whether files that look as if they were no texts have no fits. -/
def passesBinary (g : Given) : Bool := g.has 'I' || g.value? 'Y' = some "without-match".toList

/-- Searches the text of a file. Returns how many lines were chosen, and the output. -/
def grepText (s : GrepStyle) (label content : Text) : Nat × Text :=
  let g := s.given
  let isBinary := looksBinary g content
  let lines := splitRecords s.lineEnd [] [] content
  let judged := if isBinary && passesBinary g then [] else judge s 1 0 s.limit lines
  let count := (judged.filter Judged.isChosen).length
  let named := s.colored "35" label ++ if g.has 'Z' then ['\x00'] else ['\n']
  if g.has 'q' then (count, [])
  else if g.has 'l' || g.has 'L' then
    let last := (g.last? "lL").getD 'l'
    (count, if (count > 0) = (last == 'l') then named else [])
  else if g.has 'c' then (count, s.name label ':' ++ shownNat count ++ ['\n'])
  else if isBinary then (count, [])
  else
    let width := (shownNat (content.length + if g.has 'n' then 1 else 0)).length
    (count, (showJudged s label width none (withContext s.before s.after [] 0 judged)).flatten)

/-! ## Files

Directories are searched with what is below them if that is asked for. Rules for names say which
files are left out. -/

/-- A rule for the names of files: whether those that fit are searched, and the pattern. -/
structure NameRule where
  takes : Bool
  pattern : Text

/-- Whether rules leave out a name, and whether any part of a path may fit. The last rule that fits
says so; if none fits, it is the opposite of the first. -/
def leavesOut (isAnywhere : Bool) (rules : List NameRule) (name : Text) : Bool :=
  let ends := fun (t : Text) =>
    t :: if isAnywhere then (List.range t.length).filterMap fun i =>
      if t[i]? = some '/' && (t[i + 1]?).any (· != '/') then some (t.drop (i + 1)) else none
    else []
  match rules.reverse.find? fun r => (ends name).any (fitsPattern r.pattern) with
  | some r => !r.takes
  | none => (rules.head?).any NameRule.takes

/-- Which files are searched. -/
structure FileRules where
  files : List NameRule
  directories : List NameRule
  followsLinks : Bool

def filesBelow (tree : FileTree) (rules : FileRules) : Nat → Bool → Text → List Text
  | 0, _, _ => []
  | fuel + 1, isNamed, path =>
      match tree.locate (isNamed || rules.followsLinks) (Octets.toText path) with
      | .ok ⟨location, some .directory⟩ =>
          let isLeftOut := if isNamed then leavesOut true rules.directories (trimSlashes path)
            else leavesOut false rules.directories (lastName path)
          if isLeftOut then []
          else (tree.names location).flatMap fun name =>
            filesBelow tree rules fuel false
              (if path.getLast? = some '/' then path ++ Octets.ofText name
              else path ++ '/' :: Octets.ofText name)
      | .ok ⟨_, some (.link _)⟩ => []
      | .ok ⟨_, some _⟩ => if leavesOut isNamed rules.files (if isNamed then path else lastName path) then []
          else [path]
      | _ => if isNamed then [path] else []

def writesTo (path : Text) : Job Bool := do
  let m ← get
  match (← read).channel? 1 with
  | none => return false
  | some index =>
      match m.channels[index]? with
      | some (.file location _ _) =>
          let tree ← Job.tree
          return match tree.find (Octets.toText path) with
            | .ok (source, _) => (tree.namesOf location).contains source
            | .error _ => false
      | _ => return false

/-- Searches files. Returns whether a line was chosen, and whether something failed. -/
def grepFiles (s : GrepStyle) : List Text → Job (Bool × Bool)
  | [] => return (false, false)
  | path :: rest => do
      let g := s.given
      let label := if path = ['-'] then (g.value? 'J').getD "(standard input)".toList else path
      let showsLines := !(["q", "c", "l", "L"].any fun (letter : String) => g.has letter.front)
      let failed := fun (message shown : Text) => do
        if !g.has 's' then Job.complain ["grep".toList, label, message]
        Job.put shown
        let (found, _) ← grepFiles s rest
        pure (found, true)
      if showsLines && path != ['-'] && (← writesTo path) then
        failed "input file is also the output".toList []
      else match ← Job.readSource path with
        | .error .isDirectory =>
            if g.value? 'd' = some "skip".toList then grepFiles s rest
            else failed (reason .isDirectory) (grepText s label []).2
        | .error e => failed (reason e) []
        | .ok content =>
            let (count, output) := grepText s label content
            Job.put output
            if count > 0 && showsLines && looksBinary g content then
              Job.complain ["grep".toList, label, "binary file matches".toList]
            if count > 0 && g.has 'q' then return (true, false)
            else
              let (found, hasFailed) ← grepFiles s rest
              return (count > 0 || found, hasFailed)

/-! ## The program

The status tells whether a line was chosen, unless something failed. -/

def grepOptions : Specification :=
  { name := "grep", letters := "0123456789A:B:C:D:EFGHILPTUVX:abcd:e:f:hiLlm:noqRrsuvwxyZz", mistake := 2,
    words := [("after-context", 'A', .one), ("basic-regexp", 'G', .none), ("before-context", 'B', .one),
      ("binary", 'U', .none), ("binary-files", 'Y', .one), ("byte-offset", 'b', .none),
      ("color", 'K', .optional), ("colour", 'K', .optional), ("context", 'C', .one), ("count", 'c', .none),
      ("dereference-recursive", 'R', .none), ("devices", 'D', .one), ("directories", 'd', .one),
      ("exclude", '<', .one), ("exclude-dir", '/', .one), ("exclude-from", 'Q', .one),
      ("extended-regexp", 'E', .none), ("file", 'f', .one), ("files-with-matches", 'l', .none),
      ("files-without-match", 'L', .none), ("fixed-regexp", 'F', .none), ("fixed-strings", 'F', .none),
      ("group-separator", 'S', .one), ("ignore-case", 'i', .none), ("include", '>', .one),
      ("initial-tab", 'T', .none), ("invert-match", 'v', .none), ("label", 'J', .one),
      ("line-buffered", 'N', .none), ("line-number", 'n', .none), ("line-regexp", 'x', .none),
      ("max-count", 'm', .one), ("no-filename", 'h', .none), ("no-group-separator", 'M', .none),
      ("no-ignore-case", 'O', .none), ("no-messages", 's', .none), ("null", 'Z', .none),
      ("null-data", 'z', .none), ("only-matching", 'o', .none), ("perl-regexp", 'P', .none),
      ("quiet", 'q', .none), ("recursive", 'r', .none), ("regexp", 'e', .one), ("silent", 'q', .none),
      ("text", 'a', .none), ("unix-byte-offsets", 'u', .none), ("version", 'V', .none),
      ("with-filename", 'H', .none), ("word-regexp", 'w', .none)] }

def grepUsage : Job Nat := do
  Job.write 2 ("Usage: grep [OPTION]... PATTERNS [FILE]...\n" ++
    "Try 'grep --help' for more information.\n").toList
  return 2

/-- The letter of the way that a name stands for in which expressions are written. -/
def matcherOf? (name : Text) : Option Char :=
  match String.ofList name with
  | "grep" => some 'G'
  | "egrep" | "posixegrep" => some 'E'
  | "awk" | "gawk" | "posixawk" => some 'E'
  | "fgrep" => some 'F'
  | "perl" => some 'P'
  | _ => none

/-- Reports the first option with a wrong value. Returns the status that it leads to. -/
def rejectsOptions : Option Char → List (Char × Text) → Job (Option Nat)
  | _, [] => return none
  | matcher, (letter, value) :: rest => do
      let fail := fun (message : Text) => do
        complain "grep" message
        pure (some 2)
      let isNumber := !value.isEmpty && value.all Char.isDigit
      let chosen := if "EFGP".toList.contains letter then some letter
        else if letter == 'X' then matcherOf? value else none
      if letter == 'X' && chosen.isNone then fail ("invalid matcher ".toList ++ value)
      else if chosen.isSome && matcher.isSome && matcher != chosen then fail "conflicting matchers specified".toList
      else if "ABC".toList.contains letter && !isNumber then
        fail (value ++ ": invalid context length argument".toList)
      else if letter == 'm' && (Number.whole? 10 value).isNone && !isNumber then fail "invalid max count".toList
      else if letter == 'Y' && !(["binary", "text", "without-match"].contains (String.ofList value)) then
        fail "unknown binary-files type".toList
      else if letter == 'D' && !(["read", "skip"].contains (String.ofList value)) then
        fail "unknown devices method".toList
      else if letter == 'd' && !(["read", "recurse", "skip"].contains (String.ofList value)) then do
        complain "grep" ("invalid argument ".toList ++ cited value ++ " for '--directories'".toList)
        Job.write 2 "Valid arguments are:\n  - 'read'\n  - 'recurse'\n  - 'skip'\n".toList
        discard grepUsage
        pure (some 1)
      else do
        if letter == 'u' then complain "grep" "warning: --unix-byte-offsets (-u) is obsolete".toList
        rejectsOptions (chosen <|> matcher) rest

/-- The texts of files with patterns, in order with the patterns that are given. -/
def grepPatterns : List (Char × Text) → Job (Except Unit (List Text))
  | [] => return .ok []
  | ('e', t) :: rest => do return (← grepPatterns rest).map (Text.lines t ++ ·)
  | ('f', path) :: rest => do
      match ← Job.readSource path with
      | .error e =>
          Job.complain ["grep".toList, path, reason e]
          return .error ()
      | .ok content => return (← grepPatterns rest).map (records content ++ ·)
  | _ :: rest => grepPatterns rest

def nameRules (isDirectory : Bool) : List (Char × Text) → Job (Except Unit (List NameRule))
  | [] => return .ok []
  | (letter, value) :: rest => do
      let others ← nameRules isDirectory rest
      let add := fun (rules : List NameRule) => (pure (others.map (rules ++ ·)) : Job (Except Unit (List NameRule)))
      if isDirectory then
        if letter == '/' then add [⟨false, trimSlashes value⟩] else return others
      else match letter with
        | '<' => add [⟨false, value⟩]
        | '>' => add [⟨true, value⟩]
        | 'Q' =>
            match ← Job.readSource value with
            | .error e =>
                Job.complain ["grep".toList, value, reason e]
                return .error ()
            | .ok content => add ((records content).map fun t => ⟨false, t⟩)
        | _ => return others

def soughtBy (g : Given) (matcher : Char) (patterns : List Text) : Except Text (Sought × List String) := do
  let ignoresCase := (g.last? "iyO").any (· != 'O')
  let frame : Frame := if g.has 'x' then .lines else if g.has 'w' then .words else .none
  let manner : Manner := ⟨ignoresCase, g.has 'z'⟩
  match matcher with
  | 'P' =>
      match patterns with
      | [pattern] =>
          match frame.readOrdered ignoresCase pattern with
          | .ok e => return (.ordered e, [])
          | .error fault => throw fault.message.toList
      | _ => throw "the -P option only supports a single pattern".toList
  | 'F' => return (.longest (patterns.map fun t => frame.around (literal t)) manner, [])
  | matcher =>
      let dialect := if matcher == 'E' then { Dialect.lenient with repeatsEdges := true }
        else { Dialect.strictBasic with refusesDoubled := false }
      let read := fun (t : Text) =>
        match readWithWarnings { dialect with refusesLoneClass := true } t with
        | .ok found => Except.ok found
        | .error mistake => .error mistake.message.toList
      let found : List (Expression × List String) ← patterns.mapM read
      return (.longest (found.map fun (e, _) => frame.around e) manner, found.flatMap Prod.snd)

/-- Reads what is left: the patterns, the files and the rules. -/
def grepWith (usual : Char) (g : Given) : Job Nat := do
  if let some status ← rejectsOptions none g.options then return status
  let hasPatterns := g.has 'e' || g.has 'f'
  match ← grepPatterns g.options, ← nameRules false g.options, ← nameRules true g.options with
  | .ok given, .ok files, .ok directories =>
      match hasPatterns, g.operands with
      | false, [] => grepUsage
      | _, operands =>
          let patterns := if hasPatterns then given else Text.lines (operands.headD [])
          let named := if hasPatterns then operands else operands.drop 1
          let number := fun (letter : Char) => (g.value? letter).map (Number.value 10)
          let limit := match g.value? 'm' with
            | none => none
            | some t =>
                match Number.whole? 10 t with
                | some n => if n < 0 then none else some n.toNat
                | none => none
          let matcher := ((g.options.filterMap fun (letter, value) =>
            if "EFGP".toList.contains letter then some letter
            else if letter == 'X' then matcherOf? value else none).getLast?).getD usual
          match soughtBy g matcher patterns with
          | .error message =>
              complain "grep" message
              return 2
          | .ok (sought, warnings) =>
              warnings.forM fun shown =>
                complain "grep" ("warning: ".toList ++ shown.toList ++ " at start of expression".toList)
              if limit = some 0 then return 1
              let isRecursive := g.has 'r' || g.has 'R' || g.value? 'd' = some "recurse".toList
              let tree ← Job.tree
              let rules : FileRules := ⟨files, directories, g.has 'R'⟩
              let paths := if named.isEmpty && !isRecursive then [['-']]
                else if named.isEmpty then
                  ((tree.names tree.current).map Octets.ofText).flatMap (filesBelow tree rules 64 false)
                else named.flatMap fun path =>
                  if path = ['-'] then [path]
                  else if isRecursive || !tree.isDirectory (Octets.toText path) then
                    filesBelow tree rules 64 true path
                  else [path]
              let digits := (g.options.filterMap fun (letter, _) => if letter.isDigit then some letter else none)
              let usualContext := match (g.options.reverse.find? fun (letter, _) =>
                  letter == 'C' || letter.isDigit) with
                | some ('C', _) => number 'C'
                | some _ => some (Number.value 10 digits)
                | none => none
              let context := fun (letter : Char) => ((number letter) <|> usualContext).getD 0
              let hasContext := ['A', 'B'].any g.has || usualContext.isSome
              let style : GrepStyle :=
                { sought := sought, given := g,
                  showsNames := match g.last? "Hh" with
                    | some letter => letter == 'H'
                    | none => named.length > 1 || (isRecursive && (named.isEmpty ||
                        named.any fun path => tree.isDirectory (Octets.toText path))),
                  isColored := g.value? 'K' = some "always".toList,
                  limit := limit, before := context 'B', after := context 'A',
                  separator := if g.has 'M' || !hasContext then none else some ((g.value? 'S').getD "--".toList) }
              let (found, failed) ← grepFiles style paths
              return if failed && !(found && g.has 'q') then 2 else if found then 0 else 1
  | _, _, _ => return 2

/-- Searches as some name of `grep` does. -/
def grepAs (usual : Char) : Utility := fun _ arguments =>
  match readFrom grepOptions (arguments.length + 1) arguments with
  | .error mistake => do
      complain "grep" mistake.message
      grepUsage
  | .ok g => grepWith usual g

end SwiftExistential.Utility
