import SwiftExistential.Expression.Reader
import SwiftExistential.Text.Octets
import SwiftExistential.Utility.Version

/-!
# Scripts of the stream editor

A script is a row of commands, each with the lines that it is for. Commands in braces stand in the
row as well, between a mark that knows where the braces end and that end.

A script may be given in several parts, as arguments or in files. It is read as one text, and a
mistake is reported with its place in the part where it stands. Labels and braces are settled when
all commands are read.
-/

set_option autoImplicit false

namespace SwiftExistential.Utility.Stream

/-- An expression with the way it is searched, or the one that was used last. -/
abbrev Wanted := Option (Expression × Expression.Manner)

/-- A line that a command is for. -/
inductive Address where
  | line (n : Nat)
  | last
  /-- Each so many lines, from a line on. -/
  | every (first step : Nat)
  | fits (wanted : Wanted)

/-- The end of a range of lines. -/
inductive RangeEnd where
  | address (a : Address)
  /-- So many lines later. -/
  | later (n : Nat)
  /-- The next multiple. -/
  | multiple (n : Nat)

/-- The lines that a command is for. -/
inductive Selection where
  | all
  | one (a : Address)
  | range (first : Address) (last : RangeEnd)

/-- What letters that follow are changed to. -/
inductive Case where
  | upper
  | lower
  | asIs
deriving DecidableEq, Repr

/-- A piece of a replacement. -/
inductive Piece where
  | text (t : Text)
  | group (n : Nat)
  | case (c : Case)
  /-- For the next letter only. -/
  | nextCase (c : Case)

/-- How a replacement is made. -/
structure Substitution where
  wanted : Wanted
  pieces : List Piece
  isGlobal : Bool
  /-- The number of the first fit that is replaced. -/
  number : Nat
  /-- Whether the text is run as a command. -/
  runs : Bool
  prints : Bool
  /-- Whether the text is printed before it is run. -/
  printsCommand : Bool
  file : Option Text

/-- What a command does. -/
inductive Action where
  | open' (stop : Nat)
  | close
  | substitute (s : Substitution)
  | transliterate (table : List (Char × Char))
  | append (t : Text)
  | insert (t : Text)
  | change (t : Text)
  | label (name : Text)
  | branch (label : Text)
  | branchIf (label : Text)
  | branchUnless (label : Text)
  | readFile (path : Text)
  | readLine (path : Text)
  | run (command : Text)
  /-- Shows the text in lines of a width, or of the usual one. -/
  | list (width : Option Nat)
  | writeFile (path : Text)
  | writeFirst (path : Text)
  | quit (status : Nat)
  | quitSilently (status : Nat)
  /-- One of the commands that are only a letter. -/
  | letter (c : Char)

structure Command where
  selection : Selection
  isNegated : Bool
  action : Action

/-- A part of a script: what was given at once. -/
structure Part where
  /-- The file that holds it, unless it was an argument. -/
  file : Option Text
  text : Text

/-- What is left of a script. -/
structure Source where
  rest : Text
  length : Nat
  parts : List Part
  isExtended : Bool
  /-- Whether files and commands are out of reach. -/
  isConfined : Bool
  /-- How many braces are open. -/
  depth : Nat

/-- Where so many characters of parts end, where the number of arguments before is known. -/
def placeText : Nat → Nat → List Part → Text
  | _, _, [] => []
  | count, n, part :: rest =>
      if n ≤ part.text.length + 1 || rest.isEmpty then
        match part.file with
        | some path =>
            let line := ((part.text.take n).filter (· == '\n')).length + 1
            "file ".toList ++ path ++ " line ".toList ++ (toString line).toList ++ ": ".toList
        | none =>
            "-e expression #".toList ++ (toString (count + 1)).toList ++ ", char ".toList ++
              (toString (min n part.text.length)).toList ++ ": ".toList
      else placeText (if part.file.isNone then count + 1 else count) (n - part.text.length - 1) rest

/-- Why a script cannot be used. -/
inductive Refusal where
  | malformed (message : Text)
  | noLabel (name : Text)
  /-- The name of a class stands outside brackets. -/
  | loneClass

def Refusal.message : Refusal → Text
  | malformed message => message
  | noLabel name => "can't find label for jump to \x60".toList ++ name ++ ['\'']
  | loneClass => Expression.Mistake.loneClass.message.toList

def Refusal.status : Refusal → Nat
  | malformed _ => 1
  | _ => 4

/-- A reader. Mistakes come with the number of characters that were read. -/
abbrev Reader := StateT Source (Except Refusal)

namespace Reader

def rest : Reader Text := do return (← get).rest

def setRest (t : Text) : Reader Unit := modify fun s => { s with rest := t }

def fail {α : Type} (message : String) : Reader α := do
  let s ← get
  throw (.malformed (placeText 0 (s.length - s.rest.length) s.parts ++ message.toList))

def isBlank (c : Char) : Bool := c == ' ' || c == '\t' || c == '\r' || c == '\x0b' || c == '\x0c'

def skipBlanks : Reader Unit := do setRest ((← rest).dropWhile isBlank)

def number : Reader Nat := do
  let digits := (← rest).takeWhile (Number.isDigit 10)
  setRest ((← rest).drop digits.length)
  return Number.value 10 digits

/-- The number of characters that belong to brackets, behind the opening one. There are none if the
brackets are not closed. -/
def bracketLength (t : Text) : Option Nat :=
  let negation := if t.head? == some '^' then 1 else 0
  let first := if (t.drop negation).head? == some ']' then 1 else 0
  let start := negation + first
  (go (t.length + 1) (t.drop start)).map (start + ·)
where
  /-- Goes on behind the start, with so many steps at most. -/
  go : Nat → Text → Option Nat
    | 0, _ => none
    | _, [] => none
    | fuel + 1, '[' :: ':' :: rest =>
        match Text.splitAtPart? [':', ']'] rest with
        | some (name, after) => (go fuel after).map (name.length + 4 + ·)
        | none => (go fuel rest).map (2 + ·)
    | fuel + 1, c :: rest => if c == ']' then some 1 else (go fuel rest).map (1 + ·)

/-- The text up to a delimiter, and the text behind it, with so many steps at most. In an expression
a backslash before the delimiter is taken away, one before an `n` makes a line end, and brackets may
hold the delimiter. -/
def splitFrom (delimiter : Char) (isExpression : Bool) : Nat → Text → Option (Text × Text)
  | 0, _ => none
  | _, [] => none
  | fuel + 1, '\\' :: c :: rest =>
      let piece := if c == delimiter && !(c == '&' && !isExpression) then [c]
        else if c == 'n' && isExpression then ['\n']
        else if c == '\n' && isExpression then ['\n']
        else ['\\', c]
      (splitFrom delimiter isExpression fuel rest).map fun (a, b) => (piece ++ a, b)
  | fuel + 1, c :: rest =>
      if c == delimiter then some ([], rest)
      else if c == '\n' then none
      else if c == '[' && isExpression then
        match bracketLength rest with
        | none => none
        | some n =>
            (splitFrom delimiter isExpression fuel (rest.drop n)).map fun (a, b) =>
              (c :: rest.take n ++ a, b)
      else (splitFrom delimiter isExpression fuel rest).map fun (a, b) => (c :: a, b)

/-- A text without the characters up to the end of its line. -/
def behindLine : Text → Text
  | '\\' :: _ :: rest => behindLine rest
  | '\n' :: rest => '\n' :: rest
  | _ :: rest => behindLine rest
  | [] => []

/-- The text up to a delimiter, and the text behind it. -/
def splitAtDelimiter (delimiter : Char) (isExpression : Bool) (t : Text) : Option (Text × Text) :=
  splitFrom delimiter isExpression (t.length + 1) t

/-- The octets that letters behind a backslash stand for. -/
def control? : Char → Option Char
  | 'n' => some '\n'
  | 't' => some '\t'
  | 'f' => some '\x0c'
  | 'v' => some '\x0b'
  | 'a' => some '\x07'
  | 'r' => some '\r'
  | _ => none

/-- The octet that digits stand for, and the text behind them. -/
def octetOf? (base most : Nat) (t : Text) : Option (Char × Text) :=
  let digits := (t.take most).takeWhile (Number.isDigit base)
  if digits.isEmpty then none else some (Char.ofNat (Number.value base digits % 256), t.drop digits.length)

/-- The octet that a text behind a backslash stands for, and the text behind it. -/
def escape? : Text → Option (Char × Text)
  | 'x' :: rest => octetOf? 16 2 rest
  | 'o' :: rest => octetOf? 8 3 rest
  | 'd' :: rest => octetOf? 10 3 rest
  | 'c' :: c :: rest => some (Char.ofNat (c.toUpper.toNat ^^^ 64), rest)
  | c :: rest => (control? c).map (·, rest)
  | [] => none

/-- Puts octets in place of their escapes in an expression, in so many steps at most. -/
def withControls : Nat → Text → Text
  | 0, t => t
  | _, [] => []
  | fuel + 1, '\\' :: rest =>
      match escape? rest, rest with
      | some ('\\', behind), _ => '\\' :: '\\' :: withControls fuel behind
      | some (c, behind), _ => c :: withControls fuel behind
      | none, c :: behind => '\\' :: c :: withControls fuel behind
      | none, [] => ['\\']
  | fuel + 1, c :: rest => c :: withControls fuel rest

def dialect (isExtended : Bool) : Expression.Dialect :=
  let d := if isExtended then Expression.Dialect.extended else Expression.Dialect.strictBasic
  { d with refusesLoneClass := true }

/-- Reads an expression. An empty one stands for the last that was used. -/
def wanted (t : Text) (ignoresCase isMultiline : Bool) : Reader Wanted := do
  if t.isEmpty then return none
  else match Expression.read (dialect (← get).isExtended) (withControls (t.length + 1) t) with
    | .ok e => return some (e, ⟨ignoresCase, isMultiline⟩)
    | .error .loneClass => throw .loneClass
    | .error mistake => fail mistake.message

/-! ## Addresses -/

/-- Reads the letters behind an expression of an address. -/
def addressFlags : Nat → Bool → Bool → Reader (Bool × Bool)
  | 0, i, m => return (i, m)
  | fuel + 1, i, m => do
      match ← rest with
      | 'I' :: after =>
          setRest after
          addressFlags fuel true m
      | 'M' :: after =>
          setRest after
          addressFlags fuel i true
      | _ => return (i, m)

/-- Reads the expression of an address behind its first delimiter. -/
def expressionAddress (delimiter : Char) : Reader Address := do
  match splitAtDelimiter delimiter true (← rest) with
  | none =>
      setRest (behindLine (← rest))
      fail "unterminated address regex"
  | some (t, after) =>
      setRest after
      let (ignoresCase, isMultiline) ← addressFlags 8 false false
      return .fits (← wanted t ignoresCase isMultiline)

def address? : Reader (Option Address) := do
  match ← rest with
  | '$' :: after =>
      setRest after
      return some .last
  | '/' :: after =>
      setRest after
      return some (← expressionAddress '/')
  | '\\' :: delimiter :: after =>
      setRest after
      return some (← expressionAddress delimiter)
  | c :: _ =>
      if Number.isDigit 10 c then
        let first ← number
        let behind ← rest
        skipBlanks
        match ← rest with
        | '~' :: after =>
            setRest (after.dropWhile isBlank)
            let step ← number
            return some (if step = 0 then .line first else .every first step)
        | _ =>
            setRest behind
            return some (.line first)
      else return none
  | [] => return none

/-- Reads the end of a range behind the comma. -/
def rangeEnd : Reader RangeEnd := do
  skipBlanks
  match ← rest with
  | '+' :: after =>
      setRest after
      return .later (← number)
  | '~' :: after =>
      setRest after
      return .multiple (← number)
  | _ =>
      match ← address? with
      | some a => return .address a
      | none =>
          setRest ((← rest).drop 1)
          fail "unexpected \x60,'"

def selection : Reader Selection := do
  match ← address? with
  | none =>
      match ← rest with
      | '+' :: after | '~' :: after =>
          setRest after
          discard number
          fail "invalid usage of +N or ~N as first address"
      | _ => return .all
  | some first =>
      skipBlanks
      match ← rest with
      | ',' :: after =>
          setRest after
          return .range first (← rangeEnd)
      | _ => return .one first

/-! ## Parts of commands

What stands behind the letter of a command: labels, paths, texts, replacements and tables. Some go
up to the end of the line, others to a delimiter. -/

def commandEnd : Reader Unit := do
  skipBlanks
  match ← rest with
  | [] => return
  | '\n' :: after | ';' :: after => setRest after
  | '\x7d' :: _ | '#' :: _ => return
  | _ :: after =>
      setRest after
      fail "extra characters after command"

def label : Reader Text := do
  skipBlanks
  let t := (← rest).takeWhile fun c => !(isBlank c || c == '\n' || c == ';' || c == '\x7d')
  setRest ((← rest).drop t.length)
  return t

/-- Stops where files and commands are out of reach. -/
def confined : Reader Unit := do
  if (← get).isConfined then fail "e/r/w commands disabled in sandbox mode"

/-- Reads a path, which goes up to the end of the line. -/
def path : Reader Text := do
  skipBlanks
  let t := (← rest).takeWhile (· != '\n')
  if t.isEmpty then fail "missing filename in r/R/w/W commands"
  else
    setRest ((← rest).drop (t.length + 1))
    return t

/-- The lines of a text, which goes on behind a backslash at the end of a line, and what is behind
it, in so many steps at most. -/
def splitText : Nat → Text → Text × Text
  | 0, t => ([], t)
  | _, [] => ([], [])
  | fuel + 1, '\\' :: rest =>
      match escape? rest, rest with
      | some (c, behind), _ =>
          let (t, after) := splitText fuel behind
          (c :: t, after)
      | none, c :: behind =>
          let (t, after) := splitText fuel behind
          (c :: t, after)
      | none, [] => ([], [])
  | _ + 1, '\n' :: rest => ([], rest)
  | fuel + 1, c :: rest =>
      let (t, after) := splitText fuel rest
      (c :: t, after)

/-- Reads the text of a command that adds lines. -/
def text : Reader Text := do
  skipBlanks
  match ← rest with
  | [] => fail "expected \\ after \x60a', \x60c' or \x60i'"
  | ['\\'] =>
      setRest []
      return []
  | t =>
      let (first, start) := match t with
        | '\\' :: more =>
            match more.dropWhile isBlank with
            | '\n' :: lines => ([], lines)
            | _ => (more.take 1, more.drop 1)
        | t => ([], t)
      let (lines, after) := splitText (start.length + 1) start
      setRest after
      return first ++ lines ++ ['\n']

/-- The pieces of a replacement, in so many steps at most. -/
def piecesFrom : Nat → Text → List Piece
  | 0, _ => []
  | _, [] => []
  | fuel + 1, '&' :: rest => .group 0 :: piecesFrom fuel rest
  | fuel + 1, '\\' :: c :: rest =>
      match c with
      | 'U' => .case .upper :: piecesFrom fuel rest
      | 'L' => .case .lower :: piecesFrom fuel rest
      | 'E' => .case .asIs :: piecesFrom fuel rest
      | 'u' => .nextCase .upper :: piecesFrom fuel rest
      | 'l' => .nextCase .lower :: piecesFrom fuel rest
      | c =>
          if Number.isDigit 10 c then .group (c.toNat - '0'.toNat) :: piecesFrom fuel rest
          else match escape? (c :: rest) with
            | some (d, behind) => .text [d] :: piecesFrom fuel behind
            | none => .text [c] :: piecesFrom fuel rest
  | fuel + 1, c :: rest => .text [c] :: piecesFrom fuel rest

def pieces (t : Text) : List Piece := piecesFrom (t.length + 1) t

def largestGroup (ps : List Piece) : Nat :=
  ps.foldl (fun n p => match p with
    | .group m => max n m
    | _ => n) 0

def groupCount : Expression → Nat
  | .group n e => max n (groupCount e)
  | .sequence a b | .choice a b => max (groupCount a) (groupCount b)
  | .repeated e _ _ => groupCount e
  | _ => 0

/-- The letters behind a replacement. -/
structure Flags where
  isGlobal : Bool := false
  number : Option Nat := none
  runs : Bool := false
  prints : Bool := false
  printsCommand : Bool := false
  ignoresCase : Bool := false
  isMultiline : Bool := false
  file : Option Text := none

/-- Reads the letters behind a replacement. -/
def flags : Nat → Flags → Reader Flags
  | 0, f => return f
  | fuel + 1, f => do
      match ← rest with
      | [] => return f
      | c :: after =>
          setRest after
          match c with
          | 'g' =>
              if f.isGlobal then fail "multiple \x60g' options to \x60s' command"
              else flags fuel { f with isGlobal := true }
          | 'p' =>
              if f.prints || f.printsCommand then fail "multiple \x60p' options to \x60s' command"
              else if f.runs then flags fuel { f with prints := true }
              else flags fuel { f with printsCommand := true }
          | 'e' =>
              confined
              flags fuel { f with runs := true }
          | 'i' | 'I' => flags fuel { f with ignoresCase := true }
          | 'm' | 'M' => flags fuel { f with isMultiline := true }
          | 'w' =>
              confined
              return { f with file := some (← path) }
          | '\n' | ';' => return f
          | '\x7d' | '#' =>
              setRest (c :: after)
              return f
          | c =>
              if Number.isDigit 10 c then
                setRest (c :: after)
                let n ← number
                if f.number.isSome then fail "multiple number options to \x60s' command"
                else if n = 0 then fail "number option to \x60s' command may not be zero"
                else flags fuel { f with number := some n }
              else if isBlank c then flags fuel f
              else fail "unknown option to \x60s'"

def substitution : Reader Action := do
  let unterminated (t : Text) : Reader Action := do
    setRest (behindLine t)
    fail "unterminated \x60s' command"
  match ← rest with
  | [] => unterminated []
  | delimiter :: after =>
      match splitAtDelimiter delimiter true after with
      | none => unterminated after
      | some (expression, behind) =>
          match splitAtDelimiter delimiter false behind with
          | none => unterminated behind
          | some (replacement, behind) =>
              setRest behind
              let f ← flags (behind.length + 1) {}
              let wanted ← wanted expression f.ignoresCase f.isMultiline
              let ps := pieces replacement
              match wanted with
              | some (e, _) =>
                  if groupCount e < largestGroup ps then
                    fail ("invalid reference \\" ++ toString (largestGroup ps) ++ " on \x60s' command's RHS")
              | none => pure ()
              return .substitute
                { wanted := wanted, pieces := ps, isGlobal := f.isGlobal, number := f.number.getD 1,
                  runs := f.runs, prints := f.prints || (f.printsCommand && !f.runs),
                  printsCommand := f.printsCommand && f.runs, file := f.file }

/-- The characters of a table, with their escapes, in so many steps at most. -/
def tableChars : Nat → Text → Text
  | 0, _ => []
  | _, [] => []
  | fuel + 1, '\\' :: '\\' :: rest => '\\' :: tableChars fuel rest
  | fuel + 1, '\\' :: c :: rest =>
      match escape? (c :: rest) with
      | some (d, behind) => d :: tableChars fuel behind
      | none => '\\' :: c :: tableChars fuel rest
  | fuel + 1, c :: rest => c :: tableChars fuel rest

def transliteration : Reader Action := do
  match ← rest with
  | [] => fail "unterminated \x60y' command"
  | delimiter :: after =>
      match (splitAtDelimiter delimiter false after).bind fun (a, behind) =>
        (splitAtDelimiter delimiter false behind).map fun (b, behind) => (a, b, behind) with
      | none =>
          setRest (behindLine after)
          fail "unterminated \x60y' command"
      | some (a, b, behind) =>
          setRest behind
          let first := tableChars (a.length + 1) a
          let second := tableChars (b.length + 1) b
          if first.length != second.length then
            fail "strings for \x60y' command are different lengths"
          else
            commandEnd
            return .transliterate (first.zip second)

/-! ## Commands -/

/-- Reads a number behind a command, if there is one. -/
def optionalNumber : Reader (Option Nat) := do
  skipBlanks
  let n ← if (← rest).head?.any Char.isDigit then (do return some (← number)) else pure none
  commandEnd
  return n

def version : Text := "4.9".toList

/-- Reads a command behind its lines. -/
def action (lines : Selection) : Reader Action := do
  let hasLines := match lines with
    | .all => false
    | _ => true
  match ← rest with
  | [] => fail "missing command"
  | c :: after =>
      setRest after
      match c with
      | '\x7b' =>
          modify fun s => { s with depth := s.depth + 1 }
          return .open' 0
      | '\x7d' =>
          if (← get).depth = 0 then fail "unexpected \x60\x7d'"
          if hasLines then fail "\x60\x7d' doesn't want any addresses"
          modify fun s => { s with depth := s.depth - 1 }
          commandEnd
          return .close
      | '#' => fail "comments don't accept any addresses"
      | 's' => substitution
      | 'y' => transliteration
      | 'a' => return .append (← text)
      | 'i' => return .insert (← text)
      | 'c' => return .change (← text)
      | ':' =>
          if hasLines then fail ": doesn't want any addresses"
          let name ← label
          if name.isEmpty then fail "\":\" lacks a label" else return .label name
      | 'b' => return .branch (← label)
      | 't' => return .branchIf (← label)
      | 'T' => return .branchUnless (← label)
      | 'r' =>
          confined
          return .readFile (← path)
      | 'R' =>
          confined
          return .readLine (← path)
      | 'w' =>
          confined
          return .writeFile (← path)
      | 'W' =>
          confined
          return .writeFirst (← path)
      | 'e' =>
          confined
          skipBlanks
          let t := (← rest).takeWhile (· != '\n')
          setRest ((← rest).drop t.length)
          return .run t
      | 'l' => return .list (← optionalNumber)
      | 'v' =>
          let wanted ← label
          match Version.compareParts (wanted.length + 4) wanted version with
          | .gt => fail "expected newer version of sed"
          | _ => return .label []
      | c =>
          let isQuit := c == 'q' || c == 'Q'
          if isQuit then
            match lines with
            | .range .. => fail "command only uses one address"
            | _ => pure ()
            let status := (← optionalNumber).getD 0
            return if c == 'q' then .quit status else .quitSilently status
          else if "=dDgGhHnNpPxzF".toList.contains c then
            commandEnd
            return .letter c
          else if c == '\n' || c == ';' then fail "missing command"
          else fail ("unknown command: \x60" ++ String.ofList [c] ++ "'")

/-- Skips what may stand before a command. -/
def skipStart : Nat → Reader Unit
  | 0 => return
  | fuel + 1 => do
      match ← rest with
      | '#' :: after =>
          setRest (after.dropWhile (· != '\n'))
          skipStart fuel
      | c :: after =>
          if isBlank c || c == '\n' || c == ';' then
            setRest after
            skipStart fuel
          else return
      | [] => return

/-- Reads commands, with so many steps at most. -/
def commands : Nat → Reader (List Command)
  | 0 => return []
  | fuel + 1 => do
      skipStart ((← rest).length + 1)
      if (← rest).isEmpty then return []
      else
        let selection ← selection
        skipBlanks
        let isZero := match selection with
          | .one (.line 0) => true
          | .range (.line 0) (.address (.fits _)) => false
          | .range (.line 0) _ => true
          | _ => false
        if isZero then
          setRest ((← rest).drop 1)
          fail "invalid usage of line address 0"
        let isNegated := (← rest).head? == some '!'
        if isNegated then
          setRest (((← rest).drop 1).dropWhile isBlank)
          if (← rest).head? == some '!' then
            setRest ((← rest).drop 1)
            fail "multiple \x60!'s"
        let action ← action selection
        return ⟨selection, isNegated, action⟩ :: (← commands fuel)

end Reader

/-- Fills in where braces end. The list holds the places of those that are open. -/
def closeBraces (all : Array Command) : Nat → List Nat → List Command → Except Refusal (Array Command)
  | _, [], [] => .ok all
  | _, _ :: _, [] => .error (.malformed "-e expression #1, char 0: unmatched \x60\x7b'".toList)
  | n, isOpen, command :: rest =>
      match command.action, isOpen with
      | .open' _, isOpen => closeBraces all (n + 1) (n :: isOpen) rest
      | .close, start :: isOpen =>
          closeBraces (all.modify start fun c => { c with action := .open' n }) (n + 1) isOpen rest
      | .close, [] => closeBraces all (n + 1) [] rest
      | _, isOpen => closeBraces all (n + 1) isOpen rest

def jumps (c : Command) : List Text :=
  match c.action with
  | .branch l | .branchIf l | .branchUnless l => if l.isEmpty then [] else [l]
  | _ => []

def labelPlace? (all : Array Command) (name : Text) : Option Nat :=
  all.findIdx? fun c => match c.action with
    | .label l => l == name
    | _ => false

/-- **Reads a script.** -/
def readScript (isExtended isConfined : Bool) (parts : List Part) : Except Refusal (Array Command) := do
  let t := Text.join ['\n'] (parts.map Part.text)
  let source : Source := ⟨t, t.length, parts, isExtended, isConfined, 0⟩
  let (commands, _) ← (Reader.commands (t.length + 1)).run source
  let all ← closeBraces commands.toArray 0 [] commands
  match (all.toList.flatMap jumps).find? fun l => (labelPlace? all l).isNone with
  | some l => throw (.noLabel l)
  | none => return all

end SwiftExistential.Utility.Stream
