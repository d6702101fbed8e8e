import SwiftExistential.Expression.Basic
import SwiftExistential.Text.Number

/-!
# Reading expressions

The written form of expressions. A dialect says how the operators are written, and one reader reads
all dialects: of programs that search and edit lines, of those that number and split files, and of
the one that calculates with texts.

A reader is an action on a `Source` that ends with the first mistake. Some texts look like a mistake
and mean something all the same; the reader keeps a warning for each of them and goes on.
-/

set_option autoImplicit false

/-! ## Dialects of expressions

Expressions are written in several ways. The dialects differ in which operators stand behind a
backslash, in which there are at all, and in what a repetition means that has nothing before it. -/

namespace SwiftExistential.Expression

/-- How an operator is written. -/
inductive Mark where
  /-- Without a backslash. -/
  | plain
  /-- Behind a backslash. -/
  | escaped
  /-- Not at all. -/
  | absent
deriving DecidableEq, Repr

/-- What a repetition means that has nothing before it. -/
inductive Leading where
  /-- It stands for its own character. -/
  | literal
  /-- It means nothing. -/
  | skipped
  /-- It is a mistake. -/
  | refused
deriving DecidableEq, Repr

/-- A way to write expressions. -/
structure Dialect where
  /-- How parentheses are written. -/
  groups : Mark
  /-- How the bar between alternatives is written. -/
  bars : Mark
  /-- How the braces around counts are written. -/
  counts : Mark
  /-- How the plus and the question mark are written. -/
  extras : Mark
  leading : Leading
  /-- Whether the signs for the edges of lines mean them everywhere. -/
  hasFreeEdges : Bool
  /-- Whether the edges of lines can be repeated. -/
  repeatsEdges : Bool := false
  /-- Whether braces without a count stand for themselves. -/
  toleratesCounts : Bool := false
  /-- Whether a closing parenthesis that closes nothing stands for itself. -/
  toleratesClosing : Bool := false
  /-- Whether classes have names. -/
  knowsClasses : Bool := true
  /-- Whether letters behind a backslash mean classes and edges. -/
  knowsLetters : Bool := true
  /-- Whether a backslash hides a character between brackets. -/
  hidesInBrackets : Bool := false
  /-- Whether the name of a class outside brackets is a mistake. -/
  refusesLoneClass : Bool := false
  /-- Whether a repetition behind a repetition is a mistake. -/
  refusesDoubled : Bool := false
  /-- Whether a range that ends before it starts is a mistake. -/
  refusesEmptyRanges : Bool := false
deriving DecidableEq, Repr

namespace Dialect

def basic : Dialect :=
  { groups := .escaped, bars := .escaped, counts := .escaped, extras := .escaped, leading := .literal,
    hasFreeEdges := false }

def extended : Dialect :=
  { groups := .plain, bars := .plain, counts := .plain, extras := .plain, leading := .refused,
    hasFreeEdges := true, refusesEmptyRanges := true }

/-- Operators behind a backslash, where nothing is passed over. -/
def strictBasic : Dialect := { basic with refusesDoubled := true, refusesEmptyRanges := true }

/-- Operators without a backslash, where what makes no sense stands for itself. -/
def lenient : Dialect :=
  { extended with leading := .skipped, toleratesCounts := true, toleratesClosing := true }

/-- The way of an editor: repetitions alone stand without a backslash, and there are no counts. -/
def editor : Dialect :=
  { basic with counts := .absent, extras := .plain, knowsClasses := false }

def minimal : Dialect := { basic with bars := .absent, extras := .absent }

/-- Operators without a backslash, and no counts. -/
def uncounted : Dialect :=
  { extended with
    counts := .absent, leading := .literal, toleratesClosing := true, knowsLetters := false,
    hidesInBrackets := true }

end Dialect

end SwiftExistential.Expression

/-! ## Reading expressions

An expression is read by the rules of a dialect: alternatives between bars, rows of expressions in
them, and in a row single expressions with their repetitions. -/

namespace SwiftExistential.Expression

/-- What is wrong with a text that is no expression. -/
inductive Mistake where
  | unmatchedOpening
  | unmatchedClosing
  | unmatchedBracket
  | unmatchedBrace
  | wrongCount
  | wrongClass
  | wrongCharacter
  | loneClass
  | wrongRange
  | nothingBefore
  | wrongGroup
  | lastBackslash
  | tooBig
  | incomplete
deriving DecidableEq, Repr

def Mistake.message : Mistake → String
  | unmatchedOpening => "Unmatched ( or \\("
  | unmatchedClosing => "Unmatched ) or \\)"
  | unmatchedBracket => "Unmatched [, [^, [:, [., or [="
  | unmatchedBrace => "Unmatched \\\x7b"
  | wrongCount => "Invalid content of \\\x7b\\\x7d"
  | wrongClass => "Invalid character class name"
  | wrongCharacter => "Invalid collation character"
  | loneClass => "character class syntax is [[:space:]], not [:space:]"
  | wrongRange => "Invalid range end"
  | nothingBefore => "Invalid preceding regular expression"
  | wrongGroup => "Invalid back reference"
  | lastBackslash => "Trailing backslash"
  | tooBig => "Regular expression too big"
  | incomplete => "Invalid regular expression"

/-- What is left to read, and what has been met: groups, and repetitions that mean nothing. -/
structure Source where
  rest : Text
  opened : Nat
  closed : List Nat
  /-- In how many groups the place stands. -/
  depth : Nat
  warnings : List String

abbrev Reader := StateT Source (Except Mistake)

namespace Reader

def rest : Reader Text := do return (← get).rest

def setRest (t : Text) : Reader Unit := modify fun s => { s with rest := t }

/-! ### Brackets

Between brackets a backslash means nothing in most dialects. The closing bracket stands for itself
if it comes first. -/

/-- The text up to a mark and a closing bracket, and the text behind them. -/
def splitNamed (mark : Char) (t : Text) : Option (Text × Text) := Text.splitAtPart? [mark, ']'] t

def bracketChar (d : Dialect) : Text → Except Mistake (Char × Text)
  | '[' :: '.' :: rest => named '.' rest
  | '[' :: '=' :: rest => named '=' rest
  | '\\' :: c :: rest => .ok (if d.hidesInBrackets then (c, rest) else ('\\', c :: rest))
  | c :: rest => .ok (c, rest)
  | [] => .error .unmatchedBracket
where
  /-- A character between marks. -/
  named (mark : Char) (rest : Text) : Except Mistake (Char × Text) :=
    match splitNamed mark rest with
    | none => .error .unmatchedBracket
    | some ([c], after) => .ok (c, after)
    | some _ => .error .wrongCharacter

/-- Reads choices up to the closing bracket, which can also be the first choice. -/
def readChoices (d : Dialect) : Nat → Bool → Text → Except Mistake (List Choice × Text)
  | 0, _, _ => .error .unmatchedBracket
  | _, _, [] => .error .unmatchedBracket
  | fuel + 1, isFirst, t =>
      let single := do
        let (first, rest) ← bracketChar d t
        match rest with
        | '-' :: ']' :: after =>
            let (others, after) ← readChoices d fuel false (']' :: after)
            pure (Choice.range first first :: .range '-' '-' :: others, after)
        | '-' :: more =>
            let (last, after) ← bracketChar d more
            if last < first && d.refusesEmptyRanges then throw .wrongRange
            let (others, after) ← readChoices d fuel false after
            pure (.range first last :: others, after)
        | rest =>
            let (others, after) ← readChoices d fuel false rest
            pure (.range first first :: others, after)
      match t with
      | ']' :: rest =>
          if isFirst then single
          else .ok ([], rest)
      | '[' :: ':' :: rest =>
          if !d.knowsClasses then single
          else match splitNamed ':' rest with
            | none => .error .unmatchedBracket
            | some (name, after) =>
                let name := String.ofList name
                if (Choice.classHolds? name 'a').isNone then .error .wrongClass
                else (readChoices d fuel false after).map fun (others, after) => (.named name :: others, after)
      | _ => single

/-- Whether a bracket holds nothing but what looks like the name of a class. -/
def isLoneClass (inside after : Text) : Bool :=
  let taken := inside.take (inside.length - after.length)
  match taken, taken.reverse with
  | ':' :: _ :: _, ']' :: ':' :: _ :: _ => true
  | _, _ => false

def readBracket (d : Dialect) : Reader Expression := do
  let t ← rest
  let (isNegated, inside) := match t with
    | '^' :: more => (true, more)
    | t => (false, t)
  if inside.isEmpty then throw .incomplete
  match readChoices d (inside.length + 1) true inside with
  | .error e => throw e
  | .ok (choices, after) =>
      if d.refusesLoneClass && isLoneClass t after then throw .loneClass
      setRest after
      return .oneOf isNegated choices

/-! ### Repetition

Repetitions that follow each other apply in turn. One that has nothing before it is a mistake, means
nothing, or stands for its own character, as the dialect has it. -/

/-- The counts at the start of a text: at least, and at most. -/
def counts? (t : Text) : Option ((Nat × Option Nat) × Text) :=
  let least := t.takeWhile (Number.isDigit 10)
  match t.drop least.length with
  | ',' :: rest =>
      let most := rest.takeWhile (Number.isDigit 10)
      let bound := if most.isEmpty then none else some (Number.value 10 most)
      some ((Number.value 10 least, bound), rest.drop most.length)
  | rest =>
      if least.isEmpty then none
      else some ((Number.value 10 least, some (Number.value 10 least)), rest)

def largestCount : Nat := 32767

/-- What stands before the next comma or closing, whether it is a comma, and what follows. -/
def splitCount (closing : Text) : Text → Option (Text × Bool × Text)
  | [] => none
  | ',' :: rest => some ([], true, rest)
  | c :: rest =>
      match Text.dropPart? closing (c :: rest) with
      | some after => some ([], false, after)
      | none => (splitCount closing rest).map fun (t, isComma, after) => (c :: t, isComma, after)

def readCounts (closing : Text) : Reader (Nat × Option Nat) := do
  let isNumber := fun (t : Text) => t.all (Number.isDigit 10)
  let value := Number.value 10
  match splitCount closing (← rest) with
  | none => throw .unmatchedBrace
  | some (first, isComma, after) =>
      if !isNumber first || (first.isEmpty && !isComma) then throw .wrongCount
      let (most, after) ← if !isComma then pure (some (value first), after)
        else match splitCount closing after with
          | none => throw .unmatchedBrace
          | some (second, isComma, after) =>
              if !isNumber second || isComma then throw .wrongCount
              pure (if second.isEmpty then none else some (value second), after)
      if most.any (· < value first) then throw .wrongCount
      else if most.getD (value first) > largestCount then throw .tooBig
      else
        setRest after
        return (value first, most)

/-- Whether counts stand at the start of a text that mean something. -/
def hasCounts (t : Text) : Bool :=
  match counts? t with
  | some (_, '\x7d' :: _) => true
  | _ => false

/-- The repetition at the start of a text, with what it looks like. -/
def repetition? (d : Dialect) (t : Text) : Option (String × Reader (Nat × Option Nat)) :=
  let mark := fun (least : Nat) (most : Option Nat) (after : Text) => do
    setRest after
    return (least, most)
  match t with
  | '*' :: after => some ("*", mark 0 none after)
  | '+' :: after => if d.extras = .plain then some ("+", mark 1 none after) else none
  | '?' :: after => if d.extras = .plain then some ("?", mark 0 (some 1) after) else none
  | '\\' :: '+' :: after => if d.extras = .escaped then some ("\\+", mark 1 none after) else none
  | '\\' :: '?' :: after => if d.extras = .escaped then some ("\\?", mark 0 (some 1) after) else none
  | '\\' :: '\x7b' :: after =>
      if d.counts = .escaped then some ("\\\x7b...\\\x7d", do
        setRest after
        readCounts ['\\', '\x7d'])
      else none
  | '\x7b' :: after =>
      if d.counts = .plain && (!d.toleratesCounts || hasCounts after) then some ("\x7b...\x7d", do
        setRest after
        readCounts ['\x7d'])
      else none
  | _ => none

def readRepetitions (d : Dialect) : Nat → Expression → Reader Expression
  | 0, e => return e
  | fuel + 1, e => do
      match repetition? d (← rest) with
      | none => return e
      | some (_, counts) =>
          let (least, most) ← counts
          if d.refusesDoubled then
            match ← rest with
            | '*' :: _ | '\\' :: '\x7b' :: _ => throw .nothingBefore
            | _ => pure ()
          readRepetitions d fuel (.repeated e least most)

/-- Passes repetitions that have nothing before them, if they mean nothing. -/
def skipRepetitions (d : Dialect) : Nat → Reader Unit
  | 0 => return ()
  | fuel + 1 => do
      match repetition? d (← rest), d.leading with
      | none, _ | _, .literal => return ()
      | some _, .refused => throw .nothingBefore
      | some (shown, counts), .skipped =>
          discard counts
          modify fun s => { s with warnings := s.warnings ++ [shown] }
          skipRepetitions d fuel

/-! ### Alternatives -/

/-- The edge or the class that a letter behind a backslash stands for. -/
def letter? : Char → Option Expression
  | 'w' => some (.oneOf false [.named "alnum", .range '_' '_'])
  | 'W' => some (.oneOf true [.named "alnum", .range '_' '_'])
  | 's' => some (.oneOf false [.named "space"])
  | 'S' => some (.oneOf true [.named "space"])
  | 'b' => some (.edge .word)
  | 'B' => some (.edge .notWord)
  | '<' => some (.edge .wordStart)
  | '>' => some (.edge .wordEnd)
  | '\x60' => some (.edge .textStart)
  | '\'' => some (.edge .textEnd)
  | 'n' => some (.exactly '\n')
  | _ => none

/-- The text behind a mark, if the mark stands at its start. -/
def behindMark? (mark : Mark) (c : Char) : Text → Option Text
  | '\\' :: d :: rest => if mark = .escaped && c == d then some rest else none
  | d :: rest => if mark = .plain && c == d then some rest else none
  | [] => none

def behindBar? (d : Dialect) (t : Text) : Option Text := behindMark? d.bars '|' t

/-- The text behind a closing parenthesis, if it closes something or has to. -/
def behindClosing? (d : Dialect) (depth : Nat) (t : Text) : Option Text :=
  if depth = 0 && d.toleratesClosing then none else behindMark? d.groups ')' t

/-- Whether a text begins with what ends a row of expressions. -/
def endsRow (d : Dialect) (depth : Nat) (t : Text) : Bool :=
  t.isEmpty || (behindBar? d t).isSome || (behindClosing? d depth t).isSome

/-- Reads a single expression. The flag says whether it is the first of its row. -/
def readOne (d : Dialect) (isFirst : Bool) (group : Reader Expression) : Reader Expression := do
  let t ← rest
  let depth := (← get).depth
  match behindMark? d.groups '(' t with
  | some after =>
      setRest after
      group
  | none =>
      match t with
      | [] => return .empty
      | c :: after =>
          setRest after
          match c, after with
          | '[', _ => readBracket d
          | '.', _ => return .any
          | '^', _ => return if d.hasFreeEdges || isFirst then .edge .lineStart else .exactly '^'
          | '$', after =>
              return if d.hasFreeEdges || endsRow d (max depth 1) after then .edge .lineEnd else .exactly '$'
          | '\\', [] => throw .lastBackslash
          | '\\', e :: more =>
              if e == '\x7b' && d.counts = .escaped then throw .nothingBefore
              setRest more
              if '1' ≤ e && e ≤ '9' then
                let number := e.toNat - '0'.toNat
                if (← get).closed.contains number then return .again number else throw .wrongGroup
              else if d.knowsLetters then return (letter? e).getD (.exactly e)
              else return .exactly e
          | c, _ => return .exactly c

/-- Whether nothing can be repeated behind an expression. -/
def isEdge : Expression → Bool
  | .edge _ => true
  | _ => false

/-- Reads a row of expressions, behind those that were read. -/
def readRow (d : Dialect) (group : Reader Expression) : Nat → Bool → Expression → Reader Expression
  | 0, _, e => return e
  | fuel + 1, isFirst, e => do
      if isFirst then skipRepetitions d fuel
      let t ← rest
      if endsRow d (← get).depth t then return e
      else
        let single ← readOne d isFirst group
        if isEdge single then
          if d.leading = .literal then
            match ← rest with
            | '*' :: after =>
                setRest after
                let star ← readRepetitions d fuel (.exactly '*')
                readRow d group fuel false (.sequence (.sequence e single) star)
            | _ => readRow d group fuel (single matches .edge .lineStart) (.sequence e single)
          else if d.repeatsEdges then
            match repetition? d (← rest), isFirst with
            | some (shown, _), true => modify fun s => { s with warnings := s.warnings ++ [shown] }
            | _, _ => pure ()
            let whole ← readRepetitions d t.length single
            readRow d group fuel false (.sequence e whole)
          else
            skipRepetitions d fuel
            readRow d group fuel false (.sequence e single)
        else
          let whole ← readRepetitions d t.length single
          readRow d group fuel false (.sequence e whole)

def readAlternatives (d : Dialect) (row : Reader Expression) : Nat → Expression → Reader Expression
  | 0, e => return e
  | fuel + 1, e => do
      match behindBar? d (← rest) with
      | some after =>
          setRest after
          let next ← row
          readAlternatives d row fuel (.choice e next)
      | none => return e

/-- Reads an expression in which groups may stand so deep in each other. -/
def readAt (d : Dialect) : Nat → Reader Expression
  | 0 => throw .unmatchedOpening
  | depth + 1 => do
      let group : Reader Expression := do
        let number := (← get).opened + 1
        modify fun s => { s with opened := number, depth := s.depth + 1 }
        let body ← readAt d depth
        match behindMark? d.groups ')' (← rest) with
        | some after =>
            modify fun s => { s with rest := after, closed := number :: s.closed, depth := s.depth - 1 }
            return .group number body
        | none => throw .unmatchedOpening
      let length := (← rest).length + 1
      let row := readRow d group length true .empty
      readAlternatives d row length (← row)

end Reader

/-- Reads an expression, and the repetitions in it that mean nothing. -/
def readWithWarnings (d : Dialect) (t : Text) : Except Mistake (Expression × List String) :=
  match (Reader.readAt d (t.length + 1)).run ⟨t, 0, [], 0, []⟩ with
  | .error e => .error e
  | .ok (e, source) => if source.rest.isEmpty then .ok (e, source.warnings) else .error .unmatchedClosing

/-- **Reads an expression.** -/
def read (d : Dialect) (t : Text) : Except Mistake Expression := (readWithWarnings d t).map Prod.fst

def literal (t : Text) : Expression := t.foldr (fun c e => .sequence (.exactly c) e) .empty

end SwiftExistential.Expression
