import SwiftExistential.Utility.Content

/-!
# The first and the last part of files

`head` shows the first lines or octets of files, and `tail` the last ones. Both can also be told
where to begin or end instead of how much to show.

If several files are named, a head with the name stands before each. An older way to write the
numbers, without the letter of an option, is turned into the usual one before the options are read.
-/

set_option autoImplicit false

namespace SwiftExistential.Utility

open Process

/-- How much is shown of a file: so many units, from the start or up to the end. -/
structure Extent where
  isBytes : Bool
  /-- Whether the count is for what is left out. -/
  isRest : Bool
  count : Nat
  lineEnd : Char

/-- The octets of the first lines of a text, so many lines at most, and what is behind them. -/
def splitLines (lineEnd : Char) (start : Text) : Nat → Text → Text × Text
  | 0, t => (start.reverse, t)
  | _ + 1, [] => (start.reverse, [])
  | n + 1, c :: rest => splitLines lineEnd (c :: start) (if c == lineEnd then n else n + 1) rest

/-- The start of a text, and the part that was read but not shown. -/
def headOf (extent : Extent) (t : Text) : Text × Text :=
  if extent.isBytes then
    let n := if extent.isRest then t.length - extent.count else extent.count
    (t.take n, t.drop n)
  else if extent.isRest then
    let lines := endedLines extent.lineEnd t
    let kept := (lines.take (lines.length - extent.count)).flatten
    (kept, t.drop kept.length)
  else splitLines extent.lineEnd [] extent.count t

def tailOf (extent : Extent) (t : Text) : Text :=
  if extent.isBytes then
    if extent.isRest then t.drop (extent.count - 1) else t.drop (t.length - extent.count)
  else if extent.isRest then (splitLines extent.lineEnd [] (extent.count - 1) t).2
  else
    let lines := endedLines extent.lineEnd t
    (lines.drop (lines.length - extent.count)).flatten

/-- Shows parts of files. Each has a title if that is asked for. -/
def showParts (name : String) (hasTitles : Bool) (show' : Text → Job Text) :
    Bool → List Text → Job Nat
  | _, [] => return 0
  | isFirst, path :: rest => do
      let label := if path = ['-'] then "standard input".toList else path
      match ← Job.readSource path with
      | .error .isDirectory =>
          if hasTitles then
            Job.put ((if isFirst then [] else ['\n']) ++ "==> ".toList ++ label ++ " <==\n".toList)
          Job.complain [name.toList, "error reading ".toList ++ quoted label, reason .isDirectory]
          discard (showParts name hasTitles show' false rest)
          return 1
      | .error e =>
          Job.complain [name.toList, "cannot open ".toList ++ quoted label ++ " for reading".toList, reason e]
          discard (showParts name hasTitles show' isFirst rest)
          return 1
      | .ok content =>
          if hasTitles then
            Job.put ((if isFirst then [] else ['\n']) ++ "==> ".toList ++ label ++ " <==\n".toList)
          let left ← show' content
          if path = ['-'] then Job.giveBack left.length
          showParts name hasTitles show' false rest

def maxCount : Nat := 18446744073709551615

/-- The count that an option asks for, without its sign, or what is wrong with it. -/
def readCount (isBytes : Bool) (digits shown : Text) : Except Text Nat :=
  let what := (if isBytes then "invalid number of bytes: " else "invalid number of lines: ").toList
  match count? (digits.dropWhile Number.isSpace) with
  | none => .error (what ++ cited shown)
  | some n =>
      if n > maxCount then .error (what ++ cited shown ++ ": Value too large for defined data type".toList)
      else .ok n

def titles (g : Given) : Bool :=
  match g.last? "qv" with
  | some 'v' => true
  | some _ => false
  | none => g.operands.length > 1

/-! ## Head -/

def headOptions : Specification :=
  { name := "head", letters := "c:n:qvz0123456789",
    words := [("bytes", 'c', .one), ("lines", 'n', .one), ("quiet", 'q', .none), ("silent", 'q', .none),
      ("verbose", 'v', .none), ("zero-terminated", 'z', .none)] }

/-- Writes an old form of a count as options: a dash, digits and letters. Returns the letter that is
wrong. -/
def oldHead : List Text → Except Char (List Text)
  | ('-' :: d :: more) :: rest =>
      let digits := (d :: more).takeWhile Char.isDigit
      if digits.isEmpty then .ok (('-' :: d :: more) :: rest)
      else
        let letters := (d :: more).drop digits.length
        match letters.find? fun c => !"cqvzbklm".toList.contains c with
        | some c => .error c
        | none =>
            let unit := letters.filter fun c => c == 'b' || c == 'k' || c == 'm'
            let isBytes := letters.contains 'c' || !unit.isEmpty
            let flags := letters.filter fun c => c == 'q' || c == 'v' || c == 'z'
            let unit := unit.drop (unit.length - 1)
            .ok ([if isBytes then "-c".toList else "-n".toList, digits ++ unit] ++
              (if flags.isEmpty then [] else ['-' :: flags]) ++ rest)
  | arguments => .ok arguments

def headExtent (g : Given) : Except Text Extent :=
  let lineEnd := if g.has 'z' then '\x00' else '\n'
  match g.options.reverse.find? fun (c, _) => c == 'n' || c == 'c' with
  | none => .ok ⟨false, false, 10, lineEnd⟩
  | some (letter, value) => do
      let isRest := value.head? = some '-'
      let shown := if isRest then value.drop 1 else value
      let digits := if shown.head? = some '+' then shown.drop 1 else shown
      return ⟨letter == 'c', isRest, ← readCount (letter == 'c') digits shown, lineEnd⟩

def head : Utility := fun _ arguments =>
  match oldHead arguments with
  | .error c => misuse headOptions ("invalid trailing option -- ".toList ++ [c])
  | .ok arguments =>
      withOptions headOptions arguments fun g => do
        match g.options.find? fun (c, _) => c.isDigit with
        | some (c, _) => misuse headOptions ("invalid trailing option -- ".toList ++ [c])
        | none =>
            match headExtent g with
            | .error message =>
                complain "head" message
                return 1
            | .ok extent =>
                showParts "head" (titles g)
                  (fun content => do
                    let (shown, rest) := headOf extent content
                    Job.put shown
                    return rest)
                  true (if g.operands.isEmpty then [['-']] else g.operands)

/-! ## Tail -/

def tailOptions : Specification :=
  { name := "tail", letters := "c:fFn:qs:vz0123456789",
    words := [("bytes", 'c', .one), ("follow", '\x01', .optional), ("lines", 'n', .one),
      ("max-unchanged-stats", '\x02', .one), ("pid", '\x03', .one), ("quiet", 'q', .none),
      ("retry", '\x04', .none), ("silent", 'q', .none), ("sleep-interval", 's', .one), ("verbose", 'v', .none),
      ("zero-terminated", 'z', .none)] }

/-- Writes an old form of a count as options: a sign, digits and a letter. It must be the first of
at most two arguments. -/
def oldTail (arguments : List Text) : List Text :=
  let isOld := match arguments with
    | [_] => true
    | [_, path] => !(path.head? = some '-' && path.length > 1)
    | [_, mark, _] => mark = ['-', '-']
    | _ => false
  match arguments with
  | (sign :: more) :: rest =>
      let digits := more.takeWhile Char.isDigit
      let letters := more.drop digits.length
      let follows := letters.getLast? = some 'f'
      let unit := if follows then letters.dropLast else letters
      if isOld && (sign == '+' || (sign == '-' && !digits.isEmpty)) && !(digits.isEmpty && letters.isEmpty) &&
          [[], ['b'], ['c'], ['l']].contains unit then
        let count := if digits.isEmpty then ['1', '0'] else digits
        let count := (if sign == '+' then ['+'] else []) ++ count ++ if unit = ['b'] then ['b'] else []
        [if unit = ['c'] || unit = ['b'] then "-c".toList else "-n".toList, count] ++
          (if follows then ["-f".toList] else []) ++ rest
      else arguments
  | arguments => arguments

/-- The extent that the options of `tail` ask for. A plus sign in one of them counts for all. -/
def tailExtent (g : Given) : Except Text Extent :=
  let lineEnd := if g.has 'z' then '\x00' else '\n'
  g.options.foldlM (fun (extent : Extent) (letter, value) =>
    if letter == 'n' || letter == 'c' then do
      let isRest := value.head? = some '+'
      let digits := if isRest || value.head? = some '-' then value.drop 1 else value
      return ⟨letter == 'c', isRest || extent.isRest, ← readCount (letter == 'c') digits value, lineEnd⟩
    else return extent) ⟨false, false, 10, lineEnd⟩

/-- Waits for ever, as a program that follows a file does. -/
def followForEver : Job Nat := do
  modify fun m => m.elapse Duration.endless
  return 1

def tail : Utility := fun _ arguments =>
  withOptions tailOptions (oldTail arguments) fun g => do
    match g.options.find? fun (c, _) => c.isDigit with
    | some (c, _) =>
        complain "tail" ("option used in invalid context -- ".toList ++ [c])
        return 1
    | none =>
        match tailExtent g, (g.value? 's').map fun t => (Duration.ofText? t).isSome with
        | .error message, _ =>
            complain "tail" message
            return 1
        | _, some false =>
            complain "tail" ("invalid number of seconds: ".toList ++ cited ((g.value? 's').getD []))
            return 1
        | .ok extent, _ =>
            let follows := g.has 'f' || g.has 'F' || g.has '\x01'
            if g.has '\x04' && !follows then
              complain "tail" "warning: --retry ignored; --retry is useful only when following".toList
            if g.has '\x03' && !follows then
              complain "tail" "warning: PID ignored; --pid=PID is useful only when following".toList
            let status ← showParts "tail" (titles g)
              (fun content => do
                Job.put (tailOf extent content)
                return [])
              true (if g.operands.isEmpty then [['-']] else g.operands)
            if follows && status = 0 && !(g.operands.isEmpty || g.operands = [['-']]) then followForEver
            else return status

end SwiftExistential.Utility
