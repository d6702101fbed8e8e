import SwiftExistential.Process.Signal
import SwiftExistential.Utility.Options

/-!
# Programs that show the contents of files

`cat`, `tac` and `rev` show whole files: as they are, with their parts in reverse, or with the
characters of each line in reverse. `tee` copies its input to files and to its output.

All of them take files one after the other. A file that cannot be read is reported in its turn, the
others are shown all the same, and the status tells that something was wrong.
-/

set_option autoImplicit false

namespace SwiftExistential.Utility

open Process

/-! ## Whole files

The numbers of lines and the runs of empty lines go on from one file to the next, and so does a last
line without an end. Thus a state is handed on from file to file. -/

def visible (showsTabs : Bool) (c : Char) : Text :=
  let plain := fun (n : Nat) =>
    if n == 127 then ['^', '?'] else if n < 32 then ['^', Char.ofNat (n + 64)] else [Char.ofNat n]
  if c == '\n' || (c == '\t' && !showsTabs) then [c]
  else if c.toNat ≥ 128 then 'M' :: '-' :: plain (c.toNat - 128)
  else plain c.toNat

/-- How `cat` shows lines. -/
structure CatStyle where
  numbersAll : Bool
  numbersFilled : Bool
  squeezes : Bool
  marksEnds : Bool
  showsTabs : Bool
  showsOdd : Bool

/-- Where `cat` is in its output. -/
structure CatState where
  /-- The number of the next line. -/
  number : Nat
  /-- Whether the last line was empty. -/
  wasEmpty : Bool
  /-- Whether the last line has no end yet. -/
  isInside : Bool

def CatStyle.body (style : CatStyle) (isEnded : Bool) (line : Text) : Text :=
  let shown := line.flatMap fun c =>
    if style.showsOdd then visible style.showsTabs c
    else if c == '\t' && style.showsTabs then ['^', 'I'] else [c]
  if isEnded && style.marksEnds && !style.showsOdd && line.getLast? = some '\r' then
    shown.dropLast ++ ['^', 'M']
  else shown

/-- Shows lines, of which the last may have no end. -/
def catLines (style : CatStyle) (isOpen : Bool) : CatState → List Text → List Text × CatState
  | state, [] => ([], state)
  | state, line :: rest =>
      let isEnded := !(rest.isEmpty && isOpen)
      let isEmpty := line.isEmpty && isEnded && !state.isInside
      if style.squeezes && state.wasEmpty && isEmpty then catLines style isOpen state rest
      else
        let isNumbered := !state.isInside && (if style.numbersFilled then !isEmpty else style.numbersAll)
        let number := if isNumbered then padLeft 6 (shownNat state.number) ++ ['\t'] else []
        let ending := if !isEnded then [] else if style.marksEnds then ['$', '\n'] else ['\n']
        let next : CatState := ⟨if isNumbered then state.number + 1 else state.number, isEmpty, !isEnded⟩
        let (others, last) := catLines style isOpen next rest
        ((number ++ style.body isEnded line ++ ending) :: others, last)

/-- Whether a file is where the output goes, so that reading it would not end. -/
def isOutput (path : Text) : Job Bool := do
  let m ← get
  let tree ← Job.tree
  let source? := (← read).channel? 0
  match (← read).channel? 1 with
  | none => return false
  | some index =>
      match m.channels[index]? with
      | some (.file location offset appends) =>
          let input := if path = ['-'] then
              match source?.bind fun i => m.channels[i]? with
              | some (Channel.file source start _) => some (source, start)
              | _ => none
            else (tree.find (Octets.toText path)).toOption.map fun (source, _) => (source, 0)
          let size := (tree.bytesAt location).size
          return input.any fun (source, start) =>
            (tree.namesOf location).contains source && start < (if appends then size else offset)
      | _ => return false

/-- Shows files one after the other. -/
def catFiles (style : Option CatStyle) : CatState → List Text → Job Nat
  | _, [] => return 0
  | state, path :: rest => do
      let failed := fun (message : Text) => do
        Job.complain ["cat".toList, readable path, message]
        discard (catFiles style state rest)
        pure 1
      if ← isOutput path then failed "input file is output file".toList
      else match ← Job.readSource path with
      | .error e => failed (reason e)
      | .ok content =>
          match style with
          | none =>
              Job.put content
              catFiles style state rest
          | some s =>
              let isOpen := content.getLast?.any (· != '\n')
              let (shown, state) := catLines s isOpen state (records content)
              Job.put shown.flatten
              catFiles style state rest

def cat : Utility := fun _ arguments =>
  withOptions
    { name := "cat", letters := "benstuvAET", words := [("show-all", 'A', .none),
        ("number-nonblank", 'b', .none), ("show-ends", 'E', .none), ("number", 'n', .none),
        ("squeeze-blank", 's', .none), ("show-tabs", 'T', .none), ("show-nonprinting", 'v', .none)] }
    arguments fun g =>
      let has := g.has
      let style : CatStyle :=
        ⟨has 'n', has 'b', has 's', has 'E' || has 'A' || has 'e', has 'T' || has 'A' || has 't',
          has 'v' || has 'A' || has 'e' || has 't'⟩
      let isPlain := g.options.all fun (c, _) => c == 'u'
      catFiles (if isPlain then none else some style) ⟨1, false, false⟩
        (if g.operands.isEmpty then [['-']] else g.operands)

def endedLines (lineEnd : Char) (t : Text) : List Text :=
  let lines := splitRecords lineEnd [] [] t
  if t.getLast?.any (· != lineEnd) then lines.dropLast.map (· ++ [lineEnd]) ++ lines.getLast?.toList
  else lines.map (· ++ [lineEnd])

/-- The parts of a text between separators. The start of a part, its last octet first, stands before
the text. -/
def partsBetween (sep : Text) : Nat → Text → Text → List Text
  | 0, start, t => [start.reverse ++ t]
  | _, start, [] => [start.reverse]
  | fuel + 1, start, c :: rest =>
      match Text.dropPart? sep (c :: rest) with
      | some behind => start.reverse :: partsBetween sep fuel [] behind
      | none => partsBetween sep fuel (c :: start) rest

/-- The parts of a text with their separators, which stand before them or behind them. The
separators are found from the end. -/
def separatedParts (sep : Text) (isBefore : Bool) (t : Text) : List Text :=
  if sep.isEmpty then [t]
  else
    let parts := ((partsBetween sep.reverse (t.length + 1) [] t.reverse).map List.reverse).reverse
    if isBefore then parts.take 1 ++ (parts.drop 1).map (sep ++ ·)
    else parts.dropLast.map (· ++ sep) ++ parts.drop (parts.length - 1)

def tacOptions : Specification :=
  { name := "tac", letters := "brs:",
    words := [("before", 'b', .none), ("regex", 'r', .none), ("separator", 's', .one)] }

/-- Shows files with their parts in reverse. -/
def tacFiles (sep : Text) (isBefore : Bool) : List Text → Job Nat :=
  forAll fun path => do
    match ← Job.readSource path with
    | .error .isDirectory =>
        Job.complain ["tac".toList, readable path, "read error".toList, reason .notText]
        return 1
    | .error e =>
        Job.complain ["tac".toList, "failed to open ".toList ++ quoted path ++ " for reading".toList, reason e]
        return 1
    | .ok content =>
        Job.put (separatedParts sep isBefore content).reverse.flatten
        return 0

def tac : Utility := fun _ arguments =>
  withOptions tacOptions arguments fun g =>
    tacFiles ((g.value? 's').getD ['\n']) (g.has 'b') (if g.operands.isEmpty then [['-']] else g.operands)

def rev : Utility := fun _ arguments =>
  withOptions { name := "rev", letters := "" } arguments fun g => do
    let (files, status) ← sources
      (fun path e => Job.complain ["rev".toList, "cannot open ".toList ++ path, reason e])
      (if g.operands.isEmpty then [['-']] else g.operands)
    Job.put (files.flatMap fun (_, content) => (endedLines '\n' content).flatMap fun line =>
      if line.getLast? == some '\n' then line.dropLast.reverse ++ ['\n'] else line.reverse)
    return status

/-! ## Sizes

Numbers of octets or lines may have a letter behind them, for a power of 1024 or of a thousand.
Several programs read their sizes this way. -/

def powerLetters : Text := "KMGTPEZYRQ".toList

def factor? (suffix : Text) : Option Nat :=
  match suffix with
  | [] => some 1
  | ['b'] => some 512
  | c :: rest =>
      let letter := if c == 'k' || c == 'm' then c.toUpper else c
      match powerLetters.findIdx? (· == letter), rest with
      | some n, [] | some n, ['i', 'B'] => some (Nat.pow 1024 (n + 1))
      | some n, ['B'] | some n, ['D'] => some (Nat.pow 1000 (n + 1))
      | _, _ => none

def count? (t : Text) : Option Nat :=
  let digits := t.takeWhile (Number.isDigit 10)
  if digits.isEmpty then none else (factor? (t.drop digits.length)).map (Number.value 10 digits * ·)

/-- A number between bounds. What is wrong with another text is said behind what it should be. -/
def numberWithin (about : String) (low high : Int) (t : Text) : Except Text Int :=
  let wrong := fun (why : String) => .error (about.toList ++ ": ".toList ++ cited t ++ why.toList)
  let found := Number.read 10 t
  if !found.isNumber || !found.rest.isEmpty then wrong ""
  else if low ≤ found.value && found.value ≤ high && !found.isCut then .ok found.value
  else if found.isCut || found.value > 1073741823 || found.value < -1073741824 then
    wrong ": Value too large for defined data type"
  else wrong ": Numerical result out of range"

/-! ## Copies of the input -/

/-- Puts octets at the ends of files. -/
def teeFiles (content : Text) : List Text → Job Unit
  | [] => return
  | path :: rest => do
      discard (Job.writeFile path true content)
      teeFiles content rest

/-- Opens files, and returns those that can be written. -/
def teeOpen (keep : Bool) : List Text → Job (List Text × Nat)
  | [] => return ([], 0)
  | path :: rest => do
      match ← Job.writeFile path keep [] with
      | .ok _ =>
          let (others, status) ← teeOpen keep rest
          return (path :: others, status)
      | .error e =>
          Job.complain ["tee".toList, readable path, reason e]
          return ((← teeOpen keep rest).1, 1)

def teeOptions : Specification :=
  { name := "tee", letters := "aip",
    words := [("append", 'a', .none), ("ignore-interrupts", 'i', .none), ("output-error", 'o', .optional)],
    check := fun c t =>
      if c == 'o' && !t.isEmpty then
        mistakenWord? ["warn", "warn-nopipe", "exit", "exit-nopipe"] "--output-error" t
      else none }

def tee : Utility := fun _ arguments =>
  withOptions teeOptions arguments fun g => do
    let (paths, status) ← teeOpen (g.has 'a') g.operands
    match ← Job.input with
    | .error e =>
        Job.complain ["tee".toList, "read error".toList, reason e]
        return 1
    | .ok content =>
        Job.put content
        teeFiles content paths
        return status

end SwiftExistential.Utility
