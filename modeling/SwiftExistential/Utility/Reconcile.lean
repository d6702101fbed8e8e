import SwiftExistential.Utility.Difference
import SwiftExistential.Utility.Difference.ThreeWay

/-!
# Two files side by side, and three files

`sdiff` shows two files next to each other. `diff3` compares two files with a third one, and can
bring the changes of one into another.

Both use the comparison of two files and add little to it: the first turns its options into those of
`diff`, the second compares both files with the common one and merges the steps.
-/

set_option autoImplicit false

namespace SwiftExistential.Utility.Reconcile

open Process Difference

/-! ## Two files -/

def pairOptions : Specification :=
  { name := "sdiff", letters := "abBdEHiI:lo:stvw:WZ", mistake := 2,
    words := [("diff-program", 'P', .one), ("expand-tabs", 't', .none), ("ignore-all-space", 'W', .none),
      ("ignore-blank-lines", 'B', .none), ("ignore-case", 'i', .none), ("ignore-matching-lines", 'I', .one),
      ("ignore-space-change", 'b', .none), ("ignore-tab-expansion", 'E', .none),
      ("ignore-trailing-space", 'Z', .none), ("left-column", 'l', .none), ("minimal", 'd', .none),
      ("output", 'o', .one), ("speed-large-files", 'H', .none), ("strip-trailing-cr", 'R', .none),
      ("suppress-common-lines", 's', .none), ("tabsize", 'T', .one), ("text", 'a', .none),
      ("version", 'v', .none), ("width", 'w', .one)] }

/-- The arguments that stand for an option where two files are compared. -/
def pairArguments (o : Char × Text) : List Text :=
  match o.1 with
  | 'H' => ["--speed-large-files".toList]
  | 'I' => ["-I".toList, o.2]
  | 'l' => ["--left-column".toList]
  | 's' => ["--suppress-common-lines".toList]
  | 'w' => ["-W".toList, o.2]
  | 'W' => ["-w".toList]
  | 'R' => ["--strip-trailing-cr".toList]
  | 'T' => ["--tabsize".toList ++ '=' :: o.2]
  | 'P' | 'o' | 'v' => []
  | c => [['-', c]]

end Reconcile

open Process Reconcile in
def sdiff : Utility := fun seat arguments => do
  match readFrom pairOptions (arguments.length + 1) arguments with
  | .error mistake => misuseTwice pairOptions mistake.message
  | .ok g =>
      if g.has 'v' || g.has versionMark then
        Job.putVersion "sdiff 3.10".toList
        return 0
      else if g.has helpMark then
        Job.putLine (Manual.useLine "sdiff")
        return 0
      else match g.operands with
        | [a, b] => diff seat (g.options.flatMap pairArguments ++ ["-y".toList, "--".toList, a, b])
        | _ :: _ :: extra :: _ => misuseTwice pairOptions ("extra operand ".toList ++ quoted extra)
        | _ =>
            misuseTwice pairOptions
              ("missing operand after ".toList ++ quoted ((arguments.getLast?).getD "sdiff".toList))

namespace Reconcile

open Process Difference

/-! ## Three files -/

def options : Specification :=
  { name := "diff3", letters := "aeimvx3AEL:TX", mistake := 2,
    words := [("diff-program", 'P', .one), ("easy-only", '3', .none), ("ed", 'e', .none),
      ("initial-tab", 'T', .none), ("label", 'L', .one), ("merge", 'm', .none), ("overlap-only", 'x', .none),
      ("show-all", 'A', .none), ("show-overlap", 'E', .none), ("strip-trailing-cr", 'R', .none),
      ("text", 'a', .none), ("version", 'v', .none)] }

/-- What the options ask for. -/
structure Request where
  isMerge : Bool
  isScript : Bool
  /-- Whether the editor is to write the file. -/
  isWritten : Bool
  isText : Bool
  ignoresReturns : Bool
  mark : Text
  wanted : Wanted
  labels : List Text

def Request.of (g : Given) : Except Text Request :=
  let kinds := g.options.filter fun (c, _) => "AeExX3".toList.contains c
  let isMerge := g.has 'm'
  let isPlainMerge := isMerge && kinds.isEmpty
  let flags := g.has 'A' || g.has 'E' || isPlainMerge
  let labels := g.values 'L'
  if labels.length > 3 then .error "too many file label options".toList
  else if kinds.length > 1 || (g.has 'i' && isMerge) || (!labels.isEmpty && !flags) then
    .error "incompatible options".toList
  else
    .ok
      { isMerge, isScript := !kinds.isEmpty && !isMerge, isWritten := g.has 'i', isText := g.has 'a',
        ignoresReturns := g.has 'R', mark := if g.has 'T' then ['\t'] else [' ', ' '],
        wanted := ⟨g.has 'A' || isPlainMerge, flags, g.has 'x' || g.has 'X', g.has '3'⟩, labels }

abbrev Found := Except FileError Text

/-- Reads files in their order. The input is read once. -/
def readAll : List Text → Job (List (Text × Found))
  | [] => return []
  | name :: rest => do
      let found ← Job.readSource name
      return (name, found) :: (← readAll rest)

def isDirectory (f : Found) : Bool :=
  match f with
  | .error .isDirectory => true
  | _ => false

/-- Why a file cannot be compared with the common one. The flag says whether it is said in the name
of the program that compares two files. -/
def fault? (isText : Bool) (a b : Text × Found) : Option (List (Bool × Text)) :=
  let missing := [a, b].filterMap fun (name, found) =>
    match found with
    | .error .isDirectory => none
    | .error e => some (true, name ++ ": ".toList ++ reason e)
    | .ok _ => none
  let kind := fun (f : Found) => if isDirectory f then "a directory" else "a regular file"
  let failed := fun (message : Text) => some [(false, "diff failed: ".toList ++ message)]
  if !missing.isEmpty then
    some (missing ++ [(false, "subsidiary program 'diff' failed (exit status 2)".toList)])
  else if isDirectory a.2 != isDirectory b.2 then
    failed ("File ".toList ++ a.1 ++ (" is " ++ kind a.2 ++ " while file ").toList ++ b.1 ++
      (" is " ++ kind b.2).toList)
  else match a.2, b.2 with
    | .ok first, .ok second =>
        if !isText && (isBinary first || isBinary second) && first != second then
          failed ("Binary files ".toList ++ a.1 ++ " and ".toList ++ b.1 ++ " differ".toList)
        else none
    | _, _ => none

def regard (ignoresReturns : Bool) : Regard := ⟨false, .all, ignoresReturns, false, [], false, true, 8⟩

/-- How often a last line without an end is part of a step. -/
def openEnds (own common : List Line) (steps : List Step) : Nat :=
  let counts := steps.map fun s =>
    ((s.own.lines own.toArray ++ s.common.lines common.toArray).filter fun l => !l.hasEnd).length
  counts.foldl (· + ·) 0

def compare (r : Request) (names : List Text) (common : Nat) (found : List (Text × Found)) : Job Nat := do
  let file := fun (i : Nat) => (found[i]?).getD ([], .ok [])
  let other := 3 - common
  let report := fun (faults : List (Bool × Text)) => do
    faults.forM fun (isPair, message) => complain (if isPair then "diff" else "diff3") message
    pure 2
  match fault? r.isText (file other) (file common) with
  | some faults => report faults
  | none =>
  match fault? r.isText (file 0) (file common) with
  | some faults => report faults
  | none =>
      let content := fun (i : Nat) => match (file i).2 with
        | .ok t => linesOf t
        | .error _ => []
      let change := fun (i : Nat) => steps (regard r.ignoresReturns) (content i) (content common)
      let (one, two) := (change 0, change other)
      let files := [0, 1, 2].map fun i => (content i).toArray
      let regions := (pieces one two).map (Region.ofPiece files common)
      let conflicts := regions.filter fun region => r.wanted.conflict? region == some true
      let status := if conflicts.isEmpty then 0 else 1
      if r.isScript then
        let count := openEnds (content other) (content common) two + openEnds (content 0) (content common) one
        (List.range count).forM fun _ => complain "diff3" "No newline at end of file".toList
        Job.put (regions.reverse.flatMap fun region =>
          match r.wanted.conflict? region with
          | some isConflict => regionCommands r.wanted names files region isConflict
          | none => [])
        if r.isWritten then Job.put "w\nq\n".toList
        return status
      else if r.isMerge then
        if (file 0).1 = ['-'] then
          report [(false, "failed to reopen '-' with mode 'r': No such file or directory".toList)]
        else
          Job.put (merged r.wanted names files (content 0).toArray 0 regions)
          return status
      else
        Job.put (regions.flatMap (regionText files r.mark))
        return 0

end Reconcile

open Process Reconcile Difference in
def diff3 : Utility := fun _ arguments => do
  match readFrom Reconcile.options (arguments.length + 1) arguments with
  | .error mistake => misuseTwice Reconcile.options mistake.message
  | .ok g =>
      if g.has 'v' || g.has versionMark then
        Job.putVersion "diff3 3.10".toList
        return 0
      else if g.has helpMark then
        Job.putLine (Manual.useLine "diff3")
        return 0
      else match Reconcile.Request.of g, g.operands with
        | .error message, _ => misuseTwice Reconcile.options message
        | .ok r, [a, b, c] =>
            let paths := [a, b, c]
            let usual := if r.isScript || r.isMerge then 1 else 2
            let isInput := fun (i : Nat) => paths[i]? == some ['-']
            let common := if isInput usual then 3 - usual else usual
            if isInput usual && (isInput 0 || isInput common) then
              complain "diff3" "'-' specified for more than one input file".toList
              return 2
            else
              let names := r.labels ++ paths.drop r.labels.length
              Reconcile.compare r names common (← readAll paths.reverse).reverse
        | .ok _, _ :: _ :: _ :: extra :: _ => misuseTwice Reconcile.options ("extra operand ".toList ++ quoted extra)
        | .ok _, _ =>
            misuseTwice Reconcile.options
              ("missing operand after ".toList ++ quoted ((arguments.getLast?).getD "diff3".toList))

end SwiftExistential.Utility
