import SwiftExistential.Utility.Content

/-!
# Lines in any order

`shuf` prints lines in an order that is as good as any other: as they stand.

A program whose order nobody can predict may print any of them, and this model takes the simplest.
What can be predicted is kept: which lines are printed and how many, from a file, from a range of
numbers or from the arguments, with repetitions if that is asked for, and what is wrong with the
options.
-/

set_option autoImplicit false

namespace SwiftExistential.Utility

open Process

def shufOptions : Specification :=
  { name := "shuf", letters := "ei:n:o:rz",
    words := [("echo", 'e', .none), ("head-count", 'n', .one), ("input-range", 'i', .one), ("output", 'o', .one),
      ("random-source", 'S', .one), ("repeat", 'r', .none), ("zero-terminated", 'z', .none)] }

def rangeOf? (t : Text) : Option (List Text) :=
  match Text.splitAtPart? ['-'] t with
  | some (low, high) =>
      let isNumber := fun (t : Text) => !t.isEmpty && t.all Char.isDigit
      if !isNumber low || !isNumber high then none
      else
        let a := Number.value 10 low
        let b := Number.value 10 high
        if a > b + 1 then none else some ((List.range (b + 1 - a)).map fun k => shownNat (a + k))
  | none => none

/-- The lines that are asked for, or why there are none. -/
def shufLines (g : Given) : Job (Except (Job Nat) (List Text)) := do
  let failed := fun (message : Text) => do
    complain "shuf" message
    pure 1
  let lineEnd := if g.has 'z' then '\x00' else '\n'
  match g.values 'i', g.has 'e', g.operands with
  | _ :: _ :: _, _, _ => return .error (failed "multiple -i options specified".toList)
  | [t], isEcho, operands =>
      match rangeOf? t, isEcho, operands with
      | none, _, _ => return .error (failed ("invalid input range: ".toList ++ cited t))
      | some _, true, _ => return .error (misuse shufOptions "cannot combine -e and -i options".toList)
      | some _, false, extra :: _ => return .error (misuse shufOptions ("extra operand ".toList ++ cited extra))
      | some lines, false, [] => return .ok lines
  | [], true, operands => return .ok operands
  | [], false, _ :: extra :: _ => return .error (misuse shufOptions ("extra operand ".toList ++ cited extra))
  | [], false, operands =>
      let path := operands.headD ['-']
      match ← Job.readSource path with
      | .ok content => return .ok (splitRecords lineEnd [] [] content)
      | .error .isDirectory => return .error (failed "read error: Is a directory".toList)
      | .error e => return .error (failed (readable path ++ ": ".toList ++ reason e))

/-- The first of some lines over and over, so many. -/
def repeated (count : Nat) (lines : List Text) : List Text :=
  (List.range count).map fun k => lines.getD (k % lines.length) []

/-- How many lines are printed at most where there is no end. -/
def endlessLines : Nat := 20000

def shuf : Utility := fun _ arguments =>
  withOptions shufOptions arguments fun g => do
    match (g.values 'n').find? fun t => t.isEmpty || !t.all Char.isDigit with
    | some t =>
        complain "shuf" ("invalid line count: ".toList ++ cited t)
        return 1
    | none =>
        let most := (g.values 'n').map (Number.value 10)
        let count := most.foldl (fun least n => some (least.elim n (min n))) (none : Option Nat)
        match ← shufLines g with
        | .error ended => ended
        | .ok lines =>
            if g.has 'r' && lines.isEmpty && count != some 0 then
              complain "shuf" "no lines to repeat".toList
              return 1
            else
              let chosen := if g.has 'r' then repeated (count.getD endlessLines) lines
                else lines.take (count.getD lines.length)
              let text := chosen.flatMap (· ++ [if g.has 'z' then '\x00' else '\n'])
              match g.value? 'o' with
              | none =>
                  Job.put text
                  return 0
              | some path =>
                  match ← Job.writeFile path false text with
                  | .ok _ => return 0
                  | .error e =>
                      Job.complain ["shuf".toList, readable path, reason e]
                      return 1

end SwiftExistential.Utility
