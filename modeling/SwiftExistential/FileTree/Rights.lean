import SwiftExistential.Text.Number

/-!
# Rights of files

The bits of a mode: reading, writing and running, for the user, the group and others, and three
special bits. They are written as octal digits or as clauses of letters.

A clause says whose bits change, how, and which they are. Some letters depend on the file: `X` gives
a right to run only where there is one already or to directories, and a letter for somebody copies
the rights that they have. Where a clause names nobody, the mask of the process takes its part away.
Directories keep their first two special bits unless these are named.
-/

set_option autoImplicit false

namespace SwiftExistential.Rights

/-- The octal digits of a mode, so many at least. -/
def octal (count n : Nat) : Text :=
  let digits := Number.digits 8 n
  List.replicate (count - digits.length) '0' ++ digits

/-- The rights that a mask leaves, in letters. -/
def shown (mask : Nat) : Text :=
  let part := fun (who : Char) (shift : Nat) =>
    let bits := 7 - mask / shift % 8
    [who, '='] ++ (if bits / 4 % 2 = 1 then ['r'] else []) ++ (if bits / 2 % 2 = 1 then ['w'] else []) ++
      (if bits % 2 = 1 then ['x'] else [])
  Text.join [','] [part 'u' 64, part 'g' 8, part 'o' 1]

/-- **The nine letters of a mode.** A special bit stands in place of the right to run. -/
def letters (mode : Nat) : Text :=
  let has := fun (bit : Nat) => mode &&& bit != 0
  let run := fun (bit special : Nat) (mark : Char) =>
    if has special then (if has bit then mark else mark.toUpper) else if has bit then 'x' else '-'
  let plain := fun (bit : Nat) (c : Char) => if has bit then c else '-'
  [plain 0o400 'r', plain 0o200 'w', run 0o100 0o4000 's', plain 0o040 'r', plain 0o020 'w',
    run 0o010 0o2000 's', plain 0o004 'r', plain 0o002 'w', run 0o001 0o1000 't']

def all : Nat := 0o7777

def without (bits others : Nat) : Nat := bits &&& (all - others % 0o10000)

/-- The bits that a letter for someone stands for. -/
def whoBits : Char → Nat
  | 'u' => 0o4700
  | 'g' => 0o2070
  | 'o' => 0o1007
  | _ => all

def rightBits : Char → Nat
  | 'r' => 0o444
  | 'w' => 0o222
  | 'x' => 0o111
  | 's' => 0o6000
  | 't' => 0o1000
  | _ => 0

/-- What one operator of a clause does. -/
structure Step where
  operator : Char
  /-- The bits that are meant, or zero if the clause does not say whose. -/
  affected : Nat
  value : Nat
  /-- The bits that are named. -/
  mentioned : Nat
  /-- Whether the rights of someone are copied. -/
  copies : Bool
  /-- Whether the right to run is given to those files that someone may run. -/
  runsSome : Bool

def Step.run (s : Step) (mask : Nat) (isDirectory : Bool) (mode : Nat) : Nat :=
  let kept := if isDirectory then without 0o6000 s.mentioned else 0
  let copied := mode &&& s.value
  let spread := fun (bits : Nat) => if copied &&& bits != 0 then bits else 0
  let value := if s.copies then copied ||| spread 0o444 ||| spread 0o222 ||| spread 0o111 else s.value
  let value := if s.runsSome && (isDirectory || mode &&& 0o111 != 0) then value ||| 0o111 else value
  let value := without (value &&& (if s.affected != 0 then s.affected else without all mask)) kept
  match s.operator with
  | '+' => mode ||| value
  | '-' => without mode value
  | _ =>
      let preserved := (if s.affected != 0 then without all s.affected else 0) ||| kept
      (mode &&& preserved) ||| value

/-- The steps of one clause behind its letters for someone, with so many operators at most. -/
def readSteps (affected : Nat) : Nat → Text → Option (List Step)
  | 0, _ => none
  | fuel + 1, t =>
      match t with
      | operator :: rest =>
          if !(['+', '-', '='].contains operator) then none
          else
            let digits := rest.takeWhile (Number.isDigit 8)
            let made : Option (Step × Text) :=
              if !digits.isEmpty then
                let n := Number.value 8 digits
                if affected != 0 || n > all then none
                else some (⟨operator, all, n, all, false, false⟩, rest.drop digits.length)
              else match rest with
                | c :: rest' =>
                    if ['u', 'g', 'o'].contains c then
                      let bits := whoBits c &&& 0o777
                      some (⟨operator, affected, bits, if affected != 0 then affected &&& bits else bits, true,
                        false⟩, rest')
                    else
                      let given := rest.takeWhile fun c => "rwxXst".toList.contains c
                      let value := given.foldl (fun n c => n ||| rightBits c) 0
                      some (⟨operator, affected, value, if affected != 0 then affected &&& value else value,
                        false, given.contains 'X'⟩, rest.drop given.length)
                | [] => some (⟨operator, affected, 0, 0, false, false⟩, [])
            match made with
            | none => none
            | some (step, []) => some [step]
            | some (step, rest) => (readSteps affected fuel rest).map (step :: ·)
      | [] => none

def readClause (clause : Text) : Option (List Step) :=
  let who := clause.takeWhile fun c => "ugoa".toList.contains c
  let affected := who.foldl (fun n c => n ||| whoBits c) 0
  readSteps affected (clause.length + 1) (clause.drop who.length)

/-- **The steps of a mode**, written in digits or in clauses. -/
def read? (t : Text) : Option (List Step) :=
  if !t.isEmpty && t.all (Number.isDigit 8) then
    let n := Number.value 8 t
    let mentioned := if t.length < 5 then (n &&& 0o6000) ||| 0o1777 else all
    if n ≤ all then some [⟨'=', all, n, mentioned, false, false⟩] else none
  else (Text.splitOn ',' t).foldr
    (fun clause steps => match readClause clause, steps with
      | some first, some rest => some (first ++ rest)
      | _, _ => none) (some [])

def change (steps : List Step) (mask : Nat) (isDirectory : Bool) (mode : Nat) : Nat :=
  steps.foldl (fun mode step => step.run mask isDirectory mode) mode

end SwiftExistential.Rights
