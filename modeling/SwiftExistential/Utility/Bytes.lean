import SwiftExistential.Utility.Difference

/-!
# Comparing files octet by octet

`cmp` says where two files begin to differ, or lists all octets in which they do. Where one file
ends inside of the other, it says that instead.

Some octets of each file may be passed over, by the same number or by two, and the number of those
that are compared may have a limit. Places are counted from one on behind what was passed over, and
lines from the first of them. The status tells whether the files differ, apart from what is printed.
-/

set_option autoImplicit false

namespace SwiftExistential.Utility

open Process

namespace Bytes

/-- What stands where two texts differ, or which one ends. -/
inductive Meeting where
  | same
  /-- The place and the line of the first difference. -/
  | apart (place line : Nat) (a b : Char)
  /-- How many octets come before the end, the line there, and whether it has begun. -/
  | ends (isFirst : Bool) (place line : Nat) (isInLine : Bool)

/-- Compares texts, behind so many octets and lines. -/
def meeting : Nat → Nat → Bool → Text → Text → Meeting
  | _, _, _, [], [] => .same
  | n, line, isInLine, [], _ => .ends true n line isInLine
  | n, line, isInLine, _, [] => .ends false n line isInLine
  | n, line, _, a :: as, b :: bs =>
      if a == b then meeting (n + 1) (if a == '\n' then line + 1 else line) (a != '\n') as bs
      else .apart (n + 1) line a b

/-- An octet with carets and dashes in place of what cannot be shown. -/
def visible (c : Char) : Text :=
  let low := fun (n : Nat) =>
    if n < 32 then ['^', Char.ofNat (n + 64)] else if n = 127 then ['^', '?'] else [Char.ofNat n]
  if c.toNat < 128 then low c.toNat else 'M' :: '-' :: low (c.toNat - 128)

def octal (c : Char) : Text := padLeft 3 (Number.digits 8 c.toNat)

/-- All differences, in lines with the place in a width. -/
def differences (width : Nat) (showsOctets : Bool) (a b : Text) : Text :=
  ((a.zip b).zipIdx.filter fun ((x, y), _) => x != y).flatMap fun ((x, y), i) =>
    padLeft width (shownNat (i + 1)) ++ ' ' :: octal x ++
      (if showsOctets then ' ' :: padRight 4 (visible x) else []) ++ ' ' :: octal y ++
      (if showsOctets then ' ' :: visible y else []) ++ ['\n']

/-- The factor that letters behind a number stand for. -/
def factor? (t : Text) : Option Nat :=
  match String.ofList t with
  | "" => some 1
  | "k" | "K" | "KiB" | "kiB" => some 1024
  | "kB" | "KB" => some 1000
  | "M" | "MiB" => some 1048576
  | "MB" => some 1000000
  | "G" | "GiB" => some 1073741824
  | "GB" => some 1000000000
  | "T" => some 1099511627776
  | "TB" => some 1000000000000
  | _ => none

/-- A count of octets, which may be followed by a factor. -/
def skipCount? (t : Text) : Option Nat :=
  let found := Number.read 0 t
  if found.isNumber && found.value ≥ 0 && !found.isCut then (factor? found.rest).map (found.value.toNat * ·)
  else none

def options : Specification :=
  { name := "cmp", letters := "bci:ln:sv", mistake := 2,
    words := [("print-bytes", 'b', .none), ("print-chars", 'b', .none), ("ignore-initial", 'i', .one),
      ("verbose", 'l', .none), ("bytes", 'n', .one), ("silent", 's', .none), ("quiet", 's', .none),
      ("version", 'v', .none), ("help", 'h', .none)] }

/-- How many octets are passed over. -/
structure Skips where
  first : Nat
  second : Nat

/-- Takes in what is to be passed over. What is wrong is returned otherwise. -/
def Skips.take (s : Skips) (t : Text) : Except Text Skips :=
  let start := t.takeWhile (· != ':')
  let other := if start.length < t.length then t.drop (start.length + 1) else start
  match skipCount? start, skipCount? other with
  | none, _ => .error (if (Number.read 0 t).isNumber then t else start)
  | _, none => .error other
  | some a, some b => .ok ⟨max s.first a, max s.second b⟩

/-- What the options say: the octets to pass over and how many are compared. What is wrong is
returned otherwise. -/
def limits : Skips → Option Nat → List (Char × Text) → Except Text (Skips × Option Nat)
  | s, n, [] => .ok (s, n)
  | s, n, ('i', t) :: rest =>
      match s.take t with
      | .error t => .error ("invalid --ignore-initial value ".toList ++ inQuotes t)
      | .ok s => limits s n rest
  | s, n, ('n', t) :: rest =>
      match skipCount? t with
      | none => .error ("invalid --bytes value ".toList ++ inQuotes t)
      | some m => limits s (some (min m (n.getD m))) rest
  | s, n, _ :: rest => limits s n rest

/-- How wide the places of differences are. A text that comes from elsewhere may be long. -/
def placeWidth (count : Option Nat) (sizes : List (Option Nat)) : Nat :=
  let known := count.toList ++ sizes.filterMap id
  (Number.digits 10 (known.foldl min 9223372036854775807)).length

/-- **Compares two files**, and says what differs. -/
def compareFiles (g : Given) (s : Skips) (count : Option Nat) (first second : Text) : Job Nat := do
  let tree ← Job.tree
  let known? := fun (path : Text) => if path = ['-'] then none else (Entry.find tree true path).toOption
  let isSame := match known? first, known? second with
    | some a, some b => a.location == b.location
    | none, none => first = ['-'] && second = ['-']
    | _, _ => false
  let sizes := [(first, s.first), (second, s.second)].map fun (path, skip) =>
    (known? path).bind fun e => if e.letter == '-' then some (e.size - skip) else none
  let find? := fun (path : Text) => do
    if path = ['-'] then pure (none : Option FileError)
    else match Entry.find tree true path with
      | .ok _ => pure none
      | .error e => pure (some e)
  let opened ← [first, second].mapM fun path => do pure (path, ← find? path)
  match opened.find? fun (_, e) => e.isSome with
  | some (path, some e) =>
      if !g.has 's' then Job.complain ["cmp".toList, path, reason e]
      return 2
  | _ =>
      if isSame && s.first = s.second then return 0
      else
        let a ← Job.readSource first
        let b ← if first = ['-'] && second = ['-'] then pure (.ok []) else Job.readSource second
        match a, b with
        | .error e, _ =>
            Job.complain ["cmp".toList, first, reason e]
            return 2
        | _, .error e =>
            Job.complain ["cmp".toList, second, reason e]
            return 2
        | .ok a, .ok b =>
            let cut := fun (t : Text) => match count with
              | some n => t.take n
              | none => t
            let a := cut (a.drop s.first)
            let b := cut (b.drop s.second)
            let showsEnd := fun (place : Nat) (behind : Text) => do
              let short := if a.length < b.length then first else second
              if !g.has 's' then
                complain "cmp" ("EOF on ".toList ++ short ++
                  if place = 0 then " which is empty".toList
                  else " after byte ".toList ++ shownNat place ++ behind)
            if g.has 'l' then
              if a.length != b.length then showsEnd (min a.length b.length) []
              let text := differences (placeWidth count sizes) (g.has 'b') a b
              Job.put text
              return if a.length = b.length && text.isEmpty then 0 else 1
            else match meeting 0 1 false a b with
              | .same => return 0
              | .apart place line x y =>
                  if !g.has 's' then
                    Job.putLine (first ++ ' ' :: second ++ " differ: ".toList ++
                      (if g.has 'b' then "byte ".toList else "char ".toList) ++ shownNat place ++
                      ", line ".toList ++ shownNat line ++
                      if g.has 'b' then " is ".toList ++ octal x ++ ' ' :: visible x ++ ' ' :: octal y ++
                        ' ' :: visible y
                      else [])
                  return 1
              | .ends _ place line isInLine =>
                  showsEnd place (if isInLine then ", in line ".toList ++ shownNat line
                    else ", line ".toList ++ shownNat (line - 1))
                  return 1

end Bytes

open Bytes in
def cmp : Utility := fun _ arguments =>
  match readFrom options (arguments.length + 1) arguments with
  | .error mistake => misuseTwice options mistake.message
  | .ok g =>
      match limits ⟨0, 0⟩ none g.options with
      | .error message => misuseTwice options message
      | .ok (s, count) =>
          if g.has 'v' then do
            Job.putVersion "cmp 3.10".toList
            return 0
          else if g.has 's' && g.has 'l' then misuseTwice options "options -l and -s are incompatible".toList
          else match g.operands with
            | [] =>
                misuseTwice options ("missing operand after ".toList ++
                  quoted (arguments.getLast?.getD "cmp".toList))
            | [first] => compareFiles g s count first ['-']
            | first :: second :: skips =>
                let wrong := (skips.take 2).find? fun t => (skipCount? t).isNone
                match wrong, skips with
                | some t, _ => misuseTwice options ("invalid --ignore-initial value ".toList ++ inQuotes t)
                | none, _ :: _ :: extra :: _ => misuseTwice options ("extra operand ".toList ++ quoted extra)
                | none, skips =>
                    let number := fun (i : Nat) => ((skips[i]?).bind skipCount?).getD 0
                    compareFiles g ⟨max s.first (number 0), max s.second (number 1)⟩ count first second

end SwiftExistential.Utility
