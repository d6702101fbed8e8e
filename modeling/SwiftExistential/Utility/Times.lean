import SwiftExistential.Moment.Basic
import SwiftExistential.Moment.Reader
import SwiftExistential.Utility.Backup

/-!
# Programs about times

`touch` sets the times of files, and `date` shows moments. Both read moments that people have
written, and both may take one from a file.
-/

set_option autoImplicit false

namespace SwiftExistential.Utility

open Process

def present : Job Int := do
  let m ← get
  return FileTree.start + (m.clock * 1000 : Nat)

/-! ## Times of files

There are two times of a file: of the last access and of the last change. A file that is missing is
made, unless that is not wanted. -/

/-- The moment of digits: month, day, hour and minute, and seconds behind a point. A year that may
be left out stands before them or behind them. -/
def stampOf? (isYearLast : Bool) (now : Int) (t : Text) : Option Int :=
  let digits := t.takeWhile Char.isDigit
  let seconds : Option Nat := match t.drop digits.length with
    | [] => some 0
    | ['.', a, b] => if a.isDigit && b.isDigit then some (Number.value 10 [a, b]) else none
    | _ => none
  let places := digits.length - 8
  let (written, rest) := if isYearLast then (digits.drop 8, digits.take 8)
    else (digits.take places, digits.drop places)
  let y := Number.value 10 written
  let year : Option Int := match digits.length with
    | 8 => some (Moment.civil now).year
    | 10 => some (if y < 69 then y + 2000 else y + 1900 : Nat)
    | 12 => some (y : Int)
    | _ => none
  match seconds, year with
  | some seconds, some year =>
      let n := fun (i : Nat) => Number.value 10 ((rest.drop (2 * i)).take 2)
      let isDay := Moment.dayOf (Moment.daysTo year (n 0) (n 1)) = (year, n 0, n 1)
      if isDay && n 2 < 24 && n 3 < 60 && seconds < 61 then
        some (Moment.Civil.moment ⟨year, n 0, n 1, n 2, n 3, seconds, 0⟩)
      else none
  | _, _ => none

/-- The words for the times of a file. The flag is for the time of the last change. -/
def timeWords : List (String × Bool) :=
  [("atime", false), ("access", false), ("use", false), ("mtime", true), ("modify", true)]

def touchOptions : Specification :=
  { name := "touch", letters := "acd:fhmr:t:",
    words := [("date", 'd', .one), ("no-create", 'c', .none), ("no-dereference", 'h', .none),
      ("reference", 'r', .one), ("time", 'T', .one)],
    check := fun c t =>
      if c == 'T' then mistakenChoice? timeWords "--time" ["'atime', 'access', 'use'", "'mtime', 'modify'"] t
      else none }

def touchOne (g : Given) (setsAccess setsChange : Bool) (access change : Option Int) (path : Text) : Job Nat := do
  let tree ← Job.tree
  let now := tree.moment
  let setTimes := fun (tree : FileTree) (location : Location) =>
    let old := tree.recordAt location
    tree.setRecord location { old with
      accessed := if setsAccess then access.getD now else old.accessed,
      modified := if setsChange then change.getD now else old.modified }
  let failed := fun (what : String) (e : FileError) => do
    complainOf "touch" what path e
    pure 1
  if path = ['-'] then return 0
  else match tree.locate (!g.has 'h') (Octets.toText path) with
    | .ok ⟨location, some _⟩ =>
        Job.setTree (setTimes tree location)
        return 0
    | found =>
        let e := match found with
          | .ok _ => .notFound
          | .error e => e
        if g.has 'c' && e = .notFound then return 0
        else if g.has 'c' || g.has 'h' || path.getLast? = some '/' then failed "setting times of " e
        else match tree.openFile (Octets.toText path) true (← Job.fileMode) with
          | .ok (location, tree) =>
              Job.setTree (setTimes tree location)
              return 0
          | .error e => failed "cannot touch " e

/-- The access and the change that options ask for, or a value that is no moment. -/
def askedTimes (g : Given) (now : Int) (reference : Option (Int × Int)) : Except Text (Option (Int × Int)) :=
  let found := fun (t : Text) (m : Option Int) => m.elim (Except.error t) Except.ok
  let read := fun (now : Int) (t : Text) => found t (Moment.ofText? now t)
  match g.value? 't', g.value? 'd', reference with
  | some t, _, _ => (found t (stampOf? false now t)).map fun m => some (m, m)
  | none, some d, some (a, c) => do return some (← read a d, ← read c d)
  | none, some d, none => (read now d).map fun m => some (m, m)
  | none, none, reference => .ok reference

def touch : Utility := fun _ arguments =>
  withOptions touchOptions arguments fun g => do
    let now ← present
    let words := (g.values 'T').filterMap (choice? timeWords)
    let onlyAccess := g.has 'a' || words.contains false
    let onlyChange := g.has 'm' || words.contains true
    let wrong := fun (t : Text) => do
      complain "touch" ("invalid date format ".toList ++ cited t)
      pure 1
    match (g.values 't').find? fun t => (stampOf? false now t).isNone with
    | some t => wrong t
    | none =>
        if g.has 't' && (g.has 'r' || g.has 'd') then
          misuse touchOptions "cannot specify times from more than one source".toList
        else
          let reference ← match g.value? 'r' with
            | none => pure (Except.ok (none : Option (Int × Int)))
            | some path =>
                match Entry.find (← Job.tree) (!g.has 'h') path with
                | .ok e => pure (.ok (some (e.record.accessed, e.record.modified)))
                | .error e => pure (.error (path, e))
          match reference with
          | .error (path, e) =>
              complainOf "touch" "failed to get attributes of " path e
              return 1
          | .ok reference =>
              match askedTimes g now reference with
              | .error t => wrong t
              | .ok times =>
                  if g.operands.isEmpty then misuse touchOptions "missing file operand".toList
                  else
                    let both := onlyAccess == onlyChange
                    forAll (touchOne g (both || onlyAccess) (both || onlyChange) (times.map Prod.fst)
                      (times.map Prod.snd)) g.operands

/-! ## Dates

Moments are shown in a format, in one of the usual ones if none is given. The clock itself is never
set: who asks for that is refused, and sees the moment all the same. -/

def isoFormats (isSpaced : Bool) : List (String × String) :=
  let sep := if isSpaced then " " else "T"
  let precisions := [("hours", "%Y-%m-%d" ++ sep ++ "%H%:z"), ("minutes", "%Y-%m-%d" ++ sep ++ "%H:%M%:z"),
    ("date", "%Y-%m-%d"), ("seconds", "%Y-%m-%d" ++ sep ++ "%H:%M:%S%:z"),
    ("ns", "%Y-%m-%d" ++ sep ++ "%H:%M:%S" ++ (if isSpaced then "." else ",") ++ "%N%:z")]
  if isSpaced then precisions.drop 2 else precisions

def dateOptions : Specification :=
  { name := "date", letters := "d:f:I::r:Rs:u",
    words := [("date", 'd', .one), ("debug", 'D', .none), ("file", 'f', .one), ("iso-8601", 'I', .optional),
      ("reference", 'r', .one), ("resolution", 'q', .none), ("rfc-2822", 'R', .none), ("rfc-3339", '3', .one),
      ("rfc-email", 'R', .none), ("set", 's', .one), ("universal", 'u', .none), ("utc", 'u', .none)],
    check := fun c t =>
      let word := fun (isSpaced : Bool) (option : String) =>
        mistakenChoice? (isoFormats isSpaced) option (linesOfWords ((isoFormats isSpaced).map Prod.fst)) t
      if c == 'I' && !t.isEmpty then word false "--iso-8601"
      else if c == '3' then word true "--rfc-3339"
      else none }

def formatOf? : Char × Text → Option Text
  | ('R', _) => some "%a, %d %b %Y %H:%M:%S %z".toList
  | ('I', t) => if t.isEmpty then some "%Y-%m-%d".toList else (choice? (isoFormats false) t).map String.toList
  | ('3', t) => (choice? (isoFormats true) t).map String.toList
  | _ => none

def askedFormats (g : Given) : List Text :=
  g.options.filterMap formatOf? ++ match g.operands with
    | ('+' :: format) :: _ => [format]
    | _ => []

/-- Shows a moment. Years are counted up to a limit. -/
def showMoment (format : Text) (m : Int) : Job Nat := do
  if Moment.Said.isYear (Moment.civil m).year then
    Job.putLine (Moment.format m format)
    return 0
  else
    complain "date" ("time ".toList ++ cited (toString (Moment.seconds m)).toList ++ " is out of range".toList)
    return 1

def showText (format : Text) (now : Int) (t : Text) : Job Nat := do
  match Moment.ofText? now t with
  | some m => showMoment format m
  | none =>
      complain "date" ("invalid date ".toList ++ cited t)
      return 1

/-- Says that the clock is not to be set, and shows what it would be. -/
def refuseToSet (format : Text) (t : Text) (m : Option Int) : Job Nat := do
  match m with
  | none =>
      complain "date" ("invalid date ".toList ++ cited t)
      return 1
  | some m =>
      Job.complain ["date".toList, "cannot set date".toList, "Operation not permitted".toList]
      discard (showMoment format m)
      return 1

def showAsked (g : Given) (format : Text) : Job Nat := do
  let now ← present
  let failed := fun (path : Text) (e : FileError) => do
    Job.complain ["date".toList, readable path, reason e]
    pure 1
  match g.value? 'f', g.value? 'r', g.value? 'd', g.value? 's', g.operands with
  | some path, _, _, _, _ =>
      match ← Job.readSource path with
      | .error e => failed path e
      | .ok content => forAll (showText format now) (records content)
  | none, some path, _, _, _ =>
      match Entry.find (← Job.tree) true path with
      | .error e => failed path e
      | .ok e => showMoment format e.record.modified
  | none, none, some t, _, _ => showText format now t
  | none, none, none, some t, _ => refuseToSet format t (Moment.ofText? now t)
  | none, none, none, none, operands =>
      if g.has 'q' then showMoment format 1
      else match operands.find? fun t => t.head? != some '+' with
        | some t => refuseToSet format t (stampOf? true now t)
        | none => showMoment format now

def date : Utility := fun _ arguments =>
  withOptions dateOptions arguments fun g => do
    let sources := (['d', 'f', 'r', 'q'].filter g.has).length
    let formats := askedFormats g
    let usual := if g.has 'q' then "%s.%N" else "%a %b %e %H:%M:%S %Z %Y"
    if (g.options.filterMap formatOf?).length > 1 then
      complain "date" "multiple output formats specified".toList
      return 1
    else if sources > 1 then
      misuse dateOptions "the options to specify dates for printing are mutually exclusive".toList
    else if sources > 0 && g.has 's' then
      misuse dateOptions "the options to print and set the time may not be used together".toList
    else match g.operands with
      | _ :: extra :: _ => misuse dateOptions ("extra operand ".toList ++ cited extra)
      | operands =>
          match operands.find? fun t => t.head? != some '+' with
          | some other =>
              if sources > 0 || g.has 's' then
                misuse dateOptions ("the argument ".toList ++ cited other ++ " lacks a leading '+';\n".toList ++
                  ("when using an option to specify date(s), any non-option\n" ++
                    "argument must be a format string beginning with '+'").toList)
              else showAsked g (formats.headD usual.toList)
          | none =>
              if formats.length > 1 then
                complain "date" "multiple output formats specified".toList
                return 1
              else showAsked g (formats.headD usual.toList)

end SwiftExistential.Utility
