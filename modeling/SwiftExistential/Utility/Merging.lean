import SwiftExistential.Utility.Order

/-!
# Programs that merge sorted files

`comm` and `join` walk through two sorted files side by side. A line that comes before the one above
it in its file is reported, once some line has found no partner; the walk goes on all the same.

A walk is an action on the state of both sides. What it writes is kept with the messages in one
order, and both are printed at the end. When order is checked, and whether the walk then stops, is
up to the options.
-/

set_option autoImplicit false

namespace SwiftExistential.Utility

open Process

/-- The octets of two sources, or the first path that cannot be read. -/
def bothSources (first second : Text) : Job (Except (Text × FileError) (Text × Text)) := do
  match ← Job.readSource first, ← Job.readSource second with
  | .ok a, .ok b => return .ok (a, b)
  | .error e, _ => return .error (first, e)
  | _, .error e => return .error (second, e)

/-- How far one of the files has been read. -/
structure Side where
  rest : List Text
  /-- The number of lines that were read. -/
  number : Nat
  /-- The last line and the one before it. -/
  last : Option Text
  beforeLast : Option Text
  /-- Whether its order was reported. -/
  isWarned : Bool

/-- How far two files have been read, and what was written, the last part first, each part with
whether it is a message. -/
structure Walk where
  first : Side
  second : Side
  output : List (Bool × Text)
  /-- Whether a line has found no partner. -/
  hasSingle : Bool

def Walk.start (a b : List Text) : Walk := ⟨⟨a, 0, none, none, false⟩, ⟨b, 0, none, none, false⟩, [], false⟩

/-- Walks, and may be stopped by a line that is not in order. -/
abbrev Walker := EStateM Unit Walk

/-- When the order of lines is checked. -/
inductive OrderCheck where
  | never
  | always
  /-- After a line has found no partner. -/
  | later
deriving DecidableEq, Repr

def orderCheck (g : Given) (always never : Char) : OrderCheck :=
  match g.options.reverse.find? fun (c, _) => c == always || c == never with
  | some (c, _) => if c == always then .always else .never
  | none => .later

namespace Walk

def side (w : Walk) (isSecond : Bool) : Side := if isSecond then w.second else w.first

def setSide (w : Walk) (isSecond : Bool) (s : Side) : Walk :=
  if isSecond then { w with second := s } else { w with first := s }

end Walk

def tell (isMessage : Bool) (t : Text) : Walker Unit :=
  modify fun w => { w with output := (isMessage, t) :: w.output }

/-- Checks the order of two lines of a side. -/
def checkLines (check : OrderCheck) (isSecond : Bool) (isAfter : Text → Text → Bool) (message : Text)
    (previous current : Text) : Walker Unit := do
  let w ← get
  let isChecked := check = .always || (check = .later && w.hasSingle)
  if isChecked && !(w.side isSecond).isWarned && isAfter previous current then
    tell true message
    modify fun w => w.setSide isSecond { w.side isSecond with isWarned := true }
    if check = .always then throw ()

def putWalk (name : String) : List (Bool × Text) → Job Unit
  | [] => return
  | (isMessage, t) :: rest => do
      if isMessage then complain name t else Job.put t
      putWalk name rest

/-- Ends a program whose walk is over. -/
def endWalk (name : String) (isStopped : Bool) (w : Walk) : Job Nat := do
  putWalk name w.output.reverse
  if isStopped then return 1
  else if w.first.isWarned || w.second.isWarned then
    complain name "input is not in sorted order".toList
    return 1
  else return 0

/-! ## Common lines

Lines are in three columns: only in the first file, only in the second, in both. Columns can be left
out. -/

def commOptions : Specification :=
  { name := "comm", letters := "123z",
    words := [("check-order", 'c', .none), ("nocheck-order", 'n', .none), ("output-delimiter", 'd', .one),
      ("total", 't', .none), ("zero-terminated", 'z', .none)] }

/-- The next line of a side. Order is checked, at the end once more for the last two lines. -/
def nextLine (check : OrderCheck) (isSecond : Bool) : Walker (Option Text) := do
  let s := (← get).side isSecond
  let isAfter := fun (a b : Text) => compare a b == .gt
  let message := "file ".toList ++ (if isSecond then '2' else '1') :: " is not in sorted order".toList
  match s.rest with
  | line :: rest =>
      modify fun w => w.setSide isSecond
        { s with rest := rest, number := s.number + 1, last := some line, beforeLast := s.last }
      if let some previous := s.last then checkLines check isSecond isAfter message previous line
      return some line
  | [] =>
      if let (some previous, some last) := (s.beforeLast, s.last) then
        checkLines check isSecond isAfter message previous last
      return none

/-- Walks through lines and puts each into its column: only in the first, only in the second, or in
both. Returns how many there are of each. -/
def walkColumns (check : OrderCheck) (put : Nat → Text → Text) :
    Nat → Option Text → Option Text → Nat × Nat × Nat → Walker (Nat × Nat × Nat)
  | 0, _, _, counts => return counts
  | fuel + 1, a, b, (first, second, both) => do
      let order : Option Ordering := match a, b with
        | none, none => none
        | none, some _ => some .gt
        | some _, none => some .lt
        | some a, some b => some (compare a b)
      match order with
      | none => return (first, second, both)
      | some .eq =>
          tell false (put 2 (b.getD []))
          let a ← nextLineAfter false
          let b ← nextLineAfter true
          walkColumns check put fuel a b (first, second, both + 1)
      | some .lt =>
          modify fun w => { w with hasSingle := true }
          tell false (put 0 (a.getD []))
          let a ← nextLineAfter false
          walkColumns check put fuel a b (first + 1, second, both)
      | some .gt =>
          modify fun w => { w with hasSingle := true }
          tell false (put 1 (b.getD []))
          let b ← nextLineAfter true
          walkColumns check put fuel a b (first, second + 1, both)
where
  /-- The next line of a side. -/
  nextLineAfter (isSecond : Bool) : Walker (Option Text) := nextLine check isSecond

def comm : Utility := fun _ arguments =>
  withOptions commOptions arguments fun g => do
    match g.operands with
    | [first, second] =>
        if ((g.values 'd').eraseReps).length > 1 then
          complain "comm" "multiple output delimiters specified".toList
          return 1
        else
          match ← bothSources first second with
          | .error (path, e) =>
              Job.complain ["comm".toList, readable path, reason e]
              return 1
          | .ok (a, b) =>
              let lineEnd := if g.has 'z' then '\x00' else '\n'
              let delimiter := match g.value? 'd' with
                | some [] => ['\x00']
                | some t => t
                | none => ['\t']
              let shows := fun (column : Nat) => !g.has (Char.ofNat ('1'.toNat + column))
              let put := fun (column : Nat) (line : Text) =>
                if shows column then
                  (List.replicate ((List.range column).countP shows) delimiter).flatten ++ line ++ [lineEnd]
                else []
              let linesA := splitRecords lineEnd [] [] a
              let linesB := splitRecords lineEnd [] [] b
              let check := orderCheck g 'c' 'n'
              let walker : Walker Unit := do
                let a ← nextLine check false
                let b ← nextLine check true
                let (first, second, both) ←
                  walkColumns check put (linesA.length + linesB.length + 1) a b (0, 0, 0)
                if g.has 't' then
                  tell false (Text.join delimiter [shownNat first, shownNat second, shownNat both, "total".toList] ++
                    [lineEnd])
              match walker (.start linesA linesB) with
              | .ok _ w => endWalk "comm" false w
              | .error _ w => endWalk "comm" true w
    | [] => misuse commOptions "missing operand".toList
    | [first] => misuse commOptions ("missing operand after ".toList ++ cited first)
    | _ :: _ :: extra :: _ => misuse commOptions ("extra operand ".toList ++ cited extra)

/-! ## Joined lines

Lines with the same key are joined, each of one file with each of the other. So all lines of a key
are taken from both sides first. -/

/-- A field of the output: the one that lines are joined by, or one of a file, counted from zero. -/
inductive OutputField where
  | key
  | field (isSecond : Bool) (number : Nat)
deriving DecidableEq, Repr

/-- How lines are joined. -/
structure JoinStyle where
  /-- The delimiter, none for blanks. A line end stands for whole lines. -/
  delimiter : Option Char
  firstKey : Nat
  secondKey : Nat
  ignoresCase : Bool
  filler : Text
  output : List OutputField
  /-- How many fields of lines are shown, if all lines have as many. -/
  counts : Option (Nat × Nat)
  showsPairs : Bool
  showsFirst : Bool
  showsSecond : Bool
  check : OrderCheck
  lineEnd : Char

/-- The fields of a line between blanks. A blank at its end makes an empty field. -/
def blankFields : Nat → Text → List Text
  | 0, _ => []
  | fuel + 1, t =>
      let field := t.takeWhile fun c => !isFieldBlank c
      match t.drop field.length with
      | [] => [field]
      | _ :: rest =>
          match rest.dropWhile isFieldBlank with
          | [] => [field, []]
          | rest => field :: blankFields fuel rest

def JoinStyle.fields (s : JoinStyle) (line : Text) : List Text :=
  if line.isEmpty then []
  else match s.delimiter with
    | some '\n' => [line]
    | some d => Text.splitOn d line
    | none =>
        let start := line.dropWhile isFieldBlank
        if start.isEmpty then [] else blankFields (line.length + 1) start

def JoinStyle.key (s : JoinStyle) (isSecond : Bool) (line : Text) : Text :=
  let field := ((s.fields line)[if isSecond then s.secondKey else s.firstKey]?).getD []
  if s.ignoresCase then field.map Char.toLower else field

/-- A line of the output, from lines of which one may be missing. -/
def JoinStyle.joined (s : JoinStyle) (a b : Option Text) : Text :=
  let fieldsA := (a.map s.fields).getD []
  let fieldsB := (b.map s.fields).getD []
  let shown := fun (fields : List Text) (n : Nat) =>
    match fields[n]? with
    | some [] | none => s.filler
    | some t => t
  let key := if a.isSome then shown fieldsA s.firstKey else shown fieldsB s.secondKey
  let others := fun (fields : List Text) (key count : Nat) =>
    ((List.range count).filter (· != key)).map (shown fields)
  let parts := if s.output.isEmpty then
      key :: others fieldsA s.firstKey ((s.counts.map Prod.fst).getD fieldsA.length) ++
        others fieldsB s.secondKey ((s.counts.map Prod.snd).getD fieldsB.length)
    else s.output.map fun
      | .key => key
      | .field isSecond n => shown (if isSecond then fieldsB else fieldsA) n
  let delimiter := match s.delimiter with
    | some '\n' | none => ' '
    | some d => d
  Text.join [delimiter] parts ++ [s.lineEnd]

section

variable (s : JoinStyle) (names : Text × Text)

def joinLine (isSecond : Bool) : Walker (Option Text) := do
  let side := (← get).side isSecond
  match side.rest with
  | [] => return none
  | line :: rest =>
      let number := side.number + 1
      modify fun w => w.setSide isSecond { side with rest := rest, number := number, last := some line }
      if let some previous := side.last then
        let isAfter := fun (a b : Text) => compare (s.key isSecond a) (s.key isSecond b) == .gt
        let name := if isSecond then names.2 else names.1
        checkLines s.check isSecond isAfter
          (name ++ ':' :: shownNat number ++ ": is not sorted: ".toList ++ line) previous line
      return some line

/-- Takes the lines of a side that have a key. Returns them, and the line behind them. -/
def takeSame (isSecond : Bool) (key : Text) : Nat → List Text → Walker (List Text × Option Text)
  | 0, taken => return (taken.reverse, none)
  | fuel + 1, taken => do
      match ← joinLine s names isSecond with
      | none => return (taken.reverse, none)
      | some line =>
          if s.key isSecond line = key then takeSame isSecond key fuel (line :: taken)
          else return (taken.reverse, some line)

/-- Shows a line without a partner, if such lines are shown. -/
def tellSingle (isSecond : Bool) (line : Text) : Walker Unit :=
  if isSecond then
    if s.showsSecond then tell false (s.joined none (some line)) else pure ()
  else if s.showsFirst then tell false (s.joined (some line) none) else pure ()

/-- Walks through both files as long as there are lines in both. Returns the lines that are left. -/
def walkPairs : Nat → Option Text → Option Text → Walker (Option Text × Option Text)
  | 0, a, b => return (a, b)
  | fuel + 1, some a, some b => do
      match compare (s.key false a) (s.key true b) with
      | .lt =>
          tellSingle s false a
          let next ← joinLine s names false
          modify fun w => { w with hasSingle := true }
          walkPairs fuel next (some b)
      | .gt =>
          tellSingle s true b
          let next ← joinLine s names true
          modify fun w => { w with hasSingle := true }
          walkPairs fuel (some a) next
      | .eq =>
          let key := s.key false a
          let (firsts, nextA) ← takeSame s names false key ((← get).first.rest.length + 1) [a]
          let (seconds, nextB) ← takeSame s names true key ((← get).second.rest.length + 1) [b]
          if s.showsPairs then
            tell false (firsts.flatMap fun x => seconds.flatMap fun y => s.joined (some x) (some y))
          walkPairs fuel nextA nextB
  | _, a, b => return (a, b)

/-- Reads the rest of a side, of which all lines have no partner. -/
def walkTail (isSecond : Bool) : Nat → Option Text → Walker Unit
  | 0, _ => return
  | _, none => return
  | fuel + 1, some line => do
      tellSingle s isSecond line
      let isShown := if isSecond then s.showsSecond else s.showsFirst
      let next ← joinLine s names isSecond
      if ((← get).side isSecond).isWarned && !isShown then return else walkTail isSecond fuel next

def walkJoin (hasHeader : Bool) : Walker Unit := do
  let a ← joinLine s names false
  let b ← joinLine s names true
  let (a, b) ← if hasHeader && (a.isSome || b.isSome) then do
      tell false (s.joined a b)
      modify fun w => { w with first := { w.first with last := none }, second := { w.second with last := none } }
      pure (← if a.isSome then joinLine s names false else pure none,
        ← if b.isSome then joinLine s names true else pure none)
    else pure (a, b)
  let w ← get
  let (a, b) ← walkPairs s names (w.first.rest.length + w.second.rest.length + 2) a b
  let w ← get
  let isChecked := s.check != .never && !(w.first.isWarned && w.second.isWarned)
  if s.showsFirst || isChecked then
    if a.isSome && b.isSome then modify fun w => { w with hasSingle := true }
    walkTail s names false (w.first.rest.length + 1) a
  if s.showsSecond || isChecked then walkTail s names true (w.second.rest.length + 1) b

end

def joinOptions : Specification :=
  { name := "join", letters := "a:e:i1:2:j:o:t:v:z",
    words := [("ignore-case", 'i', .none), ("check-order", 'c', .none), ("nocheck-order", 'n', .none),
      ("zero-terminated", 'z', .none), ("header", 'h', .none)] }

def fieldNumber (t : Text) : Except Text Nat :=
  if !t.isEmpty && t.all Char.isDigit && Number.value 10 t > 0 then .ok (Number.value 10 t - 1)
  else .error ("invalid field number: ".toList ++ cited t)

def outputField (t : Text) : Except Text OutputField :=
  match t with
  | ['0'] => .ok .key
  | '0' :: _ => .error ("invalid field specifier: ".toList ++ cited t)
  | '1' :: '.' :: rest => (fieldNumber rest).map (.field false)
  | '2' :: '.' :: rest => (fieldNumber rest).map (.field true)
  | '1' :: _ | '2' :: _ => .error ("invalid field specifier: ".toList ++ cited t)
  | t => .error ("invalid file number in field spec: ".toList ++ cited t)

/-- The key of a side that options ask for. -/
def keyNumber (g : Given) (letters : String) : Except Text Nat := do
  let numbers : List Nat ← (g.options.filter fun (c, _) => letters.toList.contains c).mapM fun (_, t) => fieldNumber t
  match numbers.eraseReps with
  | [] => return 0
  | [n] => return n
  | n :: m :: _ => throw ("incompatible join fields ".toList ++ shownNat n ++ ", ".toList ++ shownNat m)

/-- The way of joining that options ask for. -/
def joinStyle (g : Given) (fields : List Text) : Except Text JoinStyle := do
  let firstKey ← keyNumber g "1j"
  let secondKey ← keyNumber g "2j"
  let files ← (g.options.filter fun (c, _) => c == 'a' || c == 'v').mapM fun (c, t) => do
    match t with
    | ['1'] => return (c, '1')
    | ['2'] => return (c, '2')
    | t => throw ("invalid field number: ".toList ++ cited t)
  let delimiter ← match g.values 't' with
    | [] => pure none
    | first :: others => do
        if others.any (· != first) then throw "incompatible tabs".toList
        match first with
        | [] => pure (some '\n')
        | [c] => pure (some c)
        | ['\\', '0'] => pure (some '\x00')
        | t => throw ("multi-character tab ".toList ++ cited t)
  if ((g.values 'e').eraseReps).length > 1 then throw "conflicting empty-field replacement strings".toList
  let isAuto := g.value? 'o' = some "auto".toList
  let texts := (if isAuto then [] else g.values 'o') ++ fields
  let output ← (texts.flatMap fun t => (t.splitBy fun a b =>
    (a == ',' || isFieldBlank a) == (b == ',' || isFieldBlank b)).filter fun part =>
      part.any fun c => c != ',' && !isFieldBlank c).mapM outputField
  return {
    delimiter := delimiter, firstKey := firstKey, secondKey := secondKey, ignoresCase := g.has 'i',
    filler := (g.value? 'e').getD [], output := output, counts := none, showsPairs := !g.has 'v',
    showsFirst := files.any fun (_, n) => n == '1', showsSecond := files.any fun (_, n) => n == '2',
    check := orderCheck g 'c' 'n', lineEnd := if g.has 'z' then '\x00' else '\n' }

def join : Utility := fun _ arguments =>
  withOptions joinOptions arguments fun g => do
    let extra := if g.has 'o' then g.operands.length - 2 else 0
    match joinStyle g (g.operands.take extra), g.operands.drop extra with
    | .error message, _ =>
        complain "join" message
        return 1
    | _, [] => misuse joinOptions "missing operand".toList
    | _, [first] => misuse joinOptions ("missing operand after ".toList ++ cited first)
    | _, _ :: _ :: extra :: _ => misuse joinOptions ("extra operand ".toList ++ quoted extra)
    | .ok style, [first, second] =>
        if first = ['-'] && second = ['-'] then
          complain "join" "both files cannot be standard input".toList
          return 1
        else
          match ← bothSources first second with
          | .error (path, e) =>
              if e = .isDirectory then complain "join" "read error: Is a directory".toList
              else Job.complain ["join".toList, readable path, reason e]
              return 1
          | .ok (a, b) =>
              let linesA := splitRecords style.lineEnd [] [] a
              let linesB := splitRecords style.lineEnd [] [] b
              let count := fun (lines : List Text) => (style.fields (lines.headD [])).length
              let style := if g.value? 'o' = some "auto".toList then
                  { style with counts := some (count linesA, count linesB) }
                else style
              match walkJoin style (first, second) (g.has 'h') (.start linesA linesB) with
              | .ok _ w => endWalk "join" false w
              | .error _ w => endWalk "join" true w

end SwiftExistential.Utility
