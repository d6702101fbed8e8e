import SwiftExistential.Moment.Basic
import SwiftExistential.Utility.Awk.State

/-!
# Running pattern programs

What a pattern program does, statement by statement. The rules for the start are run first, then the
rules for each record, and the rules for the end at last.

Expressions and statements run in `Run`, an action on the state of the program that may be stopped:
by a jump, by the end of the program, or because the program is given up. Running is recursive on a
number that bounds how deep a program goes, and loops have a bound of their own.
-/

set_option autoImplicit false

namespace SwiftExistential.Utility.Awk

open Process

/-- What does not change while a program runs. -/
structure Setting where
  launch : Launch
  functions : List (Text × Function)

/-- Where a value is kept. -/
inductive Place where
  | name (n : Name)
  | cell (table : Text) (key : Key)
  | field (n : Nat)

/-! ## Arithmetic -/

/-- What is left of a division of floating point numbers, with the sign of the first one. -/
def remainder (x y : Float) : Float :=
  match Real.form x, Real.form y with
  | .finite isNegative a, .finite _ b =>
      if b.mantissa = 0 then 0.0 / 0.0
      else
        let low := min a.exponent b.exponent
        let shifted := fun (d : Real.Dyadic) => d.mantissa * Nat.pow 2 (d.exponent - low).toNat
        let r := Float.scaleB (Float.ofNat (shifted a % shifted b)) low
        if isNegative then -r else r
  | .finite .., .infinite _ => x
  | _, _ => 0.0 / 0.0

/-- A floating point number without its fraction. -/
def truncated (x : Float) : Float := if x < 0 then x.ceil else x.floor

def Operator.apply : Operator → Float → Float → Float
  | add, x, y => x + y
  | subtract, x, y => x - y
  | multiply, x, y => x * y
  | divide, x, y => x / y
  | remainder, x, y => Awk.remainder x y
  | power, x, y => Float.pow x y

/-! ## Texts

Places in a text are counted from one on. A part that begins or ends outside of the text is cut to
it. -/

/-- The part of a text that begins at a place and has so many characters. -/
def part (t : Text) (start : Float) (length : Option Float) : Text :=
  let start := toInt start
  let from' := if start < 1 then [] else t.take (start.toNat - 1)
  let rest := t.drop from'.length
  if start > t.length then []
  else match length with
    | none => rest
    | some n =>
        let n := if start < 1 then toInt n - start else toInt n
        rest.take n.toNat

def indexOf (wanted : Text) : Nat → Text → Nat
  | _, [] => 0
  | n, c :: rest => if wanted.isPrefixOf (c :: rest) then n else indexOf wanted (n + 1) rest

/-- What is put in the place of a fit, behind so many backslashes. Each pair of them before the sign
for what was taken stands for one, and an odd one hides the sign. -/
def replacement (taken : Text) : Nat → Text → Text
  | n, '\\' :: rest => replacement taken (n + 1) rest
  | n, '&' :: rest =>
      List.replicate (n / 2) '\\' ++ (if n % 2 = 1 then ['&'] else taken) ++ replacement taken 0 rest
  | n, c :: rest => List.replicate n '\\' ++ c :: replacement taken 0 rest
  | n, [] => List.replicate n '\\'

/-- Replaces fits in a text, with so many steps at most. The flag says whether a fit has just ended.
Returns how many were replaced. -/
def replaceFits (e : Expression) (isAll : Bool) (by' : Text) : Nat → Bool → Option Char → Text → Text × Nat
  | 0, _, _, t => (t, 0)
  | fuel + 1, justEnded, before, t =>
      match Pattern.find? e before t with
      | none => (t, 0)
      | some f =>
          if f.taken.isEmpty && f.skipped.isEmpty && justEnded then
            match t with
            | [] => ([], 0)
            | c :: rest =>
                let (others, n) := replaceFits e isAll by' fuel false (some c) rest
                (c :: others, n)
          else
            let shown := f.skipped ++ replacement f.taken 0 by'
            if !isAll then (shown ++ f.rest, 1)
            else if f.taken.isEmpty then
              match f.rest with
              | [] => (shown, 1)
              | c :: rest =>
                  let (others, n) := replaceFits e isAll by' fuel false (some c) rest
                  (shown ++ c :: others, n + 1)
            else
              let (others, n) := replaceFits e isAll by' fuel true f.before f.rest
              (shown ++ others, n + 1)

namespace Run

/-! ## Names and tables

A parameter holds a value or leads to a table. A table that is made inside of a function belongs to
the call. -/

def tableKey : Name → Run Text
  | .shared t => return t
  | .own index => do
      match (← get).frame[index]? with
      | some (.table key) => return key
      | _ =>
          let n := (← get).tableCount
          let key := '\x00' :: Number.digits 10 n
          modify fun s => { s with tableCount := n + 1, frame := s.frame.setIfInBounds index (.table key) }
          return key

def isTable : Name → Run Bool
  | .shared t => do return (← get).tables.contains t
  | .own index => do
      match (← get).frame[index]? with
      | some (.table _) => return true
      | _ => return false

def table (key : Text) : Run Table := do return ((← get).tables[key]?).getD .empty

def setTable (key : Text) (t : Table) : Run Unit :=
  modify fun s => { s with tables := s.tables.insert key t }

def nameValue : Name → Run Value
  | .shared t => do
      if t = "NF".toList then return .ofNat (← fieldCount) else valueOf t
  | .own index => do
      match (← get).frame[index]? with
      | some (.value v) => return v
      | _ => return .unset

def load : Place → Run Value
  | .name n => nameValue n
  | .cell key k => do
      let (v, t) := (← table key).get k
      setTable key t
      return v
  | .field n => field n

def store (p : Place) (v : Value) : Run Unit := do
  match p with
  | .name (.shared t) => setName t v
  | .name (.own index) => modify fun s => { s with frame := s.frame.setIfInBounds index (.value v) }
  | .cell key k => setTable key ((← table key).set k v)
  | .field n => setField n v

def largestKey : Int := 2147483647

def keyOf (v : Value) : Run Key := do
  match v with
  | .number x =>
      match whole? x with
      | some n => return if n.natAbs ≤ largestKey.toNat then .number n else .text (Number.shown n)
      | none => return .text ((← conversion) x)
  | v => return .text (← textOf v)

def patternOf (t : Text) : Run Expression := do
  match Pattern.read t with
  | .ok e => return e
  | .error m => failPattern t m

/-! ## Functions that every program has -/

def matchIn (t : Text) (e : Expression) : Run Value := do
  let (start, length) : Float × Float := match Pattern.find? e none t with
    | some f => (Float.ofNat (f.skipped.length + 1), Float.ofNat f.taken.length)
    | none => (0, -1)
  setValue "RSTART".toList (.number start)
  setValue "RLENGTH".toList (.number length)
  return .number start

def seconds : Run Float := do return Float.ofNat ((← outside get).clock / 1000000)

/-- The number that comes behind another one in a row that looks random. -/
def nextRandom (n : Nat) : Nat := (n * 1103515245 + 12345) % 2147483648

/-- The moment that a text of numbers stands for. -/
def momentOf (t : Text) : Option Int :=
  let numbers := (Separator.words (t.length + 1) t).map fun w => (Number.whole? 10 w).getD 0
  match numbers with
  | year :: month :: day :: hour :: minute :: second :: _ =>
      some ((Moment.daysTo year month day) * 86400 + hour * 3600 + minute * 60 + second)
  | _ => none

/-- A function of numbers, or of texts, that has no other effect. -/
def builtinValue (setting : Setting) (b : Builtin) (arguments : List Value) : Run Value := do
  let first := arguments.headD .unset
  let second := (arguments.drop 1).headD .unset
  let x := first.toNumber
  match b with
  | .index =>
      let t ← textOf first
      let w ← textOf second
      return .ofNat (indexOf w 1 t)
  | .substr =>
      return .text (part (← textOf first) second.toNumber ((arguments[2]?).map Value.toNumber))
  | .sprintf =>
      let format ← textOf first
      match Format.write (← conversion) "sprintf" format (arguments.drop 1) with
      | (t, none) => return .text t
      | (_, some m) => fail m
  | .toUpper => return .text ((← textOf first).map Char.toUpper)
  | .toLower => return .text ((← textOf first).map Char.toLower)
  | .sin => return .number x.sin
  | .cos => return .number x.cos
  | .atan2 => return .number (Float.atan2 x second.toNumber)
  | .exp => return .number x.exp
  | .log => return .number x.log
  | .sqrt => return .number x.sqrt
  | .int => return .number (truncated x)
  | .rand =>
      let n := nextRandom (← get).random
      modify fun s => { s with random := n }
      return .number (Float.ofNat n / 2147483648.0)
  | .srand =>
      let old := (← get).seed
      let new ← if arguments.isEmpty then do pure (Value.number (← seconds)) else pure first
      modify fun s => { s with seed := new, random := (toInt new.toNumber).natAbs % 2147483648 }
      return old
  | .close => return .number (Float.ofInt (← close setting.launch (← textOf first)))
  | .system =>
      flushAll
      return .ofNat (← runCommand setting.launch (fun s => s) (← textOf first))
  | .flush =>
      let isKnown ← if arguments.isEmpty then pure true else do
        let name ← textOf first
        let s ← get
        pure (name.isEmpty || name = "/dev/stdout".toList || s.outflows.any (·.name == name))
      flushAll
      return .number (if isKnown then 0 else -1)
  | .now => return .number (← seconds)
  | .timeText =>
      let format ← if arguments.isEmpty then pure "%c".toList else textOf first
      let time ← if arguments.length < 2 then seconds else pure second.toNumber
      return .text (Moment.format (toInt time * Moment.perSecond) format)
  | .timeNumber =>
      let t ← textOf first
      return .number (match momentOf t with
        | some n => Float.ofInt n
        | none => -1)
  | _ => return .unset

/-! ## Expressions and statements

The functions are defined together. An expression may change the state as well, so even its value is
the result of an action. -/

def maxRounds : Nat := 1000000000000

/-- Runs the body of a loop. Returns whether the loop goes on. -/
def round (body : Run Unit) : Run Bool :=
  tryCatch (do
      body
      return true) fun
    | .break' => return false
    | .continue' => return true
    | stop => throw stop

/-- Does something as long as it says so, so often at most. -/
def repeatWhile (body : Run Bool) : Nat → Run Unit
  | 0 => return ()
  | fuel + 1 => do if ← body then repeatWhile body fuel

/-- Does something for each key, until it says that it is enough. -/
def forEachKey (body : Text → Run Bool) : List Text → Run Unit
  | [] => return ()
  | t :: rest => do if ← body t then forEachKey body rest

def each {α β : Type} (f : α → Run β) : List α → Run (List β)
  | [] => return []
  | a :: rest => do
      let b ← f a
      return b :: (← each f rest)

mutual

/-- **The value of an expression.** The number bounds how deep the program goes. -/
def eval (setting : Setting) : Nat → Expr → Run Value
  | 0, _ => fail "function call nesting too deep".toList
  | fuel + 1, e => do
      match e with
      | .number x => return .number x
      | .text t => return .text t
      | .pattern p => return .ofBool (Pattern.fits p (← record))
      | .name n => nameValue n
      | .element .. | .field _ => load (← place setting fuel e)
      | .assign target value =>
          let p ← place setting fuel target
          let v ← eval setting fuel value
          store p v
          return v
      | .update o target value =>
          let p ← place setting fuel target
          let right ← eval setting fuel value
          let v := Value.number (o.apply (← load p).toNumber right.toNumber)
          store p v
          return v
      | .step isBefore isUp target =>
          let p ← place setting fuel target
          let old := (← load p).toNumber
          let new := if isUp then old + 1 else old - 1
          store p (.number new)
          return .number (if isBefore then new else old)
      | .condition test yes no =>
          if (← eval setting fuel test).isTrue then eval setting fuel yes else eval setting fuel no
      | .either a b =>
          if (← eval setting fuel a).isTrue then return .ofBool true
          else return .ofBool (← eval setting fuel b).isTrue
      | .both a b =>
          if (← eval setting fuel a).isTrue then return .ofBool (← eval setting fuel b).isTrue
          else return .ofBool false
      | .not a => return .ofBool (!(← eval setting fuel a).isTrue)
      | .negative a => return .number (-(← eval setting fuel a).toNumber)
      | .plus a => return .number (← eval setting fuel a).toNumber
      | .arithmetic o a b =>
          let x ← eval setting fuel a
          let y ← eval setting fuel b
          return .number (o.apply x.toNumber y.toNumber)
      | .compare c a b =>
          let x ← eval setting fuel a
          let y ← eval setting fuel b
          return .ofBool (c.holds (← conversion) x y)
      | .join a b =>
          let x ← eval setting fuel a
          let y ← eval setting fuel b
          return .text ((← textOf x) ++ (← textOf y))
      | .fits isNegated a p =>
          let t ← textOf (← eval setting fuel a)
          let wanted ← wantedPattern setting fuel p
          return .ofBool (Pattern.fits wanted t != isNegated)
      | .has keys n =>
          let k ← key setting fuel keys
          let name ← tableKey n
          let (answer, t) := (← table name).has k
          setTable name t
          return .ofBool answer
      | .group e => eval setting fuel e
      | .several es =>
          let values ← each (eval setting fuel) es
          return values.getLast?.getD .unset
      | .call f arguments => call setting fuel f arguments
      | .builtin b arguments =>
          match b, arguments with
          | .length, [] => return .ofNat (← record).length
          | .length, [.name n] =>
              if ← isTable n then return .ofNat (← table (← tableKey n)).size
              else return .ofNat (← textOf (← nameValue n)).length
          | .length, e :: _ => return .ofNat (← textOf (← eval setting fuel e)).length
          | .split, e :: .name n :: separator =>
              let t ← textOf (← eval setting fuel e)
              let divider ← match separator with
                | [] => fieldSeparator
                | .pattern p :: _ => pure (.pattern p)
                | e :: _ =>
                    let s ← textOf (← eval setting fuel e)
                    match Separator.ofText s with
                    | .ok d => pure d
                    | .error m => failPattern s m
              let pieces := divider.divide t
              setTable (← tableKey n) (.ofList (pieces.map Value.given))
              return .ofNat pieces.length
          | .match', e :: p :: _ =>
              let t ← textOf (← eval setting fuel e)
              matchIn t (← wantedPattern setting fuel p)
          | .sub, p :: r :: rest => substitute setting fuel false p r rest.head?
          | .gsub, p :: r :: rest => substitute setting fuel true p r rest.head?
          | b, arguments => builtinValue setting b (← each (eval setting fuel) arguments)
      | .input origin source target =>
          let p ← match target with
            | some t => do pure (some (← place setting fuel t))
            | none => pure none
          let name ← match source with
            | some e => do textOf (← eval setting fuel e)
            | none => pure []
          let got ← match origin with
            | .files => do pure (some (← nextRecord))
            | .file => nextFrom setting.launch false name
            | .command => nextFrom setting.launch true name
          match got with
          | none => return .number (-1)
          | some none => return .number 0
          | some (some t) =>
              match p with
              | some p => store p (.given t)
              | none => setRecord t
              return .number 1

def wantedPattern (setting : Setting) : Nat → Expr → Run Expression
  | 0, _ => fail "function call nesting too deep".toList
  | fuel + 1, e => do
      match e with
      | .pattern p => return p
      | e => patternOf (← textOf (← eval setting fuel e))

def substitute (setting : Setting) : Nat → Bool → Expr → Expr → Option Expr → Run Value
  | 0, _, _, _, _ => fail "function call nesting too deep".toList
  | fuel + 1, isAll, p, r, target => do
      let wanted ← wantedPattern setting fuel p
      let by' ← textOf (← eval setting fuel r)
      let where' ← match target with
        | none => pure (some (Place.field 0))
        | some e => if e.isTarget then do pure (some (← place setting fuel e)) else pure none
      let t ← match where', target with
        | some place, _ => textOf (← load place)
        | none, some e => textOf (← eval setting fuel e)
        | none, none => pure []
      let (new, count) := replaceFits wanted isAll by' (2 * t.length + 2) false none t
      match where' with
      | some place => if count != 0 then store place (.text new)
      | none => pure ()
      return .ofNat count

def place (setting : Setting) : Nat → Expr → Run Place
  | 0, _ => fail "function call nesting too deep".toList
  | fuel + 1, e => do
      match e with
      | .name n => return .name n
      | .element n keys =>
          let k ← key setting fuel keys
          let name ← tableKey n
          setTable name ((← table name).find true k).2
          return .cell name k
      | .field index => return .field (← fieldNumber (← eval setting fuel index).toNumber)
      | _ => return .field 0

def key (setting : Setting) : Nat → List Expr → Run Key
  | 0, _ => fail "function call nesting too deep".toList
  | fuel + 1, es => do
      match ← each (eval setting fuel) es with
      | [v] => keyOf v
      | values =>
          let texts ← each textOf values
          return .text (Text.join (← named "SUBSEP") texts)

def call (setting : Setting) : Nat → Text → List Expr → Run Value
  | 0, _, _ => fail "function call nesting too deep".toList
  | fuel + 1, name, arguments => do
      match setting.functions.lookup name with
      | none => return .unset
      | some f =>
          let slots ← each (fun (isTable, argument) => slot setting fuel isTable argument)
            (f.tables.zipIdx.map fun (isTable, index) => (isTable, arguments[index]?))
          let frame := (← get).frame
          modify fun s => { s with frame := slots.toArray }
          let result ← tryCatch (do
              exec setting fuel f.body
              return Value.unset) fun
            | .return' v => return v
            | stop => throw stop
          modify fun s => { s with frame := frame }
          return result

def slot (setting : Setting) : Nat → Bool → Option Expr → Run Slot
  | 0, _, _ => fail "function call nesting too deep".toList
  | fuel + 1, isTable, argument => do
      match isTable, argument with
      | true, some (.name n) => return .table (← tableKey n)
      | true, _ =>
          let n := (← get).tableCount
          modify fun s => { s with tableCount := n + 1 }
          return .table ('\x00' :: Number.digits 10 n)
      | false, some e => return .value (← eval setting fuel e)
      | false, none => return .value .unset

/-- **Runs a statement.** -/
def exec (setting : Setting) : Nat → Statement → Run Unit
  | 0, _ => fail "function call nesting too deep".toList
  | fuel + 1, s => do
      match s with
      | .nothing => return ()
      | .expression e => discard (eval setting fuel e)
      | .print values direction =>
          let texts ← if values.isEmpty then do pure [← record]
            else
              let found ← each (eval setting fuel) values
              let format ← valueOf "OFMT".toList
              let shown := fun (v : Value) => match v with
                | .number x => numberText (match format with
                    | .text t | .given t => Format.number t
                    | _ => Format.usual) x
                | .text t | .given t => t
                | .unset => []
              pure (found.map shown)
          let line := Text.join (← named "OFS") texts ++ (← named "ORS")
          write setting fuel direction line
      | .printf values direction =>
          let found ← each (eval setting fuel) values
          let format ← textOf (found.headD .unset)
          let (t, mistake) := Format.write (← conversion) "printf" format (found.drop 1)
          write setting fuel direction t
          match mistake with
          | some m => fail m
          | none => return ()
      | .block statements => discard (each (exec setting fuel) statements)
      | .if' test yes no =>
          if (← eval setting fuel test).isTrue then exec setting fuel yes
          else match no with
            | some no => exec setting fuel no
            | none => return ()
      | .while' test body =>
          repeatWhile (do
              if (← eval setting fuel test).isTrue then round (exec setting fuel body) else return false)
            maxRounds
      | .doWhile body test =>
          repeatWhile (do
              if ← round (exec setting fuel body) then return (← eval setting fuel test).isTrue
              else return false)
            maxRounds
      | .for' start test step body =>
          match start with
          | some e => discard (eval setting fuel e)
          | none => pure ()
          repeatWhile (do
              let goesOn ← match test with
                | some e => do pure (← eval setting fuel e).isTrue
                | none => pure true
              if !goesOn then return false
              if ← round (exec setting fuel body) then
                match step with
                | some e => discard (eval setting fuel e)
                | none => pure ()
                return true
              else return false)
            maxRounds
      | .forKeys target n body =>
          let name ← tableKey n
          let (keys, t) := (← table name).keys
          setTable name t
          forEachKey (fun k => do
              store (.name target) (.text k)
              round (exec setting fuel body))
            keys
      | .next => throw .next
      | .nextFile => throw .nextFile
      | .exit status =>
          match status with
          | some e =>
              let x := (← eval setting fuel e).toNumber
              modify fun s => { s with status := (toInt x % 256).toNat }
          | none => pure ()
          throw .exit
      | .return' value =>
          match value with
          | some e => throw (.return' (← eval setting fuel e))
          | none => throw (.return' .unset)
      | .break' => throw .break'
      | .continue' => throw .continue'
      | .delete n keys =>
          let k ← key setting fuel keys
          let name ← tableKey n
          setTable name ((← table name).erase k)
      | .clear n => setTable (← tableKey n) .empty

def write (setting : Setting) : Nat → Option (Direction × Expr) → Text → Run Unit
  | 0, _, _ => fail "function call nesting too deep".toList
  | fuel + 1, direction, t => do
      match direction with
      | none => modify fun s => { s with output := t :: s.output }
      | some (d, e) => writeTo d (← textOf (← eval setting fuel e)) t

end

/-! ## Rules

A range of records is begun by one test and ended by another, and whether it has begun is kept for
each rule. -/

/-- How deep a program may go. -/
def maxDepth : Nat := 100000

def runBody (setting : Setting) : Option Statement → Run Unit
  | some s => exec setting maxDepth s
  | none => exec setting maxDepth (.print [] none)

def runRule (setting : Setting) (index : Nat) (r : Rule) : Run Unit := do
  let holds := fun (e : Expr) => do return (← eval setting maxDepth e).isTrue
  match r.occasion with
  | .start | .finish => return ()
  | .always => runBody setting r.body
  | .holds e => if ← holds e then runBody setting r.body
  | .range first last =>
      let isOpen := (← get).ranges.contains index
      let applies ← if isOpen then pure true else holds first
      if applies then
        let ends ← holds last
        modify fun s => { s with
          ranges := if ends then s.ranges.filter (· != index)
            else if isOpen then s.ranges else index :: s.ranges }
        runBody setting r.body

def runRules (setting : Setting) : List (Rule × Nat) → Run Unit
  | [] => return ()
  | (r, index) :: rest => do
      runRule setting index r
      runRules setting rest

/-- Runs rules for each record, of which there are so many at most. -/
def runRecords (setting : Setting) (rules : List (Rule × Nat)) : Nat → Run Unit
  | 0 => return ()
  | fuel + 1 => do
      match ← nextRecord with
      | none => return ()
      | some t =>
          setRecord t
          tryCatch (runRules setting rules) fun
            | .next => return ()
            | .nextFile => skipFile
            | stop => throw stop
          runRecords setting rules fuel

/-- Runs the bodies of rules for one occasion. -/
def runAll (setting : Setting) : List Rule → Run Unit
  | [] => return ()
  | r :: rest => do
      runBody setting r.body
      runAll setting rest

/-- **Runs a program.** Behind the end of a part, the last rules are run too, unless the program is
given up. -/
def runProgram (setting : Setting) (rules : List Rule) : Run Unit := do
  let isStart := fun (r : Rule) => r.occasion matches .start
  let isFinish := fun (r : Rule) => r.occasion matches .finish
  let starts := rules.filter isStart
  let finishes := rules.filter isFinish
  let others := rules.filter fun r => !isStart r && !isFinish r
  let guarded := fun (r : Run Unit) => tryCatch (do
      r
      return true) fun
    | .failed => return false
    | _ => return true
  let isGood ← guarded do
    runAll setting starts
    unless others.isEmpty && finishes.isEmpty do runRecords setting others.zipIdx maxRounds
  if isGood then discard (guarded (runAll setting finishes))
  let outflows := (← get).outflows
  closeOutflows setting.launch outflows
  flushOutput

end Run

end SwiftExistential.Utility.Awk
