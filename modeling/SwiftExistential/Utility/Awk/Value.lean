import Std.Data.HashMap
import SwiftExistential.Shell.Format

/-!
# The values of awk

What a pattern program computes with: its values, their formats and its tables.

The order in which a loop visits a table can be seen by programs, and so tables keep it. That is why
a table here is made of hashes and lists of cells and is not just a map.
-/

set_option autoImplicit false

/-! ## Values of pattern programs

A value is a number or a text, and each can be asked for as the other. What comes from outside is a
text that counts as a number if it looks like one. -/

namespace SwiftExistential.Utility.Awk

inductive Value where
  | unset
  | number (x : Float)
  | text (t : Text)
  /-- A text from outside. -/
  | given (t : Text)

/-! ### Whole numbers -/

/-- A floating point number without its fraction, cut to 64 bits with a sign. -/
def toInt (x : Float) : Int := x.toInt64.toInt

/-- A floating point number without its fraction, cut to 64 bits without a sign. -/
def toNat (x : Float) : Nat := x.toUInt64.toNat

/-- The whole number that a floating point number is, if it is one of 64 bits. -/
def whole? (x : Float) : Option Int :=
  if x < 9223372036854775808.0 then
    let n := toInt x
    if Float.ofInt n == x then some n else none
  else
    let n := toNat x
    if Float.ofNat n == x then some n else none

/-- The text of a number: whole numbers have all their digits, and others are shown in a format. -/
def numberText (format : Float → Text) (x : Float) : Text :=
  match whole? x with
  | some n => Number.shown n
  | none => format x

/-! ### Conversions

A text stands for the number that it begins with, and a number for the text in which it is shown.
Two values are compared as numbers only if both count as such. -/

/-- The number that a text from outside looks like. -/
def looksLike? (t : Text) : Option Float :=
  let start := t.dropWhile Number.isSpace
  let body := (start.reverse.dropWhile Number.isSpace).reverse
  let begins := body.head?.any fun c => c.isDigit || c == '+' || c == '-' || c == '.'
  let ends := body.getLast?.any fun c => c.isDigit || c == '.'
  if begins && ends then
    let found := Real.read body
    if found.isNumber && found.rest.isEmpty then some found.value else none
  else none

namespace Value

/-- The value as a number: what a text begins with counts. -/
def toNumber : Value → Float
  | unset => 0
  | number x => x
  | text t | given t => (Real.read t).value

def toText (format : Float → Text) : Value → Text
  | unset => []
  | number x => numberText format x
  | text t | given t => t

/-- The number that the value counts as, if it does. -/
def asNumber? : Value → Option Float
  | unset => some 0
  | number x => some x
  | text _ => none
  | given t => looksLike? t

def isTrue : Value → Bool
  | unset => false
  | number x => x != 0
  | text t => !t.isEmpty
  | given t => match looksLike? t with
      | some x => x != 0
      | none => !t.isEmpty

def ofBool (b : Bool) : Value := number (if b then 1 else 0)

def ofNat (n : Nat) : Value := number (Float.ofNat n)

end Value

def compareTexts : Text → Text → Ordering
  | [], [] => .eq
  | [], _ :: _ => .lt
  | _ :: _, [] => .gt
  | a :: s, b :: t => if a < b then .lt else if b < a then .gt else compareTexts s t

/-- The ways to compare values. -/
inductive Comparison where
  | equal | unequal | less | lessEqual | greater | greaterEqual
deriving DecidableEq, Repr

/-- Whether numbers stand to each other like that. -/
def Comparison.ofNumbers (c : Comparison) (x y : Float) : Bool :=
  match c with
  | equal => x == y
  | unequal => x != y
  | less => x < y
  | lessEqual => x <= y
  | greater => x > y
  | greaterEqual => x >= y

def Comparison.ofOrdering (c : Comparison) (o : Ordering) : Bool :=
  match c with
  | equal => o == .eq
  | unequal => o != .eq
  | less => o == .lt
  | lessEqual => o != .gt
  | greater => o == .gt
  | greaterEqual => o != .lt

/-- **Compares values**: as numbers if both count as such, otherwise as texts. -/
def Comparison.holds (c : Comparison) (format : Float → Text) (a b : Value) : Bool :=
  match a.asNumber?, b.asNumber? with
  | some x, some y => c.ofNumbers x y
  | _, _ => c.ofOrdering (compareTexts (a.toText format) (b.toText format))

end SwiftExistential.Utility.Awk

/-! ## Formats of pattern programs

A format shows values one after the other. A program that gives too few of them, or asks for what
there is not, is stopped; what was written so far stays. -/

namespace SwiftExistential.Utility.Awk.Format

open Shell.Format (Directive)

/-- What was written of a format. -/
structure Progress where
  /-- The pieces, the last one first. -/
  output : List Text
  values : List Value
  /-- How many directives there were. -/
  count : Nat
  /-- Why the program is stopped. -/
  mistake : Option Text

namespace Progress

def put (p : Progress) (t : Text) : Progress := { p with output := t :: p.output }

def next (p : Progress) : Value × Progress :=
  (p.values.headD .unset, { p with values := p.values.drop 1 })

end Progress

/-- Reads a width or a precision, which may be a value. -/
def readCount (t : Text) (p : Progress) : Option Int × Text × Progress :=
  match t with
  | '*' :: rest =>
      let (v, p) := p.next
      (some (toInt v.toNumber), rest, p)
  | t =>
      let digits := t.takeWhile Char.isDigit
      (if digits.isEmpty then none else some (Number.value 10 digits : Int), t.drop digits.length, p)

def character (v : Value) : Char :=
  let code := fun (x : Float) => Char.ofNat (toInt x % 256).toNat
  match v with
  | .unset => '\x00'
  | .number x => code x
  | .text t => t.headD '\x00'
  | .given t => match looksLike? t with
      | some x => code x
      | none => t.headD '\x00'

/-- Shows a floating point number. What is no number has a sign. -/
def real (d : Directive) (x : Float) : Text :=
  if x.isNaN then d.pad false [] (if d.letter.isUpper then "-NAN".toList else "-nan".toList) else d.real x

/-- Shows a value by a directive, if its letter means something. -/
def show? (conversion : Float → Text) (d : Directive) (v : Value) : Option Text :=
  let x := v.toNumber
  match d.letter with
  | 'c' => some (d.pad false [] [character v])
  | 's' => some (d.text (v.toText conversion))
  | 'd' | 'i' => some (d.signed (if x < 9223372036854775808.0 then toInt x else toNat x))
  | 'o' | 'x' | 'X' | 'u' =>
      let n : Int := if x < 9223372036854775808.0 then toInt x else toNat x
      some (d.unsigned (n % 18446744073709551616).toNat)
  | 'e' | 'f' | 'g' | 'E' | 'F' | 'G' | 'a' | 'A' => some (real d x)
  | _ => none

/-- Writes what stands behind a percent sign. Returns the rest of the format. -/
def putDirective (conversion : Float → Text) (who : String) (format t : Text) (p : Progress) :
    Text × Progress :=
  let about := fun (what : String) =>
    some (what.toList ++ who.toList ++ "(\"".toList ++ format ++ "\")".toList)
  let flags := t.takeWhile fun c => "-+ #0'".toList.contains c
  let (width, t, p) := readCount (t.drop flags.length) p
  let (precision, t, p) : Option Int × Text × Progress := match t with
    | '.' :: rest =>
        let (n, rest, p) := readCount rest p
        (some (n.getD 0), rest, p)
    | t => (none, t, p)
  if p.values.isEmpty then ([], { p with mistake := about "not enough arguments passed to " })
  else
    let number := p.count + 1
    let width := width.getD 0
    match t.dropWhile fun c => c == 'l' || c == 'h' with
    | [] =>
        ([], { p with mistake := about s!"improper conversion(number {number}) in " })
    | letter :: rest =>
        let d : Directive :=
          { flags := if width < 0 then '-' :: flags else flags, width := width.natAbs,
            precision := precision.bind fun n => if n < 0 then none else some n.toNat, letter := letter }
        let (v, after) := p.next
        match show? conversion d v with
        | some shown => (rest, { after.put shown with count := number })
        | none => ([], { p with mistake := about s!"improper conversion(number {number}) in " })

/-- Writes a format, with so many steps at most. -/
def putAll (conversion : Float → Text) (who : String) (format : Text) : Nat → Text → Progress → Progress
  | 0, _, p => p
  | _, [], p => p
  | fuel + 1, c :: rest, p =>
      if p.mistake.isSome then p
      else if c == '%' then
        match rest with
        | '%' :: rest => putAll conversion who format fuel rest (p.put ['%'])
        | rest =>
            let (rest, p) := putDirective conversion who format rest p
            putAll conversion who format fuel rest p
      else
        let run := (c :: rest).takeWhile (· != '%')
        putAll conversion who format fuel ((c :: rest).drop run.length) (p.put run)

/-- **Writes values in a format.** Returns what was written, and why it was stopped. -/
def write (conversion : Float → Text) (who : String) (format : Text) (values : List Value) :
    Text × Option Text :=
  let p := putAll conversion who format (format.length + 1) format ⟨[], values, 0, none⟩
  (p.output.reverse.flatten, p.mistake)

/-- The text of a number in the usual format. -/
def usual (x : Float) : Text :=
  real ⟨[], 0, some 6, 'g'⟩ x

def number (format : Text) (x : Float) : Text :=
  if format = "%.6g".toList then usual x else (write usual "sprintf" format [.number x]).1

end SwiftExistential.Utility.Awk.Format

/-! ## Tables of pattern programs

A table keeps values by keys. A key is a text; a whole number is a key by itself until a text is
asked for. A loop visits the keys by their hashes, and those of one place so that the key that was
used last comes first. -/

namespace SwiftExistential.Utility.Awk

/-- A key as it is given. -/
inductive Key where
  | text (t : Text)
  | number (n : Int)

/-- A place for a value, with the forms in which its key is known. -/
structure Cell where
  text : Option Text
  number : Option Int
  value : Value

/-- A table. Cells have numbers; a key leads to a list of cells by its hash, or by the number that
it is. -/
structure Table where
  cells : Std.HashMap Nat Cell
  /-- The number of the next cell. -/
  next : Nat
  /-- The cells by the hashes of texts. -/
  texts : Array (List Nat)
  /-- The cells by numbers. -/
  numbers : Array (List Nat)
  /-- Whether all cells are found by texts. -/
  knowsTexts : Bool
  /-- Whether the keys are the numbers from one on, and none was added. -/
  isSequence : Bool

namespace Table

def startWidth : Nat := 64

/-- How many cells there may be for each list. -/
def maxLoad : Nat := 12

def empty : Table :=
  ⟨∅, 0, Array.replicate startWidth [], Array.replicate startWidth [], false, false⟩

def size (t : Table) : Nat := t.cells.size

def hash (t : Text) : Nat :=
  t.foldl (fun h c => (Nat.xor h c.toNat * 16777619) % 4294967296) 2166136261

def textSlot (t : Table) (key : Text) : Nat := hash key % t.texts.size

def numberSlot (t : Table) (n : Int) : Nat := (n % (t.numbers.size : Int)).toNat

/-- Puts a cell first in its list. -/
def toFront (id : Nat) (list : List Nat) : List Nat := id :: list.filter (· != id)

/-- Makes the lists twice as many when there are too many cells. -/
def grow (t : Table) : Table :=
  if t.cells.size ≤ maxLoad * t.texts.size then t
  else
    let width := 2 * t.texts.size
    let split := fun (lists : Array (List Nat)) (slot : Cell → Nat) =>
      let place := fun (out : Array (List Nat)) (id : Nat) =>
        match t.cells[id]? with
        | some cell => out.modify (slot cell) (id :: ·)
        | none => out
      lists.foldl (fun out list => list.reverse.foldl place out) (Array.replicate width [])
    { t with
      texts := split t.texts fun c => hash (c.text.getD []) % width,
      numbers := split t.numbers fun c => ((c.number.getD 0) % (width : Int)).toNat }

/-- Gives each cell a text, so that it can be found by it. -/
def withTexts (t : Table) : Table :=
  if t.knowsTexts then t
  else
    let name := fun (t : Table) (id : Nat) =>
      match t.cells[id]? with
      | some ⟨none, some n, value⟩ =>
          let text := Number.shown n
          { t with
            cells := t.cells.insert id ⟨some text, some n, value⟩,
            texts := t.texts.modify (hash text % t.texts.size) (id :: ·) }
      | _ => t
    let named := t.numbers.foldl (fun t list => list.foldl name t) t
    { named with knowsTexts := true, isSequence := false }

/-- Adds a cell, which stands in no list yet. -/
def add (t : Table) (cell : Cell) : Nat × Table :=
  (t.next, { t with cells := t.cells.insert t.next cell, next := t.next + 1 }.grow)

/-- Finds the cell of a text, or makes one. It comes first in its list. -/
def findText (t : Table) (creates : Bool) (key : Text) : Option Nat × Table :=
  let t := t.withTexts
  let isIt := fun (id : Nat) => (t.cells[id]?).any fun c => c.text == some key
  match (t.texts[t.textSlot key]?.getD []).find? isIt with
  | some id => (some id, { t with texts := t.texts.modify (t.textSlot key) (toFront id) })
  | none =>
      if !creates then (none, t)
      else
        let (id, t) := t.add ⟨some key, none, .unset⟩
        (some id, { t with texts := t.texts.modify (t.textSlot key) (id :: ·) })

/-- Finds the cell of a number, or makes one. It comes first in its list. -/
def findNumber (t : Table) (creates : Bool) (key : Int) : Option Nat × Table :=
  let isIt := fun (id : Nat) => (t.cells[id]?).any fun c => c.number == some key
  match (t.numbers[t.numberSlot key]?.getD []).find? isIt with
  | some id =>
      if t.isSequence then (some id, t)
      else (some id, { t with numbers := t.numbers.modify (t.numberSlot key) (toFront id) })
  | none =>
      if t.knowsTexts then
        match t.findText creates (Number.shown key) with
        | (none, t) => (none, t)
        | (some id, t) =>
            (some id, { t with
              cells := t.cells.modify id fun c => { c with number := some key },
              numbers := t.numbers.modify (t.numberSlot key) (id :: ·) })
      else if !creates then (none, t)
      else
        let (id, t) := t.add ⟨none, some key, .unset⟩
        (some id, { t with numbers := t.numbers.modify (t.numberSlot key) (id :: ·), isSequence := false })

/-- Finds the cell of a key, or makes one. -/
def find (t : Table) (creates : Bool) : Key → Option Nat × Table
  | .text key => t.findText creates key
  | .number n => t.findNumber creates n

def get (t : Table) (key : Key) : Value × Table :=
  match t.find true key with
  | (some id, t) => ((t.cells[id]?).elim .unset Cell.value, t)
  | (none, t) => (.unset, t)

def has (t : Table) (key : Key) : Bool × Table :=
  let (id, t) := t.find false key
  (id.isSome, t)

/-- **Sets the value of a key.** -/
def set (t : Table) (key : Key) (v : Value) : Table :=
  match t.find true key with
  | (some id, t) => { t with cells := t.cells.modify id fun c => { c with value := v } }
  | (none, t) => t

def erase (t : Table) (key : Key) : Table :=
  if t.size = 0 then t
  else match t.find false key with
    | (none, t) => t
    | (some id, t) =>
        let drop := fun (list : List Nat) => list.filter (· != id)
        match t.cells[id]? with
        | none => t
        | some cell =>
            let texts := match cell.text with
              | some key => t.texts.modify (t.textSlot key) drop
              | none => t.texts
            let numbers := match cell.number with
              | some n => t.numbers.modify (t.numberSlot n) drop
              | none => t.numbers
            let t := { t with
              cells := t.cells.erase id, texts := texts, numbers := numbers, isSequence := false }
            if t.size = 0 then empty else t

/-- **The keys in the order of a loop.** -/
def keys (t : Table) : List Text × Table :=
  let t := t.withTexts
  (t.texts.toList.flatMap fun list => list.filterMap fun id => (t.cells[id]?).bind Cell.text, t)

def ofList (values : List Value) : Table :=
  let filled := values.foldl
    (fun (acc : Nat × Table) v => (acc.1 + 1, acc.2.set (.number (acc.1 : Int)) v)) (1, empty)
  { filled.2 with isSequence := true }

end Table

end SwiftExistential.Utility.Awk
