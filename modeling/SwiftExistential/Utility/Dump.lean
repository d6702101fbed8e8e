import SwiftExistential.Text.Real
import SwiftExistential.Utility.Options

/-!
# Dumps

`od` writes the octets of files in fields: as numbers in a base, as numbers with a fraction, or as
characters.

A line shows so many octets behind their offset, once for each kind of fields, and the fields of all
kinds are spread to the same width. Lines that repeat the one before are left out and marked. The
files are taken as one, behind what is to be passed over.
-/

set_option autoImplicit false

/-! ## How octets are shown in numbers

A field is a number that one or more octets hold, or a character. All fields of a kind are equally
wide, so that several kinds can stand below each other. -/

namespace SwiftExistential.Utility.Dump

/-- What is shown of octets. -/
inductive Kind where
  /-- Characters, with names for those that cannot be shown. -/
  | named
  /-- Characters, with escapes for those that cannot be shown. -/
  | escaped
  | signed
  | unsigned (base : Nat)
  | real
deriving DecidableEq, Repr

/-- A way to show octets. -/
structure Field where
  kind : Kind
  /-- How many octets are shown together. -/
  size : Nat
  /-- Whether the characters follow at the end of the line. -/
  hasText : Bool
deriving DecidableEq, Repr

def characterNames : List String :=
  ["nul", "soh", "stx", "etx", "eot", "enq", "ack", "bel", "bs", "ht", "nl", "vt", "ff", "cr", "so", "si", "dle",
    "dc1", "dc2", "dc3", "dc4", "nak", "syn", "etb", "can", "em", "sub", "esc", "fs", "gs", "rs", "us", "sp"]

/-- The name of a character. The highest bit does not count. -/
def characterName (c : Char) : Text :=
  let n := c.toNat % 128
  if n = 127 then "del".toList
  else match characterNames[n]? with
    | some name => name.toList
    | none => [Char.ofNat n]

def escapedCharacter (c : Char) : Text :=
  if c == '\x00' then ['\\', '0']
  else if isPrintable c then [c]
  else match escapedOctet c with
    | '\\' :: d :: rest => if d.isDigit then d :: rest else '\\' :: d :: rest
    | other => other

/-- The number that octets hold, the least first. -/
def valueOf (octets : Text) : Nat := octets.foldr (fun c n => n * 256 + c.toNat) 0

/-- The numbers of digits in a base that octets need. -/
def digitsOf (base size : Nat) : Nat := (Number.digits base (Nat.pow 256 size - 1)).length

/-- The shortest text that reads back, with so many more digits at most. -/
def shortest (readsBack : Nat → Int → Bool) (x : Float) : Nat → Nat → Text
  | 0, count => (Real.shown false 'g' count x).2
  | more + 1, count =>
      let text := (Real.shown false 'g' count x).2
      let mantissa := (Real.shown false 'e' (count - 1) x).2
      let digits := (mantissa.takeWhile (· != 'e')).filter Char.isDigit
      let power := (Real.readPower (mantissa.dropWhile (· != 'e'))).1 - (digits.length - 1 : Nat)
      if readsBack (Number.value 10 digits) power then text else shortest readsBack x more (count + 1)

/-- A floating point number of four octets. -/
def singleText (n : Nat) : Text :=
  let x := Float32.ofBits (UInt32.ofNat n)
  let (isNegative, text) := Real.shown false 'g' 9 x.toFloat
  let start := if isNegative then ['-'] else []
  if x.isNaN || x.isInf then start ++ text
  else
    let bits := x.abs.toBits
    let readsBack := fun (digits : Nat) (power : Int) =>
      (Float32.ofScientific digits (power < 0) power.natAbs).toBits == bits
    start ++ if x.abs < Float32.ofScientific 11754944 true 45 then shortest readsBack x.toFloat 8 1
      else shortest readsBack x.toFloat 3 6

/-- A floating point number of eight octets. -/
def doubleText (n : Nat) : Text :=
  let x := Float.ofBits (UInt64.ofNat n)
  let (isNegative, text) := Real.shown false 'g' 17 x
  let start := if isNegative then ['-'] else []
  if x.isNaN || x.isInf then start ++ text
  else
    let bits := x.abs.toBits
    let readsBack := fun (digits : Nat) (power : Int) => (Real.ofDecimal digits power).toBits == bits
    start ++ if x.abs < Float.ofScientific 22250738585072014 true 324 then shortest readsBack x 16 1
      else shortest readsBack x 2 15

namespace Field

/-- How wide a field is without the blank before it. -/
def width (f : Field) : Nat :=
  match f.kind with
  | .named | .escaped => 3
  | .signed => digitsOf 10 f.size + if f.size = 8 then 0 else 1
  | .unsigned base => digitsOf base f.size
  | .real => if f.size = 4 then 15 else 24

/-- The text of so many octets. The first may be the least or the greatest. -/
def text (f : Field) (isBig : Bool) (octets : Text) : Text :=
  let n := valueOf (if isBig then octets.reverse else octets)
  match f.kind with
  | .named => characterName (octets.headD '\x00')
  | .escaped => escapedCharacter (octets.headD '\x00')
  | .signed =>
      let range := Nat.pow 256 f.size
      if n * 2 ≥ range then '-' :: shownNat (range - n) else shownNat n
  | .unsigned 10 => shownNat n
  | .unsigned base =>
      let digits := Number.digits base n
      List.replicate (f.width - digits.length) '0' ++ digits
  | .real => if f.size = 4 then singleText n else doubleText n

/-- The fields of octets, each of a width that differs by what is left over. `left` are fields of
the whole line from here on, of `all`, and `spare` blanks have to be put between them. -/
def fields (f : Field) (isBig : Bool) (all spare : Nat) : Nat → Nat → Text → Text
  | 0, _, _ => []
  | left + 1, rest, octets =>
      if octets.isEmpty then []
      else
        let next := spare * left / all
        let octet := octets.take f.size
        let whole := octet ++ List.replicate (f.size - octet.length) '\x00'
        padLeft (rest - next + f.width + 1) (f.text isBig whole) ++
          fields f isBig all spare left next (octets.drop f.size)

end Field

/-! ### Types

A type is a letter and a size, and several of them may be written together. -/

/-- What is wrong with a type. -/
inductive TypeMistake where
  | character (c : Char)
  | size (count : Nat) (isReal : Bool)
  | wrong

/-- The size behind a letter, and the text behind it. -/
def readFieldSize (isReal : Bool) (usual : Nat) (t : Text) : Except TypeMistake (Nat × Text) :=
  let digits := t.takeWhile Char.isDigit
  if digits.isEmpty then
    match isReal, t with
    | false, 'C' :: rest => .ok (1, rest)
    | false, 'S' :: rest => .ok (2, rest)
    | false, 'I' :: rest => .ok (4, rest)
    | false, 'L' :: rest => .ok (8, rest)
    | true, 'F' :: rest => .ok (4, rest)
    | true, 'D' :: rest => .ok (8, rest)
    | _, rest => .ok (usual, rest)
  else
    let n := Number.value 10 digits
    if n ≥ 18446744073709551616 then .error .wrong
    else if (if isReal then n = 4 || n = 8 else n = 1 || n = 2 || n = 4 || n = 8) then
      .ok (n, t.drop digits.length)
    else .error (.size n isReal)

/-- Reads the types of fields, in so many steps at most. -/
def readTypes : Nat → Text → Except TypeMistake (List Field)
  | 0, _ => .ok []
  | _, [] => .ok []
  | fuel + 1, c :: rest =>
      let start := match c with
        | 'a' => Except.ok (Kind.named, 1, rest)
        | 'c' => .ok (.escaped, 1, rest)
        | 'd' => (readFieldSize false 4 rest).map fun (n, t) => (.signed, n, t)
        | 'o' => (readFieldSize false 4 rest).map fun (n, t) => (.unsigned 8, n, t)
        | 'u' => (readFieldSize false 4 rest).map fun (n, t) => (.unsigned 10, n, t)
        | 'x' => (readFieldSize false 4 rest).map fun (n, t) => (.unsigned 16, n, t)
        | 'f' => (readFieldSize true 8 rest).map fun (n, t) => (.real, n, t)
        | c => .error (.character c)
      match start with
      | .error e => .error e
      | .ok (kind, size, 'z' :: rest) => (readTypes fuel rest).map (⟨kind, size, true⟩ :: ·)
      | .ok (kind, size, rest) => (readTypes fuel rest).map (⟨kind, size, false⟩ :: ·)

def TypeMistake.message (t : Text) : TypeMistake → Text
  | character c => "invalid character ".toList ++ inQuotes [c] ++ " in type string ".toList ++ cited t
  | wrong => "invalid type string ".toList ++ cited t
  | size n isReal =>
      "invalid type string ".toList ++ cited t ++ ";\nthis system doesn't provide a ".toList ++ shownNat n ++
        "-byte ".toList ++ (if isReal then "floating point" else "integral").toList ++ " type".toList

def letterType? : Char → Option String
  | 'a' => some "a"
  | 'b' => some "o1"
  | 'c' => some "c"
  | 'd' => some "u2"
  | 'D' => some "u4"
  | 'e' | 'F' => some "fD"
  | 'f' => some "fF"
  | 'h' | 'x' => some "x2"
  | 'H' | 'X' => some "x4"
  | 'i' => some "dI"
  | 'I' | 'L' | 'l' => some "dL"
  | 'o' | 'B' => some "o2"
  | 'O' => some "o4"
  | 's' => some "d2"
  | _ => none

end SwiftExistential.Utility.Dump

/-! ## Showing octets

`od` shows octets in lines, each behind its offset. Lines that are the same as the one before are
left out. -/

namespace SwiftExistential.Utility

open Process

namespace Dump

/-! ### Counts -/

/-- What is wrong with a count. -/
inductive CountMistake where
  | invalid
  | badSuffix
  | tooLarge

/-- The factor that letters behind a number stand for. -/
def factor? (t : Text) : Option Nat :=
  match t with
  | [] => some 1
  | ['b'] => some 512
  | c :: rest =>
      let power := match c with
        | 'k' | 'K' => some 1
        | 'm' | 'M' => some 2
        | 'G' => some 3
        | 'T' => some 4
        | 'P' => some 5
        | 'E' => some 6
        | _ => none
      match power, rest with
      | some p, [] => some (Nat.pow 1024 p)
      | some p, ['i', 'B'] => some (Nat.pow 1024 p)
      | some p, ['B'] => some (Nat.pow 1000 p)
      | _, _ => none

def count (t : Text) : Except CountMistake Nat :=
  let found := Number.read 0 t
  if !found.isNumber || found.value < 0 then .error .invalid
  else match factor? found.rest with
    | none => .error .badSuffix
    | some f =>
        if found.isCut || found.value.toNat * f ≥ 9223372036854775808 then .error .tooLarge
        else .ok (found.value.toNat * f)

/-- The wording of what is wrong with a count of an option. -/
def CountMistake.message (option t : Text) : CountMistake → Text
  | invalid => "invalid ".toList ++ option ++ " argument ".toList ++ inQuotes t
  | badSuffix => "invalid suffix in ".toList ++ option ++ " argument ".toList ++ inQuotes t
  | tooLarge => option ++ " argument ".toList ++ inQuotes t ++ " too large".toList

/-! ### Lines -/

/-- How lines are shown. -/
structure Lines where
  fields : List Field
  /-- The base of offsets, if they are shown. -/
  base : Option Nat
  /-- How many octets a line has. -/
  size : Nat
  isBig : Bool
  showsAll : Bool

namespace Lines

/-- An offset, before what stands behind it. -/
def offset (l : Lines) (n : Nat) (behind : Text) : Text :=
  match l.base with
  | none => if behind = ['\n'] then [] else behind.filter (· == '\n')
  | some base =>
      let digits := Number.digits base n
      List.replicate ((if base = 16 then 6 else 7) - digits.length) '0' ++ digits ++ behind

def room (l : Lines) : Nat := (l.fields.map fun f => (f.width + 1) * (l.size / f.size)).foldl max 0

def row (l : Lines) (f : Field) (octets : Text) : Text :=
  let all := l.size / f.size
  let spare := l.room - (f.width + 1) * all
  let shown := f.fields l.isBig all spare all spare octets
  if !f.hasText then shown ++ ['\n']
  else
    let missing := (l.size - octets.length) / f.size
    shown ++ List.replicate (missing * (f.width + 1) + spare * missing / all) ' ' ++ "  >".toList ++
      octets.map (fun c => if isPrintable c then c else '.') ++ ['<', '\n']

def block (l : Lines) (place : Nat) (octets : Text) : Text :=
  let start := l.offset place []
  l.fields.zipIdx.flatMap fun (f, i) =>
    (if i = 0 then start else List.replicate start.length ' ') ++ l.row f octets

/-- All octets from a place on, behind a block that was the same as the one before or not, in so
many blocks at most. The pieces come in order. -/
def blocks (l : Lines) : Nat → Nat → Option Text → Bool → Text → List Text → List Text
  | 0, _, _, _, _, shown => shown.reverse
  | fuel + 1, place, before, isHidden, octets, shown =>
      if octets.isEmpty then (l.offset place ['\n'] :: shown).reverse
      else
        let part := octets.take l.size
        let rest := octets.drop l.size
        if !l.showsAll && before == some part && part.length = l.size then
          l.blocks fuel (place + l.size) before true rest (if isHidden then shown else "*\n".toList :: shown)
        else l.blocks fuel (place + part.length) (some part) false rest (l.block place part :: shown)

/-- Texts that end with a null and are so long at least, from a place on. The run is what can be
shown before, the last first. -/
def texts (l : Lines) (least : Nat) : Nat → Text → Text → Text
  | _, _, [] => []
  | place, run, c :: rest =>
      if isPrintable c then texts l least (place + 1) (c :: run) rest
      else
        let found := if c == '\x00' && run.length ≥ least then
            (if l.base.isNone then [] else l.offset (place - run.length) [' ']) ++ run.reverse ++ ['\n']
          else []
        found ++ texts l least (place + 1) [] rest

end Lines

/-! ### Options

Some letters stand for types, and an offset may be given as an argument in an older way. -/

def options : Specification :=
  { name := "od", letters := "A:aBbcDdeFfHhIij:LlN:OoS:st:vw::Xx",
    words := [("address-radix", 'A', .one), ("endian", '\x01', .one), ("format", 't', .one),
      ("output-duplicates", 'v', .none), ("read-bytes", 'N', .one), ("skip-bytes", 'j', .one),
      ("strings", 'S', .optional), ("traditional", '\x02', .none), ("width", 'w', .optional)] }

/-- What is asked. -/
structure Request where
  fields : List Field
  base : Option Nat
  skipped : Nat
  limit : Option Nat
  /-- The number of octets in a line, if it has been said. -/
  size : Option Nat
  /-- The least length of texts, if only they are shown. -/
  least : Option Nat
  isBig : Bool
  showsAll : Bool
  /-- Whether the last argument may be an offset. -/
  takesOffset : Bool

def optionName (arguments : List Text) (letter : Char) (word : String) : Text :=
  let long := "--".toList ++ word.toList
  if arguments.any fun a => (a.takeWhile (· != '=')).length > 2 && (a.takeWhile (· != '=')).isPrefixOf long then
    long
  else ['-', letter]

def Request.take (arguments : List Text) (r : Request) (letter : Char) (value : Text) : Except Text Request :=
  let counted := fun (word : String) (change : Nat → Request) => match count value with
    | .ok n => Except.ok (change n)
    | .error e => .error (e.message (optionName arguments letter word) value)
  match letter with
  | 'A' =>
      match value.head? with
      | some 'd' => .ok { r with base := some 10, takesOffset := false }
      | some 'o' => .ok { r with base := some 8, takesOffset := false }
      | some 'x' => .ok { r with base := some 16, takesOffset := false }
      | some 'n' => .ok { r with base := none, takesOffset := false }
      | c => .error ("invalid output address radix ".toList ++ cited c.toList ++
          "; it must be one character from [doxn]".toList)
  | 'j' => counted "skip-bytes" fun n => { r with skipped := n, takesOffset := false }
  | 'N' => counted "read-bytes" fun n => { r with limit := some n, takesOffset := false }
  | 'S' =>
      if value.isEmpty then .ok { r with least := some 3, takesOffset := false }
      else counted "strings" fun n => { r with least := some n, takesOffset := false }
  | 'w' =>
      if value.isEmpty then .ok { r with size := some 32, takesOffset := false }
      else counted "width" fun n => { r with size := some n, takesOffset := false }
  | 't' =>
      match readTypes (value.length + 1) value with
      | .ok fields => .ok { r with fields := r.fields ++ fields, takesOffset := false }
      | .error e => .error (e.message value)
  | 'v' => .ok { r with showsAll := true, takesOffset := false }
  | '\x01' =>
      match String.ofList value with
      | "big" => .ok { r with isBig := true }
      | "little" => .ok { r with isBig := false }
      | _ => .error ("invalid argument ".toList ++ cited value ++ " for '--endian'\nValid arguments are:\n".toList ++
          "  - 'little'\n  - 'big'\nTry 'od --help' for more information.".toList)
  | c =>
      match letterType? c with
      | some t => (readTypes 4 t.toList).toOption.map (fun f => { r with fields := r.fields ++ f }) |>.map .ok
          |>.getD (.ok r)
      | none => .ok r

def oldOffset? (t : Text) : Option Nat :=
  let digits := if t.head? = some '+' then t.drop 1 else t
  let base := if ['0', 'x'].isPrefixOf digits || ['0', 'X'].isPrefixOf digits then 16 else 8
  let digits := if base = 16 then digits.drop 2 else digits
  let run := digits.takeWhile (Number.isDigit base)
  match run.isEmpty, digits.drop run.length with
  | true, _ => none
  | false, [] => some (Number.value base run)
  | false, ['b'] | false, ['B'] => some (Number.value base run * 512)
  | false, _ => none

/-- Takes an offset from the arguments, if one may stand there. -/
def takeOffset (r : Request) (isTraditional : Bool) (operands : List Text) : Request × List Text :=
  if !r.takesOffset && !isTraditional then (r, operands)
  else match operands with
    | [t] =>
        match oldOffset? t with
        | some n => if isTraditional || t.head? = some '+' then ({ r with skipped := n }, []) else (r, operands)
        | none => (r, operands)
    | [path, t] =>
        match oldOffset? t with
        | some n =>
            if isTraditional || t.head?.any fun c => c == '+' || c.isDigit then ({ r with skipped := n }, [path])
            else (r, operands)
        | none => (r, operands)
    | _ => (r, operands)

end Dump

open Dump in
def od : Utility := fun _ arguments =>
  withOptions options arguments fun g => do
    let start : Request := ⟨[], some 8, 0, none, none, none, false, false, true⟩
    match g.options.foldlM (fun r (letter, value) => r.take arguments letter value) start with
    | .error message =>
        complain "od" message
        return 1
    | .ok r =>
        let (r, operands) := takeOffset r (g.has '\x02') g.operands
        let (files, status) ← inputs "od" operands
        let found ← operands.mapM fun path => do
          pure (path = ['-'] || (← Job.find path).toOption.isSome)
        let hasOpened := operands.isEmpty || found.any id
        let all := files.flatMap Prod.snd
        if !hasOpened then return status
        else if r.skipped > all.length then
          complain "od" "cannot skip past end of combined input".toList
          return 1
        else
          let content := all.drop r.skipped
          let content := match r.limit with
            | some n => content.take n
            | none => content
          let fields := if r.fields.isEmpty then [⟨.unsigned 8, 2, false⟩] else r.fields
          let unit := (fields.map Field.size).foldl Nat.lcm 1
          let size ← match r.size with
            | none => pure (if unit < 16 then unit * (16 / unit) else unit)
            | some n =>
                if n != 0 && n % unit = 0 then pure n
                else do
                  complain "od" ("warning: invalid width ".toList ++ shownNat n ++ "; using ".toList ++
                    shownNat unit ++ " instead".toList)
                  pure unit
          let lines : Lines := ⟨fields, r.base, size, r.isBig, r.showsAll⟩
          match r.least with
          | some n => Job.put (lines.texts n r.skipped [] content)
          | none => Job.put (lines.blocks (content.length + 2) r.skipped none false content []).flatten
          return status

end SwiftExistential.Utility
