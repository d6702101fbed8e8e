import SwiftExistential.Text.Number
import SwiftExistential.Text.Real
import SwiftExistential.Utility.Content
import SwiftExistential.Utility.Options

/-!
# Amounts to scale

A number may be followed by a letter for its unit, and a format says how it is shown. Both ways are
here: from a text to a number and from a number to a text.

Numbers have 64 binary digits, as on the machine, and the results depend on it. So they are computed
with the numbers of the machine and are not exact; only their decimal forms are.
-/

set_option autoImplicit false

/-! ## Formats of amounts

A format is one directive between two texts. Two percent signs are no directive, and are printed as
they stand. -/

namespace SwiftExistential.Utility.Amounts

/-- What a format says. -/
structure Layout where
  before : Text
  after : Text
  isGrouped : Bool
  /-- The width up to which zeros are put before the number. -/
  zeros : Nat
  /-- The width up to which there are blanks, if there is one, and whether they stand behind the
  number. -/
  padding : Option (Nat × Bool)
  /-- The places behind the point. -/
  places : Option Nat

/-- The start of the first directive: how many octets and pairs of percent signs stand before it,
and how many octets these are. -/
def directiveStart? : Text → Option (Nat × Nat)
  | '%' :: '%' :: rest => (directiveStart? rest).map fun (n, k) => (n + 1, k + 2)
  | '%' :: _ => some (0, 0)
  | _ :: rest => (directiveStart? rest).map fun (n, k) => (n + 1, k + 1)
  | [] => none

/-- Reads flags: whether there is an apostrophe, whether there is a zero, and the text behind them.
-/
def readFlags (isGrouped hasZero : Bool) : Text → Bool × Bool × Text
  | ' ' :: rest => readFlags isGrouped hasZero rest
  | '\'' :: rest => readFlags true hasZero rest
  | '0' :: rest => readFlags isGrouped true rest
  | rest => (isGrouped, hasZero, rest)

/-- **Reads a format.** -/
def Layout.read (t : Text) : Except Text Layout :=
  let about := fun (message : String) => Except.error ("format ".toList ++ cited t ++ ' ' :: message.toList)
  match directiveStart? t with
  | none => about "has no % directive"
  | some (units, start) =>
      let (isGrouped, hasZero, behind) := readFlags false false (t.drop (start + 1))
      let width := Number.read 10 behind
      if width.isCut || width.value < -9223372036854775807 then
        .error ("invalid format ".toList ++ cited t ++ " (width overflow)".toList)
      else
        let n := width.value.natAbs
        let isLeft : Bool := width.value < 0
        let (zeros, padding) : Nat × Option (Nat × Bool) :=
          if n = 0 then (0, none) else if hasZero && !isLeft then (n, none) else (0, some (n, isLeft))
        let finish := fun (places : Option Nat) (rest : Text) =>
          match rest with
          | 'f' :: after =>
              if (directiveStart? after).isSome then about "has too many % directives"
              else .ok ⟨t.take units, after, isGrouped, zeros, padding, places⟩
          | _ => .error ("invalid format ".toList ++ cited t ++ ", directive must be %[0]['][-][N][.][N]f".toList)
        match width.rest with
        | [] => about "ends in %"
        | '.' :: rest =>
            let found := Number.read 10 rest
            let isOdd := rest.head?.any fun c => c == ' ' || c == '\t' || c == '+'
            if found.isCut || found.value < 0 || isOdd then
              .error ("invalid precision in format ".toList ++ cited t)
            else finish (some found.value.toNat) found.rest
        | rest => finish none rest

end SwiftExistential.Utility.Amounts

/-! ## Numbers with letters for large units

A number may have a letter behind it for a power of a thousand, or of 1024. Numbers have 64 binary
digits, and are rounded to whole ones in one of five ways. -/

namespace SwiftExistential.Utility.Amounts

open SwiftExistential.Real (Form)

/-- What the letters behind numbers stand for. -/
inductive Scale where
  /-- There are no letters. -/
  | plain
  /-- A letter stands for powers of 1024 if there is an `i` behind it, and else of a thousand. -/
  | either
  | thousands
  | binary
  /-- Powers of 1024, with an `i` behind each letter. -/
  | markedBinary
deriving DecidableEq, Repr

namespace Scale

def base : Scale → Nat
  | binary | markedBinary => 1024
  | _ => 1000

end Scale

/-- How a number becomes a whole one. -/
inductive Rounding where
  | up
  | down
  | fromZero
  | towardsZero
  | nearest
deriving DecidableEq, Repr

namespace Rounding

/-- The least whole number that is not less. -/
def ceiling (x : Form) : Int :=
  let n := Wide.whole x
  if Wide.isLess (Wide.ofInt n) x then n + 1 else n

/-- The greatest whole number that is not greater. -/
def floor (x : Form) : Int := -ceiling (Wide.opposite x)

def half : Form := .finite false ⟨1, -1⟩

/-- The whole number for a number that is not too large. -/
def toInt (r : Rounding) (x : Form) : Int :=
  let isNegative := Wide.isLess x (Wide.ofInt 0)
  match r with
  | up => ceiling x
  | down => floor x
  | fromZero => if isNegative then floor x else ceiling x
  | towardsZero => Wide.whole x
  | nearest => Wide.whole (Wide.add x (if isNegative then Wide.opposite half else half))

/-- What is rounded at once; a larger number is a multiple of this and a rest. -/
def block : Form := Wide.ofInt 9223372036854775807

/-- **Rounds a number** to a whole one. -/
def apply (r : Rounding) (x : Form) : Form :=
  let blocks := Wide.product block (Wide.ofInt (Wide.whole (Wide.quotient x block)))
  Wide.add blocks (Wide.ofInt (r.toInt (Wide.add x (Wide.opposite blocks))))

end Rounding

/-! ### Reading -/

/-- Why a number cannot be read. -/
inductive Mistake where
  | tooLarge
  | notNumber
  | letter
  | wrongLetter
  | noMark
  /-- Something stands behind the number. -/
  | behind (rest : Text)
deriving DecidableEq, Repr

def Mistake.message (t : Text) : Mistake → Text
  | tooLarge => "value too large to be converted: ".toList ++ cited t
  | notNumber => "invalid number: ".toList ++ cited t
  | letter => "rejecting suffix in input: ".toList ++ cited t ++ " (consider using --from)".toList
  | wrongLetter => "invalid suffix in input: ".toList ++ cited t
  | noMark => "missing 'i' suffix in input: ".toList ++ cited t ++ " (e.g Ki/Mi/Gi)".toList
  | behind rest => "invalid suffix in input ".toList ++ cited t ++ ": ".toList ++ cited rest

/-- What has been read of a text. -/
structure Reading where
  value : Form
  /-- Whether no digit can have been lost. -/
  isExact : Bool
  /-- How many digits stand behind the point. -/
  places : Nat
  rest : Text

/-- How many digits are kept in any case. -/
def exactDigits : Nat := 18

def mostDigits : Nat := 33

/-- Reads digits with a sign, which may be missing before a point. -/
def readDigits (t : Text) : Except Mistake (Bool × Reading) :=
  let isNegative := t.head? == some '-'
  let t := if isNegative then t.drop 1 else t
  let run := t.takeWhile Char.isDigit
  let count := (run.dropWhile (· == '0')).length
  let rest := t.drop run.length
  if run.isEmpty && rest.head? != some '.' then .error .notNumber
  else if count > mostDigits then .error .tooLarge
  else
    let value := run.foldl (fun x d => Wide.add (Wide.times 10 x) (Wide.ofInt (d.toNat - 48))) (Wide.ofInt 0)
    .ok (isNegative, ⟨if isNegative then Wide.opposite value else value, count ≤ exactDigits, run.length, rest⟩)

def readReal (t : Text) : Except Mistake Reading := do
  let (isNegative, whole) ← readDigits t
  match whole.rest with
  | '.' :: behind =>
      let (isOpposite, fraction) ← readDigits behind
      if isOpposite then .error .notNumber
      else
        let part := if fraction.places = 0 then fraction.value
          else Wide.quotient fraction.value (Wide.power (Wide.ofInt 10) fraction.places)
        let value := Wide.add whole.value (if isNegative then Wide.opposite part else part)
        .ok ⟨value, whole.isExact && fraction.isExact, fraction.places, fraction.rest⟩
  | _ => .ok { whole with places := 0 }

/-- Reads the letter behind a number. Blanks may stand before it. -/
def withLetter (scale : Scale) (r : Reading) : Except Mistake (Reading × Nat × Nat) :=
  if r.rest.isEmpty then .ok (r, scale.base, 0)
  else
    let behind := r.rest.dropWhile fun c => c == ' ' || c == '\t'
    let index := match behind with
      | [] => some 0
      | c :: _ => (powerLetters.findIdx? (· == c)).map (· + 1)
    match index with
    | none => .error .wrongLetter
    | some power =>
        let rest := behind.drop 1
        if scale = .plain then .error .letter
        else if scale = .either && rest.head? == some 'i' then
          .ok ({ r with places := 0, rest := rest.drop 1 }, 1024, power)
        else .ok ({ r with places := 0, rest }, scale.base, power)

/-- **Reads a number with its letter**, which is the whole text. -/
def read (scale : Scale) (t : Text) : Except Mistake Reading := do
  let (r, base, power) ← withLetter scale (← readReal t)
  if scale = .markedBinary && r.rest.head? != some 'i' then .error .noMark
  else
    let rest := if scale = .markedBinary then r.rest.drop 1 else r.rest
    let value := if power = 0 then r.value else Wide.product r.value (Wide.power (Wide.ofInt base) power)
    if rest.isEmpty then .ok { r with value, rest } else .error (.behind rest)

/-! ### Writing

The unit is the largest one that leaves at least one before the point. Rounding may reach the next
unit. -/

def size : Form → Form
  | .finite _ d => .finite false d
  | x => x

/-- Divides by a base as long as the number is not below it. The number bounds the divisions, of
which those that have been made are counted. -/
def scaleDown (base : Nat) : Nat → Form → Nat → Form × Nat
  | 0, x, count => (x, count)
  | fuel + 1, x, count =>
      if Wide.isLess (size x) (Wide.ofInt base) then (x, count)
      else scaleDown base fuel (Wide.quotient x (Wide.ofInt base)) (count + 1)

def mostDivisions : Nat := 200

/-- The power of ten of the first digit of a number that is not below one. -/
def tens (x : Form) : Nat := (scaleDown 10 mostDivisions x 0).2

/-- Rounds a number to places behind the point. -/
def roundAt (r : Rounding) (places : Nat) (x : Form) : Form :=
  let unit := Wide.power (Wide.ofInt 10) places
  if places = 0 then r.apply x else Wide.quotient (r.apply (Wide.product x unit)) unit

/-- A number with places behind the point, and zeros before it up to a width. -/
def digits (zeros places : Nat) (x : Form) : Text :=
  let (isNegative, shown) := x.shown false 'f' places
  let sign := if isNegative then ['-'] else []
  sign ++ List.replicate (zeros - sign.length - shown.length) '0' ++ shown

/-- **The text of a number in a scale.** The places behind the point may be asked for; those of the
number count only where there are no letters. -/
def text (scale : Scale) (r : Rounding) (asked : Option Nat) (zeros places : Nat) (x : Form) : Text :=
  if scale = .plain then
    let places := asked.getD places
    digits zeros places (roundAt r places x)
  else
    let base := Wide.ofInt scale.base
    let isBelow := fun (x limit : Form) => Wide.isLess (size x) limit
    let (scaled, power) := scaleDown scale.base mostDivisions x 0
    let kept := match asked with
      | some n => min (power * 3) n
      | none => if isBelow scaled (Wide.ofInt 10) then 1 else 0
    let rounded := roundAt r kept scaled
    let (rounded, power) := if isBelow rounded base then (rounded, power) else (Wide.quotient rounded base, power + 1)
    let isSmall := Wide.isLess (Wide.ofInt 0) (size rounded) && isBelow rounded (Wide.ofInt 10) && power > 0
    let letter := if power = 0 then [] else (powerLetters[power - 1]?).toList
    digits zeros (asked.getD (if isSmall then 1 else 0)) rounded ++ letter ++
      (if scale = .markedBinary && power > 0 then ['i'] else [])

end SwiftExistential.Utility.Amounts
