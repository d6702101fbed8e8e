import SwiftExistential.Text.Number

/-!
# Numbers with a fraction

Numbers with a fraction as texts, with the precision of a machine or more. Nothing here computes
with rounded values on the way: a number is exact until it is shown or stored, and is rounded once.

The first part shows numbers in the forms that formats know; the second has the numbers of 64 binary
digits that programs add and multiply.
-/

set_option autoImplicit false

/-! ## Decimal forms of floating point numbers

A floating point number is a whole number times a power of two, so each of its decimal forms can be
computed exactly: the digits are those of the nearest whole number of units of the last place, and a
tie goes to the even one. -/

namespace SwiftExistential.Real

/-- A number that is not negative: a whole number times a power of two. -/
structure Dyadic where
  mantissa : Nat
  exponent : Int
deriving DecidableEq, Repr

/-- What the bits of a floating point number stand for. -/
inductive Form where
  | finite (isNegative : Bool) (value : Dyadic)
  | infinite (isNegative : Bool)
  | notNumber (isNegative : Bool)
deriving DecidableEq, Repr

/-- **The form of a floating point number.** -/
def form (x : Float) : Form :=
  let bits := x.toBits.toNat
  let isNegative := bits / 9223372036854775808 = 1
  let exponent := bits / 4503599627370496 % 2048
  let fraction := bits % 4503599627370496
  if exponent = 2047 then if fraction = 0 then .infinite isNegative else .notNumber isNegative
  else if exponent = 0 then .finite isNegative ⟨fraction, -1074⟩
  else .finite isNegative ⟨fraction + 4503599627370496, (exponent : Int) - 1075⟩

/-- The nearest whole number of a quotient; a tie goes to the even one. -/
def roundDiv (a b : Nat) : Nat :=
  let q := a / b
  let r := a % b
  if 2 * r > b || (2 * r = b && q % 2 = 1) then q + 1 else q

/-- The nearest whole number of a number times a power of ten. -/
def Dyadic.scaled (d : Dyadic) (places : Int) : Nat :=
  let up := fun (base : Nat) (e : Int) => Nat.pow base e.toNat
  roundDiv (d.mantissa * up 2 d.exponent * up 10 places) (up 2 (-d.exponent) * up 10 (-places))

/-- Whether a number is less than a power of ten. -/
def Dyadic.isBelow (d : Dyadic) (power : Int) : Bool :=
  d.mantissa * Nat.pow 2 d.exponent.toNat * Nat.pow 10 (-power).toNat <
    Nat.pow 10 power.toNat * Nat.pow 2 (-d.exponent).toNat

/-- The power of ten of the first digit, from a first guess downwards. -/
def firstPlaceFrom (d : Dyadic) : Nat → Int → Int
  | 0, power => power
  | fuel + 1, power => if d.isBelow power then firstPlaceFrom d fuel (power - 1) else power

/-- The power of ten of the first digit. -/
def Dyadic.firstPlace (d : Dyadic) : Int :=
  if d.mantissa = 0 then 0
  else
    let bits : Int := (Nat.log2 d.mantissa : Int) + d.exponent
    let guess := bits * 30103 / 100000 + 2
    firstPlaceFrom d 8 guess

/-- Digits with zeros before them, so many at least. -/
def atLeast (count n : Nat) : Text :=
  let digits := Number.digits 10 n
  List.replicate (count - digits.length) '0' ++ digits

/-- Puts a point before the last digits. -/
def pointed (keepsPoint : Bool) (places : Nat) (digits : Text) : Text :=
  let whole := digits.take (digits.length - places)
  let rest := digits.drop (digits.length - places)
  if places = 0 then if keepsPoint then digits ++ ['.'] else digits else whole ++ '.' :: rest

/-- The form with so many places behind the point. -/
def fixed (keepsPoint : Bool) (places : Nat) (d : Dyadic) : Text :=
  pointed keepsPoint places (atLeast (places + 1) (d.scaled places))

/-- The digits of a number, one more than the places, and the power of ten of the first. -/
def scientificDigits (places : Nat) (d : Dyadic) : Nat × Int :=
  let first := d.firstPlace
  let n := d.scaled ((places : Int) - first)
  if n ≥ Nat.pow 10 (places + 1) then (n / 10, first + 1) else (n, first)

def powerText (letter : Char) (power : Int) : Text :=
  letter :: (if power < 0 then '-' else '+') :: atLeast 2 power.natAbs

/-- The form with one digit before the point and a power of ten. -/
def scientific (keepsPoint : Bool) (letter : Char) (places : Nat) (d : Dyadic) : Text :=
  let (n, power) := scientificDigits places d
  pointed keepsPoint places (atLeast (places + 1) n) ++ powerText letter power

/-- Drops zeros behind a point, and the point if nothing is left behind it. -/
def dropZeros (t : Text) : Text :=
  if t.contains '.' then
    match t.reverse.dropWhile (· == '0') with
    | '.' :: rest => rest.reverse
    | rest => rest.reverse
  else t

/-- The form with so many digits that count, in the shorter way. -/
def general (keepsPoint : Bool) (letter : Char) (count : Nat) (d : Dyadic) : Text :=
  let count := max 1 count
  let (n, power) := scientificDigits (count - 1) d
  if -4 ≤ power && power < count then
    let t := fixed keepsPoint ((count : Int) - 1 - power).toNat d
    if keepsPoint then t else dropZeros t
  else
    let t := pointed keepsPoint (count - 1) (atLeast count n)
    (if keepsPoint then t else dropZeros t) ++ powerText letter power

/-- The bits behind the point in the base sixteen, as a number of thirteen digits. -/
def fractionBits : Nat := 52

/-- The form in the base sixteen with a power of two: behind the mark `0x`, one bit, a point and
digits. With no precision there are as many digits as it takes. -/
def hexadecimal (keepsPoint : Bool) (letter : Char) (precision : Option Nat) (d : Dyadic) : Text :=
  let power : Int := if d.mantissa = 0 then 0 else d.exponent + fractionBits
  let places := precision.getD 13
  let n := if places < 13 then roundDiv d.mantissa (Nat.pow 16 (13 - places))
    else d.mantissa * Nat.pow 16 (places - 13)
  let digits := Number.digits 16 n
  let digits := List.replicate (places + 1 - digits.length) '0' ++ digits
  let behind := digits.drop (digits.length - places)
  let behind := if precision.isSome then behind else (behind.reverse.dropWhile (· == '0')).reverse
  let whole := digits.take (digits.length - places)
  let t := whole ++ (if behind.isEmpty && !keepsPoint then [] else '.' :: behind) ++
    'p' :: (if power < 0 then '-' else '+') :: Number.digits 10 power.natAbs
  if letter.isUpper then t.map Char.toUpper else t

/-- The text of a form by the letter of a directive. -/
def Form.shown (keepsPoint : Bool) (letter : Char) (precision : Nat) : Form → Bool × Text
  | .infinite s => (s, if letter.isUpper then "INF".toList else "inf".toList)
  | .notNumber s => (s, if letter.isUpper then "NAN".toList else "nan".toList)
  | .finite s d =>
      (s, match letter with
        | 'f' | 'F' => fixed keepsPoint precision d
        | 'e' | 'E' => scientific keepsPoint letter precision d
        | 'G' => general keepsPoint 'E' precision d
        | _ => general keepsPoint 'e' precision d)

/-- **The text of a floating point number** by the letter of a directive. -/
def shown (keepsPoint : Bool) (letter : Char) (precision : Nat) (x : Float) : Bool × Text :=
  (form x).shown keepsPoint letter precision

/-! ### Reading -/

/-- A floating point number at the start of a text. -/
structure Found where
  value : Float
  isNumber : Bool
  rest : Text

/-- The power of ten behind digits, and the text behind it. -/
def readPower (t : Text) : Int × Text :=
  match t with
  | c :: rest =>
      if c == 'e' || c == 'E' then
        let (isNegative, digits) := match rest with
          | '-' :: r => (true, r)
          | '+' :: r => (false, r)
          | r => (false, r)
        let run := digits.takeWhile Char.isDigit
        if run.isEmpty then (0, t)
        else
          let n : Int := Number.value 10 run
          (if isNegative then -n else n, digits.drop run.length)
      else (0, t)
  | [] => (0, [])

/-- The number of digits times a power of ten. Powers that are far out of reach are cut. -/
def ofDecimal (digits : Nat) (power : Int) : Float :=
  if power < 0 then Float.ofScientific digits true (min power.natAbs 2000)
  else Float.ofScientific digits false (min power.natAbs 2000)

/-- Whether a text starts with a word, in small or capital letters. -/
def startsWithWord (word : String) (t : Text) : Bool :=
  (t.take word.length).map Char.toLower == word.toList

/-- **Reads a floating point number.** -/
def read (t : Text) : Found :=
  let start := t.dropWhile Number.isSpace
  let (isNegative, unsigned) := match start with
    | '-' :: r => (true, r)
    | '+' :: r => (false, r)
    | r => (false, r)
  let sign := fun (x : Float) => if isNegative then -x else x
  let hex := match unsigned with
    | '0' :: x :: c :: rest =>
        if (x == 'x' || x == 'X') && Number.isDigit 16 c then
          let run := (c :: rest).takeWhile (Number.isDigit 16)
          some (Number.value 16 run, (c :: rest).drop run.length)
        else none
    | _ => none
  match hex with
  | some (n, rest) => ⟨sign (Float.ofNat n), true, rest⟩
  | none =>
      let whole := unsigned.takeWhile Char.isDigit
      let behind := unsigned.drop whole.length
      let (fraction, behind) := match behind with
        | '.' :: r =>
            let run := r.takeWhile Char.isDigit
            if whole.isEmpty && run.isEmpty then ([], behind) else (run, r.drop run.length)
        | r => ([], r)
      if whole.isEmpty && fraction.isEmpty then
        if startsWithWord "infinity" unsigned then ⟨sign (1.0 / 0.0), true, unsigned.drop 8⟩
        else if startsWithWord "inf" unsigned then ⟨sign (1.0 / 0.0), true, unsigned.drop 3⟩
        else if startsWithWord "nan" unsigned then ⟨0.0 / 0.0, true, unsigned.drop 3⟩
        else ⟨0.0, false, t⟩
      else
        let (power, rest) := readPower behind
        ⟨sign (ofDecimal (Number.value 10 (whole ++ fraction)) (power - fraction.length)), true, rest⟩

end SwiftExistential.Real

/-! ## Numbers with 64 binary digits

Sums and products are exact first, and then the nearest number with 64 binary digits is taken; a tie
goes to the even one. -/

namespace SwiftExistential.Wide

open SwiftExistential.Real (Form)

def precision : Nat := 64

/-- The nearest number to a quotient that is not zero. -/
def ofQuotient (a b : Nat) : Real.Dyadic :=
  if a = 0 || b = 0 then ⟨0, 0⟩
  else
    let guess : Int := (Nat.log2 a : Int) - Nat.log2 b - (precision - 1 : Nat)
    let at' := fun (e : Int) => Real.roundDiv (a * Nat.pow 2 (-e).toNat) (b * Nat.pow 2 e.toNat)
    -- the first digit may be one place lower than the lengths say
    let e := if at' guess < Nat.pow 2 (precision - 1) then guess - 1 else guess
    ⟨at' e, e⟩

/-- The nearest number to a whole number times a power of two. -/
def round (mantissa : Nat) (exponent : Int) : Real.Dyadic :=
  if Nat.log2 mantissa < precision then ⟨mantissa, exponent⟩
  else
    let d := ofQuotient mantissa 1
    ⟨d.mantissa, d.exponent + exponent⟩

/-- The nearest number to digits times a power of ten. -/
def ofDecimal (digits : Nat) (power : Int) : Real.Dyadic :=
  ofQuotient (digits * Nat.pow 10 power.toNat) (Nat.pow 10 (-power).toNat)

/-- A number with a sign, in units of a power of two. -/
def signedUnits (isNegative : Bool) (d : Real.Dyadic) (exponent : Int) : Int :=
  let n : Int := d.mantissa * Nat.pow 2 (d.exponent - exponent).toNat
  if isNegative then -n else n

def add : Form → Form → Form
  | .finite s a, .finite t b =>
      let e := min a.exponent b.exponent
      let sum := signedUnits s a e + signedUnits t b e
      .finite (if sum = 0 then s && t else sum < 0) (round sum.natAbs e)
  | .finite _ _, x => x
  | x, _ => x

def times (n : Nat) : Form → Form
  | .finite s d => .finite s (round (n * d.mantissa) d.exponent)
  | x => x

def product : Form → Form → Form
  | .finite s a, .finite t b => .finite (s != t) (round (a.mantissa * b.mantissa) (a.exponent + b.exponent))
  | .finite .., x => x
  | x, _ => x

/-- The quotient of two numbers, of which the second is not zero. -/
def quotient : Form → Form → Form
  | .finite s a, .finite t b =>
      let q := ofQuotient a.mantissa b.mantissa
      .finite (s != t) ⟨q.mantissa, q.exponent + a.exponent - b.exponent⟩
  | x, _ => x

def ofInt (n : Int) : Form := .finite (n < 0) (round n.natAbs 0)

def opposite : Form → Form
  | .finite s a => .finite (!s) a
  | .infinite s => .infinite (!s)
  | .notNumber s => .notNumber (!s)

def whole : Form → Int
  | .finite s a =>
      let n : Int := a.mantissa * Nat.pow 2 a.exponent.toNat / Nat.pow 2 (-a.exponent).toNat
      if s then -n else n
  | _ => 0

/-- A power of a number, which is multiplied step by step. -/
def power (x : Form) : Nat → Form
  | 0 => ofInt 1
  | 1 => x
  | n + 1 => product (power x n) x

def isLess : Form → Form → Bool
  | .finite s a, .finite t b =>
      let e := min a.exponent b.exponent
      signedUnits s a e < signedUnits t b e
  | .infinite s, .infinite t => s && !t
  | .infinite s, .finite _ _ => s
  | .finite _ _, .infinite t => !t
  | _, _ => false

def isEqual (x y : Form) : Bool :=
  match x, y with
  | .notNumber _, _ | _, .notNumber _ => false
  | x, y => !isLess x y && !isLess y x

/-- The hexadecimal digits of a number, the first of which is eight at least. -/
def hexadecimal (d : Real.Dyadic) : Text :=
  if d.mantissa = 0 then "0p+0".toList
  else
    let shift := precision - 1 - Nat.log2 d.mantissa
    let digits := Number.digits 16 (d.mantissa * Nat.pow 2 shift)
    let power : Int := d.exponent - shift + (precision - 4 : Nat)
    let behind := ((digits.drop 1).reverse.dropWhile (· == '0')).reverse
    digits.take 1 ++ (if behind.isEmpty then [] else '.' :: behind) ++
      'p' :: (if power < 0 then '-' else '+') :: Number.digits 10 power.natAbs

/-! ### Reading -/

/-- The power behind a letter, and the text behind it. -/
def readPower (letter : Char) (t : Text) : Int × Text :=
  match t with
  | c :: rest =>
      if c.toLower == letter then
        let (isNegative, digits) := match rest with
          | '-' :: r => (true, r)
          | '+' :: r => (false, r)
          | r => (false, r)
        let run := digits.takeWhile Char.isDigit
        if run.isEmpty then (0, t)
        else
          let n : Int := min (Number.value 10 run) 100000
          (if isNegative then -n else n, digits.drop run.length)
      else (0, t)
  | [] => (0, [])

/-- Reads digits in a base, which may have a point among them: the number, how many digits stand
behind the point, and the text behind them. -/
def readDigits? (base : Nat) (t : Text) : Option (Nat × Nat × Text) :=
  let whole := t.takeWhile (Number.isDigit base)
  let behind := t.drop whole.length
  let (fraction, rest) := match behind with
    | '.' :: more =>
        let run := more.takeWhile (Number.isDigit base)
        if whole.isEmpty && run.isEmpty then ([], behind) else (run, more.drop run.length)
    | t => ([], t)
  if whole.isEmpty && fraction.isEmpty then none
  else some (Number.value base (whole ++ fraction), fraction.length, rest)

/-- **The number that a text is**, with blanks before it. -/
def read? (t : Text) : Option Form :=
  let start := t.dropWhile Number.isSpace
  let (s, unsigned) := match start with
    | '-' :: r => (true, r)
    | '+' :: r => (false, r)
    | r => (false, r)
  let word := String.ofList (unsigned.map Char.toLower)
  if word = "inf" || word = "infinity" then some (.infinite s)
  else if word = "nan" then some (.notNumber s)
  else
    let isHex := ['0', 'x'].isPrefixOf (unsigned.map Char.toLower)
    match if isHex then readDigits? 16 (unsigned.drop 2) else none with
    | some (n, places, rest) =>
        let (power, rest) := readPower 'p' rest
        if rest.isEmpty then some (.finite s (round n (power - 4 * places))) else none
    | none =>
        match readDigits? 10 unsigned with
        | none => none
        | some (n, places, rest) =>
            let (power, rest) := readPower 'e' rest
            if !rest.isEmpty then none
            else if n = 0 then some (.finite s ⟨0, 0⟩)
            else if power > 5000 then some (.infinite s)
            else if power < -6000 then some (.finite s ⟨0, 0⟩)
            else some (.finite s (ofDecimal n (power - places)))

end SwiftExistential.Wide
