import SwiftExistential.Toml.Value

/-!
# TOML scalars

Readers for the values without parts: strings in their four forms, integers, reals, booleans and
moments in time. A reader of strings takes the text after the opening quotes and returns the string
with the text after the closing ones.

Values without quotes are first taken as a run of characters and then looked at as a whole. Of a
real only the form is kept and of a moment only what was written, since no setting has such a value.
-/

set_option autoImplicit false

namespace SwiftExistential.Toml

/-! ## Characters -/

def isSpace (c : Char) : Bool := c == ' ' || c == '\t'

/-- Characters that may stand in a comment or a string: all but controls, tab excepted. -/
def isPlain (c : Char) : Bool := c == '\t' || (0x20 ≤ c.toNat && c.toNat != 0x7F)

def hexDigit? (c : Char) : Option Nat :=
  if c.isDigit then some (c.toNat - '0'.toNat)
  else if 'a' ≤ c && c ≤ 'f' then some (c.toNat - 'a'.toNat + 10)
  else if 'A' ≤ c && c ≤ 'F' then some (c.toNat - 'A'.toNat + 10)
  else none

def hexNumber? (digits : Text) : Option Nat :=
  digits.foldlM (fun n c => (hexDigit? c).map fun d => 16 * n + d) 0

/-- The character with a code point given in hexadecimal. -/
def escapedChar? (digits : Text) : Option Char :=
  (hexNumber? digits).bind fun n => if n.isValidChar then some (Char.ofNat n) else none

/-- The character that a one-letter escape stands for. -/
def shortEscape? : Char → Option Char
  | 'b' => some '\x08'
  | 't' => some '\t'
  | 'n' => some '\n'
  | 'f' => some '\x0c'
  | 'r' => some '\r'
  | 'e' => some '\x1b'
  | '"' => some '"'
  | '\\' => some '\\'
  | _ => none

/-! ## Strings

A string of one line ends at its quote or fails at the end of the line. In blocks of lines the first
line end is dropped. -/

/-- The rest of a string in double quotes, with what was read so far in reverse. -/
def basicString? (acc : Text) : Text → Option (Text × Text)
  | [] => none
  | '"' :: rest => some (acc.reverse, rest)
  | '\\' :: 'u' :: a :: b :: c :: d :: rest =>
      (escapedChar? [a, b, c, d]).bind fun x => basicString? (x :: acc) rest
  | '\\' :: 'U' :: a :: b :: c :: d :: e :: f :: g :: h :: rest =>
      (escapedChar? [a, b, c, d, e, f, g, h]).bind fun x => basicString? (x :: acc) rest
  | '\\' :: 'x' :: a :: b :: rest =>
      (escapedChar? [a, b]).bind fun x => basicString? (x :: acc) rest
  | '\\' :: c :: rest => (shortEscape? c).bind fun x => basicString? (x :: acc) rest
  | c :: rest => if c != '\\' && isPlain c then basicString? (c :: acc) rest else none

/-- The rest of a string in single quotes. -/
def literalString? (acc : Text) : Text → Option (Text × Text)
  | [] => none
  | '\'' :: rest => some (acc.reverse, rest)
  | c :: rest => if isPlain c then literalString? (c :: acc) rest else none

/-- Whether nothing but blanks stands before the end of the line. -/
def endsLine (t : Text) : Bool :=
  match t.dropWhile isSpace with
  | '\n' :: _ => true
  | '\r' :: '\n' :: _ => true
  | _ => false

/-- The rest of a string in three double quotes. A backslash at the end of a line skips blanks and
line ends; `skipping` says that this is going on. Up to two quotes may stand directly before the
closing ones. -/
def basicBlock? (skipping : Bool) (acc : Text) : Text → Option (Text × Text)
  | [] => none
  | '\r' :: '\n' :: rest =>
      if skipping then basicBlock? true acc rest else basicBlock? false ('\n' :: '\r' :: acc) rest
  | '"' :: '"' :: '"' :: '"' :: '"' :: rest => some (('"' :: '"' :: acc).reverse, rest)
  | '"' :: '"' :: '"' :: '"' :: rest => some (('"' :: acc).reverse, rest)
  | '"' :: '"' :: '"' :: rest => some (acc.reverse, rest)
  | '\\' :: 'u' :: a :: b :: c :: d :: rest =>
      (escapedChar? [a, b, c, d]).bind fun x => basicBlock? false (x :: acc) rest
  | '\\' :: 'U' :: a :: b :: c :: d :: e :: f :: g :: h :: rest =>
      (escapedChar? [a, b, c, d, e, f, g, h]).bind fun x => basicBlock? false (x :: acc) rest
  | '\\' :: 'x' :: a :: b :: rest =>
      (escapedChar? [a, b]).bind fun x => basicBlock? false (x :: acc) rest
  | '\\' :: c :: rest =>
      if endsLine (c :: rest) then
        if c == '\r' || c == '\n' || isSpace c then basicBlock? true acc rest else none
      else (shortEscape? c).bind fun x => basicBlock? false (x :: acc) rest
  | c :: rest =>
      if skipping && (isSpace c || c == '\n') then basicBlock? true acc rest
      else if c != '\\' && (isPlain c || c == '\n') then basicBlock? false (c :: acc) rest
      else none

/-- The rest of a string in three single quotes. -/
def literalBlock? (acc : Text) : Text → Option (Text × Text)
  | [] => none
  | '\r' :: '\n' :: rest => literalBlock? ('\n' :: '\r' :: acc) rest
  | '\'' :: '\'' :: '\'' :: '\'' :: '\'' :: rest => some (('\'' :: '\'' :: acc).reverse, rest)
  | '\'' :: '\'' :: '\'' :: '\'' :: rest => some (('\'' :: acc).reverse, rest)
  | '\'' :: '\'' :: '\'' :: rest => some (acc.reverse, rest)
  | c :: rest => if isPlain c || c == '\n' then literalBlock? (c :: acc) rest else none

/-- The text without one line end at its start. -/
def dropLineEnd : Text → Text
  | '\n' :: rest => rest
  | '\r' :: '\n' :: rest => rest
  | t => t

/-- A string of any form, at its opening quotes. -/
def string? : Text → Option (Text × Text)
  | '"' :: '"' :: '"' :: rest => basicBlock? false [] (dropLineEnd rest)
  | '\'' :: '\'' :: '\'' :: rest => literalBlock? [] (dropLineEnd rest)
  | '"' :: rest => basicString? [] rest
  | '\'' :: rest => literalString? [] rest
  | _ => none

/-! ## Numbers

Underscores may stand between digits, and other bases have a mark in front. -/

/-- Digits that may be parted by single underscores, without the underscores. -/
def digits? (ok : Char → Bool) : Text → Option Text
  | [] => none
  | [c] => if ok c then some [c] else none
  | c :: '_' :: d :: rest =>
      if ok c && ok d then (digits? ok (d :: rest)).map (c :: ·) else none
  | c :: rest => if ok c then (digits? ok rest).map (c :: ·) else none

/-- The text after a sign, with whether the sign is a minus. -/
def splitSign : Text → Bool × Text
  | '-' :: rest => (true, rest)
  | '+' :: rest => (false, rest)
  | t => (false, t)

/-- The digits of a decimal number without superfluous zeros in front. -/
def decimalDigits? (t : Text) : Option Text :=
  (digits? Char.isDigit t).bind fun ds =>
    match ds with
    | '0' :: _ :: _ => none
    | _ => some ds

/-- The number spelled by digits in some base. -/
def numberIn (base : Nat) (digits : Text) : Nat :=
  digits.foldl (fun n c => base * n + (hexDigit? c).getD 0) 0

def inRange? (n : Int) : Option Int :=
  if -9223372036854775808 ≤ n && n ≤ 9223372036854775807 then some n else none

/-- An integer, written in base ten or, after a mark, in base sixteen, eight or two. -/
def integer? (t : Text) : Option Int :=
  match t with
  | '0' :: 'x' :: ds =>
      (digits? (fun c => (hexDigit? c).isSome) ds).bind fun d => inRange? (numberIn 16 d)
  | '0' :: 'o' :: ds =>
      (digits? (fun c => '0' ≤ c && c ≤ '7') ds).bind fun d => inRange? (numberIn 8 d)
  | '0' :: 'b' :: ds =>
      (digits? (fun c => c == '0' || c == '1') ds).bind fun d => inRange? (numberIn 2 d)
  | _ =>
      let (negative, ds) := splitSign t
      (decimalDigits? ds).bind fun d =>
        let n : Int := numberIn 10 d
        inRange? (if negative then -n else n)

def exponent? (t : Text) : Option Int :=
  let (negative, ds) := splitSign t
  (digits? Char.isDigit ds).map fun d =>
    let n : Int := numberIn 10 d
    if negative then -n else n

/-- A decimal fraction, the product of a number and a power of ten. -/
structure Decimal where
  mantissa : Nat
  exponent : Int

/-- Half a unit above the largest number with 53 binary digits and an exponent of eleven bits. What
is not below it is too large for a real. -/
def realLimit : Nat := (Nat.pow 2 54 - 1) * Nat.pow 2 970

/-- Whether a number is too large for a real. The number of digits before the point decides, unless
it is that of the limit. -/
def Decimal.overflows (d : Decimal) : Bool :=
  let whole : Int := (Nat.toDigits 10 d.mantissa).length + d.exponent
  if d.mantissa = 0 || whole < 309 then false
  else if 309 < whole then true
  else if 0 ≤ d.exponent then decide (realLimit ≤ d.mantissa * Nat.pow 10 d.exponent.toNat)
  else decide (realLimit * Nat.pow 10 (-d.exponent).toNat ≤ d.mantissa)

/-- A real number in digits, with a fraction or an exponent. -/
def decimal? (t : Text) : Option Decimal :=
  let body := (splitSign t).2
  let isMark := fun (c : Char) => c == 'e' || c == 'E'
  let digits := body.takeWhile (!isMark ·)
  let whole := decimalDigits? (digits.takeWhile (· != '.'))
  let fraction :=
    if digits.contains '.' then digits? Char.isDigit ((digits.dropWhile (· != '.')).drop 1)
    else some []
  let exponent := if body.any isMark then exponent? ((body.dropWhile (!isMark ·)).drop 1) else some 0
  match whole, fraction, exponent with
  | some w, some f, some e =>
      if digits.contains '.' || body.any isMark then
        some ⟨numberIn 10 (w ++ f), e - f.length⟩
      else none
  | _, _, _ => none

def isReal (t : Text) : Bool :=
  let body := (splitSign t).2
  body == "inf".toList || body == "nan".toList || (decimal? t).any (!·.overflows)

/-! ## Moments in time

A day must exist in the calendar. -/

def plainNumber? (t : Text) : Option Nat :=
  if !t.isEmpty && t.all Char.isDigit then some (numberIn 10 t) else none

def daysIn (year month : Nat) : Nat :=
  if month = 2 then
    if year % 4 = 0 ∧ (year % 100 ≠ 0 ∨ year % 400 = 0) then 29 else 28
  else if month = 4 ∨ month = 6 ∨ month = 9 ∨ month = 11 then 30
  else 31

def isDate : Text → Bool
  | [a, b, c, d, '-', e, f, '-', g, h] =>
      match plainNumber? [a, b, c, d], plainNumber? [e, f], plainNumber? [g, h] with
      | some year, some month, some day =>
          1 ≤ month && month ≤ 12 && 1 ≤ day && day ≤ daysIn year month
      | _, _, _ => false
  | _ => false

def isHourMinute : Text → Bool
  | [a, b, ':', c, d] =>
      match plainNumber? [a, b], plainNumber? [c, d] with
      | some hour, some minute => hour ≤ 23 && minute ≤ 59
      | _, _ => false
  | _ => false

/-- Whether the text is a time of day; seconds may be left out. -/
def isTime (t : Text) : Bool :=
  isHourMinute (t.take 5) &&
    match t.drop 5 with
    | [] => true
    | ':' :: a :: b :: fraction =>
        (plainNumber? [a, b]).any (· ≤ 60) &&
          match fraction with
          | [] => true
          | '.' :: ds => (plainNumber? ds).isSome
          | _ => false
    | _ => false

def isTimeWithOffset (t : Text) : Bool :=
  isTime t || (match t.getLast? with
    | some c => (c == 'Z' || c == 'z') && isTime t.dropLast
    | none => false) ||
    (let time := t.take (t.length - 6)
     match t.drop (t.length - 6) with
     | sign :: offset => (sign == '+' || sign == '-') && isHourMinute offset && isTime time
     | [] => false)

/-- Whether the text is a date, a time or both. -/
def isMoment (t : Text) : Bool :=
  isDate t || isTime t ||
    (isDate (t.take 10) &&
      match t.drop 10 with
      | sep :: time => (sep == 'T' || sep == 't' || sep == ' ') && isTimeWithOffset time
      | [] => false)

/-! ## Values without quotes -/

/-- Characters of a value that stands without quotes. -/
def isTokenChar (c : Char) : Bool :=
  c.isAlphanum || c == '_' || c == '+' || c == '-' || c == '.' || c == ':'

/-- The unquoted value at the start of a text. A date goes on over one blank if a time follows. -/
def splitToken (t : Text) : Text × Text :=
  let token := t.takeWhile isTokenChar
  let rest := t.dropWhile isTokenChar
  match rest with
  | ' ' :: c :: more =>
      if isDate token && c.isDigit then
        (token ++ ' ' :: (c :: more).takeWhile isTokenChar, (c :: more).dropWhile isTokenChar)
      else (token, rest)
  | _ => (token, rest)

/-- The value that an unquoted text stands for. -/
def tokenValue? (token : Text) : Option Value :=
  if token == "true".toList then some (.boolean true)
  else if token == "false".toList then some (.boolean false)
  else match integer? token with
    | some n => some (.integer n)
    | none =>
        if isReal token then some .real
        else if isMoment token then some (.moment token)
        else none

def scalar? (t : Text) : Option (Value × Text) :=
  match t with
  | '"' :: _ => (string? t).map fun (s, rest) => (.text s, rest)
  | '\'' :: _ => (string? t).map fun (s, rest) => (.text s, rest)
  | _ =>
      let (token, rest) := splitToken t
      (tokenValue? token).map fun v => (v, rest)

end SwiftExistential.Toml
