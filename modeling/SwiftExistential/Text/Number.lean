import SwiftExistential.Text.Basic

/-!
# Numbers at the start of texts

Programs read numbers the same way: blanks and a sign may come first, a base may be marked, and what
follows the last digit is left. A number of 64 bits that is too large counts as the largest.

A reader returns what it has found with the text that is left, so a caller can tell a text that is a
number from one that only begins with one. Numbers are written again in the base that is asked for.
-/

set_option autoImplicit false

namespace SwiftExistential.Number

/-- The blanks that may stand before a number. -/
def isSpace (c : Char) : Bool :=
  c == ' ' || c == '\t' || c == '\n' || c == '\x0b' || c == '\x0c' || c == '\r'

def digit? (c : Char) : Option Nat :=
  if '0' ≤ c && c ≤ '9' then some (c.toNat - '0'.toNat)
  else if 'a' ≤ c && c ≤ 'z' then some (c.toNat - 'a'.toNat + 10)
  else if 'A' ≤ c && c ≤ 'Z' then some (c.toNat - 'A'.toNat + 10)
  else none

def isDigit (base : Nat) (c : Char) : Bool :=
  match digit? c with
  | some d => d < base
  | none => false

def value (base : Nat) (digits : Text) : Nat :=
  digits.foldl (fun n c => base * n + (digit? c).getD 0) 0

def digits (base n : Nat) : Text := Nat.toDigits base n

def shown (n : Int) : Text := (toString n).toList

/-- The largest number of 64 bits with a sign, plus one. -/
def limit : Nat := 9223372036854775808

/-- A number at the start of a text. -/
structure Found where
  value : Int
  /-- Whether there were digits. -/
  isNumber : Bool
  /-- Whether it was too large. -/
  isCut : Bool
  rest : Text

/-- The base that is marked at the start of a text, and the text behind the mark. Without a mark, it
is the base ten, or eight after a zero. -/
def markedBase : Text → Nat × Text
  | '0' :: 'x' :: c :: rest => if isDigit 16 c then (16, c :: rest) else (8, '0' :: 'x' :: c :: rest)
  | '0' :: 'X' :: c :: rest => if isDigit 16 c then (16, c :: rest) else (8, '0' :: 'X' :: c :: rest)
  | '0' :: rest => (8, '0' :: rest)
  | t => (10, t)

/-- Puts a sign before a number and cuts it to 64 bits. -/
def signed (isNegative : Bool) (n : Nat) : Int × Bool :=
  if isNegative then
    if n > limit then (-(limit : Int), true) else (-(n : Int), false)
  else if n ≥ limit then ((limit : Int) - 1, true) else ((n : Int), false)

/-- **Reads a number.** Base zero stands for the marked one. -/
def read (base : Nat) (t : Text) : Found :=
  let start := t.dropWhile isSpace
  let (isNegative, unsigned) := match start with
    | '-' :: rest => (true, rest)
    | '+' :: rest => (false, rest)
    | rest => (false, rest)
  let (base, behind) := if base = 0 then markedBase unsigned else (base, unsigned)
  let run := behind.takeWhile (isDigit base)
  if run.isEmpty then ⟨0, false, false, t⟩
  else
    let (n, isCut) := signed isNegative (value base run)
    ⟨n, true, isCut, behind.drop run.length⟩

/-- The number that a whole text is, apart from blanks at its ends. -/
def whole? (base : Nat) (t : Text) : Option Int :=
  let found := read base t
  if found.isNumber && !found.isCut && (found.rest.dropWhile isSpace).isEmpty then some found.value
  else none

/-- The number of 64 bits with a sign that is left of a result. -/
def wrap (n : Int) : Int := Int.bmod n 18446744073709551616

end SwiftExistential.Number
