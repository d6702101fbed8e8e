import SwiftExistential.Text.Basic

/-!
# JSON

A reader for JSON texts. Of a number only natural numbers keep their value. A text that holds half
of a surrogate pair reads as a text without characters (`none`), so that it does no harm where
nobody looks at it.

The reader goes over the text once. It is recursive on a number that bounds both the nesting and the
length of what is read, and starts with more than the length of the text. A document that is not
JSON is read as nothing; where it went wrong is not told.
-/

set_option autoImplicit false

namespace SwiftExistential.Json

/-- A JSON value. -/
inductive Value where
  | null
  | boolean (value : Bool)
  | natural (value : Nat)
  /-- Any other number. -/
  | number
  | text (value : Option Text)
  | list (items : List Value)
  /-- The members in the order they are written. -/
  | object (members : List (Option Text × Value))
deriving Repr

def skipBlanks (t : Text) : Text :=
  t.dropWhile fun c => c == ' ' || c == '\t' || c == '\n' || c == '\r'

/-! ## Texts

Escapes are read as code units first, and pairs of them are put together afterwards. -/

def hexDigit? (c : Char) : Option Nat :=
  if c.isDigit then some (c.toNat - '0'.toNat)
  else if 'a' ≤ c && c ≤ 'f' then some (c.toNat - 'a'.toNat + 10)
  else if 'A' ≤ c && c ≤ 'F' then some (c.toNat - 'A'.toNat + 10)
  else none

/-- The number that four hexadecimal digits spell. -/
def codeUnit? (a b c d : Char) : Option Nat :=
  [a, b, c, d].foldlM (fun n x => (hexDigit? x).map fun v => 16 * n + v) 0

/-- The character that a one-letter escape stands for. -/
def shortEscape? : Char → Option Char
  | '"' => some '"'
  | '\\' => some '\\'
  | '/' => some '/'
  | 'b' => some '\x08'
  | 'f' => some '\x0c'
  | 'n' => some '\n'
  | 'r' => some '\r'
  | 't' => some '\t'
  | _ => none

/-- The units of a text up to its closing quote: code points, among them halves of surrogate pairs
that were written as escapes. -/
def units? (acc : List Nat) : Text → Option (List Nat × Text)
  | [] => none
  | '"' :: rest => some (acc.reverse, rest)
  | '\\' :: 'u' :: a :: b :: c :: d :: rest =>
      (codeUnit? a b c d).bind fun u => units? (u :: acc) rest
  | '\\' :: c :: rest => (shortEscape? c).bind fun x => units? (x.toNat :: acc) rest
  | c :: rest => if c == '\\' || c.toNat < 0x20 then none else units? (c.toNat :: acc) rest

/-- Whether the unit is the first half of a surrogate pair. -/
def isHigh (u : Nat) : Bool := 0xD800 ≤ u && u ≤ 0xDBFF

/-- Whether the unit is the second half of a surrogate pair. -/
def isLow (u : Nat) : Bool := 0xDC00 ≤ u && u ≤ 0xDFFF

/-- The characters of some units, if every half of a pair has its other half. -/
def characters? : List Nat → Option Text
  | [] => some []
  | [u] => if isHigh u || isLow u then none else some [Char.ofNat u]
  | u :: v :: rest =>
      if isHigh u then
        if isLow v then
          (characters? rest).map (Char.ofNat (0x10000 + (u - 0xD800) * 0x400 + (v - 0xDC00)) :: ·)
        else none
      else if isLow u then none
      else (characters? (v :: rest)).map (Char.ofNat u :: ·)

/-- A text after its opening quote. -/
def text? (t : Text) : Option (Option Text × Text) :=
  (units? [] t).map fun (us, rest) => (characters? us, rest)

/-! ## Numbers

The fraction and the exponent of a number are looked at only for their form; a number that has one,
or a sign, keeps no value. -/

def digits? (t : Text) : Option (Text × Text) :=
  let ds := t.takeWhile Char.isDigit
  if ds.isEmpty then none else some (ds, t.dropWhile Char.isDigit)

/-- A whole number without superfluous zeros in front. -/
def whole? (t : Text) : Option (Text × Text) :=
  match t with
  | '0' :: c :: rest => if c.isDigit then none else some (['0'], c :: rest)
  | _ => digits? t

def fraction? : Text → Option (Bool × Text)
  | '.' :: rest => (digits? rest).map fun (_, after) => (true, after)
  | t => some (false, t)

def exponent? : Text → Option (Bool × Text)
  | c :: rest =>
      if c == 'e' || c == 'E' then
        let body := match rest with
          | '+' :: more => more
          | '-' :: more => more
          | _ => rest
        (digits? body).map fun (_, after) => (true, after)
      else some (false, c :: rest)
  | [] => some (false, [])

def number? (t : Text) : Option (Value × Text) :=
  let (negative, body) := match t with
    | '-' :: rest => (true, rest)
    | _ => (false, t)
  (whole? body).bind fun (ds, afterWhole) =>
    (fraction? afterWhole).bind fun (hasFraction, afterFraction) =>
      (exponent? afterFraction).map fun (hasExponent, after) =>
        if negative || hasFraction || hasExponent then (.number, after)
        else (.natural (ds.foldl (fun n c => 10 * n + (c.toNat - '0'.toNat)) 0), after)

/-! ## Values -/

mutual

/-- A value. The number bounds the nesting and the length of what is read. -/
def value? : Nat → Text → Option (Value × Text)
  | 0, _ => none
  | n + 1, t =>
      match skipBlanks t with
      | '\x7b' :: rest =>
          match skipBlanks rest with
          | '\x7d' :: after => some (.object [], after)
          | _ => members? n [] rest
      | '[' :: rest =>
          match skipBlanks rest with
          | ']' :: after => some (.list [], after)
          | _ => items? n [] rest
      | '"' :: rest => (text? rest).map fun (v, after) => (.text v, after)
      | 'n' :: 'u' :: 'l' :: 'l' :: rest => some (.null, rest)
      | 't' :: 'r' :: 'u' :: 'e' :: rest => some (.boolean true, rest)
      | 'f' :: 'a' :: 'l' :: 's' :: 'e' :: rest => some (.boolean false, rest)
      | rest => number? rest

/-- The items of a list, at least one, up to its closing bracket. -/
def items? : Nat → List Value → Text → Option (Value × Text)
  | 0, _, _ => none
  | n + 1, acc, t =>
      match value? n t with
      | none => none
      | some (v, after) =>
          match skipBlanks after with
          | ',' :: rest => items? n (v :: acc) rest
          | ']' :: rest => some (.list (v :: acc).reverse, rest)
          | _ => none

/-- The members of an object, at least one, up to its closing brace. -/
def members? : Nat → List (Option Text × Value) → Text → Option (Value × Text)
  | 0, _, _ => none
  | n + 1, acc, t =>
      match skipBlanks t with
      | '"' :: rest =>
          match text? rest with
          | none => none
          | some (key, afterKey) =>
              match skipBlanks afterKey with
              | ':' :: body =>
                  match value? n body with
                  | none => none
                  | some (v, after) =>
                      match skipBlanks after with
                      | ',' :: more => members? n ((key, v) :: acc) more
                      | '\x7d' :: more => some (.object ((key, v) :: acc).reverse, more)
                      | _ => none
              | _ => none
      | _ => none

end

/-- **Reads a JSON text.** Nothing but blanks may follow the value. -/
def parse? (t : Text) : Option Value :=
  (value? (2 * t.length + 2) t).bind fun (v, rest) =>
    if (skipBlanks rest).isEmpty then some v else none

end SwiftExistential.Json
