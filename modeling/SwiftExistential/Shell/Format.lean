import SwiftExistential.Text.Octets
import SwiftExistential.Text.Real

/-!
# Formatted output

The backslash sequences that the shell's `echo` and `printf` understand, and the directives of
`printf`. A directive takes the next argument, or an empty one if there is none; the format is used
again while arguments are left.

Writing goes on behind arguments that are no numbers: what is wrong with them is kept, and the part
of them that is a number is used. Only a mistake in the format itself ends the writing, and what was
written before stays. The programs of the system with the same names have the same directives and
use this module.
-/

set_option autoImplicit false

namespace SwiftExistential.Shell.Format

def isOctal (c : Char) : Bool := '0' ≤ c && c ≤ '7'

/-- The octet that octal digits stand for. -/
def octalChar (digits : Text) : Char := Char.ofNat (Number.value 8 digits % 256)

/-- The octet that a letter behind a backslash stands for. -/
def controlChar? : Char → Option Char
  | '\\' => some '\\'
  | 'a' => some '\x07'
  | 'b' => some '\x08'
  | 'e' => some '\x1b'
  | 'f' => some '\x0c'
  | 'n' => some '\n'
  | 'r' => some '\r'
  | 't' => some '\t'
  | 'v' => some '\x0b'
  | _ => none

/-- Reads what follows a backslash. A sequence that is not known stands for itself. -/
def readEscape : Text → Char × Text
  | [] => ('\\', [])
  | c :: rest =>
      match controlChar? c with
      | some b => (b, rest)
      | none =>
          if isOctal c then
            let digits := ((c :: rest).take 3).takeWhile isOctal
            (octalChar digits, (c :: rest).drop digits.length)
          else ('\\', c :: rest)

/-- Writes a text with its sequences, of so many characters at most. Returns also whether output
is to stop. A zero may stand before three octal digits. -/
def unescapeFrom : Nat → Text → Text × Bool
  | 0, _ => ([], false)
  | _, [] => ([], false)
  | _ + 1, '\\' :: 'c' :: _ => ([], true)
  | fuel + 1, '\\' :: rest =>
      let digits := match rest with
        | '0' :: d :: more => if isOctal d then d :: more else rest
        | rest => rest
      let (c, rest') := readEscape digits
      let (others, stop) := unescapeFrom fuel rest'
      (c :: others, stop)
  | fuel + 1, c :: rest =>
      let (others, stop) := unescapeFrom fuel rest
      (c :: others, stop)

def unescape (t : Text) : Text × Bool := unescapeFrom (t.length + 1) t

/-- **What `echo` writes.** -/
def echo (arguments : List Text) : Text :=
  let isOpen := arguments.head? = some "-n".toList
  let (t, stop) := unescape (Text.join [' '] (if isOpen then arguments.drop 1 else arguments))
  if isOpen || stop then t else t ++ ['\n']

/-! ## Directives

A directive is read with its flags, its width and its precision, of which the last two may come from
the arguments. Numbers with a fraction are taken with the precision of the machine and shown
exactly. -/

/-- A directive: its flags, its width, its precision and its letter. -/
structure Directive where
  flags : Text
  width : Nat
  precision : Option Nat
  letter : Char
deriving DecidableEq, Repr

namespace Directive

def has (d : Directive) (flag : Char) : Bool := d.flags.contains flag

/-- Fills up to the width. Zeros go behind the sign or other start. -/
def pad (d : Directive) (zeros : Bool) (start body : Text) : Text :=
  let missing := d.width - start.length - body.length
  if d.has '-' then start ++ body ++ List.replicate missing ' '
  else if zeros && d.has '0' then start ++ List.replicate missing '0' ++ body
  else List.replicate missing ' ' ++ start ++ body

def text (d : Directive) (t : Text) : Text :=
  d.pad false [] (match d.precision with
    | some n => t.take n
    | none => t)

/-- What stands before a number that is not negative. -/
def plus (d : Directive) : Text := if d.has '+' then ['+'] else if d.has ' ' then [' '] else []

/-- Digits with zeros up to the precision. No digit is needed for a zero of precision zero. -/
def withPrecision (d : Directive) (digits : Text) : Text :=
  if d.precision = some 0 && digits = ['0'] then []
  else List.replicate (d.precision.getD 1 - digits.length) '0' ++ digits

def signed (d : Directive) (n : Int) : Text :=
  d.pad d.precision.isNone (if n < 0 then ['-'] else d.plus)
    (d.withPrecision (Number.digits 10 n.natAbs))

/-- A whole number without a sign, in the base of the letter. -/
def unsigned (d : Directive) (n : Nat) : Text :=
  match d.letter with
  | 'o' =>
      let digits := d.withPrecision (Number.digits 8 n)
      let marked := if d.has '#' && digits.head? != some '0' then '0' :: digits else digits
      d.pad d.precision.isNone [] marked
  | 'x' =>
      d.pad d.precision.isNone (if d.has '#' && n != 0 then ['0', 'x'] else [])
        (d.withPrecision (Number.digits 16 n))
  | 'X' =>
      d.pad d.precision.isNone (if d.has '#' && n != 0 then ['0', 'X'] else [])
        (d.withPrecision ((Number.digits 16 n).map Char.toUpper))
  | _ => d.pad d.precision.isNone [] (d.withPrecision (Number.digits 10 n))

/-- A form of a number, where its hexadecimal digits are known. -/
def form (d : Directive) (hexadecimal : Real.Dyadic → Text) (x : Real.Form) : Text :=
  let sign := fun (isNegative : Bool) => if isNegative then ['-'] else d.plus
  let (isNegative, body) := x.shown (d.has '#') d.letter (d.precision.getD 6)
  match x with
  | .finite _ value =>
      if d.letter == 'a' || d.letter == 'A' then
        d.pad true (sign isNegative ++ ['0', if d.letter == 'a' then 'x' else 'X']) (hexadecimal value)
      else d.pad true (sign isNegative) body
  | _ => d.pad false (sign isNegative) body

def real (d : Directive) (x : Float) : Text :=
  d.form (Real.hexadecimal (d.has '#') d.letter d.precision) (Real.form x)

end Directive

/-- What was written, the arguments that are left, and what there is to complain about. -/
structure Progress where
  output : Text
  arguments : List Text
  complaints : List Text
  /-- Whether output is to stop. -/
  stop : Bool
  /-- A mistake in the format. -/
  mistake : Option Text

namespace Progress

def put (p : Progress) (t : Text) : Progress := { p with output := p.output ++ t }

def next (p : Progress) : Text × Progress :=
  (p.arguments.headD [], { p with arguments := p.arguments.drop 1 })

/-- Complains about an argument that is no number. -/
def complain (p : Progress) (argument : Text) (isNumber isCut : Bool) (rest : Text) : Progress :=
  let about := fun (message : String) =>
    { p with complaints := p.complaints ++ [argument ++ ": ".toList ++ message.toList] }
  if !rest.isEmpty then
    if isNumber then about "not completely converted" else about "expected numeric value"
  else if isCut then about "Numerical result out of range"
  else p

/-- The next argument as a whole number. A quotation mark asks for the code of the character
behind it. -/
def nextInteger (p : Progress) (isSigned : Bool) : Int × Progress :=
  let (argument, p') := p.next
  match argument with
  | '"' :: rest => (rest.head?.elim 0 fun c => (c.toNat : Int), p')
  | '\'' :: rest => (rest.head?.elim 0 fun c => (c.toNat : Int), p')
  | argument =>
      let found := Number.read 0 argument
      let start := argument.dropWhile Number.isSpace
      let digits := (if start.head? == some '-' || start.head? == some '+' then start.drop 1 else start)
      let (base, behind) := Number.markedBase digits
      let exact := Number.value base (behind.takeWhile (Number.isDigit base))
      let isCut := if isSigned then found.isCut else exact ≥ 18446744073709551616
      let value : Int := if isSigned then found.value
        else if isCut then 18446744073709551615
        else if start.head? == some '-' then -(exact : Int) else exact
      (value, p'.complain argument found.isNumber isCut found.rest)

/-- The next argument as a floating point number. -/
def nextReal (p : Progress) : Float × Progress :=
  let (argument, p') := p.next
  match argument with
  | '"' :: rest => (Float.ofNat (rest.head?.elim 0 Char.toNat), p')
  | '\'' :: rest => (Float.ofNat (rest.head?.elim 0 Char.toNat), p')
  | argument =>
      let found := Real.read argument
      (found.value, p'.complain argument found.isNumber false found.rest)

end Progress

/-- Reads a number of a directive, which may be taken from the arguments. -/
def readCount (t : Text) (p : Progress) : Option Int × Text × Progress :=
  match t with
  | '*' :: rest =>
      let (n, p') := p.nextInteger true
      (some n, rest, p')
  | t =>
      let digits := t.takeWhile Char.isDigit
      (if digits.isEmpty then none else some (Number.value 10 digits : Int), t.drop digits.length, p)

/-- Reads what follows a percent sign. There is no directive at the end of the format. -/
def readDirective (t : Text) (p : Progress) : Option (Directive × Text) × Progress :=
  let flags := t.takeWhile fun c => "#-+ 0".toList.contains c
  let (width, t, p) := readCount (t.drop flags.length) p
  let (precision, t, p) := match t with
    | '.' :: rest =>
        let (n, t, p) := readCount rest p
        (some (n.getD 0), t, p)
    | t => (none, t, p)
  let width := width.getD 0
  let flags := if width < 0 then '-' :: flags else flags
  let precision := precision.bind fun n => if n < 0 then none else some n.toNat
  match t with
  | [] => (none, p)
  | letter :: rest => (some (⟨flags, width.natAbs, precision, letter⟩, rest), p)

def writeDirective (source : Text) (d : Directive) (p : Progress) : Progress :=
  match d.letter with
  | 's' =>
      let (t, p) := p.next
      p.put (d.text t)
  | 'b' =>
      let (t, p) := p.next
      let (t, stop) := unescape t
      { p.put (d.text t) with stop := stop }
  | 'c' =>
      let (t, p) := p.next
      p.put (d.pad false [] [t.headD '\x00'])
  | 'd' | 'i' =>
      let (n, p) := p.nextInteger true
      p.put (d.signed n)
  | 'o' | 'u' | 'x' | 'X' =>
      let (n, p) := p.nextInteger false
      p.put (d.unsigned (n % 18446744073709551616).toNat)
  | 'a' | 'A' | 'e' | 'E' | 'f' | 'F' | 'g' | 'G' =>
      let (x, p) := p.nextReal
      p.put (d.real x)
  | _ => { p with mistake := some (source ++ ": invalid directive".toList) }

/-- Writes a format once, of so many characters at most. -/
def writeFormat : Nat → Text → Progress → Progress
  | 0, _, p => p
  | _, [], p => p
  | fuel + 1, c :: rest, p =>
      if p.stop || p.mistake.isSome then p
      else if c = '\\' then
        let (b, rest') := readEscape rest
        writeFormat fuel rest' (p.put [b])
      else if c = '%' then
        match rest with
        | '%' :: rest' => writeFormat fuel rest' (p.put ['%'])
        | _ =>
            match readDirective rest p with
            | (none, p) => { p with mistake := some "missing format character".toList }
            | (some (d, rest'), p) =>
                let source := '%' :: rest.take (rest.length - rest'.length)
                writeFormat fuel rest' (writeDirective source d p)
      else
        let run := (c :: rest).takeWhile fun c => c != '%' && c != '\\'
        writeFormat fuel ((c :: rest).drop run.length) (p.put run)

/-- Writes a format again while it takes arguments and some are left. -/
def repeatFormat (format : Text) : Nat → Progress → Progress
  | 0, p => p
  | fuel + 1, p =>
      let q := writeFormat (format.length + 1) format p
      if q.arguments.isEmpty || q.stop || q.mistake.isSome ||
          q.arguments.length = p.arguments.length then q
      else repeatFormat format fuel q

/-- **What `printf` writes**, and what it complains about. -/
def printf (format : Text) (arguments : List Text) : Progress :=
  repeatFormat format (arguments.length + 1) ⟨[], arguments, [], false, none⟩

end SwiftExistential.Shell.Format
