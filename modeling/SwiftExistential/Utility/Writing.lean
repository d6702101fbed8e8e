import SwiftExistential.Shell.Format
import SwiftExistential.Utility.Listing

/-!
# Programs that write their arguments

`echo` and `printf` write their arguments. The shell has commands of the same names; these are the
programs, which differ in their options and messages.

A format is used again while arguments are left. An argument that is no number is reported, and what
was read of it is used, so the output and the complaints are kept in one order.
-/

set_option autoImplicit false

namespace SwiftExistential.Utility

open Process

/-! ## Echo -/

/-- Reads the options of `echo`. Returns whether there is no line end, whether escapes count, and
the rest. -/
def echoOptions (isOpen escapes : Bool) : List Text → Bool × Bool × List Text
  | [] => (isOpen, escapes, [])
  | t :: rest =>
      match t with
      | '-' :: c :: letters =>
          if (c :: letters).all fun c => c == 'n' || c == 'e' || c == 'E' then
            echoOptions (isOpen || (c :: letters).contains 'n')
              (match (c :: letters).reverse.find? fun c => c == 'e' || c == 'E' with
                | some c => c == 'e'
                | none => escapes) rest
          else (isOpen, escapes, t :: rest)
      | _ => (isOpen, escapes, t :: rest)

/-- The octet of up to three octal digits, and what is behind them. -/
def octalOctet (t : Text) : Text × Text :=
  let digits := (t.take 3).takeWhile (Number.isDigit 8)
  ([Char.ofNat (Number.value 8 digits % 256)], t.drop digits.length)

/-- The character that a letter behind a backslash stands for. -/
def letterEscape? : Char → Option Char
  | 'a' => some '\x07'
  | 'b' => some '\x08'
  | 'e' => some '\x1b'
  | 'f' => some '\x0c'
  | 'n' => some '\n'
  | 'r' => some '\r'
  | 't' => some '\t'
  | 'v' => some '\x0b'
  | '\\' => some '\\'
  | _ => none

/-- Writes escapes as `echo` does, with so many steps at most. Returns whether output is to stop. -/
def echoEscapes : Nat → Text → Text × Bool
  | 0, _ => ([], false)
  | _, [] => ([], false)
  | fuel + 1, '\\' :: c :: rest =>
      let andThen := fun (t : Text) (rest : Text) =>
        let (others, stops) := echoEscapes fuel rest
        (t ++ others, stops)
      if c == 'c' then ([], true)
      else match letterEscape? c with
        | some e => andThen [e] rest
        | none =>
            if c == 'x' then
              let digits := (rest.take 2).takeWhile (Number.isDigit 16)
              if digits.isEmpty then andThen ['\\', 'x'] rest
              else andThen [Char.ofNat (Number.value 16 digits)] (rest.drop digits.length)
            else if c == '0' then
              let (t, rest) := octalOctet rest
              andThen t rest
            else if '1' ≤ c && c ≤ '7' then
              let (t, rest) := octalOctet (c :: rest)
              andThen t rest
            else andThen ['\\', c] rest
  | fuel + 1, c :: rest =>
      let (others, stops) := echoEscapes fuel rest
      (c :: others, stops)

def echo : Utility := fun _ arguments => do
  let (isOpen, escapes, words) := echoOptions false false arguments
  let line := Text.join [' '] words
  let (t, stops) := if escapes then echoEscapes (line.length + 1) line else (line, false)
  Job.put (if isOpen || stops then t else t ++ ['\n'])
  return 0

/-! ## Formats -/

/-- How far the writing of a format has come. -/
structure Writing where
  /-- What was written, the last part first, each with whether it is a complaint. -/
  output : List (Bool × Text)
  arguments : List Text
  /-- Whether output is to stop. -/
  stops : Bool
  /-- Why the program gives up. -/
  mistake : Option Text

namespace Writing

def put (w : Writing) (t : Text) : Writing := { w with output := (false, t) :: w.output }

def next (w : Writing) : Text × Writing :=
  (w.arguments.headD [], { w with arguments := w.arguments.drop 1 })

def complain (w : Writing) (t : Text) : Writing := { w with output := (true, t) :: w.output }

/-- Complains about an argument that is no number as a whole. -/
def check (w : Writing) (argument : Text) (isNumber isCut : Bool) (rest : Text) : Writing :=
  if isCut then w.complain (cited argument ++ ": Numerical result out of range".toList)
  else if rest.isEmpty then w
  else if isNumber then w.complain (cited argument ++ ": value not completely converted".toList)
  else w.complain (cited argument ++ ": expected a numeric value".toList)

/-- The code of a character behind a quotation mark. -/
def code? (argument : Text) : Option (Nat × Text) :=
  match argument with
  | q :: c :: rest => if q == '"' || q == '\'' then some (c.toNat, rest) else none
  | _ => none

/-- Complains about what stands behind a single character. -/
def checkCode (w : Writing) (rest : Text) : Writing :=
  if rest.isEmpty then w
  else w.complain ("warning: ".toList ++ rest ++
    ": character(s) following character constant have been ignored".toList)

/-- The next argument as a whole number. -/
def integer (w : Writing) (isSigned : Bool) : Int × Writing :=
  let (argument, w) := w.next
  match code? argument with
  | some (n, rest) => (n, w.checkCode rest)
  | none =>
      let found := Number.read 0 argument
      let start := argument.dropWhile Number.isSpace
      let digits := if start.head? == some '-' || start.head? == some '+' then start.drop 1 else start
      let (base, behind) := Number.markedBase digits
      let exact := Number.value base (behind.takeWhile (Number.isDigit base))
      let isCut := if isSigned then found.isCut else exact ≥ 18446744073709551616
      let value : Int := if isSigned then found.value
        else if isCut then 18446744073709551615
        else if start.head? == some '-' then -(exact : Int) else exact
      (value, w.check argument found.isNumber isCut found.rest)

/-- The next argument as a floating point number. -/
def real (w : Writing) : Float × Writing :=
  let (argument, w) := w.next
  match code? argument with
  | some (n, rest) => (Float.ofNat n, w.checkCode rest)
  | none =>
      let found := Real.read argument
      (found.value, w.check argument found.isNumber false found.rest)

end Writing

/-- What an escape in a format stands for, what is behind it, and whether output stops. Without a
text, the format is wrong. -/
def formatEscape (isArgument : Bool) (t : Text) : Except Text (Text × Text × Bool) :=
  match t with
  | [] => .ok (['\\'], [], false)
  | 'x' :: rest =>
      let digits := (rest.take 2).takeWhile (Number.isDigit 16)
      if digits.isEmpty then .error "missing hexadecimal number in escape".toList
      else .ok ([Char.ofNat (Number.value 16 digits)], rest.drop digits.length, false)
  | 'u' :: rest => universal 'u' 4 rest
  | 'U' :: rest => universal 'U' 8 rest
  | 'c' :: rest => .ok ([], rest, true)
  | '"' :: rest => .ok (['"'], rest, false)
  | c :: rest =>
      if Number.isDigit 8 c then
        let (t, rest) := octalOctet (if isArgument && c == '0' then rest else c :: rest)
        .ok (t, rest, false)
      else match letterEscape? c with
        | some e => .ok ([e], rest, false)
        | none => .ok (['\\', c], rest, false)
where
  /-- A character by its code point, of which only the name can be shown. -/
  universal (letter : Char) (count : Nat) (rest : Text) : Except Text (Text × Text × Bool) :=
    let digits := (rest.take count).takeWhile (Number.isDigit 16)
    let n := Number.value 16 digits
    if digits.length < count then .error "missing hexadecimal number in escape".toList
    else if 0xd800 ≤ n && n ≤ 0xdfff then
      .error ("invalid universal character name \\".toList ++ letter :: digits)
    else if n < 0x80 then .ok ([Char.ofNat n], rest.drop count, false)
    else
      let shown := (Number.digits 16 n).map Char.toUpper
      let width := if n < 65536 then 4 else 8
      .ok ('\\' :: (if width = 4 then 'u' else 'U') :: List.replicate (width - shown.length) '0' ++ shown,
        rest.drop count, false)

/-- Writes an argument with its escapes, with so many steps at most. -/
def putEscaped : Nat → Text → Writing → Writing
  | 0, _, w => w
  | _, [], w => w
  | fuel + 1, '\\' :: rest, w =>
      match formatEscape true rest with
      | .error e => { w with mistake := some e }
      | .ok (t, rest, stops) => if stops then { w with stops := true } else putEscaped fuel rest (w.put t)
  | fuel + 1, c :: rest, w => putEscaped fuel rest (w.put [c])

/-- Reads a width or precision, which may be taken from the arguments. -/
def countOf (t : Text) (w : Writing) : Option Int × Text × Writing :=
  match t with
  | '*' :: rest =>
      if w.arguments.isEmpty then (some 0, rest, w)
      else
        let (n, w) := w.integer true
        (some n, rest, w)
  | t =>
      let digits := t.takeWhile Char.isDigit
      (if digits.isEmpty then none else some (Number.value 10 digits : Int), t.drop digits.length, w)

def takesFlags (letter : Char) (flags : Text) (hasPrecision : Bool) : Bool :=
  "aAcdeEfFgGiosuxX".toList.contains letter &&
    !(flags.contains '#' && "cdisu".toList.contains letter) &&
    !(flags.contains '0' && "cs".toList.contains letter) &&
    !(flags.contains '\'' && "aAceEosxX".toList.contains letter) &&
    !(hasPrecision && letter == 'c')

/-- Writes what stands behind a percent sign. Returns the rest of the format. -/
def putDirective (t : Text) (w : Writing) : Text × Writing :=
  match t with
  | '%' :: rest => (rest, w.put ['%'])
  | 'b' :: rest =>
      let (argument, w) := w.next
      (rest, putEscaped (argument.length + 1) argument w)
  | 'q' :: rest =>
      let (argument, w) := w.next
      (rest, w.put (Quoting.shellEscape.apply argument))
  | t =>
      let flags := t.takeWhile fun c => "#-+ 0'I".toList.contains c
      let (width, rest, w) := countOf (t.drop flags.length) w
      let (precision, rest, w) : Option Int × Text × Writing := match rest with
        | '.' :: rest =>
            let (n, rest, w) := countOf rest w
            (some (n.getD 0), rest, w)
        | rest => (none, rest, w)
      let sizes := rest.takeWhile fun c => "lLhjtz".toList.contains c
      match rest.drop sizes.length with
      | [] => ([], { w with mistake := some ('%' :: t ++ ": invalid conversion specification".toList) })
      | letter :: behind =>
          if !takesFlags letter flags precision.isSome then
            let source := t.take (t.length - behind.length)
            ([], { w with mistake := some ('%' :: source ++ ": invalid conversion specification".toList) })
          else
            let width := width.getD 0
            let d : Shell.Format.Directive :=
              { flags := if width < 0 then '-' :: flags else flags, width := width.natAbs,
                precision := precision.bind fun n => if n < 0 then none else some n.toNat, letter := letter }
            match letter with
            | 's' =>
                let (t, w) := w.next
                (behind, w.put (d.text t))
            | 'c' =>
                let (t, w) := w.next
                (behind, w.put (d.pad false [] [t.headD '\x00']))
            | 'd' | 'i' =>
                let (n, w) := w.integer true
                (behind, w.put (d.signed n))
            | 'o' | 'u' | 'x' | 'X' =>
                let (n, w) := w.integer false
                (behind, w.put (d.unsigned (n % 18446744073709551616).toNat))
            | _ =>
                let (x, w) := w.real
                (behind, w.put (d.real x))

/-- Writes a format once, with so many steps at most. -/
def putFormat : Nat → Text → Writing → Writing
  | 0, _, w => w
  | _, [], w => w
  | fuel + 1, c :: rest, w =>
      if w.stops || w.mistake.isSome then w
      else if c == '\\' then
        match formatEscape false rest with
        | .error e => { w with mistake := some e }
        | .ok (t, rest, stops) => putFormat fuel rest (if stops then { w with stops := true } else w.put t)
      else if c == '%' then
        let (rest, w) := putDirective rest w
        putFormat fuel rest w
      else
        let run := (c :: rest).takeWhile fun c => c != '%' && c != '\\'
        putFormat fuel ((c :: rest).drop run.length) (w.put run)

/-- Writes a format while it takes arguments and some are left. -/
def putFormats (format : Text) : Nat → Writing → Writing
  | 0, w => w
  | fuel + 1, w =>
      let after := putFormat (format.length + 1) format w
      if after.stops || after.mistake.isSome || after.arguments.isEmpty then after
      else if after.arguments.length = w.arguments.length then
        after.complain ("warning: ignoring excess arguments, starting with ".toList ++
          cited (after.arguments.headD []))
      else putFormats format fuel after

/-- Writes texts and reports complaints, in order. -/
def putParts (name : String) : List (Bool × Text) → Job Unit
  | [] => return
  | (isComplaint, t) :: rest => do
      if isComplaint then complain name t else Job.put t
      putParts name rest

def printf : Utility := fun _ arguments => do
  match (if arguments.head? = some "--".toList then arguments.tail else arguments) with
  | [] => misuse { name := "printf", letters := "" } "missing operand".toList
  | format :: rest =>
      let done := putFormats format (rest.length + 2) ⟨[], rest, false, none⟩
      putParts "printf" (done.output.reverse ++ done.mistake.toList.map fun t => (true, t))
      let isWrong := done.output.any fun (isComplaint, t) => isComplaint && !"warning: ".toList.isPrefixOf t
      return if done.mistake.isSome || isWrong then 1 else 0

end SwiftExistential.Utility
