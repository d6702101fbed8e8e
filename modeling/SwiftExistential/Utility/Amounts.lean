import SwiftExistential.Utility.Amounts.Scale
import SwiftExistential.Utility.Backup
import SwiftExistential.Utility.Columns

/-!
# Amounts in other units

`numfmt` reads numbers in the fields of lines, or in its arguments, and writes them in another unit.
A number that cannot be read ends the program, or stays as it is, or is reported; an option says
which.

The work is divided: how a number is read, scaled, rounded and written is in the module on scales,
and here are the options, the choice of the fields, and the lines.
-/

set_option autoImplicit false

namespace SwiftExistential.Utility.Amounts

open Process
open SwiftExistential.Real (Form)

/-- What happens where a number cannot be read. -/
inductive Handling where
  | ends
  | fails
  | warns
  | passes
deriving DecidableEq, Repr

/-- How amounts are written. -/
structure Style where
  source : Scale := .plain
  target : Scale := .plain
  /-- What the numbers are multiplied by. -/
  factor : Nat := 1
  /-- What they are divided by. -/
  divisor : Nat := 1
  rounding : Rounding := .fromZero
  isGrouped : Bool := false
  /-- The width up to which there are blanks. -/
  padding : Nat := 0
  /-- Whether these stand behind the number. -/
  isLeft : Bool := false
  fields : Option (List Span) := none
  /-- What stands between fields, if it is not blanks. -/
  delimiter : Option Char := none
  ending : Option Text := none
  lineEnd : Char := '\n'
  isDebugging : Bool := false
  /-- How many lines at the start are copied, if any are. -/
  header : Nat := 0
  format : Option Text := none
  invalid : Handling := .ends
  layout : Layout := ⟨[], [], false, 0, none, none⟩

/-! ## Options

The options are read in their order, and the first that makes no sense is reported. Some of them do
not go together. -/

def sources : List (String × Scale) :=
  [("none", .plain), ("auto", .either), ("si", .thousands), ("iec", .binary), ("iec-i", .markedBinary)]

def targets : List (String × Scale) := sources.filter fun (_, s) => s != .either

def roundings : List (String × Rounding) :=
  [("up", .up), ("down", .down), ("from-zero", .fromZero), ("towards-zero", .towardsZero), ("nearest", .nearest)]

/-- What can be done about numbers that are wrong. -/
def handlings : List (String × Handling) :=
  [("abort", .ends), ("fail", .fails), ("warn", .warns), ("ignore", .passes)]

def options : Specification :=
  { name := "numfmt", letters := "d:z",
    words := [("from", 'F', .one), ("from-unit", 'f', .one), ("to", 'T', .one), ("to-unit", 't', .one),
      ("round", 'r', .one), ("padding", 'p', .one), ("suffix", 's', .one), ("grouping", 'g', .none),
      ("delimiter", 'd', .one), ("field", 'k', .one), ("debug", 'D', .none), ("-debug", 'D', .none),
      ("header", 'h', .optional), ("format", 'o', .one), ("invalid", 'i', .one), ("zero-terminated", 'z', .none)] }

/-- The size of a unit. A letter alone stands for a power of a thousand, and one with an `i` for one
of 1024. -/
def unit? (t : Text) : Option Nat :=
  let start := t.dropWhile Number.isSpace
  let isSigned := start.head? == some '+'
  let digits := (if isSigned then start.drop 1 else start).takeWhile Char.isDigit
  let letters := if digits.isEmpty then t else (if isSigned then start.drop 1 else start).drop digits.length
  let factor : Option Nat := match letters with
    | [] => if digits.isEmpty then none else some 1
    | [c] => ("KMGTPEZY".toList.findIdx? (· == c)).map fun n => Nat.pow 1000 (n + 1)
    | [c, 'i'] => ("KMGTPEZY".toList.findIdx? (· == c)).map fun n => Nat.pow 1024 (n + 1)
    | _ => none
  match factor with
  | none => none
  | some k =>
      let n := k * if digits.isEmpty then 1 else Number.value 10 digits
      if n = 0 || n > 18446744073709551615 then none else some n

/-- The number that a text is, if it is one of 64 bits with a sign. -/
def longOf? (t : Text) : Option Int :=
  let found := Number.read 10 t
  if found.isNumber && !found.isCut && found.rest.isEmpty then some found.value else none

/-- The fields that are chosen. A dash alone stands for all. -/
def fieldsOf (t : Text) : Except Text (List Span) :=
  let parts := (t.splitBy fun a b => !endsSpan a && !endsSpan b).map fun p => if p = ['-'] then ['1', '-'] else p
  (readSpans parts.flatten).mapError fun m => m.message true

/-- Reads an option. A mistake ends with a status. -/
def withOption (s : Style) (o : Char × Text) : Job (Except Nat Style) := do
  let failed := fun (message : Text) => do
    complain "numfmt" message
    pure (Except.error 1)
  let t := o.2
  let wrong := fun (option : String) (words : List String) =>
    report options (.word t option (linesOfWords words))
  match o.1 with
  | 'F' =>
      match choice? sources t with
      | some source => return .ok { s with source }
      | none => return .error (← wrong "--from" (sources.map Prod.fst))
  | 'T' =>
      match choice? targets t with
      | some target => return .ok { s with target }
      | none => return .error (← wrong "--to" (targets.map Prod.fst))
  | 'r' =>
      match choice? roundings t with
      | some rounding => return .ok { s with rounding }
      | none => return .error (← wrong "--round" (roundings.map Prod.fst))
  | 'i' =>
      match choice? handlings t with
      | some invalid => return .ok { s with invalid }
      | none => return .error (← wrong "--invalid" (handlings.map Prod.fst))
  | 'f' =>
      match unit? t with
      | some factor => return .ok { s with factor }
      | none => failed ("invalid unit size: ".toList ++ cited t)
  | 't' =>
      match unit? t with
      | some divisor => return .ok { s with divisor }
      | none => failed ("invalid unit size: ".toList ++ cited t)
  | 'g' => return .ok { s with isGrouped := true }
  | 'p' =>
      match longOf? t with
      | none | some 0 => failed ("invalid padding value ".toList ++ cited t)
      | some n => return .ok { s with padding := n.natAbs, isLeft := n < 0 }
  | 'k' =>
      if s.fields.isSome then failed "multiple field specifications".toList
      else match fieldsOf t with
        | .ok fields => return .ok { s with fields := some fields }
        | .error message => return .error (← misuse options message)
  | 'd' =>
      match t with
      | [] => return .ok { s with delimiter := some '\x00' }
      | [c] => return .ok { s with delimiter := some c }
      | _ => failed "the delimiter must be a single character".toList
  | 'z' => return .ok { s with lineEnd := '\x00' }
  | 's' => return .ok { s with ending := some t }
  | 'D' => return .ok { s with isDebugging := true }
  | 'h' =>
      let start := t.dropWhile Number.isSpace
      let digits := if start.head? == some '+' then start.drop 1 else start
      let n := Number.value 10 digits
      if t.isEmpty then return .ok { s with header := 1 }
      else if digits.isEmpty || !digits.all Char.isDigit || n = 0 || n > 18446744073709551615 then
        failed ("invalid header value ".toList ++ cited t)
      else return .ok { s with header := n }
  | 'o' => return .ok { s with format := some t }
  | _ => return .ok s

def withAll (s : Style) : List (Char × Text) → Job (Except Nat Style)
  | [] => return .ok s
  | o :: rest => do
      match ← withOption s o with
      | .error status => return .error status
      | .ok s => withAll s rest

/-- Checks what options say together, and reads the format. -/
def withFormat (s : Style) : Job (Except Nat Style) := do
  let failed := fun (message : Text) => do
    complain "numfmt" message
    pure (Except.error 1)
  let note := fun (holds : Bool) (message : String) =>
    if s.isDebugging && holds then complain "numfmt" message.toList else pure ()
  if s.format.isSome && s.isGrouped then failed "--grouping cannot be combined with --format".toList
  else
    note (s.source = .plain && s.target = .plain && !s.isGrouped && s.padding = 0 && s.format.isNone)
      "no conversion option specified"
    let layout := (s.format.map Layout.read).getD (.ok s.layout)
    match layout with
    | .error message => failed message
    | .ok layout =>
        note (s.padding > 0 && layout.padding.isSome) "--format padding overriding --padding"
        let isGrouped := s.isGrouped || layout.isGrouped
        let (padding, isLeft) := layout.padding.getD (s.padding, s.isLeft)
        if isGrouped && s.target != .plain then failed "grouping cannot be combined with --to".toList
        else
          note isGrouped "grouping has no effect in this locale"
          return .ok { s with layout, isGrouped, padding, isLeft }

/-! ## Fields

Fields stand between blanks or between delimiters. A field that is not chosen is written as it was,
with the blanks before it. -/

/-- What becomes of a field. -/
structure Outcome where
  shown : Text
  /-- What is said about it. -/
  notes : List Text
  /-- Why it could not be written. -/
  mistake : Option Text

def padded (width : Nat) (isLeft : Bool) (t : Text) : Text :=
  let blanks := List.replicate (width - t.length) ' '
  if isLeft then t ++ blanks else blanks ++ t

/-- Why a number cannot be written, if it cannot. -/
def unwritable? (s : Style) (places : Nat) (x : Form) : Option Text :=
  let power := tens x
  let places := s.layout.places.getD places
  let (isNegative, general) := x.shown false 'g' 6
  let shown := (if isNegative then ['-'] else []) ++ general
  if s.target = .plain && power + places > exactDigits then
    if places > 0 then
      some ("value/precision too large to be printed: '".toList ++ shown ++ '/' :: shownNat places ++
        "' (consider using --to)".toList)
    else some ("value too large to be printed: '".toList ++ shown ++ "' (consider using --to)".toList)
  else if power > mostDigits - 1 then
    some ("value too large to be printed: '".toList ++ shown ++ "' (cannot handle values > 999Q)".toList)
  else none

/-- Writes the number of a field anew. The width of a field is kept where nothing else is asked for.
-/
def convert (s : Style) (index : Nat) (field : Text) : Outcome :=
  let bare := match s.ending with
    | some e => if field.length > e.length && e.isSuffixOf field then field.take (field.length - e.length) else field
    | none => field
  let number := bare.dropWhile fun c => c == ' ' || c == '\t'
  let width := if s.padding = 0 && s.delimiter.isNone then
      if number.length < bare.length || index > 1 then bare.length else 0
    else s.padding
  match read s.source number with
  | .error m => ⟨bare, [], some (m.message number)⟩
  | .ok r =>
      let notes := if r.isExact || !s.isDebugging then []
        else ["large input value ".toList ++ cited number ++ ": possible precision loss".toList]
      let value := if s.factor = 1 && s.divisor = 1 then r.value
        else Wide.quotient (Wide.product r.value (Wide.ofInt s.factor)) (Wide.ofInt s.divisor)
      match unwritable? s r.places value with
      | some message => ⟨bare, notes, some message⟩
      | none =>
          let shown := text s.target s.rounding s.layout.places s.layout.zeros r.places value ++ s.ending.getD []
          ⟨s.layout.before ++ padded width s.isLeft shown ++ s.layout.after, notes, none⟩

def nextField (delimiter : Option Char) (t : Text) : Text × Text :=
  match delimiter with
  | some d => (t.takeWhile (· != d), t.dropWhile (· != d))
  | none =>
      let isBlank := fun (c : Char) => c == ' ' || c == '\t' || c == '\n'
      let start := t.takeWhile isBlank
      let word := (t.drop start.length).takeWhile fun c => !isBlank c
      (start ++ word, t.drop (start.length + word.length))

def Style.chooses (s : Style) (index : Nat) : Bool :=
  match s.fields with
  | none => index = 1
  | some spans => spans.any (Span.holds index)

/-- Prints the fields of a line, from one on. Says whether all numbers could be read, or nothing
where the program ends. The number bounds the fields. -/
def printFields (s : Style) : Nat → Nat → Bool → Text → Job (Option Bool)
  | 0, _, isValid, _ => return some isValid
  | fuel + 1, index, isValid, t => do
      let (field, rest) := nextField s.delimiter t
      let outcome := if s.chooses index then convert s index field else ⟨field, [], none⟩
      outcome.notes.forM (complain "numfmt")
      match outcome.mistake with
      | some message => if s.invalid != .passes then complain "numfmt" message
      | none => pure ()
      if outcome.mistake.isSome && s.invalid = .ends then return none
      else
        Job.put outcome.shown
        let isValid := isValid && outcome.mistake.isNone
        match rest with
        | [] => return some isValid
        | _ :: rest =>
            Job.put [s.delimiter.getD ' ']
            printFields s fuel (index + 1) isValid rest

def printLines (s : Style) (isValid : Bool) : List (Text × Bool) → Job (Option Bool)
  | [] => return some isValid
  | (line, isEnded) :: rest => do
      let line := line.takeWhile (· != '\x00')
      match ← printFields s (line.length + 1) 1 isValid line with
      | none => return none
      | some isValid =>
          if isEnded then Job.put [s.lineEnd]
          printLines s isValid rest

def conclude (s : Style) (result : Option Bool) : Job Nat := do
  match result with
  | none => return 2
  | some isValid =>
      if s.isDebugging && !isValid then complain "numfmt" "failed to convert some of the input numbers".toList
      return if !isValid && s.invalid = .fails then 2 else 0

/-- Prints the numbers of arguments, or of the input. -/
def run (s : Style) (operands : List Text) : Job Nat := do
  match operands with
  | _ :: _ =>
      if s.isDebugging && s.header > 0 then complain "numfmt" "--header ignored with command-line input".toList
      conclude s (← printLines s true (operands.map fun t => (t, true)))
  | [] =>
      match ← Job.input with
      | .error e =>
          complain "numfmt" ("error reading input: ".toList ++ reason e)
          return 1
      | .ok content =>
          let lines := endedLines s.lineEnd content
          Job.put (lines.take s.header).flatten
          conclude s (← printLines s true ((lines.drop s.header).map fun line =>
            if line.getLast? == some s.lineEnd then (line.dropLast, true) else (line, false)))

end Amounts

open Process Amounts in
def numfmt : Utility := fun _ arguments =>
  withOptions Amounts.options arguments fun g => do
    match ← withAll {} g.options with
    | .error status => return status
    | .ok s =>
        match ← withFormat s with
        | .error status => return status
        | .ok s => run s g.operands

end SwiftExistential.Utility
