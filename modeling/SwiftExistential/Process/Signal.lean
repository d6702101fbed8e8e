import SwiftExistential.Text.Number

/-!
# Signals and durations

What programs are told about other programs: how to end them, and when. Both are written by people,
as words or numbers, and both have more than one way to be written.

Signals reach a process when it looks for them, between two commands of a shell; durations are
waited for on the clock of the machine.
-/

set_option autoImplicit false

/-! ## Durations

A duration is a decimal number with a unit behind it: seconds, minutes, hours or days. It is counted
in microseconds, and what is shorter is dropped. -/

namespace SwiftExistential.Process.Duration

def endless : Nat := 1000000000000000

def unit? : Text → Option Nat
  | [] | ['s'] => some 1000000
  | ['m'] => some 60000000
  | ['h'] => some 3600000000
  | ['d'] => some 86400000000
  | _ => none

/-- The power of ten at the start of a text, and what is behind it. -/
def exponent : Text → Int × Text
  | c :: rest =>
      if c != 'e' && c != 'E' then (0, c :: rest)
      else
        let (isNegative, unsigned) := match rest with
          | '-' :: rest => (true, rest)
          | '+' :: rest => (false, rest)
          | rest => (false, rest)
        let digits := unsigned.takeWhile (Number.isDigit 10)
        if digits.isEmpty then (0, c :: rest)
        else
          let n : Int := Number.value 10 (digits.take 4)
          (if isNegative then -n else n, unsigned.drop digits.length)
  | [] => (0, [])

/-- **The microseconds of a duration.** -/
def ofText? (t : Text) : Option Nat :=
  let isEndless := ["inf", "infinity"].contains (String.ofList (t.map Char.toLower))
  if isEndless then some endless
  else
    let whole := t.takeWhile (Number.isDigit 10)
    let (fraction, rest) := match t.drop whole.length with
      | '.' :: rest =>
          let fraction := rest.takeWhile (Number.isDigit 10)
          (fraction, rest.drop fraction.length)
      | rest => ([], rest)
    if whole.isEmpty && fraction.isEmpty then none
    else
      let (power, rest) := exponent rest
      let places := fraction.take 12
      let shift := power - places.length
      (unit? rest).map fun unit =>
        let n := Number.value 10 (whole ++ places) * unit
        min endless (if shift < 0 then n / Nat.pow 10 (min 400 shift.natAbs) else n * Nat.pow 10 (min 400 shift.toNat))

/-- The microseconds of several durations together. -/
def ofTexts? : List Text → Option Nat
  | [] => some 0
  | t :: rest => do return (← ofText? t) + (← ofTexts? rest)

end SwiftExistential.Process.Duration

/-! ## Signals

A signal is a number from one on; zero stands for the end of a shell. Each has a name, and some say
something when they end a process. -/

namespace SwiftExistential.Process.Signal

/-- The names of the signals, from the end of the shell on. -/
def names : List String :=
  ["EXIT", "HUP", "INT", "QUIT", "ILL", "TRAP", "ABRT", "BUS", "FPE", "KILL", "USR1", "SEGV", "USR2",
    "PIPE", "ALRM", "TERM", "16", "CHLD", "CONT", "STOP", "TSTP", "TTIN", "TTOU", "URG", "XCPU", "XFSZ",
    "VTALRM", "PROF", "WINCH", "IO", "PWR", "SYS", "32", "33", "RTMIN"] ++
  (List.range 15).map (fun n => "RTMIN+" ++ toString (n + 1)) ++
  (List.range 14).map (fun n => "RTMAX-" ++ toString (14 - n)) ++ ["RTMAX"]

def ofText? (t : Text) : Option Nat :=
  if !t.isEmpty && t.all Char.isDigit then
    let n := Number.value 10 t
    if n < names.length then some n else none
  else names.findIdx? fun name => name.toList == t.map Char.toUpper

def name (n : Nat) : Text := ((names[n]?).getD (toString n)).toList

/-- The signal of a name, which may start with the letters for a signal, or of a number. -/
def ofLongText? (t : Text) : Option Nat :=
  match ofText? t with
  | some n => some n
  | none => (Text.dropPart? "SIG".toList (t.map Char.toUpper)).bind ofText?

/-- What a shell says about a process that a signal ended. -/
def message? : Nat → Option String
  | 1 => some "Hangup"
  | 3 => some "Quit"
  | 4 => some "Illegal instruction"
  | 5 => some "Trace/breakpoint trap"
  | 6 => some "Aborted"
  | 7 => some "Bus error"
  | 8 => some "Floating point exception"
  | 9 => some "Killed"
  | 10 => some "User defined signal 1"
  | 11 => some "Segmentation fault"
  | 12 => some "User defined signal 2"
  | 14 => some "Alarm clock"
  | 15 => some "Terminated"
  | _ => none

/-- Whether a signal does nothing to a process that does not care for it. -/
def isHarmless (n : Nat) : Bool := n = 0 || n = 17 || n = 18 || n = 23 || n = 28

end SwiftExistential.Process.Signal
