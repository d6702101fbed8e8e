import SwiftExistential.Text.Number

/-!
# Moments

Moments in time and the formats they are written in. Programs of the shell ask for the time, and
files have times of their own; both are moments here.

The first part is the calendar: from a number to a day with a time of day and back. The second part
writes a moment by a format with directives, as `date` does.
-/

set_option autoImplicit false

/-! ## Moments

A moment is a number of nanoseconds since the start of 1970. In the calendar it is a day with a time
of day. The calendar has no start and no end, and all times are those of the prime meridian. -/

namespace SwiftExistential.Moment

/-- A day of the calendar with a time of day. -/
structure Civil where
  year : Int
  month : Nat
  day : Nat
  hour : Nat
  minute : Nat
  second : Nat
  nanosecond : Nat
deriving DecidableEq, Repr

/-- The days from the start of 1970 to a day. Months and days may lie outside of their year and
month. -/
def daysTo (year month day : Int) : Int :=
  let y := year + (month - 1).fdiv 12
  let m := (month - 1).fmod 12 + 1
  let y := if m ≤ 2 then y - 1 else y
  let era := y.fdiv 400
  let yearOfEra := y - era * 400
  let dayOfYear := (153 * (if m > 2 then m - 3 else m + 9) + 2) / 5
  era * 146097 + (yearOfEra * 365 + yearOfEra / 4 - yearOfEra / 100 + dayOfYear) - 719468 + (day - 1)

/-- The day of a number of days since the start of 1970. -/
def dayOf (days : Int) : Int × Nat × Nat :=
  let z := days + 719468
  let era := z.fdiv 146097
  let dayOfEra := z - era * 146097
  let yearOfEra := (dayOfEra - dayOfEra / 1460 + dayOfEra / 36524 - dayOfEra / 146096) / 365
  let dayOfYear := dayOfEra - (365 * yearOfEra + yearOfEra / 4 - yearOfEra / 100)
  let m := (5 * dayOfYear + 2) / 153
  let day := dayOfYear - (153 * m + 2) / 5 + 1
  let month := if m < 10 then m + 3 else m - 9
  (yearOfEra + era * 400 + (if month ≤ 2 then 1 else 0), month.toNat, day.toNat)

def perSecond : Int := 1000000000

def seconds (moment : Int) : Int := moment.fdiv perSecond

/-- The nanoseconds of a moment behind its last whole second. -/
def fraction (moment : Int) : Nat := (moment.fmod perSecond).toNat

/-- **The calendar of a moment.** -/
def civil (moment : Int) : Civil :=
  let s := seconds moment
  let (year, month, day) := dayOf (s.fdiv 86400)
  let time := (s.fmod 86400).toNat
  ⟨year, month, day, time / 3600, time / 60 % 60, time % 60, fraction moment⟩

def Civil.moment (c : Civil) : Int :=
  let time : Int := (c.hour * 3600 + c.minute * 60 + c.second : Nat)
  (daysTo c.year c.month c.day * 86400 + time) * perSecond + (c.nanosecond : Int)

def weekday (days : Int) : Nat := ((days + 4).fmod 7).toNat

/-- The days since the start of 1970 of a calendar day. -/
def Civil.days (c : Civil) : Int := daysTo c.year c.month c.day

def Civil.dayOfYear (c : Civil) : Nat := (c.days - daysTo c.year 1 1).toNat

def dayNames : List String :=
  ["Sunday", "Monday", "Tuesday", "Wednesday", "Thursday", "Friday", "Saturday"]

def monthNames : List String :=
  ["January", "February", "March", "April", "May", "June", "July", "August", "September", "October",
    "November", "December"]

def dayName (n : Nat) : Text := ((dayNames[n]?).getD "").toList

def monthName (n : Nat) : Text := ((monthNames[n - 1]?).getD "").toList

/-- The week of the year by the standard, with the year it belongs to. Weeks start on Mondays, and
the first has the first Thursday. -/
def weekOf (c : Civil) : Int × Nat :=
  let fromMonday := fun (n : Nat) => (n + 6) % 7
  let thursday := c.days - fromMonday (weekday c.days) + 3
  let (year, _, _) := dayOf thursday
  (year, ((thursday - daysTo year 1 1) / 7).toNat + 1)

end SwiftExistential.Moment

/-! ## Moments as texts

A format is a text with directives: a percent sign, flags, a width and a letter. Each stands for a
part of the moment. -/

namespace SwiftExistential.Moment

/-- How a directive is filled up. -/
structure Padding where
  /-- The flag that asks for no filling, blanks or zeros. -/
  flag : Option Char
  isUpper : Bool
  swapsCase : Bool
  width : Option Nat

/-- Fills a number up to a width, with zeros or blanks as usual or as asked for. -/
def Padding.number (p : Padding) (usual : Nat) (isBlank : Bool) (n : Int) : Text :=
  let digits := (toString n.natAbs).toList
  let sign := if n < 0 then ['-'] else []
  let width := p.width.getD (if p.flag = some '-' then 0 else usual)
  let fill := width - sign.length - digits.length
  let blanks := match p.flag with
    | some '_' => true
    | some '0' | some '+' => false
    | some '-' => isBlank
    | _ => isBlank
  if blanks then List.replicate fill ' ' ++ sign ++ digits else sign ++ List.replicate fill '0' ++ digits

def Padding.text (p : Padding) (t : Text) : Text :=
  let t := if p.isUpper then t.map Char.toUpper
    else if p.swapsCase then
      (if t.any Char.isLower then t.map Char.toUpper else t.map Char.toLower)
    else t
  List.replicate (p.width.getD 0 - t.length) (if p.flag = some '0' then '0' else ' ') ++ t

def nanoText (p : Padding) (n : Nat) : Text :=
  let digits := (toString n).toList
  let all := List.replicate (9 - digits.length) '0' ++ digits
  let width := p.width.getD 9
  if p.flag = some '-' then
    let short := (all.take width).reverse.dropWhile (· == '0')
    if short.isEmpty then ['0'] else short.reverse
  else all.take width ++ List.replicate (width - 9) '0'

/-- What a directive of one letter stands for that is not made of others. -/
def part? (moment : Int) (p : Padding) (letter : Char) : Option Text :=
  let c := civil moment
  let day := weekday c.days
  let hour12 := if c.hour % 12 = 0 then 12 else c.hour % 12
  let number := fun (usual : Nat) (n : Int) => some (p.number usual false n)
  let blank := fun (usual : Nat) (n : Int) => some (p.number usual true n)
  let text := fun (t : Text) => some (p.text t)
  match letter with
  | '%' => text ['%']
  | 'n' => text ['\n']
  | 't' => text ['\t']
  | 'a' => text ((dayName day).take 3)
  | 'A' => text (dayName day)
  | 'b' | 'h' => text ((monthName c.month).take 3)
  | 'B' => text (monthName c.month)
  | 'C' => number 2 (c.year.fdiv 100)
  | 'd' => number 2 c.day
  | 'e' => blank 2 c.day
  | 'g' => number 2 ((weekOf c).1.fmod 100)
  | 'G' => number 4 (weekOf c).1
  | 'H' => number 2 c.hour
  | 'I' => number 2 hour12
  | 'j' => number 3 (c.dayOfYear + 1)
  | 'k' => blank 2 c.hour
  | 'l' => blank 2 hour12
  | 'm' => number 2 c.month
  | 'M' => number 2 c.minute
  | 'N' => some (nanoText p c.nanosecond)
  | 'p' =>
      let t := if c.hour < 12 then "AM".toList else "PM".toList
      some ({ p with swapsCase := false, isUpper := false }.text
        (if p.swapsCase then t.map Char.toLower else t))
  | 'P' => text (if c.hour < 12 then "am".toList else "pm".toList)
  | 'q' => number 1 ((c.month - 1) / 3 + 1)
  | 's' => number 1 (seconds moment)
  | 'S' => number 2 c.second
  | 'u' => number 1 (if day = 0 then 7 else day)
  | 'U' => number 2 ((c.dayOfYear + 7 - day) / 7)
  | 'V' => number 2 (weekOf c).2
  | 'w' => number 1 day
  | 'W' => number 2 ((c.dayOfYear + 7 - (day + 6) % 7) / 7)
  | 'y' => number 2 (c.year.fmod 100)
  | 'Y' => number 4 c.year
  | 'Z' => some ({ p with swapsCase := false }.text
      (if p.swapsCase then "utc".toList else "UTC".toList))
  | 'z' =>
      let t := "+0000".toList
      some (match p.flag with
        | some '-' => "+0".toList
        | some '_' => List.replicate ((p.width.getD 5) - 2) ' ' ++ "+0".toList
        | _ => '+' :: List.replicate ((p.width.getD 5) - 5) '0' ++ t.tail)
  | _ => none

def composed? : Char → Option String
  | 'c' => some "%a %b %e %H:%M:%S %Y"
  | 'D' | 'x' => some "%m/%d/%y"
  | 'F' => some "%Y-%m-%d"
  | 'r' => some "%I:%M:%S %p"
  | 'R' => some "%H:%M"
  | 'T' | 'X' => some "%H:%M:%S"
  | _ => none

/-- Reads the flags and the width of a directive. -/
def readPadding (p : Padding) : Text → Padding × Text
  | [] => (p, [])
  | c :: rest =>
      match c with
      | '-' | '_' | '0' | '+' =>
          if p.width.isSome then
            if c == '0' then readPadding { p with width := p.width.map (10 * ·) } rest else (p, c :: rest)
          else readPadding { p with flag := some c } rest
      | '^' => readPadding { p with isUpper := true } rest
      | '#' => readPadding { p with swapsCase := true } rest
      | c =>
          if c.isDigit then
            readPadding { p with width := some (10 * p.width.getD 0 + (c.toNat - '0'.toNat)) } rest
          else (p, c :: rest)

/-- Writes a moment by a format, with so many directives at most. Directives that are made of others
come first in `compose`. -/
def formatWith (compose : Char → Option Text) (moment : Int) : Nat → Text → Text
  | 0, t => t
  | fuel + 1, t =>
      match t with
      | [] => []
      | '%' :: rest =>
          let (p, rest') := readPadding ⟨none, false, false, none⟩ rest
          let rest' := match rest' with
            | 'E' :: more | 'O' :: more => more
            | more => more
          let colons := rest'.takeWhile (· == ':')
          match rest'.drop colons.length with
          | 'z' :: more =>
              let zone := match colons.length with
                | 0 => (part? moment p 'z').getD []
                | 1 => "+00:00".toList
                | 2 => "+00:00:00".toList
                | _ => "+00".toList
              zone ++ formatWith compose moment fuel more
          | letter :: more =>
              let shown := if !colons.isEmpty then none
                else match compose letter with
                  | some t => some (p.text t)
                  | none => part? moment p letter
              match shown with
              | some t => t ++ formatWith compose moment fuel more
              | none =>
                  '%' :: rest.take (rest.length - more.length) ++ formatWith compose moment fuel more
          | [] => '%' :: rest
      | c :: rest => c :: formatWith compose moment fuel rest

/-- **Writes a moment by a format.** -/
def format (moment : Int) (t : Text) : Text :=
  let compose := fun (letter : Char) => (composed? letter).map fun inner =>
    formatWith (fun _ => none) moment (inner.length + 1) inner.toList
  formatWith compose moment (t.length + 1) t

end SwiftExistential.Moment
