import SwiftExistential.Moment.Basic

/-!
# Reading moments

The tokens of a written moment and what they mean together. The reader accepts what `date` and
`touch` accept: moments written by people, in many orders, with words for months, days and zones,
and with steps from the present.

Reading has two stages. The text falls into tokens, and the tokens are taken by parts that are not
yet put together; only when all parts are known is the moment computed. So what a number means can
depend on what stands behind it.
-/

set_option autoImplicit false

/-! ## Tokens of written moments

A written moment is made of numbers, words and marks. A number with a sign is another token than one
without it, and so is one with a fraction. A word stands for a month, a day, a half of the day, a
zone, a unit, or a number that counts. Comments in parentheses are left out. -/

namespace SwiftExistential.Moment

/-! ### Steps

Years and months have no fixed length, so a step keeps them apart from days, and days from what is
shorter. -/

/-- A step forward. -/
structure Shift where
  years : Int
  months : Int
  days : Int
  nanoseconds : Int
deriving DecidableEq, Repr

namespace Shift

def none : Shift := ⟨0, 0, 0, 0⟩

def ofDays (n : Int) : Shift := ⟨0, 0, n, 0⟩

def second : Shift := ⟨0, 0, 0, perSecond⟩

def times (n : Int) (s : Shift) : Shift := ⟨n * s.years, n * s.months, n * s.days, n * s.nanoseconds⟩

def and (a b : Shift) : Shift :=
  ⟨a.years + b.years, a.months + b.months, a.days + b.days, a.nanoseconds + b.nanoseconds⟩

end Shift

/-! ### Tokens -/

/-- A number with the number of its digits. -/
structure Figure where
  value : Int
  digits : Nat
deriving DecidableEq, Repr

/-- A token of a written moment. -/
inductive Token where
  | number (n : Figure)
  /-- A number behind a sign. -/
  | signed (n : Figure)
  /-- The nanoseconds of a number of seconds with a fraction. -/
  | decimal (isSigned : Bool) (nanoseconds : Int)
  | month (n : Nat)
  | weekday (n : Nat)
  | half (isAfternoon : Bool)
  /-- A zone that is so many seconds ahead. In summer nothing is added any more. -/
  | zone (seconds : Int) (isSummer : Bool)
  /-- The word for summer time behind a zone. -/
  | summer
  | unit (step : Shift)
  | ordinal (n : Int)
  /-- A word for a day, so many days from the present. -/
  | near (days : Int)
  /-- The word behind a step for its direction. -/
  | direction (factor : Int)
  /-- The letter between a day and a time. -/
  | letterT
  /-- The letter for the zone of the place. -/
  | letterJ
  | mark (c : Char)
  /-- What is not understood. -/
  | unknown
deriving DecidableEq, Repr

/-! ### Words

Words are looked up in several tables, from the halves of the day to the zones of single letters.
Case does not count, and the name of a zone may have dots in it. -/

def halfWords : List (String × Bool) := [("AM", false), ("A.M.", false), ("PM", true), ("P.M.", true)]

/-- The words for the months and days. Three letters are enough for each. -/
def calendarWords : List (String × Token) :=
  (monthNames.zipIdx.map fun (name, i) => (name, Token.month (i + 1))) ++ [("SEPT", Token.month 9)] ++
    (dayNames.zipIdx.map fun (name, i) => (name, Token.weekday i)) ++
    [("TUES", Token.weekday 2), ("WEDNES", .weekday 3), ("THUR", .weekday 4), ("THURS", .weekday 4)]

/-- The zones with the minutes that they are ahead, and whether they are those of the summer. -/
def zoneWords : List (String × Int × Bool) :=
  [("GMT", 0, false), ("UT", 0, false), ("UTC", 0, false), ("WET", 0, false), ("WEST", 0, true),
    ("BST", 0, true), ("ART", -180, false), ("BRT", -180, false), ("BRST", -180, true), ("NST", -210, false),
    ("NDT", -210, true), ("AST", -240, false), ("ADT", -240, true), ("CLT", -240, false), ("CLST", -240, true),
    ("EST", -300, false), ("EDT", -300, true), ("CST", -360, false), ("CDT", -360, true), ("MST", -420, false),
    ("MDT", -420, true), ("PST", -480, false), ("PDT", -480, true), ("AKST", -540, false), ("AKDT", -540, true),
    ("HST", -600, false), ("HAST", -600, false), ("HADT", -600, true), ("SST", -720, false), ("WAT", 60, false),
    ("CET", 60, false), ("CEST", 60, true), ("MET", 60, false), ("MEZ", 60, false), ("MEST", 60, true),
    ("MESZ", 60, true), ("EET", 120, false), ("EEST", 120, true), ("CAT", 120, false), ("SAST", 120, false),
    ("EAT", 180, false), ("MSK", 180, false), ("MSD", 180, true), ("IST", 330, false), ("SGT", 480, false),
    ("KST", 540, false), ("JST", 540, false), ("GST", 600, false), ("NZST", 720, false), ("NZDT", 720, true)]

def unitWords : List (String × Shift) :=
  [("YEAR", ⟨1, 0, 0, 0⟩), ("MONTH", ⟨0, 1, 0, 0⟩), ("FORTNIGHT", .ofDays 14), ("WEEK", .ofDays 7),
    ("DAY", .ofDays 1), ("HOUR", .times 3600 .second), ("MINUTE", .times 60 .second), ("MIN", .times 60 .second),
    ("SECOND", .second), ("SEC", .second)]

/-- The words for days near the present, for numbers that count, and for directions. -/
def relativeWords : List (String × Token) :=
  [("TOMORROW", .near 1), ("YESTERDAY", .near (-1)), ("TODAY", .near 0), ("NOW", .near 0),
    ("LAST", .ordinal (-1)), ("THIS", .ordinal 0), ("NEXT", .ordinal 1), ("FIRST", .ordinal 1),
    ("THIRD", .ordinal 3), ("FOURTH", .ordinal 4), ("FIFTH", .ordinal 5), ("SIXTH", .ordinal 6),
    ("SEVENTH", .ordinal 7), ("EIGHTH", .ordinal 8), ("NINTH", .ordinal 9), ("TENTH", .ordinal 10),
    ("ELEVENTH", .ordinal 11), ("TWELFTH", .ordinal 12), ("AGO", .direction (-1)), ("HENCE", .direction 1)]

/-- The zones of the single letters: those up to M lie ahead, and those from N on lie behind. -/
def letterZone? (c : Char) : Option Token :=
  let place := c.toNat - 'A'.toNat
  if !c.isUpper then none
  else if c == 'J' then some .letterJ
  else if c == 'T' then some .letterT
  else if c == 'Z' then some (.zone 0 false)
  else if c < 'J' then some (.zone (3600 * (place + 1 : Nat)) false)
  else if c < 'N' then some (.zone (3600 * place) false)
  else some (.zone (-3600 * (place - 12 : Nat)) false)

def unit? (word : Text) : Option Token := (unitWords.lookup (String.ofList word)).map .unit

def zone? (word : Text) : Option Token :=
  (zoneWords.lookup (String.ofList word)).map fun (minutes, isSummer) => .zone (60 * minutes) isSummer

def calendar? (word : Text) : Option Token :=
  let isShort := word.length = 3 || (word.length = 4 && word.getLast? = some '.')
  (calendarWords.find? fun (name, _) =>
    let full := name.toList.map Char.toUpper
    if isShort then full.take 3 = word.take 3 else full = word).map Prod.snd

/-- The token of a word. Of words that mean several things the first one in this order counts. -/
def ofWord (t : Text) : Token :=
  let word := t.map Char.toUpper
  let withoutPoints := word.filter (· != '.')
  let found := (halfWords.lookup (String.ofList word)).map Token.half
  let found := found <|> calendar? word <|> zone? word
  let found := found <|> if word = "DST".toList then some .summer else none
  let found := found <|> unit? word <|> if word.getLast? = some 'S' then unit? word.dropLast else none
  let found := found <|> relativeWords.lookup (String.ofList word)
  let found := found <|> match word with
    | [c] => letterZone? c
    | _ => none
  (found <|> if withoutPoints.length < word.length then zone? withoutPoints else none).getD .unknown

/-! ### Numbers -/

/-- The nanoseconds of the digits behind a point. What is more exact is left out, or counts as one
more. -/
def fractionOf (roundsUp : Bool) (digits : Text) : Nat :=
  let nine := digits.take 9
  Number.value 10 (nine ++ List.replicate (9 - nine.length) '0') +
    if roundsUp && (digits.drop 9).any (· != '0') then 1 else 0

/-- Whether a number of seconds can be counted at all. -/
def isCountable (seconds : Int) : Bool := -9223372036854775808 ≤ seconds && seconds ≤ 9223372036854775807

/-- The number at the start of a text that starts with a digit, behind the sign if there is one. -/
def readFigure (sign : Option Char) (t : Text) : Token × Text :=
  let isNegative := sign = some '-'
  let digits := t.takeWhile Char.isDigit
  let rest := t.drop digits.length
  let magnitude : Int := Number.value 10 digits
  let value := if isNegative then -magnitude else magnitude
  if !isCountable value then (.unknown, rest)
  else
    let whole := if sign.isSome then Token.signed ⟨value, digits.length⟩ else .number ⟨value, digits.length⟩
    match rest with
    | c :: d :: after =>
        if (c == '.' || c == ',') && d.isDigit then
          let places := (d :: after).takeWhile Char.isDigit
          let part : Int := fractionOf isNegative places
          (.decimal sign.isSome (value * perSecond + if isNegative then -part else part),
            (d :: after).drop places.length)
        else (whole, rest)
    | rest => (whole, rest)

/-! ### Reading tokens -/

/-- What stands behind a comment in parentheses, which may hold others. -/
def skipComment : Nat → Text → Text
  | _, [] => []
  | depth, c :: rest =>
      if c == '(' then skipComment (depth + 1) rest
      else if c == ')' then if depth ≤ 1 then rest else skipComment (depth - 1) rest
      else skipComment depth rest

/-- The tokens of a text, with so many at most. A sign that no number follows is left out. -/
def tokens : Nat → Text → List Token
  | 0, _ => []
  | fuel + 1, t =>
      match t with
      | [] => []
      | c :: rest =>
          if Number.isSpace c then tokens fuel rest
          else if c.isDigit then
            let (token, rest) := readFigure none t
            token :: tokens fuel rest
          else if c == '+' || c == '-' then
            let after := rest.dropWhile Number.isSpace
            if (after.head?.map Char.isDigit).getD false then
              let (token, rest) := readFigure (some c) after
              token :: tokens fuel rest
            else tokens fuel after
          else if c.isAlpha then
            let word := t.takeWhile fun c => c.isAlpha || c == '.'
            ofWord (word.take 19) :: tokens fuel (t.drop word.length)
          else if c == '(' then tokens fuel (skipComment 0 t)
          else .mark c :: tokens fuel rest

end SwiftExistential.Moment

/-! ## Reading moments

A moment is written in many ways: seconds since 1970 behind an at sign, a day with or without a time
of day and a zone, a day of the week, and steps forward or back from all that. What is not said is
taken from the present.

The parts come in any order. Each takes as many tokens as it can, and each kind but the steps comes
once. -/

namespace SwiftExistential.Moment

/-- What was said so far, on top of the present. -/
structure Said where
  /-- The year has no digits as long as it was not said. -/
  year : Figure
  month : Int
  day : Int
  hour : Int
  minute : Int
  /-- The seconds of the time of day, in nanoseconds. -/
  seconds : Int
  /-- The half of the day that the hour counts in. -/
  half : Option Bool
  /-- A day of the week with its ordinal. -/
  weekday : Int × Nat
  zone : Int
  shift : Shift
  isShifted : Bool
  dates : Nat
  times : Nat
  weekdays : Nat
  zones : Nat
deriving DecidableEq, Repr

namespace Said

def nothing (now : Int) : Said :=
  let c := civil now
  let seconds : Int := c.second
  { year := ⟨c.year, 0⟩, month := c.month, day := c.day, hour := c.hour, minute := c.minute,
    seconds := seconds * perSecond + (c.nanosecond : Int), half := none, weekday := (0, 0), zone := 0,
    shift := .none, isShifted := false, dates := 0, times := 0, weekdays := 0, zones := 0 }

/-- What one part says, and the tokens behind it. -/
abbrev Part := Option (Said × List Token)

/-! ### Single parts

Each part notes what it says on top of what was said before, and counts itself; a kind that was said
twice is refused only at the end. -/

def withDate (s : Said) (year : Figure) (month day : Int) : Said :=
  { s with year := year, month := month, day := day, dates := s.dates + 1 }

/-- Says a day of the year that was said or is present. -/
def withDay (s : Said) (month day : Int) : Said := s.withDate s.year month day

def withTime (s : Said) (hour minute seconds : Int) (half : Option Bool) : Said :=
  { s with hour := hour, minute := minute, seconds := seconds, half := half, times := s.times + 1 }

def withWeekday (s : Said) (ordinal : Int) (day : Nat) : Said :=
  { s with weekday := (ordinal, day), weekdays := s.weekdays + 1 }

def withZone (s : Said) (zone : Int) : Said := { s with zone := zone, zones := s.zones + 1 }

def withShift (s : Said) (shift : Shift) : Said := { s with shift := s.shift.and shift, isShifted := true }

/-- Says a step, in the direction that may follow. -/
def step (s : Said) (shift : Shift) : List Token → Part
  | .direction factor :: rest => some (s.withShift (shift.times factor), rest)
  | rest => some (s.withShift shift, rest)

/-- Says a number that stands alone: the year of a day, a day without marks, or a time without
marks. -/
def withNumber (s : Said) (n : Figure) : Said :=
  if s.dates > 0 && s.year.digits = 0 && !s.isShifted && (s.times > 0 || n.digits > 2) then { s with year := n }
  else if n.digits > 4 then
    s.withDate ⟨n.value / 10000, n.digits - 4⟩ (n.value / 100 % 100) (n.value % 100)
  else if n.digits ≤ 2 then s.withTime n.value 0 0 none
  else s.withTime (n.value / 100) (n.value % 100) 0 none

/-! ### Zones -/

/-- The seconds of a zone that is given by hours, or by hours and minutes in one number or behind a
colon. It is at most a day ahead or behind. -/
def offset? (n : Figure) (isNegative : Bool) (minutes : Option Int) : Option Int :=
  let total := match minutes with
    | some m => n.value * 60 + if isNegative then -m else m
    | none =>
        if n.digits ≤ 2 then n.value * 60 else (n.value.tdiv 100) * 60 + n.value.tmod 100
  if total.natAbs ≤ 1440 then some (60 * total) else none

/-- The seconds of a zone, and the tokens behind it. -/
def readOffset (n : Figure) : List Token → Option (Int × List Token)
  | .mark ':' :: .number m :: rest => (offset? n (n.value < 0) (some m.value)).map (·, rest)
  | .mark ':' :: _ => none
  | rest => (offset? n (n.value < 0) none).map (·, rest)

/-- Says the zone that may follow a time. -/
def zoneBehind (s : Said) : List Token → Part
  | .signed n :: rest => (readOffset n rest).map fun (zone, rest) => (s.withZone zone, rest)
  | rest => some (s, rest)

/-- Says a zone behind its name. -/
def readZone (s : Said) (zone : Int) : List Token → Part
  | .signed n :: .unit u :: rest => some ((s.withZone zone).withShift (u.times n.value), rest)
  | .signed n :: rest => (readOffset n rest).map fun (more, rest) => (s.withZone (zone + more), rest)
  | .summer :: rest => some (s.withZone (zone + 3600), rest)
  | rest => some (s.withZone zone, rest)

/-! ### Times and days

A number without a sign may begin a time, a day in one of several orders, a step, or stand alone.
What stands behind it decides. -/

/-- Says the time that stands behind an hour, of which the seconds may be missing. The flag is for
the words for the halves of the day. -/
def readClock (s : Said) (allowsHalf : Bool) (hour : Figure) : List Token → Part
  | .mark ':' :: .number minute :: .mark ':' :: rest =>
      let seconds : Option (Int × List Token) := match rest with
        | .number n :: rest => some (n.value * perSecond, rest)
        | .decimal false n :: rest => some (n, rest)
        | _ => none
      match seconds with
      | some (seconds, .half isAfternoon :: rest) =>
          if allowsHalf then some (s.withTime hour.value minute.value seconds (some isAfternoon), rest) else none
      | some (seconds, rest) => (s.withTime hour.value minute.value seconds none).zoneBehind rest
      | none => none
  | .mark ':' :: .number minute :: .half isAfternoon :: rest =>
      if allowsHalf then some (s.withTime hour.value minute.value 0 (some isAfternoon), rest) else none
  | .mark ':' :: .number minute :: rest => (s.withTime hour.value minute.value 0 none).zoneBehind rest
  | .signed n :: rest => (s.withTime hour.value 0 0 none).zoneBehind (.signed n :: rest)
  | _ => none

def opposite (n : Figure) : Figure := ⟨-n.value, n.digits⟩

/-- Says what starts with a number without a sign. -/
def readNumber (s : Said) (n : Figure) : List Token → Part
  | .half isAfternoon :: rest => some (s.withTime n.value 0 0 (some isAfternoon), rest)
  | .mark ':' :: rest => s.readClock true n (.mark ':' :: rest)
  | .mark '/' :: .number b :: .mark '/' :: .number c :: rest =>
      some (if n.digits ≥ 4 then s.withDate n b.value c.value else s.withDate c n.value b.value, rest)
  | .mark '/' :: .number _ :: .mark '/' :: _ => none
  | .mark '/' :: .number b :: rest => some (s.withDay n.value b.value, rest)
  | .mark '/' :: _ => none
  | .month m :: .signed year :: rest => some (s.withDate (opposite year) m n.value, rest)
  | .month m :: .number year :: rest => some (s.withDate year m n.value, rest)
  | .month m :: rest => some (s.withDay m n.value, rest)
  | .weekday d :: rest => some (s.withWeekday n.value d, rest)
  | .unit u :: rest => s.step (u.times n.value) rest
  | .signed month :: .signed day :: rest =>
      let s := s.withDate n (-month.value) (-day.value)
      match rest with
      | .letterT :: .number hour :: rest => s.readClock false hour rest
      | .letterT :: _ => none
      | rest => some (s, rest)
  | .signed count :: .unit u :: rest => some ((s.withNumber n).withShift (u.times count.value), rest)
  | .signed zone :: rest => s.readClock false n (.signed zone :: rest)
  | rest => some (s.withNumber n, rest)

def readMonth (s : Said) (m : Nat) : List Token → Part
  | .number day :: .mark ',' :: .number year :: rest => some (s.withDate year m day.value, rest)
  | .number _ :: .mark ',' :: _ => none
  | .number day :: rest => some (s.withDay m day.value, rest)
  | .signed day :: .signed year :: rest => some (s.withDate (opposite year) m (-day.value), rest)
  | _ => none

def readPart (s : Said) : Token → List Token → Part
  | .number n, rest => s.readNumber n rest
  | .signed n, .unit u :: rest => s.step (u.times n.value) rest
  | .decimal _ nanoseconds, .unit u :: rest =>
      if u = .second then s.step ⟨0, 0, 0, nanoseconds⟩ rest else none
  | .month m, rest => s.readMonth m rest
  | .weekday d, .mark ',' :: rest => some (s.withWeekday 0 d, rest)
  | .weekday d, rest => some (s.withWeekday 0 d, rest)
  | .ordinal n, .weekday d :: rest => some (s.withWeekday n d, rest)
  | .ordinal n, .unit u :: rest => s.step (u.times n) rest
  | .unit u, rest => s.step u rest
  | .near days, rest => some (s.withShift (.ofDays days), rest)
  | .zone seconds false, rest => s.readZone seconds rest
  | .zone seconds true, rest => some (s.withZone (seconds + 3600), rest)
  | .letterT, .signed n :: .unit u :: rest => some ((s.withZone (-25200)).withShift (u.times n.value), rest)
  | .letterT, rest => some (s.withZone (-25200), rest)
  | .letterJ, rest => some ({ s with zones := s.zones + 1 }, rest)
  | _, _ => none

/-- Says all parts, so many at most. -/
def readAll : Nat → Said → List Token → Option Said
  | _, s, [] => some s
  | 0, _, _ => none
  | fuel + 1, s, token :: rest =>
      match s.readPart token rest with
      | some (s, rest) => readAll fuel s rest
      | none => none

/-! ### From parts to moments

The parts are put together in a fixed order: the day and the time, the day of the week, the steps,
and the zone at last. -/

def hour? (s : Said) : Option Int :=
  match s.half with
  | none => if 0 ≤ s.hour && s.hour < 24 then some s.hour else none
  | some isAfternoon =>
      if 1 ≤ s.hour && s.hour ≤ 12 then some (s.hour % 12 + if isAfternoon then 12 else 0) else none

/-- The year. One of two digits lies around 2000. -/
def fullYear (n : Figure) : Int :=
  if n.digits = 2 && 0 ≤ n.value then (if n.value < 69 then n.value + 2000 else n.value + 1900) else n.value

def isYear (year : Int) : Bool := -2147481748 ≤ year && year ≤ 2147485547

/-- Whether months and days can be counted. -/
def isSmall (n : Int) : Bool := n.natAbs < 2147483648

/-- The moment that was said. A day and a time must be there, and each part was said once. -/
def moment? (s : Said) : Option Int :=
  let takesTime := s.times > 0 || (s.isShifted && s.dates = 0 && s.weekdays = 0)
  let hour := if takesTime then s.hour? else some 0
  let minute := if takesTime then s.minute else 0
  let seconds := if takesTime then s.seconds else 0
  let year := fullYear s.year
  let days := daysTo year s.month s.day
  let isDay := isYear year && 1 ≤ s.month && s.month ≤ 12 && 1 ≤ s.day && s.day ≤ 31 &&
    dayOf days = (year, s.month.toNat, s.day.toNat)
  let isTime := 0 ≤ minute && minute < 60 && 0 ≤ seconds && seconds < 60 * perSecond
  match hour with
  | none => none
  | some hour =>
      if !(isDay && isTime && s.dates ≤ 1 && s.times ≤ 1 && s.weekdays ≤ 1 && s.zones ≤ 1) then none
      else
        let (ordinal, target) := s.weekday
        let today := Moment.weekday days
        let ahead : Int := if s.weekdays > 0 && s.dates = 0 then
            ((target + 7 - today) % 7 : Nat) +
              7 * (if 0 < ordinal && today != target then ordinal - 1 else ordinal)
          else 0
        let (y, m, d) := dayOf (days + ahead)
        let year := y + s.shift.years
        let month := (m : Int) + s.shift.months
        let day := (d : Int) + s.shift.days
        let moved := daysTo year month day
        let time := (moved * 86400 + hour * 3600 + minute * 60 - s.zone) * perSecond + seconds +
          s.shift.nanoseconds
        if isYear year && isSmall month && isSmall day && isYear (dayOf moved).1 &&
            isCountable (Moment.seconds time) then some time
        else none

end Said

/-- **The moment that a text says**, seen from the present. A text without words is the start of the
day. -/
def ofText? (now : Int) (t : Text) : Option Int :=
  let trimmed := t.dropWhile Number.isSpace
  let all := tokens (t.length + 1) (if trimmed.isEmpty then ['0'] else trimmed)
  match all with
  | [.mark '@', .number n] | [.mark '@', .signed n] => some (n.value * perSecond)
  | [.mark '@', .decimal _ nanoseconds] => some nanoseconds
  | all => (Said.readAll (all.length + 1) (.nothing now) all).bind Said.moment?

end SwiftExistential.Moment
