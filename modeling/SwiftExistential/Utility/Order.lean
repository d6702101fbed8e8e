import SwiftExistential.Text.Real
import SwiftExistential.Utility.Backup
import SwiftExistential.Utility.Version

/-!
# Lines in order

`sort` puts lines in order, or says whether they are, and `uniq` finds lines that are repeated.

Ordering is stable: lines that compare as the same stay as they were, since only then it does not
matter how the sorting is done. The keys of a line are taken out once, before lines are compared.
-/

set_option autoImplicit false

/-! ## Programs that order lines

Lines are compared by keys, each a part of the line with its own way of comparing. Lines whose keys
are all the same are compared as a whole, unless that is not wanted. -/

namespace SwiftExistential.Utility

open Process

/-! ### Keys

A key begins and ends at a field and a character. It has letters that say how it is compared, or
else those of the whole sort. -/

/-- How keys are compared. -/
structure KeyOrder where
  /-- The letters of the ways of comparing. -/
  letters : Text

namespace KeyOrder

def has (o : KeyOrder) (letter : Char) : Bool := o.letters.contains letter

end KeyOrder

/-- A key: where it starts and ends, in fields and characters, counted from zero. -/
structure Key where
  startField : Nat
  startChar : Nat
  /-- The field where it ends, and the characters of that field, all of them for zero. -/
  stop : Option (Nat × Nat)
  ordering : KeyOrder
  skipsStartBlanks : Bool
  skipsStopBlanks : Bool

/-- Whether an octet separates fields if no delimiter is given. -/
def isFieldBlank (c : Char) : Bool := c == ' ' || c == '\t' || c == '\n'

/-- How many octets stand before a field. The flag says whether the delimiter before it is skipped.
-/
def fieldStart (delimiter : Option Char) (skipsLast : Bool) : Nat → Text → Nat
  | 0, _ => 0
  | n + 1, t =>
      let length := match delimiter with
        | some d =>
            let field := (t.takeWhile (· != d)).length
            if field < t.length && (n > 0 || skipsLast) then field + 1 else field
        | none =>
            let blanks := (t.takeWhile isFieldBlank).length
            blanks + ((t.drop blanks).takeWhile fun c => !isFieldBlank c).length
      if length = 0 && t.isEmpty then 0 else length + fieldStart delimiter skipsLast n (t.drop length)

def Key.part (k : Key) (delimiter : Option Char) (line : Text) : Text :=
  let blanksAt := fun (n : Nat) => ((line.drop n).takeWhile isFieldBlank).length
  let first := fieldStart delimiter true k.startField line
  let first := if k.skipsStartBlanks then first + blanksAt first else first
  let first := min line.length (first + k.startChar)
  let last := match k.stop with
    | none => line.length
    | some (field, 0) => fieldStart delimiter false (field + 1) line
    | some (field, chars) =>
        let place := fieldStart delimiter true field line
        let place := if k.skipsStopBlanks then place + blanksAt place else place
        min line.length (place + chars)
  (line.drop first).take (last - first)

/-- Compares numbers with a sign and a point at the start of texts. -/
def compareNumbers (a b : Text) : Ordering :=
  let read := fun (t : Text) =>
    let t := t.dropWhile isFieldBlank
    let (isNegative, t) := match t with
      | '-' :: rest => (true, rest)
      | t => (false, t)
    let whole := t.takeWhile (Number.isDigit 10)
    let fraction := match t.drop whole.length with
      | '.' :: rest => rest.takeWhile (Number.isDigit 10)
      | _ => []
    (isNegative, whole, fraction)
  let (negativeA, wholeA, fractionA) := read a
  let (negativeB, wholeB, fractionB) := read b
  let places := max fractionA.length fractionB.length
  let scaled := fun (isNegative : Bool) (whole fraction : Text) =>
    let n := Number.value 10 (whole ++ fraction ++ List.replicate (places - fraction.length) '0')
    if isNegative then -(n : Int) else (n : Int)
  compare (scaled negativeA wholeA fractionA) (scaled negativeB wholeB fractionB)

/-- The place of a text among numbers: texts that are none come first, then those that say so. -/
def realRank (t : Text) : Nat × Option Float :=
  let found := Real.read t
  if !found.isNumber then (0, none)
  else if found.value.isNaN then (1, none)
  else (2, some found.value)

/-- Compares the numbers that texts are, as far as they are numbers. -/
def compareReals (a b : Text) : Ordering :=
  let (rankA, x) := realRank a
  let (rankB, y) := realRank b
  (compare rankA rankB).then (match x, y with
    | some x, some y => if x < y then .lt else if y < x then .gt else .eq
    | _, _ => .eq)

/-- The size of the unit behind a number, with the sign of the number. A zero has no unit. -/
def unitRank (t : Text) : Int :=
  let t := t.dropWhile isFieldBlank
  let (isNegative, t) := match t with
    | '-' :: rest => (true, rest)
    | t => (false, t)
  let whole := t.takeWhile (Number.isDigit 10)
  let (fraction, rest) := match t.drop whole.length with
    | '.' :: rest =>
        let fraction := rest.takeWhile (Number.isDigit 10)
        (fraction, rest.drop fraction.length)
    | rest => ([], rest)
  if (whole ++ fraction).all (· == '0') then 0
  else
    let rank : Nat := match rest.head? with
      | some c => (("kKMGTPEZYRQ".toList.zip [1, 1, 2, 3, 4, 5, 6, 7, 8, 9, 10]).lookup c).getD 0
      | none => 0
    if isNegative then -(rank : Int) else rank

def monthStarts : List String :=
  ["JAN", "FEB", "MAR", "APR", "MAY", "JUN", "JUL", "AUG", "SEP", "OCT", "NOV", "DEC"]

/-- The number of the month that a text starts with, or zero. -/
def monthRank (t : Text) : Nat :=
  let t := ((t.dropWhile isFieldBlank).take 3).map Char.toUpper
  match monthStarts.findIdx? fun m => m.toList == t with
  | some i => i + 1
  | none => 0

/-- Compares texts in the way of an ordering, its direction left aside. -/
def KeyOrder.compareTexts (o : KeyOrder) (a b : Text) : Ordering :=
  let filtered := fun (t : Text) =>
    let t := if o.has 'd' then t.filter fun c => c.isAlphanum || isFieldBlank c
      else if o.has 'i' then t.filter isPrintable else t
    if o.has 'f' then t.map Char.toUpper else t
  if o.has 'n' then compareNumbers a b
  else if o.has 'g' then compareReals a b
  else if o.has 'h' then (compare (unitRank a) (unitRank b)).then (compareNumbers a b)
  else if o.has 'M' then compare (monthRank a) (monthRank b)
  else if o.has 'V' then Version.order (filtered a) (filtered b)
  else compare (filtered a) (filtered b)

/-- The letters of an ordering that do not go together, if there are any. -/
def KeyOrder.conflict? (o : KeyOrder) : Option Text :=
  let kinds := ["n", "g", "h", "M", "VRdi"].filter fun letters => letters.toList.any o.has
  if kinds.length > 1 then some ("dfghiMnRV".toList.filter o.has) else none

/-- How lines are sorted. -/
structure SortStyle where
  delimiter : Option Char
  keys : List Key
  isReversed : Bool
  isStable : Bool

/-- A line with its keys. -/
structure Keyed where
  line : Text
  parts : List Text

def SortStyle.keyed (s : SortStyle) (line : Text) : Keyed :=
  ⟨line, s.keys.map fun key => key.part s.delimiter line⟩

def compareByKeys : List Key → List Text → List Text → Ordering
  | key :: keys, a :: as, b :: bs =>
      let order := key.ordering.compareTexts a b
      let order := if key.ordering.has 'r' then order.swap else order
      order.then (compareByKeys keys as bs)
  | _, _, _ => .eq

def SortStyle.compare (s : SortStyle) (a b : Keyed) : Ordering :=
  let whole := fun (_ : Unit) =>
    let order := Ord.compare a.line b.line
    if s.isReversed then order.swap else order
  if s.keys.isEmpty then whole ()
  else match compareByKeys s.keys a.parts b.parts with
    | .eq => if s.isStable then .eq else whole ()
    | order => order

/-! ### Options of `sort` -/

/-- The letters that say how keys are compared. -/
def orderLetters : Text := "bdfgiMhnRrV".toList

def maxPlace : Nat := 18446744073709551615

/-- Reads a place of a key: a field, a character, and letters. -/
def readKeyPlace (place : String) (t : Text) : Except Text (Nat × Option Nat × Text × Text) :=
  let isDigit := Number.isDigit 10
  let invalid := fun (where' : String) (t : Text) => Except.error
    ("invalid number ".toList ++ where'.toList ++ ": invalid count at start of ".toList ++ cited t)
  let field := t.takeWhile isDigit
  if field.isEmpty then invalid place t
  else
    let behind := t.drop field.length
    let finish := fun (char : Option Nat) (behind : Text) =>
      let letters := behind.takeWhile orderLetters.contains
      Except.ok (min maxPlace (Number.value 10 field), char, letters, behind.drop letters.length)
    match behind with
    | '.' :: more =>
        let digits := more.takeWhile isDigit
        if digits.isEmpty then invalid "after '.'" more
        else finish (some (min maxPlace (Number.value 10 digits))) (more.drop digits.length)
    | behind => finish none behind

/-- Reads a key. The letters of the whole sort count if it has none. -/
def readKey (whole : Text) (t : Text) : Except Text Key := do
  let wrong := fun {α : Type} (why : String) => (throw
    (why.toList ++ ": invalid field specification ".toList ++ cited t) : Except Text α)
  let (field, char, letters, rest) ← readKeyPlace "at field start" t
  if field = 0 then wrong "field number is zero"
  if char = some 0 then wrong "character offset is zero"
  let make := fun (stop : Option (Nat × Nat)) (stopLetters : Text) =>
    let own := letters ++ stopLetters
    let inherits := own.isEmpty
    ({ startField := field - 1, startChar := char.getD 1 - 1, stop := stop,
       ordering := ⟨if inherits then whole else own⟩,
       skipsStartBlanks := if inherits then whole.contains 'b' else letters.contains 'b',
       skipsStopBlanks := if inherits then whole.contains 'b' else stopLetters.contains 'b' } : Key)
  match rest with
  | [] => return make none []
  | ',' :: more =>
      let (last, char, letters, rest) ← readKeyPlace "after ','" more
      if last = 0 then wrong "field number is zero"
      if !rest.isEmpty then wrong "stray character in field spec"
      return make (some (last - 1, char.getD 0)) letters
  | _ => wrong "stray character in field spec"

def sortWords : List (String × Char) :=
  [("general-numeric", 'g'), ("human-numeric", 'h'), ("month", 'M'), ("numeric", 'n'), ("random", 'R'),
    ("version", 'V')]

def checkWords : List (String × Char) := [("quiet", 'C'), ("silent", 'C'), ("diagnose-first", 'c')]

def mistakenBuffer? (t : Text) : Option Mistake :=
  let digits := t.takeWhile Char.isDigit
  let suffix := t.drop digits.length
  if digits.isEmpty then some (.value ("invalid -S argument ".toList ++ inQuotes t))
  else if suffix.length > 1 || !suffix.all "bkKmMgGtTPEZYRQ%".toList.contains then
    some (.value ("invalid suffix in -S argument ".toList ++ inQuotes t))
  else none

def sortOptions : Specification :=
  { name := "sort", letters := "bcCdfghik:mMno:rRsS:t:T:uVy:z", mistake := 2,
    words := [("ignore-leading-blanks", 'b', .none), ("batch-size", '\x02', .one), ("buffer-size", 'S', .one),
      ("check", '\x01', .optional), ("compress-program", '\x03', .one), ("debug", '\x04', .none),
      ("dictionary-order", 'd', .none), ("field-separator", 't', .one), ("files0-from", '\x05', .one),
      ("general-numeric-sort", 'g', .none), ("human-numeric-sort", 'h', .none), ("ignore-case", 'f', .none),
      ("ignore-nonprinting", 'i', .none), ("key", 'k', .one), ("merge", 'm', .none), ("month-sort", 'M', .none),
      ("numeric-sort", 'n', .none), ("output", 'o', .one), ("parallel", '\x06', .one),
      ("random-sort", 'R', .none), ("random-source", '\x07', .one), ("reverse", 'r', .none),
      ("sort", '\x08', .one), ("stable", 's', .none), ("temporary-directory", 'T', .one),
      ("unique", 'u', .none), ("version-sort", 'V', .none), ("zero-terminated", 'z', .none)],
    check := fun c t => match c with
      | '\x01' =>
          if t.isEmpty then none
          else mistakenChoice? checkWords "--check" ["'quiet', 'silent'", "'diagnose-first'"] t
      | '\x08' => mistakenChoice? sortWords "--sort" (linesOfWords (sortWords.map Prod.fst)) t
      | '\x06' =>
          if !t.isEmpty && t.all Char.isDigit && Number.value 10 t > 0 then none
          else some (.value ("invalid --parallel argument ".toList ++ inQuotes t))
      | 'S' => mistakenBuffer? t
      | _ => none }

def readDelimiter (t : Text) : Except Text Char :=
  match t with
  | [c] => .ok c
  | ['\\', '0'] => .ok '\x00'
  | [] => .error "empty tab".toList
  | t => .error ("multi-character tab ".toList ++ cited t)

def readTabs : List Text → Option Char → Except Text (Option Char)
  | [], last => .ok last
  | t :: rest, last => do
      let c ← readDelimiter t
      if last.any (· != c) then throw "incompatible tabs".toList
      readTabs rest (some c)

def sortStyle (g : Given) : Except Text SortStyle := do
  let whole := (g.options.map Prod.fst).filter orderLetters.contains ++
    (g.values '\x08').filterMap (choice? sortWords)
  let delimiter ← readTabs (g.values 't') none
  let keys ← (g.values 'k').mapM (readKey whole)
  let isPlain := whole.all (· == 'r')
  let all := if keys.isEmpty && !isPlain then
      [{ startField := 0, startChar := 0, stop := none, ordering := ⟨whole⟩,
         skipsStartBlanks := whole.contains 'b', skipsStopBlanks := false : Key }]
    else keys
  match all.findSome? fun key => key.ordering.conflict? with
  | some letters => throw ("options '-".toList ++ letters ++ "' are incompatible".toList)
  | none => return ⟨delimiter, all, whole.contains 'r', g.has 's' || g.has 'u'⟩

/-- A field and a character, counted from zero, as a place of a key counted from one. -/
def oldPlace (isEnd : Bool) (t : Text) : Option Text :=
  let field := t.takeWhile Char.isDigit
  if field.isEmpty then none
  else
    let (char, letters) := match t.drop field.length with
      | '.' :: more =>
          let digits := more.takeWhile Char.isDigit
          (Number.value 10 digits, more.drop digits.length)
      | behind => (0, behind)
    if !letters.all orderLetters.contains then none
    else
      let n := Number.value 10 field
      some (if isEnd then
          if char = 0 then shownNat n ++ letters else shownNat (n + 1) ++ '.' :: shownNat char ++ letters
        else shownNat (n + 1) ++ '.' :: shownNat (char + 1) ++ letters)

/-- Writes old keys, a plus sign before where they start and a dash before where they end, as
options. -/
def withoutOldKeys : List Text → List Text
  | ('+' :: start) :: ('-' :: stop) :: rest =>
      match oldPlace false start with
      | none => ('+' :: start) :: withoutOldKeys (('-' :: stop) :: rest)
      | some first =>
          match oldPlace true stop with
          | some last => "-k".toList :: (first ++ ',' :: last) :: withoutOldKeys rest
          | none => "-k".toList :: first :: withoutOldKeys (('-' :: stop) :: rest)
  | ('+' :: start) :: rest =>
      match oldPlace false start with
      | some first => "-k".toList :: first :: withoutOldKeys rest
      | none => ('+' :: start) :: withoutOldKeys rest
  | t :: rest => if t = ['-', '-'] then t :: rest else t :: withoutOldKeys rest
  | [] => []

/-- The first line that is not in its place, with its number. -/
def firstDisorder (isWrong : Keyed → Keyed → Bool) : Nat → List Keyed → Option (Nat × Text)
  | n, a :: b :: rest =>
      if isWrong a b then some (n + 1, b.line) else firstDisorder isWrong (n + 1) (b :: rest)
  | _, _ => none

def dropSame (isSame : Keyed → Keyed → Bool) : List Keyed → List Keyed
  | [] => []
  | a :: rest => a :: (go a rest)
where
  /-- Goes on behind a line that is kept. -/
  go (last : Keyed) : List Keyed → List Keyed
    | [] => []
    | b :: rest => if isSame last b then go last rest else b :: go b rest

/-- Merges two lists of lines, which need not be sorted. -/
def mergeTwo (isLE : Keyed → Keyed → Bool) : Nat → List Keyed → List Keyed → List Keyed
  | 0, as, bs => as ++ bs
  | _, [], bs => bs
  | _, as, [] => as
  | fuel + 1, a :: as, b :: bs =>
      if isLE a b then a :: mergeTwo isLE fuel as (b :: bs) else b :: mergeTwo isLE fuel (a :: as) bs

def checkLetters (g : Given) : Text :=
  g.options.filterMap fun (c, t) => match c with
    | 'c' | 'C' => some c
    | '\x01' => some (if t.isEmpty then 'c' else (choice? checkWords t).getD 'c')
    | _ => none

/-- The files that are sorted, or a status if they cannot be known. -/
def sortPaths (g : Given) : Job (Except Nat (List Text)) := do
  match g.value? '\x05', g.operands with
  | some _, extra :: _ =>
      return .error (← misuse sortOptions ("extra operand ".toList ++ cited extra ++
        "\nfile operands cannot be combined with --files0-from".toList))
  | some list, [] =>
      match ← Job.readSource list with
      | .error e =>
          Job.complain ["sort".toList, "open failed".toList, readable list, reason e]
          return .error 2
      | .ok content => return .ok (splitRecords '\x00' [] [] content)
  | none, [] => return .ok [['-']]
  | none, paths => return .ok paths

def sort : Utility := fun _ arguments =>
  withOptions sortOptions (withoutOldKeys arguments) fun g => do
    let failed := fun (message : Text) => do
      complain "sort" message
      pure 2
    let checks := checkLetters g
    match sortStyle g, ← sortPaths g with
    | .error message, _ => failed message
    | _, .error status => return status
    | .ok style, .ok paths =>
        if checks.contains 'c' && checks.contains 'C' then failed "options '-cC' are incompatible".toList
        else if let (c :: _, _ :: extra :: _) := (checks, paths) then
          failed ("extra operand ".toList ++ cited extra ++ " not allowed with -".toList ++ [c])
        else if !checks.isEmpty && g.has 'o' then
          failed ("options '-".toList ++ checks.take 1 ++ "o' are incompatible".toList)
        else
          let tree ← Job.tree
          let missing := paths.findSome? fun path =>
            if path = ['-'] then none
            else match tree.find (Octets.toText path) with
              | .ok _ => none
              | .error e => some (path, e)
          match missing with
          | some (path, e) =>
              Job.complain ["sort".toList, "cannot read".toList,
                readable path, reason e]
              return 2
          | none =>
              let (files, status) ← sources
                (fun path e => Job.complain ["sort".toList, "read failed".toList, readable path, reason e]) paths
              if status != 0 then return 2
              else
                let lineEnd := if g.has 'z' then '\x00' else '\n'
                let read := fun (content : Text) => (splitRecords lineEnd [] [] content).map style.keyed
                let isSame := fun (a b : Keyed) => style.compare a b == .eq
                let isLE := fun (a b : Keyed) => (style.compare a b).isLE
                let lines := (files.map fun (_, content) => read content)
                if !checks.isEmpty then
                  let isWrong := fun (a b : Keyed) => style.compare a b == .gt || (g.has 'u' && isSame a b)
                  match firstDisorder isWrong 1 lines.flatten with
                  | none => return 0
                  | some (n, line) =>
                      if checks.contains 'c' then
                        Job.complain ["sort".toList, (paths.headD ['-']) ++ ':' :: shownNat n,
                          "disorder".toList, line]
                      return 1
                else
                  let sorted := if g.has 'm' then
                      lines.foldl (fun all more => mergeTwo isLE (all.length + more.length) all more) []
                    else lines.flatten.mergeSort isLE
                  let kept := if g.has 'u' then dropSame isSame sorted else sorted
                  let shown := kept.flatMap fun k => k.line ++ [lineEnd]
                  match g.value? 'o' with
                  | none =>
                      Job.put shown
                      return 0
                  | some path =>
                      match ← Job.writeFile path false shown with
                      | .ok _ => return 0
                      | .error e =>
                          Job.complain ["sort".toList, "open failed".toList, readable path, reason e]
                          return 2

end SwiftExistential.Utility

/-! ## Repeated lines

`uniq` looks at runs of lines that are the same in some part. Of a run it shows a line, all lines or
none, and it can count them or keep runs apart. -/

namespace SwiftExistential.Utility

open Process

/-- Runs of lines that are the same, behind a run that has begun, its last line first. -/
def runsFrom (isSame : Text → Text → Bool) : List Text → List Text → List (List Text)
  | [], [] => []
  | run, [] => [run.reverse]
  | [], line :: rest => runsFrom isSame [line] rest
  | last :: run, line :: rest =>
      if isSame last line then runsFrom isSame (line :: last :: run) rest
      else (last :: run).reverse :: runsFrom isSame [line] rest

/-- Where an empty line stands beside groups. -/
inductive Spacing where
  | none
  | before
  | between
  | after
  | both
deriving DecidableEq, Repr

/-- The words for empty lines beside repeated lines. -/
def repeatSpacings : List (String × Spacing) := [("none", .none), ("prepend", .before), ("separate", .between)]

/-- The words for empty lines beside groups. -/
def groupSpacings : List (String × Spacing) :=
  [("prepend", .before), ("append", .after), ("separate", .between), ("both", .both)]

def uniqOptions : Specification :=
  { name := "uniq", letters := "cdDf:is:uw:z",
    words := [("count", 'c', .none), ("repeated", 'd', .none), ("all-repeated", 'A', .optional),
      ("group", 'g', .optional), ("ignore-case", 'i', .none), ("unique", 'u', .none),
      ("skip-fields", 'f', .one), ("skip-chars", 's', .one), ("check-chars", 'w', .one),
      ("zero-terminated", 'z', .none)],
    check := fun c t =>
      let count := fun (what : String) =>
        if !t.isEmpty && t.all Char.isDigit then none
        else some (.value (t ++ ": invalid number of ".toList ++ what.toList))
      let word := fun (words : List (String × Spacing)) (option : String) =>
        if t.isEmpty then none else mistakenChoice? words option (linesOfWords (words.map Prod.fst)) t
      match c with
      | 'f' => count "fields to skip"
      | 's' => count "bytes to skip"
      | 'w' => count "bytes to compare"
      | 'A' => word repeatSpacings "--all-repeated"
      | 'g' => word groupSpacings "--group"
      | _ => none }

/-- Puts empty lines beside groups. -/
def spaced (spacing : Spacing) (lineEnd : Char) (groups : List Text) : Text :=
  match spacing with
  | .none => groups.flatten
  | .before => groups.flatMap (lineEnd :: ·)
  | .between => Text.join [lineEnd] groups
  | .after => groups.flatMap (· ++ [lineEnd])
  | .both => groups.flatMap (lineEnd :: ·) ++ if groups.isEmpty then [] else [lineEnd]

def partOf (fields chars : Nat) (width : Option Nat) (ignoresCase : Bool) (line : Text) : Text :=
  let skipField := fun (t : Text) => (t.dropWhile isFieldBlank).dropWhile fun c => !isFieldBlank c
  let t := Nat.repeat skipField (min fields (line.length + 1)) line
  let t := t.drop chars
  let t := match width with
    | some n => t.take n
    | none => t
  if ignoresCase then t.map Char.toLower else t

/-- Writes counts of fields and characters that stand alone as options. -/
def withoutOldSkips : List Text → List Text
  | [] => []
  | ['-', 'f'] :: value :: rest => ['-', 'f'] :: value :: withoutOldSkips rest
  | ['-', 's'] :: value :: rest => ['-', 's'] :: value :: withoutOldSkips rest
  | ['-', 'w'] :: value :: rest => ['-', 'w'] :: value :: withoutOldSkips rest
  | t :: rest =>
      match t with
      | '-' :: d :: digits =>
          if (d :: digits).all Char.isDigit then ("-f".toList ++ d :: digits) :: withoutOldSkips rest
          else if t = ['-', '-'] then t :: rest
          else t :: withoutOldSkips rest
      | '+' :: d :: digits =>
          if (d :: digits).all Char.isDigit then ("-s".toList ++ d :: digits) :: withoutOldSkips rest
          else t :: withoutOldSkips rest
      | t => t :: withoutOldSkips rest

def showGroups (g : Given) (groups : List (List Text)) : Text :=
  let lineEnd := if g.has 'z' then '\x00' else '\n'
  let ended := fun (t : Text) => t ++ [lineEnd]
  match g.value? 'g' with
  | some word =>
      let spacing := if word.isEmpty then .between else (choice? groupSpacings word).getD .between
      spaced spacing lineEnd (groups.map fun group => group.flatMap ended)
  | none =>
      let showsAll := g.has 'D' || g.has 'A'
      let spacing := match g.options.reverse.find? fun (c, _) => c == 'D' || c == 'A' with
        | some (_, word) => if word.isEmpty then .none else (choice? repeatSpacings word).getD .none
        | none => .none
      let shown := groups.filterMap fun group =>
        let count := if g.has 'c' then padLeft 7 (shownNat group.length) ++ [' '] else []
        if group.length ≤ 1 then
          if g.has 'd' || showsAll then none else some (count ++ group.flatMap ended)
        else if showsAll then some ((if g.has 'u' then group.dropLast else group).flatMap ended)
        else if g.has 'u' then none
        else some (count ++ ended (group.headD []))
      spaced spacing lineEnd shown

def uniq : Utility := fun _ arguments =>
  withOptions uniqOptions (withoutOldSkips arguments) fun g => do
    let failed := fun (path : Text) (e : FileError) => do
      Job.complain ["uniq".toList, readable path, reason e]
      pure 1
    match g.operands with
    | _ :: _ :: extra :: _ => misuse uniqOptions ("extra operand ".toList ++ cited extra)
    | operands =>
        if g.has 'g' && ['c', 'd', 'D', 'A', 'u'].any g.has then
          misuse uniqOptions "--group is mutually exclusive with -c/-d/-D/-u".toList
        else if (g.has 'D' || g.has 'A') && g.has 'c' then
          misuse uniqOptions "printing all duplicated lines and repeat counts is meaningless".toList
        else
          let path := operands.headD ['-']
          match ← Job.readSource path with
          | .error .isDirectory =>
              complain "uniq" ("error reading ".toList ++ quoted path ++ ": Is a directory".toList)
              return 1
          | .error e => failed path e
          | .ok content =>
              let number := fun (letter : Char) => (g.value? letter).map (Number.value 10)
              let part := partOf ((number 'f').getD 0) ((number 's').getD 0) (number 'w') (g.has 'i')
              let lines := splitRecords (if g.has 'z' then '\x00' else '\n') [] [] content
              let shown := showGroups g (runsFrom (fun a b => part a == part b) [] lines)
              match operands[1]? with
              | none =>
                  Job.put shown
                  return 0
              | some ['-'] =>
                  Job.put shown
                  return 0
              | some path =>
                  match ← Job.writeFile path false shown with
                  | .ok _ => return 0
                  | .error e => failed path e

end SwiftExistential.Utility
