import SwiftExistential.Text.Choice
import SwiftExistential.Utility.Options

/-!
# Changing characters

`tr` changes, drops or squeezes octets. Sets of octets are written with ranges, classes and
repetitions; a repetition without a count is filled up, so that the second set is as long as the
first one.

The sets are turned into a function from texts to texts before the input is read. What is wrong with
them is found on the way: classes that are not where they have to be, ranges that run backwards, and
sets that cannot be filled up.
-/

set_option autoImplicit false

namespace SwiftExistential.Utility

open Process

/-! ## Sets

A set is unquoted first and read into items next. Only then it is known how many octets it has,
since an open repetition depends on the other set. -/

/-- An octet of a set, with whether a backslash stood before it. -/
abbrev SetChar := Char × Bool

/-- What there is to say about a backslash. -/
structure Unquoted where
  chars : List SetChar
  warnings : List Text

/-- Adds an octet before others. -/
def Unquoted.cons (c : SetChar) (u : Unquoted) : Unquoted := { u with chars := c :: u.chars }

/-- The octet that a letter behind a backslash stands for. -/
def setLetter (c : Char) : Char :=
  match c with
  | 'a' => '\x07'
  | 'b' => '\x08'
  | 'f' => '\x0c'
  | 'n' => '\n'
  | 'r' => '\r'
  | 't' => '\t'
  | 'v' => '\x0b'
  | c => c

/-- The octets of a set as it is written, with so many steps at most. -/
def unquote : Nat → Text → Unquoted
  | 0, _ => ⟨[], []⟩
  | _, [] => ⟨[], []⟩
  | _, ['\\'] =>
      ⟨[('\\', false)], ["warning: an unescaped backslash at end of string is not portable".toList]⟩
  | fuel + 1, '\\' :: c :: rest =>
      let digits := ((c :: rest).take 3).takeWhile (Number.isDigit 8)
      if digits.isEmpty then (unquote fuel rest).cons (setLetter c, true)
      else if Number.value 8 digits > 255 then
        let short := digits.take 2
        let third := digits.drop 2
        let others := (unquote fuel ((c :: rest).drop 2)).cons (Char.ofNat (Number.value 8 short), true)
        { others with warnings :=
            ("warning: the ambiguous octal escape \\".toList ++ digits ++
              " is being\n\tinterpreted as the 2-byte sequence \\0".toList ++ short ++ ", ".toList ++ third) ::
              others.warnings }
      else
        (unquote fuel ((c :: rest).drop digits.length)).cons (Char.ofNat (Number.value 8 digits), true)
  | fuel + 1, c :: rest => (unquote fuel rest).cons (c, false)

/-- What a set is made of. -/
inductive SetItem where
  | single (c : Char)
  | range (first last : Char)
  | named (name : String)
  | equivalent (c : Char)
  /-- A character so often, or as often as needed. -/
  | filled (c : Char) (count : Option Nat)
deriving DecidableEq, Repr

def shownSetChar (c : Char) : Text :=
  let n := c.toNat
  if isPrintable c then [c]
  else '\\' :: [n / 64, n / 8 % 8, n % 8].map fun d => Char.ofNat (d + '0'.toNat)

/-- The octets up to a mark and a closing bracket, and what follows them. -/
def splitAtClosing (mark : Char) : List SetChar → Option (Text × List SetChar)
  | (a, false) :: (']', false) :: rest =>
      if a == mark then some ([], rest)
      else (splitAtClosing mark ((']', false) :: rest)).map fun (t, after) => (a :: t, after)
  | (a, _) :: rest => (splitAtClosing mark rest).map fun (t, after) => (a :: t, after)
  | [] => none

/-- The repetition behind an opening bracket, if there is one, and what follows it. -/
def setRepetition? : List SetChar → Option (Except Text (SetItem × List SetChar))
  | (c, _) :: ('*', false) :: rest =>
      let inside := rest.takeWhile fun (d, isEscaped) => !isEscaped && d != ']'
      match rest.drop inside.length with
      | (']', false) :: after =>
          let digits := inside.map Prod.fst
          let base := if digits.head? == some '0' then 8 else 10
          if digits.all (Number.isDigit base) then
            let n := Number.value base digits
            some (.ok (.filled c (if n = 0 then none else some n), after))
          else some (.error ("invalid repeat count ".toList ++ cited digits ++ " in [c*n] construct".toList))
      | _ => none
  | _ => none

/-- Whether a star, digits and a closing bracket come behind the next octet. -/
def looksRepeated (chars : List SetChar) : Bool :=
  match chars with
  | ('*', false) :: rest =>
      let digits := rest.takeWhile fun (d, isEscaped) => !isEscaped && d.isDigit
      (rest.drop digits.length).head? == some (']', false)
  | _ => false

/-- Reads a set, with so many steps at most. -/
def readSet : Nat → List SetChar → Except Text (List SetItem)
  | 0, _ => .ok []
  | fuel + 1, chars =>
      let andThen := fun (item : SetItem) (rest : List SetChar) => (readSet fuel rest).map (item :: ·)
      let plain := fun (_ : Unit) =>
        match chars with
        | (first, _) :: ('-', false) :: (last, _) :: rest =>
            if last < first then
              .error ("range-endpoints of '".toList ++ shownSetChar first ++ '-' :: shownSetChar last ++
                "' are in reverse collating sequence order".toList)
            else andThen (.range first last) rest
        | (c, _) :: rest => andThen (.single c) rest
        | [] => .ok []
      let repeatedOr := fun (rest : List SetChar) =>
        match setRepetition? rest with
        | some (.ok (item, after)) => andThen item after
        | some (.error e) => .error e
        | none => plain ()
      if chars.length < 3 then .ok (chars.map fun (c, _) => .single c)
      else match chars with
        | ('[', false) :: (mark, false) :: rest =>
            if mark == ':' || mark == '=' then
              match splitAtClosing mark rest with
              | none => repeatedOr ((mark, false) :: rest)
              | some (name, after) =>
                  if name.isEmpty then
                    .error (if mark == ':' then "missing character class name '[::]'".toList
                      else "missing equivalence class character '[==]'".toList)
                  else if mark == ':' then
                    if (Choice.classHolds? (String.ofList name) 'a').isSome then
                      andThen (.named (String.ofList name)) after
                    else if looksRepeated rest then repeatedOr ((mark, false) :: rest)
                    else .error ("invalid character class ".toList ++ cited (name.flatMap shownSetChar))
                  else match name with
                    | [c] => andThen (.equivalent c) after
                    | name =>
                        if looksRepeated rest then repeatedOr ((mark, false) :: rest)
                        else .error (name.flatMap shownSetChar ++
                          ": equivalence class operand must be a single character".toList)
            else repeatedOr ((mark, false) :: rest)
        | ('[', false) :: rest => repeatedOr rest
        | _ => plain ()

def allOctets : Text := (List.range 256).map Char.ofNat

namespace SetItem

def octets : SetItem → Text
  | single c | equivalent c => [c]
  | range first last => (List.range (last.toNat + 1 - first.toNat)).map fun i => Char.ofNat (first.toNat + i)
  | named name => allOctets.filter fun c => (Choice.classHolds? name c).getD false
  | filled c count => List.replicate (count.getD 0) c

/-- Whether an item is a class of letters of one case. -/
def isCase : SetItem → Bool
  | named "lower" | named "upper" => true
  | _ => false

def isClass : SetItem → Bool
  | named _ => true
  | _ => false

def isOpen : SetItem → Bool
  | filled _ none => true
  | _ => false

end SetItem

def setOctets (items : List SetItem) : Text := items.flatMap SetItem.octets

def fillSet (length : Nat) (items : List SetItem) : List SetItem :=
  let known := (setOctets items).length
  items.map fun
    | .filled c none => .filled c (some (length - known))
    | item => item

/-! ## Changing

Classes of letters in both sets change the case. They stand for pairs of letters and must meet each
other. -/

/-- The octets that change, with what they change to. Without it, classes of letters are not where
they have to be. -/
def pairs? : Nat → List SetItem → List SetItem → Option (List (Char × Char))
  | 0, _, _ => some []
  | fuel + 1, first, second =>
      match second with
      | [] => some []
      | s :: secondRest =>
          if s.isCase then
            match first with
            | f :: firstRest =>
                if !f.isCase then none
                else
                  let changed := match f, s with
                    | .named "lower", .named "upper" => f.octets.map fun c => (c, c.toUpper)
                    | .named "upper", .named "lower" => f.octets.map fun c => (c, c.toLower)
                    | _, _ => []
                  (pairs? fuel firstRest secondRest).map (changed ++ ·)
            | [] => some []
          else match s.octets with
            | [] => pairs? fuel first secondRest
            | d :: others =>
                let second := (others.map SetItem.single) ++ secondRest
                match first with
                | [] => some []
                | f :: firstRest =>
                    match f.octets with
                    | [] => pairs? fuel firstRest (.single d :: second)
                    | c :: more =>
                        (pairs? fuel (more.map SetItem.single ++ firstRest) second).map ((c, d) :: ·)

/-- The number of octets of a set, in which classes of letters that change their case count once. -/
def effectiveLength (hasCases : Bool) (items : List SetItem) : Nat :=
  items.foldl (fun n i => n + if hasCases && i.isCase then 1 else i.octets.length) 0

/-- Makes the second set as long as the first one. -/
def extendSet (missing : Nat) (items : List SetItem) : Except Text (List SetItem) :=
  match items.getLast? with
  | some (.named _) =>
      .error ("when translating with string1 longer than string2,\n".toList ++
        "the latter string must not end with a character class".toList)
  | some item =>
      let last := match item with
        | .filled c _ => c
        | item => item.octets.getLast?.getD ' '
      .ok (items ++ [.filled last (some missing)])
  | none => .ok items

/-- What the options say. -/
structure TrStyle where
  isComplement : Bool
  deletes : Bool
  squeezes : Bool
  truncates : Bool

/-- Checks both sets, and returns the octets that change. -/
def readChanges (s : TrStyle) (first second : List SetItem) : Except Text (List (Char × Char)) := do
  let octets := setOctets first
  let complement := allOctets.filter fun c => !octets.contains c
  let length := if s.isComplement then complement.length else octets.length
  let filled := fillSet length second
  if second.countP SetItem.isOpen > 1 then
    throw "only one [c*] repeat construct may appear in string2".toList
  if second.any fun i => i matches .equivalent _ then
    throw "[=c=] expressions may not appear in string2 when translating".toList
  if second.any fun i => i.isClass && !i.isCase then
    throw ("when translating, the only character classes that may appear in\n".toList ++
      "string2 are 'upper' and 'lower'".toList)
  let hasCases := !s.isComplement && second.any SetItem.isCase
  if hasCases && (pairs? (2 * (length + 600)) first filled).isNone then
    throw "misaligned [:upper:] and/or [:lower:] construct".toList
  let firstLength := if hasCases then
      effectiveLength (first.any SetItem.isCase) first else length
  let secondLength := effectiveLength hasCases filled
  let full ← if firstLength > secondLength && !s.truncates then
      if secondLength = 0 then throw "when not truncating set1, string2 must be non-empty".toList
      else extendSet (firstLength - secondLength) filled
    else pure filled
  if s.isComplement then
    let target := setOctets full
    let isEven := target.length = length && target.all (some · == target.head?)
    if first.any SetItem.isClass && !isEven then
      throw ("when translating with complemented character classes,\n".toList ++
        "string2 must map all characters in the domain to one".toList)
    return complement.zip target
  else return (pairs? (4 * (length + 600)) first full).getD []

/-- Drops repetitions of octets that are squeezed. -/
def squeeze (isSqueezed : Char → Bool) : Option Char → Text → Text
  | _, [] => []
  | last, c :: rest =>
      if last == some c && isSqueezed c then squeeze isSqueezed last rest
      else c :: squeeze isSqueezed (some c) rest

/-- **What becomes of a text**, by one or two sets. -/
def trChange (s : TrStyle) (sets : List (List SetItem)) : Except Text (Text → Text) := do
  let first := sets.headD []
  if first.any SetItem.isOpen then
    throw "the [c*] repeat construct may not appear in string1".toList
  let octets := setOctets first
  let isFirst := fun (c : Char) => octets.contains c != s.isComplement
  match sets with
  | [_, second] =>
      if s.deletes then
        if second.any SetItem.isOpen then
          throw "the [c*] construct may appear in string2 only when translating".toList
        let squeezed := setOctets second
        return fun t => squeeze squeezed.contains none (t.filter fun c => !isFirst c)
      else
        let changes ← readChanges s first second
        let table := changes.reverse
        let change := fun (t : Text) => t.map fun c => (table.lookup c).getD c
        let filled := setOctets (fillSet (if s.isComplement then 256 - octets.length else octets.length) second)
        return fun t => if s.squeezes then squeeze filled.contains none (change t) else change t
  | _ =>
      if s.deletes then return fun t => t.filter fun c => !isFirst c
      else return fun t => squeeze isFirst none t

/-! ## The program -/

def trOptions : Specification :=
  { name := "tr", letters := "AcCdst", isMixed := false,
    words := [("complement", 'c', .none), ("delete", 'd', .none), ("squeeze-repeats", 's', .none),
      ("truncate-set1", 't', .none)] }

/-- Reads sets one by one. What there is to say about them is reported. -/
def readSets : List Text → Job (Option (List (List SetItem)))
  | [] => return some []
  | t :: rest => do
      let u := unquote (t.length + 1) t
      discard (forAll (fun warning => do
        complain "tr" warning
        return 0) u.warnings)
      match readSet (u.chars.length + 1) u.chars with
      | .error message =>
          complain "tr" message
          return none
      | .ok items => return (← readSets rest).map (items :: ·)

def tr : Utility := fun _ arguments =>
  withOptions trOptions arguments fun g => do
    let deletes := g.has 'd'
    let squeezes := g.has 's'
    let least := if deletes == squeezes then 2 else 1
    let most := if deletes && !squeezes then 1 else 2
    let count := g.operands.length
    if count = 0 then misuse trOptions "missing operand".toList
    else if count < least then
      let why := if squeezes then "Two strings must be given when both deleting and squeezing repeats."
        else "Two strings must be given when translating."
      misuse trOptions ("missing operand after ".toList ++ cited (arguments.getLast?.getD []) ++
        '\n' :: why.toList)
    else if most < count then
      let why := if count = 2 then
          "\nOnly one string may be given when deleting without squeezing repeats.".toList
        else []
      misuse trOptions ("extra operand ".toList ++ cited ((g.operands[most]?).getD []) ++ why)
    else
      match ← readSets g.operands with
      | none => return 1
      | some sets =>
          match trChange ⟨g.has 'c' || g.has 'C', deletes, squeezes, g.has 't'⟩ sets with
          | .error message =>
              complain "tr" message
              return 1
          | .ok change =>
              match ← Job.input with
              | .error e =>
                  Job.complain ["tr".toList, "read error".toList, reason e]
                  return 1
              | .ok t =>
                  Job.put (change t)
                  return 0

end SwiftExistential.Utility
