import SwiftExistential.Utility.Content

/-!
# How pages are laid out

The options of `pr` say how long a page is, what stands in columns, and what stands between these.
Some of them change what others mean.

What options ask for is collected as it is said, in an `Asked`, and is put together into a `Style`
at the end. The style has no options any more, only widths, lengths and marks. Widths that leave no
room for a column are refused.
-/

set_option autoImplicit false

namespace SwiftExistential.Utility.Pages

/-- Where the text in columns comes from. -/
inductive Order where
  /-- One file, down the columns. -/
  | down
  /-- One file, line by line across the columns. -/
  | across
  /-- One file for each column. -/
  | parallel
deriving DecidableEq, Repr

/-- What the options say. -/
structure Asked where
  /-- The digits of an option that is a number. -/
  digits : Text := []
  isInDigits : Bool := false
  columns : Option Nat := none
  isAcross : Bool := false
  isParallel : Bool := false
  /-- Whether control characters are shown with a caret. -/
  usesCarets : Bool := false
  /-- Whether other octets are shown as numbers. -/
  usesNumbers : Bool := false
  isDouble : Bool := false
  date : Option Text := none
  /-- Whether tabs become blanks, which character is taken for a tab, and how wide it is. -/
  expandsTabs : Bool := false
  inputTab : Char := '\t'
  inputTabWidth : Nat := 8
  /-- Whether blanks become tabs. -/
  writesTabs : Bool := false
  outputTab : Char := '\t'
  outputTabWidth : Nat := 8
  usesFeed : Bool := false
  title : Option Text := none
  joins : Bool := false
  length : Nat := 66
  isNumbered : Bool := false
  numberEnd : Char := '\t'
  numberDigits : Nat := 5
  /-- The number of the first line that is printed, if it is not its place in the file. -/
  firstNumber : Option Int := none
  margin : Nat := 0
  isQuiet : Bool := false
  /-- What stands between columns, and whether it is given in the newer way. -/
  between : Text := []
  hasBetween : Bool := false
  /-- Whether the older option for this counts. -/
  isOldBetween : Bool := false
  hasHeader : Bool := true
  keepsFeeds : Bool := false
  width : Nat := 72
  truncates : Bool := false
  /-- Whether the older option for the width counts. -/
  isOldWidth : Bool := false
  /-- The first page, if it is given, and the last one. -/
  first : Option Nat := none
  last : Option Nat := none

/-- How pages are laid out. -/
structure Style where
  order : Order
  columns : Nat
  columnWidth : Nat
  margin : Nat
  width : Nat
  /-- The lines of a page without what stands at its ends. -/
  lines : Nat
  hasHeader : Bool
  keepsFeeds : Bool
  usesFeed : Bool
  isDouble : Bool
  truncates : Bool
  joins : Bool
  between : Text
  hasBetween : Bool
  expandsTabs : Bool
  inputTab : Char
  inputTabWidth : Nat
  writesTabs : Bool
  outputTab : Char
  outputTabWidth : Nat
  usesCarets : Bool
  usesNumbers : Bool
  isNumbered : Bool
  numberEnd : Char
  numberDigits : Nat
  firstNumber : Option Int
  first : Nat
  last : Option Nat

namespace Style

/-- Whether lines are kept before they are printed. -/
def keepsLines (s : Style) : Bool := s.order = .down && s.columns > 1

def isParallel (s : Style) : Bool := s.order = .parallel

/-- How many columns a number takes with what is behind it. -/
def numberWidth (s : Style) : Nat :=
  s.numberDigits + if s.numberEnd == '\t' then 8 - s.numberDigits % 8 else 1

end Style

/-- What is wrong with options: a message, which a hint may follow. -/
structure Mistake where
  message : Text
  hasHint : Bool

/-- A number from one on, at the most the largest one of 32 bits with a sign. -/
def numberFrom (low : Int) (about : String) (t : Text) : Except Mistake Int :=
  (numberWithin about low 2147483647 t).mapError fun m => ⟨m, false⟩

def characterAndNumber (letter : Char) (t : Text) : Except Mistake (Option Char × Option Nat) :=
  let c := if t.head?.any Char.isDigit then none else t.head?
  let number := if c.isSome then t.drop 1 else t
  if number.isEmpty then .ok (c, none)
  else
    let wrong := fun (why : String) =>
      .error ⟨"'-".toList ++ letter :: "' extra characters or invalid number in the argument: ".toList ++
        cited number ++ why.toList, true⟩
    let found := Number.read 10 number
    if !found.isNumber || !found.rest.isEmpty || found.value ≤ 0 then wrong ""
    else if found.isCut || found.value > 2147483647 then wrong ": Value too large for defined data type"
    else .ok (c, some found.value.toNat)

/-- Reads a range of pages. A text that does not begin with a number is wrong by itself; nothing is
returned for other texts that are no range. -/
def pages? (about : String) (t : Text) : Except Mistake (Option (Nat × Option Nat)) :=
  let fail := fun (kind : String) =>
    Except.error (⟨(kind ++ about).toList ++ " argument ".toList ++ inQuotes t, false⟩ : Mistake)
  let read := fun (t : Text) =>
    let start := t.dropWhile Number.isSpace
    let unsigned := if start.head? == some '+' then start.drop 1 else start
    let digits := unsigned.takeWhile Char.isDigit
    (digits, unsigned.drop digits.length)
  let tooLarge := fun (digits : Text) => Number.value 10 digits > 18446744073709551615
  let (digits, rest) := read t
  let first := Number.value 10 digits
  if digits.isEmpty then fail "invalid "
  else if tooLarge digits then
    .error ⟨about.toList ++ " argument ".toList ++ inQuotes t ++ " too large".toList, false⟩
  else if first = 0 then .ok none
  else match rest with
    | [] => .ok (some (first, none))
    | ':' :: behind =>
        let (digits, rest) := read behind
        if digits.isEmpty then fail "invalid "
        else if !rest.isEmpty then
          .error ⟨"invalid suffix in ".toList ++ about.toList ++ " argument ".toList ++ inQuotes t, false⟩
        else if tooLarge digits then
          .error ⟨about.toList ++ " argument ".toList ++ inQuotes t ++ " too large".toList, false⟩
        else if Number.value 10 digits < first then .ok none
        else .ok (some (first, some (Number.value 10 digits)))
    | _ => .ok none

def Asked.withOption (a : Asked) (letter : Char) (t : Text) : Except Mistake Asked := do
  let wide := fun (which : String) => ("'-" ++ which ++ " PAGE_WIDTH' invalid number of characters")
  if letter.isDigit then
    return { a with digits := (if a.isInDigits then a.digits else []) ++ [letter], isInDigits := true }
  else
  let a := { a with isInDigits := false }
  match letter with
  | 'P' =>
      match ← pages? "--pages" t with
      | some (first, last) => return { a with first := some first, last }
      | none => throw ⟨"invalid page range ".toList ++ cited t, false⟩
  | 'C' =>
      let n ← numberFrom 1 "invalid number of columns" t
      return { a with columns := some n.toNat, digits := [] }
  | 'a' => return { a with isAcross := true }
  | 'c' => return { a with usesCarets := true }
  | 'd' => return { a with isDouble := true }
  | 'D' => return { a with date := some t }
  | 'e' =>
      let (c, n) ← characterAndNumber 'e' t
      return { a with
        expandsTabs := true, inputTab := c.getD a.inputTab, inputTabWidth := n.getD a.inputTabWidth }
  | 'f' | 'F' => return { a with usesFeed := true }
  | 'h' => return { a with title := some t }
  | 'i' =>
      let (c, n) ← characterAndNumber 'i' t
      return { a with
        writesTabs := true, outputTab := c.getD a.outputTab, outputTabWidth := n.getD a.outputTabWidth }
  | 'J' => return { a with joins := true }
  | 'l' => return { a with length := (← numberFrom 1 "'-l PAGE_LENGTH' invalid number of lines" t).toNat }
  | 'm' => return { a with isParallel := true }
  | 'n' =>
      let (c, n) ← characterAndNumber 'n' t
      return { a with
        isNumbered := true, numberEnd := c.getD a.numberEnd, numberDigits := n.getD a.numberDigits }
  | 'N' =>
      let n ← numberFrom (-2147483648) "'-N NUMBER' invalid starting line number" t
      return { a with firstNumber := some n }
  | 'o' => return { a with margin := (← numberFrom 0 "'-o MARGIN' invalid line offset" t).toNat }
  | 'r' => return { a with isQuiet := true }
  | 's' =>
      return { a with
        isOldBetween := true, between := if !a.hasBetween && !t.isEmpty then t else a.between }
  | 'S' => return { a with isOldBetween := false, hasBetween := true, between := t }
  | 't' => return { a with hasHeader := false, keepsFeeds := true }
  | 'T' => return { a with hasHeader := false, keepsFeeds := false }
  | 'v' => return { a with usesNumbers := true }
  | 'w' =>
      let n ← numberFrom 1 (wide "w") t
      return { a with isOldWidth := true, width := if a.truncates then a.width else n.toNat }
  | 'W' =>
      let n ← numberFrom 1 (wide "W") t
      return { a with isOldWidth := false, truncates := true, width := n.toNat }
  | _ => return a

/-- What is asked for when all options have been read. -/
def Asked.finish (a : Asked) (hasOld : Bool) : Except Mistake Asked := do
  let columns ← if a.digits.isEmpty then pure a.columns
    else (numberFrom 1 "invalid number of columns" a.digits).map fun n => some n.toNat
  let a := { a with columns }
  let isWide := a.isParallel || columns.isSome
  if a.isParallel && columns.isSome then
    throw ⟨"cannot specify number of columns when printing in parallel".toList, false⟩
  else if a.isParallel && a.isAcross then
    throw ⟨"cannot specify both printing across and printing in parallel".toList, false⟩
  else if !hasOld then return a
  else if a.isOldWidth then
    if isWide then return { a with truncates := true, hasBetween := a.hasBetween || a.isOldBetween }
    else return { a with joins := true }
  else if !a.hasBetween && a.isOldBetween && isWide then
    if a.truncates then return { a with hasBetween := true }
    else return { a with joins := true, hasBetween := !a.between.isEmpty }
  else return a

/-- **The layout of pages** for so many files at once, or why there is none. -/
def Asked.style (a : Asked) (files : Nat) : Except Text Style :=
  let isParallel := a.isParallel && files > 0
  let columns := if isParallel then files else a.columns.getD 1
  let hasHeader := a.hasHeader && a.length > 10
  let lines := if hasHeader then a.length - 10 else a.length
  let isWide := columns > 1
  let (between, hasBetween) :=
    if !isWide then (a.between, a.hasBetween)
    else if !a.hasBetween then (if a.joins then ['\t'] else [' '], true)
    else if !a.joins && a.between = ['\t'] then ([' '], true)
    else (a.between, true)
  let style : Style :=
    { order := if isParallel then .parallel else if a.isAcross || a.isParallel then .across else .down,
      columns, columnWidth := 0, margin := a.margin, width := a.width,
      lines := if a.isDouble then lines / 2 else lines,
      hasHeader, keepsFeeds := a.keepsFeeds || a.length ≤ 10, usesFeed := a.usesFeed, isDouble := a.isDouble,
      truncates := (a.truncates || isWide) && !a.joins, joins := a.joins, between, hasBetween,
      expandsTabs := a.expandsTabs || (isWide && between != ['\t']),
      inputTab := a.inputTab, inputTabWidth := a.inputTabWidth,
      writesTabs := a.writesTabs || isWide, outputTab := a.outputTab, outputTabWidth := a.outputTabWidth,
      usesCarets := a.usesCarets, usesNumbers := a.usesNumbers, isNumbered := a.isNumbered,
      numberEnd := a.numberEnd, numberDigits := a.numberDigits, firstNumber := a.firstNumber,
      first := a.first.getD 1, last := a.last }
  let taken := (columns - 1) * between.length + if isParallel && a.isNumbered then style.numberWidth else 0
  let columnWidth := (a.width - taken) / columns
  if columnWidth = 0 then .error "page width too narrow".toList else .ok { style with columnWidth }

end SwiftExistential.Utility.Pages
