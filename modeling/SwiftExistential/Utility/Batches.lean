import SwiftExistential.Text.Number
import SwiftExistential.Utility.Environment

/-!
# Batches of arguments

`xargs` runs a command with arguments from the input, as many at a time as options and limits allow.
It is treated in two steps: from the text to a plan of calls, and from the plan to what happens.

The first step depends on nothing but the text and the options, so the plan can be looked at by
itself. The second one starts the commands, and ends early if one of them says so.
-/

set_option autoImplicit false

/-! ## Arguments in batches

A text is cut into arguments, and these are dealt out to calls of a command. `events` reads a text:
arguments stand between blanks or end with a mark, and quotes and backslashes keep blanks. `plan`
says which calls become of it, and where it ends in a failure. Nothing here depends on what the
calls do. -/

namespace SwiftExistential.Utility.Batches

/-- How arguments are found and dealt out. -/
structure Style where
  /-- The octet that ends each argument, if there are no blanks and quotes. -/
  mark : Option Char := none
  /-- The argument behind which nothing is read. -/
  stop : Option Text := none
  /-- The part of the command that each line takes the place of. -/
  pattern : Option Text := none
  /-- The most lines and arguments of a call. -/
  lines : Option Nat := none
  count : Option Nat := none
  /-- The most octets of a call, with one more for each argument. -/
  size : Nat := 131072
  /-- Whether a call that would be too large is a failure. -/
  isStrict : Bool := false
  /-- Whether there is a call even without arguments. -/
  runsEmpty : Bool := true
  /-- Whether each call is shown. -/
  isTold : Bool := false
  /-- Whether someone is asked before each call. -/
  asks : Bool := false
  /-- The variable that gets the number of the place where a call runs. -/
  place : Option Text := none
  /-- The file with the text. -/
  source : Text := ['-']
  showsLimits : Bool := false

/-! ### Reading

A text is scanned into events. Blanks, quotes and backslashes mean something unless a mark was
chosen that ends arguments. -/

/-- What is met in a text. -/
inductive Event where
  | argument (t : Text)
  /-- The end of a line. It does not count behind a blank that was kept. -/
  | lineEnd (counts : Bool)
  | notice (message : Text)
  | failure (message : Text)
deriving DecidableEq, Repr

/-- Where a scan stands. -/
inductive Place where
  /-- Before an argument. -/
  | gap
  | plain
  | quote (mark : Char)
  | backslash
deriving DecidableEq, Repr

/-- How far a line has been scanned. -/
structure Scan where
  place : Place := .gap
  /-- The octets of the argument, the last one first. -/
  current : Text := []
  /-- How many more octets it may have. -/
  room : Nat
  /-- Whether it is the first one of its line. -/
  isFirst : Bool := true
  /-- Whether a part of an argument has been met, if only an empty one. -/
  hasPart : Bool := false
  previous : Option Char := none
  /-- Whether a zero has been reported. -/
  isWarned : Bool

def upToZero (t : Text) : Text := t.takeWhile (· != '\x00')

/-- The wording for an octet that no argument can have. -/
def zeroNotice : Text :=
  ("WARNING: a NUL character occurred in the input.  It cannot be passed through in the argument list.  " ++
    "Did you mean to use the --null option?").toList

/-- The wording for a quote without an end. -/
def unmatched (mark : Char) : Text :=
  ("unmatched " ++ (if mark == '"' then "double" else "single") ++
    " quote; by default quotes are special to xargs unless you use the -0 option").toList

def lineTooLong : Text := "argument line too long".toList

/-- Scans a text. With `splits`, blanks end arguments; otherwise only line ends do. No argument may
have more octets than there is room. -/
def scan (splits : Bool) (stop : Option Text) (room : Nat) : Scan → Text → List Event
  | s, [] =>
      let t := s.current.reverse
      if t.isEmpty then []
      else match s.place with
        | .quote mark => [.failure (unmatched mark)]
        | _ => if s.isFirst && stop = some (upToZero t) then [] else [.argument t]
  | s, c :: rest =>
      let next := { s with previous := some c }
      let fresh : Scan := { room := room, isWarned := s.isWarned }
      let isBlank := fun (c : Char) => c == ' ' || c == '\t'
      let add := fun (_ : Unit) =>
        let isOdd := c == '\x00' && !s.isWarned
        let notice := if isOdd then [.notice zeroNotice] else []
        match s.room with
        | 0 => notice ++ [.failure lineTooLong]
        | left + 1 =>
            notice ++ scan splits stop room
              { next with
                place := match s.place with
                  | .quote mark => .quote mark
                  | _ => .plain,
                current := c :: s.current, room := left, hasPart := true, isWarned := s.isWarned || isOdd } rest
      let plain := fun (_ : Unit) =>
        let t := s.current.reverse
        if c == '\n' then
          if stop = some (upToZero t) then []
          else .argument t :: .lineEnd (!s.previous.any isBlank) :: scan splits stop room fresh rest
        else if splits && isBlank c then
          if stop = some (upToZero t) then []
          else
            .argument t ::
          scan splits stop room { fresh with isFirst := false, hasPart := true, previous := some c } rest
        else if c == '\\' then scan splits stop room { next with place := .backslash, hasPart := true } rest
        else if c == '\'' || c == '"' then
          scan splits stop room { next with place := .quote c, hasPart := true } rest
        else add ()
      match s.place with
      | .gap => if Number.isSpace c then scan splits stop room next rest else plain ()
      | .plain => plain ()
      | .quote mark =>
          if c == '\n' then [.failure (unmatched mark)]
          else if c == mark then scan splits stop room { next with place := .plain } rest
          else add ()
      | .backslash => add ()

def splitAtMarks (mark : Char) (room : Nat) : Text → Nat → Text → List Event
  | current, _, [] => if current.isEmpty then [] else [.argument current.reverse]
  | current, left, c :: rest =>
      if c == mark then .argument current.reverse :: .lineEnd true :: splitAtMarks mark room [] room rest
      else match left with
        | 0 => [.failure lineTooLong]
        | left + 1 => splitAtMarks mark room (c :: current) left rest

/-- **What is met in a text**, with so much room for each argument. -/
def events (s : Style) (room : Nat) (t : Text) : List Event :=
  match s.mark with
  | some mark => splitAtMarks mark room [] room t
  | none => scan s.pattern.isNone s.stop room { room := room, isWarned := false } t

/-! ### Dealing out

A batch is closed when it has as many arguments or lines as wanted, or when the next argument would
not fit. -/

/-- What is done one after the other. -/
inductive Step where
  | call (command : List Text)
  | notice (message : Text)
  /-- Nothing is done behind it. -/
  | failure (message : Text)
deriving DecidableEq, Repr

def cost (t : Text) : Nat := t.length + 1

def costs (ts : List Text) : Nat := (ts.map cost).foldl (· + ·) 0

/-- The wording for a single argument that is too large. -/
def noFit : Text := "cannot fit single argument within argument list size limit".toList

/-- The arguments for the next call. -/
structure Batch where
  /-- The last one first. -/
  arguments : List Text := []
  size : Nat
  lines : Nat := 0
  hasCalled : Bool := false

/-- Calls a command with the arguments of a batch. -/
def Batch.call (command : List Text) (b : Batch) : Step := .call (command ++ b.arguments.reverse.map upToZero)

/-- Deals out arguments behind those of a command. -/
def deal (s : Style) (command : List Text) : Batch → List Event → List Step
  | b, [] => if !b.arguments.isEmpty || (s.runsEmpty && !b.hasCalled) then [b.call command] else []
  | b, .notice message :: rest => .notice message :: deal s command b rest
  | b, .failure message :: _ =>
      (if b.arguments.isEmpty || s.isStrict then [] else [b.call command]) ++ [.failure message]
  | b, .lineEnd counts :: rest =>
      let lines := if counts then b.lines + 1 else b.lines
      if s.lines.any (· ≤ lines) then
        b.call command :: deal s command { size := costs command, hasCalled := true } rest
      else deal s command { b with lines := lines } rest
  | b, .argument t :: rest =>
      let isTooLarge := b.size + cost t > s.size
      if isTooLarge && b.arguments.isEmpty then [.failure noFit]
      else if isTooLarge && s.isStrict && (s.lines.isSome || s.count.isSome) then
        [.failure "argument list too long".toList]
      else
        let before := if isTooLarge then [b.call command] else []
        let b := if isTooLarge then { b with arguments := [], size := costs command, hasCalled := true } else b
        let b := { b with arguments := t :: b.arguments, size := b.size + cost t }
        if s.count = some b.arguments.length then
          before ++ b.call command ::
            deal s command { b with arguments := [], size := costs command, hasCalled := true } rest
        else before ++ deal s command b rest

/-- The call of a command in which a line takes the place of a pattern. -/
def filledIn (s : Style) (pattern line : Text) : List Text → Step
  | [] => .call []
  | name :: arguments =>
      let filled := arguments.map fun t =>
        if pattern.isEmpty then (if t.isEmpty then some line else none)
        else
          let t := Text.replacePart pattern line t
          if t.length + 1 < s.size then some t else none
      if cost name > s.size then .failure noFit
      else if filled.any Option.isNone then .failure "command too long".toList
      else
        let command := name :: filled.filterMap id
        if costs command > s.size then .failure "argument list too long".toList else .call command

def fillIn (s : Style) (pattern : Text) (command : List Text) : List Event → List Step
  | [] => []
  | .lineEnd _ :: rest => fillIn s pattern command rest
  | .notice message :: rest => .notice message :: fillIn s pattern command rest
  | .failure message :: _ => [.failure message]
  | .argument line :: rest =>
      match filledIn s pattern (upToZero line) command with
      | .failure message => [.failure message]
      | step => step :: fillIn s pattern command rest

/-- **The calls of a command** that become of a text. -/
def plan (s : Style) (command : List Text) (t : Text) : List Step :=
  match s.pattern with
  | some pattern => fillIn s pattern command (events s (s.size - 1) t)
  | none =>
      let size := costs command
      if size > s.size then [.failure noFit]
      else deal s command { size := size } (events s (s.size - size - 1) t)

end SwiftExistential.Utility.Batches

/-! ## The calls of a command with arguments from a text

`xargs` reads arguments and calls a command with them. A call goes on while the arguments behind it
are read, so what these lead to is reported before the call says anything. -/

namespace SwiftExistential.Utility

open Process

namespace Batches

/-! ### Options

Of the options that say how arguments are dealt out, each takes the place of the one before it, and
that is said. -/

/-- What is wrong with an option. -/
structure Mistake where
  message : Text
  /-- Whether the use of the program is explained. -/
  isMisuse : Bool

/-- A result with messages that come before it. -/
abbrev Checked (α : Type) := ExceptT Mistake (StateM (List Text)) α

def tell (message : Text) : Checked Unit := modify (· ++ [message])

/-- Reads the number of an option, which may not be too small, nor larger than a bound. -/
def number (letter : Char) (least : Nat) (most : Option Nat) (isFatal : Bool) (t : Text) : Checked Nat := do
  let found := Number.read 10 t
  let option := " for -".toList ++ letter :: " option".toList
  if !found.isNumber || !found.rest.isEmpty then
    throw ⟨"invalid number \"".toList ++ t ++ '"' :: option, true⟩
  let beyond := fun (relation : String) (bound : Nat) =>
    "value ".toList ++ t ++ option ++ (" should be " ++ relation ++ " ").toList ++ shownNat bound
  if found.value < least then
    if isFatal then throw ⟨beyond ">=" least, true⟩
    tell (beyond ">=" least)
    return least
  match most.filter fun (m : Nat) => found.value > (m : Int) with
  | some m =>
      if isFatal then throw ⟨beyond "<=" m, true⟩
      tell (beyond "<=" m)
      return m
  | none => return found.value.toNat

/-- The octet that a text stands for as a mark. -/
def markOf (t : Text) : Checked Char := do
  let failed := fun {α : Type} (before after : String) =>
    (throw ⟨before.toList ++ t ++ after.toList, false⟩ : Checked α)
  let escape := "Invalid escape sequence "
  let specification := " in input delimiter specification"
  let octet := fun (base : Nat) (digits : Text) (largest : String) => do
    let run := digits.takeWhile (Number.isDigit base)
    let rest := digits.drop run.length
    if Number.value base run > 255 then
      failed escape (specification ++ "; character values must not exceed " ++ largest ++ ".")
    if !rest.isEmpty then
      failed escape (specification ++ "; trailing characters " ++ String.ofList rest ++ " not recognised.")
    return Char.ofNat (Number.value base run)
  match t with
  | [c] => return c
  | '\\' :: 'a' :: _ => return '\x07'
  | '\\' :: 'b' :: _ => return '\x08'
  | '\\' :: 'f' :: _ => return '\x0c'
  | '\\' :: 'n' :: _ => return '\n'
  | '\\' :: 'r' :: _ => return '\r'
  | '\\' :: 't' :: _ => return '\t'
  | '\\' :: 'v' :: _ => return '\x0b'
  | '\\' :: '\\' :: _ => return '\\'
  | '\\' :: 'x' :: digits => octet 16 digits "ff"
  | '\\' :: c :: rest =>
      if c.isDigit then octet 8 (c :: rest) "377" else failed escape (specification ++ ".")
  | _ =>
      failed "Invalid input delimiter specification "
        (": the delimiter must be either a single character or an escape sequence starting with \\.")

/-- Says that an option takes the place of another one. -/
def replaces (former now : String) : Checked Unit :=
  tell ("warning: options --" ++ former ++ " and " ++ now ++ " are mutually exclusive, ignoring previous --" ++
    former ++ " value").toList

/-- Takes lines as the measure of calls. -/
def byLines (now : String) (n : Nat) (s : Style) : Checked Style := do
  if s.count.isSome then replaces "max-args" now
  if s.pattern.isSome then replaces "replace" now
  return { s with lines := some n, count := none, pattern := none, isStrict := true }

def byPattern (pattern : Text) (s : Style) : Checked Style := do
  let now := "--replace/-I/-i"
  if s.count.isSome then replaces "max-args" now
  if s.lines.isSome then replaces "max-lines" now
  return { s with pattern := some pattern, lines := none, count := none }

/-- Takes over an option, where a call may take so many octets. -/
def apply (most : Nat) (s : Style) (option : Char × Text) : Checked Style := do
  let (letter, t) := option
  match letter with
  | '0' => return { s with mark := some '\x00' }
  | 'a' => return { s with source := t }
  | 'd' => return { s with mark := some (← markOf t) }
  | 'E' | 'e' => return { s with stop := if t.isEmpty then none else some t }
  | 'I' => byPattern t s
  | 'i' => byPattern (if t.isEmpty then ['\x7b', '\x7d'] else t) s
  | 'L' => byLines "-L" (← number 'L' 1 none true t) s
  | 'l' => byLines "--max-lines/-l" (← number 'l' 1 none true (if t.isEmpty then ['1'] else t)) s
  | 'n' =>
      let n ← number 'n' 1 none true t
      if s.lines.isSome then replaces "max-lines" "--max-args/-n"
      if s.pattern.isSome && n = 1 then return { s with lines := none }
      if s.pattern.isSome then replaces "replace" "--max-args/-n"
      return { s with count := some n, lines := none, pattern := none }
  | 'P' =>
      let _ ← number 'P' 0 (some 2147483647) true t
      return s
  | 'p' => return { s with asks := true, isTold := true }
  | 'r' => return { s with runsEmpty := false }
  | 's' => return { s with size := ← number 's' 1 (some most) false t }
  | 'S' => return { s with showsLimits := true }
  | 't' => return { s with isTold := true }
  | 'V' =>
      if t.contains '=' then
        throw ⟨"option --process-slot-var may not be set to a value which includes \x60='".toList, false⟩
      return { s with place := some t }
  | 'x' => return { s with isStrict := true }
  | _ => return s

def styleOf (most : Nat) (g : Given) : Checked Style := do
  let s ← g.options.foldlM (apply most) { size := min 131072 most }
  if s.stop.isSome && s.mark.isSome then
    tell "warning: the -E option has no effect if -0 or -d is used.\n".toList
  return s

/-! ### Limits -/

def environmentSize (environment : List (Text × Text)) : Nat :=
  environment.foldl (fun n (name, value) => n + name.length + value.length + 2) 0

/-- The octets that are left for a call in an environment. -/
def mostOctets (environment : List (Text × Text)) : Nat := 2095104 - environmentSize environment

def limitLines (environment : List (Text × Text)) (s : Style) : Text :=
  let own := environmentSize environment
  joinLines ([("Your environment variables take up ", own, " bytes"),
    ("POSIX upper limit on argument length (this system): ", mostOctets environment, ""),
    ("POSIX smallest allowable upper limit on argument length (all systems): ", 4096, ""),
    ("Maximum length of command we could actually use: ", mostOctets environment - own, ""),
    ("Size of command buffer we are actually using: ", s.size, ""),
    ("Maximum parallelism (--max-procs must be no greater): ", 2147483647, "")].map
      fun (before, n, after) => before.toList ++ shownNat n ++ after.toList)

/-! ### Running -/

def messagesBehind : List Step → List Text
  | .notice message :: rest => message :: messagesBehind rest
  | .failure message :: _ => [message]
  | _ => []

/-- The status behind a call that came to an end, or the one to stop with. -/
def statusAfter (name : Text) (ending : Ending) : Job (Except Nat Nat) := do
  match ending with
  | .exited 0 => return .ok 0
  | .exited 255 =>
      Job.complain ["xargs".toList, name, "exited with status 255; aborting".toList]
      return .error 124
  | .exited _ => return .ok 123
  | .killed signal =>
      Job.complain ["xargs".toList, name, "terminated by signal ".toList ++ shownNat signal]
      return .error 125

/-- Does what a plan says, behind calls with a status. The messages up to the next call may have
been said. -/
def runSteps (launch : Launch) (s : Style) : Bool → Nat → List Step → Job Nat
  | _, status, [] => return status
  | isSaid, status, .notice message :: rest => do
      if !isSaid then complain "xargs" message
      runSteps launch s isSaid status rest
  | isSaid, status, .failure message :: _ => do
      if !isSaid then complain "xargs" message
      return if status = 0 then 1 else status
  | _, status, .call command :: rest => do
      let name := command.headD []
      if s.isTold then
        Job.write 2 (Text.join [' '] (command.map shellWord) ++ if s.asks then [] else ['\n'])
      if s.asks then
        complain "xargs" "failed to open /dev/tty for reading: No such device or address".toList
        return if status = 0 then 1 else status
      let messages := messagesBehind rest
      let before ← get
      match ← launch command with
      | .error e =>
          let (why, status) := startReason e
          Job.complain ["xargs".toList, name, why]
          return status
      | .ok first =>
          let ending ←
            if messages.isEmpty then pure first
            else do
              set before
              messages.forM (complain "xargs")
              pure ((← launch command).toOption.getD first)
          match ← statusAfter name ending with
          | .error status => return status
          | .ok own => runSteps launch s (!messages.isEmpty) (max status own) rest

def options : Specification :=
  { name := "xargs", letters := "0a:E:e::i::I:l::L:n:prs:txP:d:o", isMixed := false,
    words := [("arg-file", 'a', .one), ("delimiter", 'd', .one), ("eof", 'e', .optional), ("exit", 'x', .none),
      ("interactive", 'p', .none), ("max-args", 'n', .one), ("max-chars", 's', .one),
      ("max-lines", 'l', .optional), ("max-procs", 'P', .one), ("no-run-if-empty", 'r', .none),
      ("null", '0', .none), ("open-tty", 'o', .none), ("process-slot-var", 'V', .one),
      ("replace", 'i', .optional), ("show-limits", 'S', .none), ("verbose", 't', .none)] }

end Batches

open Batches

def xargs : Utility := fun launch arguments =>
  withOptions Batches.options arguments fun g => do
    let seat ← read
    let (result, messages) := (styleOf (mostOctets seat.environment) g).run.run []
    messages.forM (complain "xargs")
    match result with
    | .error m =>
        if m.isMisuse then misuse Batches.options m.message
        else
          complain "xargs" m.message
          return 1
    | .ok s =>
        if s.showsLimits then Job.write 2 (limitLines seat.environment s)
        match ← Job.readSource s.source with
        | .error e =>
            if e = .isDirectory then
              let command := if g.operands.isEmpty then ["echo".toList] else g.operands
              runSteps launch s false 0 (plan s command [])
            else
              Job.complain ["xargs".toList, "Cannot open input file ".toList ++ cited s.source, reason e]
              return 1
        | .ok text =>
            let (index, machine) := (← get).openChannel .null
            set machine
            let seat := if s.source = ['-'] then seat.connect 0 index else seat
            let seat := match s.place with
              | some name => { seat with environment := Environment.set seat.environment name ['0'] }
              | none => seat
            let command := if g.operands.isEmpty then ["echo".toList] else g.operands
            runSteps (fun command _ => (launch command).run seat) s false 0 (plan s command text)

end SwiftExistential.Utility
