import SwiftExistential.Process.Signal
import SwiftExistential.Utility.Content
import SwiftExistential.Utility.Paths

/-!
# Programs that start others

A program that starts another one under circumstances of its own: for a limited time, with another
rank, without an end when its terminal closes, with other buffers, or in a session of its own.

The program that is started takes the place of the one that starts it, but for `timeout`, which
stays to end it when its time is over. All of them share how a program is found and what is said if
it cannot be started; the status then tells whether it is missing or not allowed. `which` only says
where programs are.
-/

set_option autoImplicit false

namespace SwiftExistential.Utility

open Process

/-- The reason why a program cannot be started, and the status for it. -/
def startReason : StartError → Text × Nat
  | .missing => (reason .notFound, 127)
  | .denied => ("Permission denied".toList, 126)
  | .strange => ("Exec format error".toList, 126)

/-- Starts a program, or says why it cannot be started. -/
def startOr (launch : Launch) (command : List Text) (message : Text → List Text) : Job Ending := do
  match ← launch command with
  | .ok ending => return ending
  | .error e =>
      let (why, status) := startReason e
      Job.complain (message (command.headD []) ++ [why])
      return .exited status

/-- Starts the program behind the options of another one, whose messages name programs in a way of
their own. -/
def startAfter (name : String) (shown : Text → Text) (launch : Launch) (command : List Text) : Job Ending :=
  startOr launch command fun command => [name.toList, "failed to run command ".toList ++ shown command]

/-- Ends after a wrong use. -/
def misused (s : Specification) (message : Text) : Job Ending := do return .exited (← misuse s message)

/-! ## Limited time

A deadline is set on the clock of the machine. What the program does up to then stays done. -/

def timeoutOptions : Specification :=
  { name := "timeout", letters := "k:s:v", isMixed := false, mistake := 125,
    words := [("foreground", 'f', .none), ("kill-after", 'k', .one), ("preserve-status", 'p', .none),
      ("signal", 's', .one), ("verbose", 'v', .none)] }

def hint (s : Specification) : Job Ending := do
  Job.write 2 ("Try '".toList ++ (← read).named s.name.toList ++ " --help' for more information.\n".toList)
  return .exited s.mistake

/-- Says which signal is sent to a program. -/
def tellSignal (g : Given) (signal : Nat) (command : List Text) : Job Unit := do
  if g.has 'v' then
    complain "timeout" ("sending signal ".toList ++ Signal.name signal ++ " to command ".toList ++
      cited (command.headD []))

/-- Starts a program and ends it with a signal after so much time. -/
def startLimited (launch : Launch) (g : Given) (limit signal : Nat) (command : List Text) : Job Ending := do
  let grace := ((g.value? 'k').bind Duration.ofText?).filter (· != 0)
  let start := (← get).clock
  let isHarmless := Signal.isHarmless signal
  let last := if isHarmless then grace.map (limit + ·) else some limit
  let ending ← match last with
    | some last => Job.within last (startAfter "timeout" cited launch command)
    | none => do pure (some (← startAfter "timeout" cited launch command))
  let isLate := (← get).clock ≥ start + limit
  match ending with
  | some ending =>
      if isLate && isHarmless then
        tellSignal g signal command
        return if g.has 'p' then ending else .exited 124
      else return ending
  | none =>
      tellSignal g signal command
      if isHarmless || signal = 9 then
        if isHarmless then tellSignal g 9 command
        return .killed 9
      else return .exited (if g.has 'p' then 128 + signal else 124)

def timeout : Starter := fun launch arguments =>
  withOptionsAs .exited timeoutOptions arguments fun g => do
    let signal := match g.value? 's' with
      | some t => Signal.ofLongText? t
      | none => some 15
    let interval := fun (t : Text) => misused timeoutOptions ("invalid time interval ".toList ++ cited t)
    match signal, (g.value? 'k').filter fun t => (Duration.ofText? t).isNone with
    | none, _ => misused timeoutOptions (cited ((g.value? 's').getD []) ++ ": invalid signal".toList)
    | some _, some t => interval t
    | some signal, none =>
        match g.operands with
        | time :: name :: rest =>
            match Duration.ofText? time with
            | none => interval time
            | some 0 => startAfter "timeout" cited launch (name :: rest)
            | some limit => startLimited launch g limit signal (name :: rest)
        | [_] | [] => hint timeoutOptions

/-! ## Other circumstances

Most circumstances cannot be noticed by the programs that are modelled, so only the options and
messages matter. -/

def niceOptions : Specification :=
  { name := "nice", letters := "n:", isMixed := false, mistake := 125, words := [("adjustment", 'n', .one)] }

/-- Writes adjustments that stand right behind a dash as values of the option for them. -/
def spellAdjustments : List Text → List Text
  | ['-', 'n'] :: value :: rest => ['-', 'n'] :: value :: spellAdjustments rest
  | ('-' :: t) :: rest =>
      let isNumber := match t with
        | '-' :: d :: _ | '+' :: d :: _ => d.isDigit
        | d :: _ => d.isDigit
        | [] => false
      if isNumber then ['-', 'n'] :: t :: spellAdjustments rest
      else if t = [] || t = ['-'] then ('-' :: t) :: rest
      else ('-' :: t) :: spellAdjustments rest
  | arguments => arguments

def nice : Starter := fun launch arguments =>
  withOptionsAs .exited niceOptions (spellAdjustments arguments) fun g => do
    let seat ← read
    let adjustment : Except Text Int := match g.value? 'n' with
      | none => .ok 10
      | some t =>
          let found := Number.read 10 t
          if found.isNumber && found.rest.isEmpty then .ok found.value else .error t
    match adjustment with
    | .error t =>
        complain "nice" ("invalid adjustment ".toList ++ cited t)
        return .exited 125
    | .ok n =>
        if g.operands.isEmpty then
          if g.has 'n' then misused niceOptions "a command must be given with an adjustment".toList
          else
            Job.putLine (Number.shown seat.niceness)
            return .exited 0
        else
          let niceness := max (-20) (min 19 (seat.niceness + n))
          withReader (fun seat : Seat => { seat with niceness := niceness })
            (startOr launch g.operands fun command => ["nice".toList, cited command])

def nohupOptions : Specification := { name := "nohup", letters := "", isMixed := false, mistake := 125 }

def nohup : Starter := fun launch arguments =>
  withOptionsAs .exited nohupOptions arguments fun g =>
    if g.operands.isEmpty then misused nohupOptions "missing operand".toList
    else startAfter "nohup" quoted launch g.operands

def stdbufOptions : Specification :=
  { name := "stdbuf", letters := "i:o:e:", isMixed := false, mistake := 125,
    words := [("error", 'e', .one), ("input", 'i', .one), ("output", 'o', .one)] }

def stdbuf : Starter := fun launch arguments =>
  withOptionsAs .exited stdbufOptions arguments fun g => do
    let isMode := fun (t : Text) => t = ['L'] || (count? t).isSome
    match g.options.find? fun (c, t) => (c == 'i' && t = ['L']) || !isMode t with
    | some (_, ['L']) => misused stdbufOptions "line buffering stdin is meaningless".toList
    | some (_, t) =>
        complain "stdbuf" ("invalid mode ".toList ++ cited t)
        return .exited 125
    | none =>
        if g.operands.isEmpty then misused stdbufOptions "missing operand".toList
        else if g.options.isEmpty then misused stdbufOptions "you must specify a buffering mode option".toList
        else startAfter "stdbuf" cited launch g.operands

def setsidOptions : Specification :=
  { name := "setsid", letters := "cfw", isMixed := false,
    words := [("ctty", 'c', .none), ("fork", 'f', .none), ("wait", 'w', .none)] }

def setsid : Starter := fun launch arguments =>
  withOptionsAs .exited setsidOptions arguments fun g => do
    if g.operands.isEmpty then misused setsidOptions "no command specified".toList
    else if g.has 'c' then
      complain "setsid" "failed to set the controlling terminal: Inappropriate ioctl for device".toList
      return .exited 1
    else
      let ending ← startOr launch g.operands fun command =>
        ["setsid".toList, "failed to execute ".toList ++ command]
      return if g.has 'f' && !g.has 'w' then .exited 0 else ending

/-! ## Where programs are -/

/-- The places where a program of a name is found. -/
def placesOf (tree : FileTree) (search name : Text) : List Text :=
  let candidates := if name.contains '/' then [name]
    else (Text.splitOn ':' search).map fun d => inside (if d.isEmpty then ['.'] else d) name
  candidates.filter fun path =>
    match tree.find (Octets.toText path) with
    | .ok (_, .file _ mode) => (mode &&& 0o111) != 0
    | _ => false

def which : Utility := fun _ arguments => do
  match readFrom { name := "which", letters := "as", isMixed := false } (arguments.length + 1) arguments with
  | .error mistake =>
      let letter := (mistake.message.reverse.drop 1).headD '?'
      Job.write 2 ("Illegal option -".toList ++ letter :: "\nUsage: /usr/bin/which [-as] args\n".toList)
      return 2
  | .ok g =>
      let tree ← Job.tree
      let search := ((← Job.environment? "PATH".toList).getD [])
      if g.operands.isEmpty then return 1
      else forAll (fun name => do
        let found := placesOf tree search name
        if !g.has 's' then Job.put (joinLines (if g.has 'a' then found else found.take 1))
        return if found.isEmpty then 1 else 0) g.operands

end SwiftExistential.Utility
