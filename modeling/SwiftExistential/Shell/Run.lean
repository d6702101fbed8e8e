import SwiftExistential.Shell.Call

/-!
# Running a script

The commands of a script in turn, and the shell as a program. Here the parts of the shell come
together: words are expanded, descriptors are led elsewhere, and what the names stand for is called.

The functions are not recursive on commands. Each takes a runner for the commands inside of its own,
and `stepWithSignals` is one step of a runner; how deep steps may go is settled where programs are
executed.
-/

set_option autoImplicit false

/-! ## Running commands

Every function says how a kind of command runs, given how its parts run. A stop passes through all
of them up to the loop, the function or the shell that it is meant for. -/

namespace SwiftExistential.Shell

open Process

section

variable (run : Runner) (execute : Executor)

/-- Ends a shell that does not go on after a failure which nobody asked for. -/
def checkFailure (flags : Flags) (status : Nat) : Action Nat := do
  Action.setStatus status
  if status != 0 && !flags.isTested && (← Action.isOn 'e') then throw .exit
  else return status

def runRedirected (line : Nat) (redirections : List Redirection) (action : Action Nat) : Action Nat := do
  Action.change fun s => { s with line := line }
  let resolved ← resolveAll run redirections
  let seat ← Action.ask (·.seat)
  finally' (do if ← redirectSafely run resolved then action else return 2) (restoreSeat seat)

/-- Runs a command apart. If the shell ends after it, it needs no process of its own. -/
def runSubshell (flags : Flags) (line : Nat) (body : Command) (redirections : List Redirection) :
    Action Nat := do
  Action.change fun s => { s with line := line }
  let resolved ← resolveAll run redirections
  let stays := flags.isLast && !(← hasTraps)
  if !stays then pass run (forkTime + startTime)
  let ending ← apart run (!stays) id do
    redirectAll run resolved
    run { flags with isLast := true } body
  if stays then endAs ending else settle ending

/-- Runs commands that hand on their output. Returns how they ended, the last first. -/
def runStages (flags : Flags) (input : Option Nat) (ended : List Ending) :
    List Command → Action (List Ending)
  | [] => return ended
  | command :: rest => do
      let output ← if rest.isEmpty then pure none
        else do
          let s ← get
          let (index, machine) := s.machine.openChannel (.pipe .empty 0)
          set { s with machine := machine }
          pure (some index)
      let number := (← get).machine.processes
      pass run (forkTime + startTime)
      let connect := fun (descriptor : Nat) (channel : Option Nat) (seat : Seat) =>
        match channel with
        | some index => seat.connect descriptor index
        | none => seat
      let ending ← apart run true
        (fun s => { s with seat := connect 1 output (connect 0 input s.seat) })
        (run { flags with isLast := true } command)
      if let some index := output then closeChannel run index number
      runStages flags output (ending :: ended) rest

/-- Says what signals did to processes. -/
def reportAll : List Ending → Action Unit
  | [] => return
  | ending :: rest => do
      reportEnding ending
      reportAll rest

/-- Runs commands that hand on their output. -/
def runPipeline (flags : Flags) (commands : List Command) : Action Nat := do
  let ended ← runStages run flags none [] commands
  reportAll ended.reverse
  return (ended.head?.map Ending.status).getD 0

/-- What a loop does after a stop. -/
inductive AfterStop where
  | leave
  | again
  | stop (e : Stop)

/-- What a stop inside of a loop means for the loop. -/
def afterStop : Stop → AfterStop
  | .leave (n + 2) => .stop (.leave (n + 1))
  | .leave _ => .leave
  | .again (n + 2) => .stop (.again (n + 1))
  | .again _ => .again
  | e => .stop e

/-- Counts a loop around an action. -/
def inLoop {α : Type} (action : Action α) : Action α := do
  Action.change fun s => { s with loops := s.loops + 1 }
  finally' action (Action.change fun s => { s with loops := s.loops - 1 })

/-- Ends a process that would never end by itself. -/
def runForever : Action Nat := do
  modify fun s => { s with machine := s.machine.elapse Duration.endless }
  throw (.killed 9)

/-- Repeats a body while a condition says so, so often at most. -/
def runLoop (flags : Flags) (isUntil : Bool) (condition body : Command) : Nat → Nat → Action Nat
  | 0, _ => runForever
  | fuel + 1, status => do
      match ← attempt (run ⟨true, false⟩ condition) with
      | .error e =>
          match afterStop e with
          | .leave => return status
          | .again => runLoop flags isUntil condition body fuel status
          | .stop e => throw e
      | .ok answer =>
          if (answer == 0) == isUntil then return status
          else match ← attempt (run flags body) with
            | .ok status => runLoop flags isUntil condition body fuel status
            | .error e =>
                match afterStop e with
                | .leave => return 0
                | .again => runLoop flags isUntil condition body fuel 0
                | .stop e => throw e

/-- How often a loop runs at most. Nobody waits so long for one in the background, or for one that
has to end by some time. -/
def maxRounds : Action Nat := do
  let machine := (← get).machine
  return if machine.background.isSome then 20000 else if machine.deadline.isSome then 200000 else 100000000

def runForEach (flags : Flags) (name : Text) (body : Command) : List Text → Nat → Action Nat
  | [], status => return status
  | value :: rest, _ => do
      Action.assign name value
      match ← attempt (run flags body) with
      | .ok status => runForEach flags name body rest status
      | .error e =>
          match afterStop e with
          | .leave => return 0
          | .again => runForEach flags name body rest 0
          | .stop e => throw e

def fitsOne (subject : Text) : List Word → Action Bool
  | [] => return false
  | word :: rest => do
      let pattern ← expandPattern (substitute run) word
      if Glob.accepts pattern subject then return true else fitsOne subject rest

def runBranches (flags : Flags) (subject : Text) : List Branch → Action Nat
  | [] => return 0
  | .mk patterns body :: rest => do
      if ← fitsOne run subject patterns then
        match body with
        | .nothing => return 0
        | body => run flags body
      else runBranches flags subject rest

/-- Runs a command, given how its parts run. -/
def step (flags : Flags) (command : Command) : Action Nat := do
  let inner : Flags := { flags with isLast := false }
  match command with
  | .nothing => Action.ask (·.status)
  | .simple line assignments words redirections => do
      checkFailure flags (← runSimple run execute flags line assignments words redirections)
  | .redirected line body redirections => do
      checkFailure flags (← runRedirected run line redirections (run inner body))
  | .subshell line body redirections => do
      checkFailure flags (← runSubshell run flags line body redirections)
  | .background body => runBackground body
  | .pipeline commands => do checkFailure flags (← runPipeline run flags commands)
  | .negated body => do return if (← run ⟨true, false⟩ body) = 0 then 1 else 0
  | .andThen first second => do
      let status ← run ⟨true, false⟩ first
      if status = 0 then run flags second else return status
  | .orElse first second => do
      let status ← run ⟨true, false⟩ first
      if status = 0 then return status else run flags second
  | .sequence first second => do
      discard (run inner first)
      run flags second
  | .conditional condition body other => do
      if (← run ⟨true, false⟩ condition) = 0 then run flags body
      else match other with
        | .nothing => return 0
        | other => run flags other
  | .loop isUntil condition body => do inLoop (runLoop run inner isUntil condition body (← maxRounds) 0)
  | .forEach line name words body => do
      Action.change fun s => { s with line := line }
      let values ← expandAll (substitute run) words
      inLoop (runForEach run inner name body values 0)
  | .select line subject branches => do
      Action.change fun s => { s with line := line }
      let subject ← expandText (substitute run) subject
      runBranches run flags subject branches
  | .define name body => do
      Action.change fun s => { s with functions := s.functions.insert name body }
      return 0

/-- Runs a command, and notices signals before and after it. Nothing runs in a shell that only
reads. -/
def stepWithSignals (flags : Flags) (command : Command) : Action Nat := do
  if ← Action.isOn 'n' then return 0
  else
    handleSignals run
    let status ← step run execute flags command
    Action.setStatus status
    handleSignals run
    return status

end

end SwiftExistential.Shell

/-! ## The shell as a program

A shell takes its options, then a text to run, a file or its input. It starts with the variables of
the environment and a few of its own. -/

namespace SwiftExistential.Shell

open Process

/-- Where programs are searched if the environment does not say it. -/
def defaultSearch : String := "/usr/local/sbin:/usr/local/bin:/usr/sbin:/usr/bin:/sbin:/bin"

def initialValues : List (String × String) :=
  [("IFS", " \t\n"), ("PATH", defaultSearch), ("PS1", "# "), ("PS2", "> "), ("PS4", "+ "),
    ("OPTIND", "1")]

/-- Sets a variable of a new shell. -/
def setInitial (isExported : Bool) (name value : Text) : Session → Session := fun s =>
  let old := (s.values[name]?).getD { Variable.unset with age := s.made }
  { s with
    values := s.values.insert name
      { old with value := some value, isExported := isExported || old.isExported },
    made := if s.values.contains name then s.made else s.made + 1 }

/-- The path by which a shell knows its directory: the one of the environment, if it leads there. -/
def initialPath (tree : FileTree) (directory : Location) (environment : List (Text × Text)) : Text :=
  match environment.lookup "PWD".toList with
  | some path =>
      if path.head? = some '/' && (tree.canonicalize (Octets.toText path)).toOption = some directory then path
      else Octets.ofText (FileTree.render directory)
  | none => Octets.ofText (FileTree.render directory)

/-- A shell at a seat before it has read its arguments. -/
def fresh (tree : FileTree) (seat : Seat) (parent : Nat) (name : Text) : Session :=
  let empty : Session :=
    { name := name, arguments := [], values := {}, made := 0, functions := {}, aliases := [],
      options := [], traps := [], frames := [], seat := seat,
      here := initialPath tree seat.directory seat.environment, tracked := [], status := 0,
      substituted := 0, loops := 0, calls := 0, line := 0, speaker := none, cursor := ⟨1, 0⟩,
      background := none, jobs := [] }
  let own := initialValues.foldl (fun s (name, value) => setInitial false name.toList value.toList s) empty
  let given := (seat.environment.filter fun (name, _) => isName name).foldl
    (fun s (name, value) => setInitial true name value s) own
  let fixed := ["IFS", "OPTIND"].foldl
    (fun s name => setInitial false name.toList ((initialValues.lookup name).getD "").toList s) given
  setInitial true "PWD".toList empty.here
    (setInitial false "PPID".toList (toString parent).toList fixed)

/-! ### Arguments -/

/-- Turns the options of an argument on or off. Returns the arguments behind it, and whether a text
to run follows. -/
def takeLetters (isOn : Bool) : Text → List Text → Action (List Text × Bool)
  | [], rest => return (rest, false)
  | 'c' :: letters, rest => do return ((← takeLetters isOn letters rest).1, true)
  | 'l' :: letters, rest => takeLetters isOn letters rest
  | 'o' :: letters, rest => do takeLetters isOn letters (← Builtin.turnLetters isOn ['o'] rest)
  | letter :: letters, rest => do
      Builtin.turnOption isOn letter
      takeLetters isOn letters rest

/-- Reads the options of a shell, with so many steps at most. Returns the arguments behind them, and
whether the first is a text to run. -/
def takeOptions : Nat → Bool → List Text → Action (List Text × Bool)
  | 0, isText, arguments => return (arguments, isText)
  | fuel + 1, isText, arguments => do
      let go := fun (isOn : Bool) (letters : Text) (rest : List Text) => do
        let (rest, isMore) ← takeLetters isOn letters rest
        takeOptions fuel (isText || isMore) rest
      match arguments with
      | ['-'] :: rest | ['-', '-'] :: rest => return (rest, isText)
      | ('-' :: letters) :: rest => go true letters rest
      | ('+' :: letters) :: rest => go false letters rest
      | arguments => return (arguments, isText)

/-- What a shell runs. -/
inductive Script where
  | text (t : Text)
  | file (path : Text)
  | input

/-- Takes over the arguments of a shell. Returns what it runs. -/
def takeArguments (given : List Text) : Action Script := do
  let (rest, isText) ← takeOptions (given.length + 1) false given
  let name := fun (t : Text) (arguments : List Text) =>
    Action.change fun s => { s with name := t, arguments := arguments }
  match rest with
  | [] =>
      if isText then Action.fail ["-c requires an argument".toList]
      else
        Builtin.turnOption true 's'
        return .input
  | first :: others =>
      if isText then
        if let zeroth :: others := others then name zeroth others
        return .text first
      else if ← Action.isOn 's' then
        Action.change fun s => { s with arguments := rest }
        return .input
      else
        let tree ← Action.tree
        match scriptBytes tree first with
        | .error e => Action.fail ["cannot open ".toList ++ first, openReason false e]
        | .ok _ =>
            name first others
            return .file first

/-- Runs what the arguments of a shell ask for. -/
def runScript (run : Runner) (given : List Text) : Action Nat := do
  let script ← takeArguments given
  Action.change fun s => { s with line := 1 }
  match script with
  | .text t => runText run ⟨false, false⟩ t
  | .file path =>
      let bytes := (scriptBytes (← Action.tree) path).toOption.getD .empty
      runText run ⟨false, false⟩ (Octets.ofArray bytes)
  | .input =>
      match ← Action.perform Job.input with
      | .error _ => return 0
      | .ok t => runText run ⟨false, false⟩ t

/-- **The shell as a program.** -/
def start (run : Runner) (arguments : List Text) : Job Ending := do
  let seat ← read
  let machine ← get
  let number := machine.processes + 1
  let shell := fresh (← Job.tree) { seat with number := number, process := number } seat.process (arguments.headD [])
  let state : State :=
    { machine := { machine with processes := number, waiting := seat.process :: machine.waiting },
      shell := shell, pending := [], settled := [] }
  let action := do
    let ending ← finish run (← attempt (runScript run arguments.tail))
    runChosen run fun _ => true
    return ending
  match action state with
  | .ok ending state' =>
      set { state'.machine with waiting := machine.waiting }
      return ending
  | .error _ state' =>
      set { state'.machine with waiting := machine.waiting }
      return .exited 2

end SwiftExistential.Shell
