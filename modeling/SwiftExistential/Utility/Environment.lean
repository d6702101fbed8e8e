import SwiftExistential.Utility.Launching

/-!
# The environment

`env` starts a program in a changed environment, or shows it, and `printenv` shows variables.

`env` takes the place of the program that it starts: what that program ends with is its own ending.
Options come first, then assignments, then the program with its arguments. An option can hold a text
that is split into more options and arguments, so options are read by a function of their own.
-/

set_option autoImplicit false

namespace SwiftExistential.Utility

open Process

namespace Environment

/-- Sets a variable, in its place or at the end. -/
def set (environment : List (Text × Text)) (name value : Text) : List (Text × Text) :=
  if environment.any fun (n, _) => n == name then
    environment.map fun (n, v) => if n == name then (n, value) else (n, v)
  else environment ++ [(name, value)]

/-! ## Arguments in a text

A text is split as by a shell that knows quotes, escapes and variables in braces, but nothing else.
-/

/-- How far a text has been split. -/
structure Split where
  /-- The arguments, the last one first, each with its last octet first. -/
  arguments : List Text := []
  /-- Whether the next octet begins an argument. -/
  isBetween : Bool := true
  /-- The quotes that are open. -/
  quote : Option Char := none

namespace Split

/-- Begins an argument, if none is open. -/
def begin (s : Split) : Split :=
  if s.isBetween then { s with arguments := [] :: s.arguments, isBetween := false } else s

def add (s : Split) (t : Text) : Split :=
  let s := s.begin
  { s with arguments := (t.reverse ++ s.arguments.headD []) :: s.arguments.tail }

def result (s : Split) : List Text := s.arguments.reverse.map List.reverse

end Split

/-- The name of a variable in braces at the start of a text. -/
def bracedName? : Text → Option Text
  | '$' :: '\x7b' :: rest =>
      let isStart := fun (c : Char) => c.isAlpha || c == '_'
      let name := rest.takeWhile fun c => isStart c || c.isDigit
      if name.head?.any isStart && rest[name.length]? = some '\x7d' then some name else none
  | _ => none

def escape? (c : Char) : Option Char :=
  ['"', '#', '$', '\'', '\\'].find? (· == c) <|>
    [('f', '\x0c'), ('n', '\n'), ('r', '\r'), ('t', '\t'), ('v', '\x0b')].lookup c

/-- Splits a text, with so many steps at most. -/
def splitFrom (environment : List (Text × Text)) : Nat → Split → Text → Except Text (List Text)
  | 0, s, _ => .ok s.result
  | _ + 1, s, [] => if s.quote.isSome then .error "no terminating quote in -S string".toList else .ok s.result
  | fuel + 1, s, c :: rest =>
      let go := splitFrom environment fuel
      let isSingle := s.quote = some '\''
      if (c == '\'' || c == '"') && (s.quote.isNone || s.quote = some c) then
        go { s.begin with quote := if s.quote.isNone then some c else none } rest
      else if Number.isSpace c && s.quote.isNone then go { s with isBetween := true } rest
      else if c == '#' && s.isBetween then .ok s.result
      else if c == '\\' && (!isSingle || rest.head?.any fun d => d == '\\' || d == '\'') then
        match rest with
        | [] => .error "invalid backslash at end of string in -S".toList
        | '_' :: rest => if s.quote.isSome then go (s.add [' ']) rest else go { s with isBetween := true } rest
        | 'c' :: _ =>
            if s.quote.isSome then .error "'\\c' must not appear in double-quoted -S string".toList
            else .ok s.result
        | d :: rest =>
            match escape? d with
            | some octet => go (s.add [octet]) rest
            | none => .error ("invalid sequence '\\".toList ++ d :: "' in -S".toList)
      else if c == '$' && !isSingle then
        match bracedName? (c :: rest) with
        | none => .error ("only $\x7bVARNAME\x7d expansion is supported, error at: ".toList ++ c :: rest)
        | some name =>
            let rest := rest.drop (name.length + 2)
            match environment.lookup name with
            | some value => go (s.add value) rest
            | none => go s rest
      else go (s.add [c]) rest

/-- **The arguments in a text.** -/
def split (environment : List (Text × Text)) (t : Text) : Except Text (List Text) :=
  splitFrom environment (t.length + 1) {} t

/-! ## Changes -/

def options : Specification :=
  { name := "env", letters := "iu:0S:C:v", isMixed := false, mistake := 125, closing := "S",
    words := [("block-signal", 'B', .optional), ("chdir", 'C', .one), ("debug", 'v', .none),
      ("default-signal", 'D', .optional), ("ignore-environment", 'i', .none),
      ("ignore-signal", 'I', .optional), ("list-signal-handling", 'L', .none), ("null", '0', .none),
      ("split-string", 'S', .one), ("unset", 'u', .one)] }

def splitLines (t : Text) : List Text → Text
  | [] => "split -S:  ".toList ++ cited t ++ ['\n']
  | first :: rest =>
      "split -S:  ".toList ++ cited t ++ "\n into:    ".toList ++ cited first ++ '\n' ::
        rest.flatMap fun argument => "     &    ".toList ++ cited argument ++ ['\n']

/-- Reads options, and those in texts that are to be split, with so many steps at most. -/
def readAll (environment : List (Text × Text)) :
    Nat → List (Char × Text) → List Text → Job (Except (Bool × Text) Given)
  | 0, before, arguments => return .ok ⟨before, arguments⟩
  | fuel + 1, before, arguments =>
      match readFrom options (arguments.length + 1) arguments with
      | .error mistake => return .error (true, mistake.message)
      | .ok g =>
          let all := before ++ g.options
          match g.value? 'S' with
          | none => return .ok ⟨all, g.operands⟩
          | some t =>
              match split environment t with
              | .error message => return .error (false, message)
              | .ok words => do
                  if all.any fun (c, _) => c == 'v' then Job.write 2 (splitLines t words)
                  readAll environment fuel (all.filter fun (c, _) => c != 'S') (words ++ g.operands)

/-- Puts the assignments at the start of arguments into an environment. Returns the arguments behind
them. -/
def takeAssignments (tell : Text → Job Unit) :
    List (Text × Text) → List Text → Job (List (Text × Text) × List Text)
  | environment, [] => return (environment, [])
  | environment, t :: rest =>
      match Text.splitAtPart? ['='] t with
      | some (name, value) => do
          tell ("setenv:   ".toList ++ t)
          takeAssignments tell (set environment name value) rest
      | none => return (environment, t :: rest)

def startIn (launch : Launch) (tell : Text → Job Unit) (environment : List (Text × Text)) (directory : Option Text)
    (command : List Text) : Job Ending := do
  let seat ← read
  let place : Except (Text × FileError) Location ← match directory with
    | none => pure (.ok seat.directory)
    | some path =>
        tell ("chdir:    ".toList ++ quoted path)
        match ← Job.find path with
        | .ok (location, .directory) => pure (.ok location)
        | .ok _ => pure (.error (path, FileError.notDirectory))
        | .error e => pure (.error (path, e))
  match place with
  | .error (path, e) =>
      complainOf "env" "cannot change directory to " path e
      return .exited 125
  | .ok location =>
      tell ("executing: ".toList ++ command.headD [])
      let numbered := command.mapIdx fun n argument => (n, argument)
      numbered.forM fun (n, argument) =>
        tell ("   arg[".toList ++ shownNat n ++ "]= ".toList ++ cited argument)
      match ← (launch command).run { seat with environment := environment, directory := location } with
      | .ok ending => return ending
      | .error e =>
          let (why, status) := startReason e
          Job.complain ["env".toList, cited (command.headD []), why]
          return .exited status

end Environment

open Environment

def env : Starter := fun launch arguments => do
  let seat ← read
  let asked ← readAll seat.environment 100 [] arguments
  match asked with
  | .error (isMisuse, message) =>
      if isMisuse then return .exited (← misuse options message)
      else
        complain "env" message
        return .exited 125
  | .ok g =>
      if g.has helpMark || g.has versionMark then
        withOptionsAs Ending.exited options arguments fun _ => return .exited 0
      else
        let isLoud := g.has 'v'
        let tell := fun (line : Text) => if isLoud then Job.write 2 (line ++ ['\n']) else pure ()
        let isFresh := g.has 'i' || g.operands.head? = some ['-']
        let operands := if g.operands.head? = some ['-'] then g.operands.tail else g.operands
        let unset := g.values 'u'
        if isFresh then tell "cleaning environ".toList
        match if isFresh then none else unset.find? fun name => name.isEmpty || name.contains '=' with
        | some name =>
            complain "env" ("cannot unset ".toList ++ cited name ++ ": Invalid argument".toList)
            return .exited 125
        | none =>
            if !isFresh then unset.forM fun name => tell ("unset:    ".toList ++ name)
            let start := if isFresh then [] else seat.environment.filter fun (name, _) => !unset.contains name
            let (environment, command) ← takeAssignments tell start operands
            let misused := fun (message : String) => do
              return Ending.exited (← misuse options message.toList)
            if command.isEmpty then
              if g.has 'C' then misused "must specify command with --chdir (-C)"
              else
                let ending := if g.has '0' then '\x00' else '\n'
                Job.put (environment.flatMap fun (name, value) => name ++ '=' :: value ++ [ending])
                return .exited 0
            else if g.has '0' then misused "cannot specify --null (-0) with command"
            else startIn launch tell environment (g.value? 'C') command

def printenvOptions : Specification :=
  { name := "printenv", letters := "0", isMixed := false, mistake := 2, words := [("null", '0', .none)] }

def printenv : Utility := fun _ arguments =>
  withOptions printenvOptions arguments fun g => do
    let environment := (← read).environment
    let put := fun (lines : List Text) =>
      Job.put (lines.flatMap (· ++ [if g.has '0' then '\x00' else '\n']))
    if g.operands.isEmpty then
      put (environment.map fun (name, value) => name ++ '=' :: value)
      return 0
    else
      put (g.operands.filterMap fun name => environment.lookup name)
      return if g.operands.all fun name => (environment.lookup name).isSome then 0 else 1

end SwiftExistential.Utility
