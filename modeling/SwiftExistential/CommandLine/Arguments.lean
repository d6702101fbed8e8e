import SwiftExistential.Text.Basic

/-!
# Arguments

What the command line asks for. A project comes first and may be followed by a toolchain; options
may stand anywhere before a double dash. Short options may be written together, and a value may
stand in the same argument as its option.

Arguments are read from left to right, and the first mistake ends the reading; so does a question
for help or for the version, whatever stands behind it. No option may stand twice, a value is not
empty, and a value in an argument of its own does not look like an option.
-/

set_option autoImplicit false

namespace SwiftExistential.CommandLine

/-- What a migration is started with. -/
structure Arguments where
  project : Text
  toolchain : Option Text
  config : Option Text
  sites : Option Text
  showDiff : Bool
  skipBuild : Bool
deriving DecidableEq, Repr

/-- What the command line asks for. -/
inductive Request where
  | migrate (arguments : Arguments)
  | version
  | help
deriving DecidableEq, Repr

/-- Why arguments are refused. -/
inductive ArgumentError where
  | unexpected (argument : Text)
  | missingValue (option : Text)
  | emptyValue (option : Text)
  | unneededValue (option : Text)
  | repeated (option : Text)
  | missingProject
deriving DecidableEq, Repr

def ArgumentError.message : ArgumentError → String
  | unexpected argument => "unexpected argument '" ++ String.ofList argument ++ "' found"
  | missingValue option =>
      "a value is required for '" ++ String.ofList option ++ "' but none was supplied"
  | emptyValue option =>
      "a value is required for '" ++ String.ofList option ++ "' but none was supplied"
  | unneededValue option =>
      "unexpected value for '" ++ String.ofList option ++ "' found; no more were expected"
  | repeated option =>
      "the argument '" ++ String.ofList option ++ "' cannot be used multiple times"
  | missingProject => "the following required arguments were not provided:\n  <PROJECT>"

/-- An option. -/
inductive Flag where
  | config
  | sites
  | diff
  | skipBuild
  | version
  | help
deriving DecidableEq, Repr

namespace Flag

def ofName? (name : Text) : Option Flag :=
  match String.ofList name with
  | "config" => some config
  | "sites" => some sites
  | "diff" => some diff
  | "skip-build" => some skipBuild
  | "version" => some version
  | "help" => some help
  | _ => none

def ofLetter? : Char → Option Flag
  | 'c' => some config
  | 's' => some sites
  | 'd' => some diff
  | 'V' => some version
  | 'h' => some help
  | _ => none

def takesValue : Flag → Bool
  | config | sites => true
  | _ => false

def label : Flag → Text
  | config => "--config <CONFIG>".toList
  | sites => "--sites <SITES>".toList
  | diff => "--diff".toList
  | skipBuild => "--skip-build".toList
  | version => "--version".toList
  | help => "--help".toList

end Flag

/-- The arguments that were read so far. -/
structure Given where
  positional : List Text
  flags : List (Flag × Text)

def Given.value? (given : Given) (flag : Flag) : Option Text := given.flags.lookup flag

def Given.addFlag (given : Given) (flag : Flag) (value : Text) : Except ArgumentError Given :=
  if flag.takesValue && value.isEmpty then .error (.emptyValue flag.label)
  else if (given.value? flag).isSome then .error (.repeated flag.label)
  else .ok { given with flags := given.flags ++ [(flag, value)] }

def Given.addPositional (given : Given) (argument : Text) : Except ArgumentError Given :=
  if given.positional.length < 2 then
    if argument.isEmpty then
      .error (.emptyValue (if given.positional.isEmpty then "<PROJECT>" else "[TOOLCHAIN]").toList)
    else .ok { given with positional := given.positional ++ [argument] }
  else .error (.unexpected argument)

/-- What reading one argument comes to. -/
inductive Step where
  | finished (request : Request)
  /-- Reading goes on; the next argument may have been taken as a value. -/
  | continued (given : Given) (tookNext : Bool)

def looksLikeOption : Text → Bool
  | '-' :: _ :: _ => true
  | _ => false

/-- Takes an option whose value may be attached to it or be the next argument. -/
def readFlag (given : Given) (flag : Flag) (attached next : Option Text) :
    Except ArgumentError Step :=
  if flag.takesValue then
    match attached, next with
    | some value, _ => (given.addFlag flag value).map (.continued · false)
    | none, some value =>
        if looksLikeOption value then .error (.missingValue flag.label)
        else (given.addFlag flag value).map (.continued · true)
    | none, none => .error (.missingValue flag.label)
  else
    match flag, attached with
    | _, some _ => .error (.unneededValue flag.label)
    | .version, none => .ok (.finished .version)
    | .help, none => .ok (.finished .help)
    | _, none => (given.addFlag flag []).map (.continued · false)

/-- Takes a long option without its dashes. -/
def readLong (given : Given) (body : Text) (next : Option Text) : Except ArgumentError Step :=
  let name := body.takeWhile (· != '=')
  let attached := if name.length < body.length then some (body.drop (name.length + 1)) else none
  match Flag.ofName? name with
  | some flag => readFlag given flag attached next
  | none => .error (.unexpected ("--".toList ++ body))

/-- Takes options that are written together. What follows the letter of an option with a value is
the value, perhaps behind an equals sign. -/
def readLetters (next : Option Text) : Given → Text → Except ArgumentError Step
  | given, [] => .ok (.continued given false)
  | given, letter :: rest =>
      match Flag.ofLetter? letter with
      | none => .error (.unexpected ['-', letter])
      | some flag =>
          if flag.takesValue then
            let attached := match rest with
              | [] => none
              | '=' :: value => some value
              | value => some value
            readFlag given flag attached next
          else
            match readFlag given flag none none with
            | .ok (.continued given' _) => readLetters next given' rest
            | other => other

def Given.request (given : Given) : Except ArgumentError Request :=
  match given.positional with
  | [] => .error .missingProject
  | project :: rest =>
      .ok (.migrate ⟨project, rest.head?, given.value? .config, given.value? .sites,
        (given.value? .diff).isSome, (given.value? .skipBuild).isSome⟩)

/-- Reads the arguments behind a double dash. -/
def readPositional (given : Given) : List Text → Except ArgumentError Request
  | [] => given.request
  | argument :: rest =>
      match given.addPositional argument with
      | .error e => .error e
      | .ok given' => readPositional given' rest

/-- Reads arguments from left to right. The first that decides, decides. -/
def readArguments (given : Given) : List Text → Except ArgumentError Request
  | [] => given.request
  | argument :: rest =>
      let step := match argument with
        | '-' :: '-' :: body => readLong given body rest.head?
        | '-' :: letter :: letters => readLetters rest.head? given (letter :: letters)
        | _ => (given.addPositional argument).map (.continued · false)
      if argument = "--".toList then readPositional given rest
      else
        match step with
        | .error e => .error e
        | .ok (.finished request) => .ok request
        | .ok (.continued given' tookNext) =>
            readArguments given' (rest.drop (if tookNext then 1 else 0))
termination_by arguments => arguments.length
decreasing_by simp only [List.length_drop, List.length_cons]; omega

/-- **What the arguments of the command line ask for.** -/
def parse (arguments : List Text) : Except ArgumentError Request := readArguments ⟨[], []⟩ arguments

end SwiftExistential.CommandLine
