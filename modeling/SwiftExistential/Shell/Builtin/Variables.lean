import SwiftExistential.Shell.Builtin.Basic

/-!
# Commands for variables, arguments and options

Commands that mark, show and take away variables, and commands for the arguments and options of the
shell.

Variables are shown in the form of commands that would set them again, so their values are quoted. A
mark can be set on a variable before it has a value. What a function makes local is remembered
first, and is put back when the function ends.
-/

set_option autoImplicit false

namespace SwiftExistential.Shell.Builtin

def shownVariable (start : Text) (name : Text) (entry : Variable) : Text :=
  start ++ name ++ match entry.value with
    | some value => '=' :: Action.shownQuoted value
    | none => []

def showVariables (start : Text) (holds : Variable → Bool) : Action Nat := do
  let shown := (← Action.ask (·.values)).toList.filter fun (_, entry) => holds entry
  putLines (shown.map fun (name, entry) => shownVariable start name entry)

/-- The name and the value of an argument of the form of an assignment. -/
def splitAssignment (argument : Text) : Text × Option Text :=
  match Text.splitAtPart? ['='] argument with
  | some (name, value) => (name, some value)
  | none => (argument, none)

/-- Marks variables, and sets those that have a value. -/
def markAll (mark : Variable → Variable) : List Text → Action Unit
  | [] => return
  | argument :: rest => do
      let (name, value) := splitAssignment argument
      Action.checkName name
      if let some value := value then Action.assign name value
      Action.putEntry name (mark (← Action.entry name))
      markAll mark rest

def markOrShow (command : String) (mark : Variable → Variable) (isMarked : Variable → Bool) :
    Handler := fun arguments => do
  let (options, names) ← readOptions "p" arguments
  if options.isEmpty && !names.isEmpty then
    markAll mark names
    return 0
  else showVariables (command.toList ++ [' ']) isMarked

def export' : Handler :=
  markOrShow "export" (fun entry => { entry with isExported := true }) Variable.isExported

def readonly : Handler :=
  markOrShow "readonly" (fun entry => { entry with isReadOnly := true }) Variable.isReadOnly

/-- Gives variables a value inside of a function only. -/
def localise : List Text → Action Unit
  | [] => return
  | argument :: rest => do
      let (name, value) := splitAssignment argument
      if name != ['-'] then
        Action.checkName name
        Action.remember name
        match value with
        | some value => Action.assign name value
        | none => Action.putEntry name (← Action.entry name)
      localise rest

def local' : Handler := fun arguments => do
  if (← Action.ask (·.frames)).isEmpty then Action.fail ["not in a function".toList]
  else
    localise arguments
    return 0

/-- Takes away variables or functions. -/
def unsetAll (isFunction : Bool) : List Text → Action Unit
  | [] => return
  | name :: rest => do
      if isFunction then Action.change fun s => { s with functions := s.functions.erase name }
      else
        Action.checkName name
        Action.unset name
      unsetAll isFunction rest

def unset : Handler := fun arguments => do
  let (options, names) ← readOptions "vf" arguments
  unsetAll (options.getLast?.map Prod.fst == some 'f') names
  return 0

def shift : Handler := fun arguments => do
  let n ← match arguments.head? with
    | some t => number t
    | none => pure 1
  if n ≤ (← Action.ask (·.arguments)).length then
    Action.change fun s => { s with arguments := s.arguments.drop n }
    return 0
  else Action.fail ["can't shift that many".toList]

/-! ## Options

An option has a letter, and most have a name too. They are turned on behind a dash and off behind a
plus. -/

def optionNames : List (String × Char) :=
  [("errexit", 'e'), ("noglob", 'f'), ("ignoreeof", 'I'), ("interactive", 'i'), ("monitor", 'm'),
    ("noexec", 'n'), ("stdin", 's'), ("xtrace", 'x'), ("verbose", 'v'), ("vi", 'V'), ("emacs", 'E'),
    ("noclobber", 'C'), ("allexport", 'a'), ("notify", 'b'), ("nounset", 'u'), ("privileged", 'p'),
    ("nolog", '\x01'), ("debug", '\x02')]

def turnOption (isOn : Bool) (letter : Char) : Action Unit := do
  if (optionNames.any fun (_, l) => l == letter) then
    Action.change fun s =>
      let others := s.options.filter (· != letter)
      { s with options := if isOn then letter :: others else others }
  else Action.fail ["Illegal option -".toList ++ [letter]]

def showOptions (asCommands : Bool) : Action Nat := do
  let options ← Action.ask (·.options)
  let shown := optionNames.map fun (name, letter) =>
    let isOn := options.contains letter
    if asCommands then (if isOn then "set -o " else "set +o ").toList ++ name.toList
    else name.toList ++ List.replicate (16 - name.length) ' ' ++ (if isOn then "on" else "off").toList
  putLines (if asCommands then shown else "Current option settings".toList :: shown)

/-- Turns the options of an argument on or off. Returns the arguments behind it. -/
def turnLetters (isOn : Bool) : Text → List Text → Action (List Text)
  | [], rest => return rest
  | 'o' :: letters, rest => do
      match rest with
      | [] =>
          discard (showOptions !isOn)
          turnLetters isOn letters []
      | name :: rest =>
          match optionNames.lookup (String.ofList name) with
          | some letter =>
              turnOption isOn letter
              turnLetters isOn letters rest
          | none => Action.fail ["Illegal option -o ".toList ++ name]
  | letter :: letters, rest => do
      turnOption isOn letter
      turnLetters isOn letters rest

/-- Sets options, with so many steps at most. Returns the new arguments, if there are some. -/
def setOptions : Nat → List Text → Action (Option (List Text))
  | 0, _ => return none
  | fuel + 1, arguments => do
      match arguments with
      | [] => return none
      | ['-'] :: rest =>
          Action.change fun s => { s with options := s.options.filter fun c => c != 'x' && c != 'v' }
          return if rest.isEmpty then none else some rest
      | ['-', '-'] :: rest => return some rest
      | ('-' :: letters) :: rest => do setOptions fuel (← turnLetters true letters rest)
      | ('+' :: letters) :: rest => do setOptions fuel (← turnLetters false letters rest)
      | arguments => return some arguments

def set' : Handler := fun arguments => do
  if arguments.isEmpty then showVariables [] fun entry => entry.value.isSome
  else
    if let some new ← setOptions (arguments.length + 1) arguments then
      Action.change fun s => { s with arguments := new, cursor := ⟨1, 0⟩ }
    return 0

/-! ## Options of scripts

`getopts` reads one option at a time. Where it goes on is kept between its calls, and follows the
variable for it when a script sets that. -/

/-- The letter of an option, with the value that it takes, in the arguments of a script. -/
structure OptionStep where
  letter : Char
  value : Option Text
  message : Option Text
  cursor : OptionCursor
  isDone : Bool

def nextOption (specification : Text) (arguments : List Text) (cursor : OptionCursor) : OptionStep :=
  let isSilent := specification.head? == some ':'
  let current := (arguments[cursor.index - 2]?).getD []
  let isInside := 0 < cursor.letters && 1 < cursor.index && cursor.letters < current.length
  let next := (arguments[cursor.index - 1]?).getD []
  let done := fun (index : Nat) => (⟨'?', none, none, ⟨index, 0⟩, true⟩ : OptionStep)
  if !isInside && (next.head? != some '-' || next.length < 2) then done cursor.index
  else if !isInside && next = ['-', '-'] then done (cursor.index + 1)
  else
    let (word, index, place) := if isInside then (current, cursor.index, cursor.letters)
      else (next, cursor.index + 1, 1)
    let letter := (word[place]?).getD '?'
    let rest := word.drop (place + 1)
    let after : OptionCursor := ⟨index, if rest.isEmpty then 0 else place + 1⟩
    let known := if letter == ':' then [] else specification.dropWhile (· != letter)
    if known.isEmpty then
      if isSilent then ⟨'?', some [letter], none, after, false⟩
      else ⟨'?', none, some ("Illegal option -".toList ++ [letter]), after, false⟩
    else if (known.drop 1).head? != some ':' then ⟨letter, some [], none, after, false⟩
    else if !rest.isEmpty then ⟨letter, some rest, none, ⟨index, 0⟩, false⟩
    else match arguments[index - 1]? with
      | some value => ⟨letter, some value, none, ⟨index + 1, 0⟩, false⟩
      | none =>
          if isSilent then ⟨':', some [letter], none, ⟨index, 0⟩, false⟩
          else ⟨'?', none, some ("No arg for -".toList ++ [letter] ++ " option".toList), ⟨index, 0⟩,
            false⟩

def getopts : Handler := fun arguments => do
  match arguments with
  | specification :: name :: rest =>
      let given ← if rest.isEmpty then Action.ask (·.arguments) else pure rest
      let step := nextOption specification given (← Action.ask (·.cursor))
      if let some message := step.message then discard (Action.write 2 (message ++ ['\n']))
      if !step.isDone then
        match step.value with
        | some value => Action.assign "OPTARG".toList value
        | none => Action.unset "OPTARG".toList
      Action.assign "OPTIND".toList (toString step.cursor.index).toList
      Action.change fun s => { s with cursor := step.cursor }
      Action.assign name [step.letter]
      return if step.isDone then 1 else 0
  | _ => Action.fail ["Usage: getopts optstring var [arg]".toList]

end SwiftExistential.Shell.Builtin
