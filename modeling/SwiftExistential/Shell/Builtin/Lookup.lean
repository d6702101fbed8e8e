import SwiftExistential.FileTree.Rights
import SwiftExistential.Shell.Builtin.Basic
import SwiftExistential.Shell.Command
import SwiftExistential.Shell.Condition
import SwiftExistential.Shell.Format

/-!
# Commands that look things up

The commands of the shell that ask or change where it stands, that write, read and compare texts,
and that say what names stand for.

What they look up is the tree, seen from the directory of the shell, and what belongs to the shell:
its variables, aliases and functions. The directory is kept in two forms, as a location and as a
path by which it was entered, since a path through a link is shown as it was entered.
-/

set_option autoImplicit false

/-! ## Commands for the directory and the mask of new files

A directory is entered by its path as it is written, with the parts that go up taken out, or by the
path without links. `CDPATH` names directories in which it is searched. -/

namespace SwiftExistential.Shell.Builtin

/-- A path with its dots taken out, seen from another one. Two separators at the start stay. -/
def logicalPath (base path : Text) : Text :=
  let full := if Path.isAbsolute path then path else base ++ '/' :: path
  let kept := (Text.splitOn '/' full).foldl
    (fun parts part =>
      if part = [] || part = ['.'] then parts
      else if part = ['.', '.'] then parts.dropLast
      else parts ++ [part]) ([] : List Text)
  let start := match full with
    | '/' :: '/' :: rest => if rest.head? = some '/' then ['/'] else ['/', '/']
    | _ => ['/']
  start ++ Text.join ['/'] kept

/-- Enters a directory. Returns whether that was possible. -/
def enter (isPhysical : Bool) (path : Text) : Action Bool := do
  let old ← Action.ask (·.here)
  let logical := logicalPath old path
  let target := if isPhysical then path else logical
  match (← Action.tree).find (Octets.toText target) with
  | .ok (location, .directory) =>
      let new := if isPhysical then Octets.ofText (FileTree.render location) else logical
      let set := fun (name value : Text) => do
        Action.assign name value
        Action.putEntry name { ← Action.entry name with isExported := true }
      set "OLDPWD".toList old
      Action.change fun s => { s with here := new, seat := { s.seat with directory := location } }
      set "PWD".toList new
      return true
  | _ => return false

/-- The directories that a path is searched in, and whether the one that is found is shown. -/
def cdSearch (tree : FileTree) (path : Text) : List Text → Option (Text × Bool)
  | [] => none
  | directory :: rest =>
      let full := if directory.isEmpty then path else directory ++ '/' :: path
      if tree.isDirectory (Octets.toText full) then some (full, !directory.isEmpty)
      else cdSearch tree path rest

/-- Whether a path starts with a dot for the current directory or the one above. -/
def startsWithDots (path : Text) : Bool :=
  let first := path.takeWhile (· != '/')
  first = ['.'] || first = ['.', '.']

def cd : Handler := fun arguments => do
  let (options, rest) ← readOptions "LP" arguments
  let isPhysical := options.getLast?.map Prod.fst == some 'P'
  let (path, isShown) ← match rest.head? with
    | none => pure ((← Action.value? "HOME".toList).getD [], false)
    | some ['-'] => pure ((← Action.value? "OLDPWD".toList).getD [], true)
    | some path => pure (path, false)
  let isSearched := !(Path.isAbsolute path || startsWithDots path)
  let path := if path.isEmpty then ['.'] else path
  let (target, isShown) ←
    if !isSearched then pure (path, isShown)
    else do
      let places := Text.splitOn ':' ((← Action.value? "CDPATH".toList).getD [])
      match cdSearch (← Action.tree) path places with
      | some (full, isElsewhere) => pure (full, isShown || isElsewhere)
      | none => pure (path, isShown)
  if ← enter isPhysical target then
    if isShown then putLines [← Action.ask (·.here)] else return 0
  else Action.fail ["can't cd to ".toList ++ path]

def pwd : Handler := fun arguments => do
  let (options, _) ← readOptions "LP" arguments
  if options.getLast?.map Prod.fst == some 'P' then
    putLines [Octets.ofText (FileTree.render (← Action.ask (·.seat.directory)))]
  else putLines [← Action.ask (·.here)]

/-! ### Masks -/

def umask : Handler := fun arguments => do
  let (options, rest) ← readOptions "S" arguments
  let mask ← Action.ask (·.seat.mask)
  let setMask := fun (new : Nat) => do
    Action.change fun s => { s with seat := { s.seat with mask := new } }
    pure 0
  match rest.head? with
  | none => putLines [if options.isEmpty then Rights.octal 4 mask else Rights.shown mask]
  | some t =>
      if (t.head?.map Char.isDigit).getD false then
        if t.all fun c => Number.isDigit 8 c then setMask (Number.value 8 t % 512)
        else Action.illegalNumber t
      else match Rights.read? t with
        | some steps => setMask (511 - Rights.change steps 0 false (511 - mask) % 512)
        | none => Action.fail ["Illegal mode".toList, t]

end SwiftExistential.Shell.Builtin

/-! ## Commands that write, read and compare texts

The texts are made and compared in modules of their own; here they meet the output, the variables
and the status of the shell. -/

namespace SwiftExistential.Shell.Builtin

def echo : Handler := fun arguments => put (Format.echo arguments)

def complainAll : List Text → Action Unit
  | [] => return
  | message :: rest => do
      Action.complain [message]
      complainAll rest

def printf : Handler := fun arguments => do
  let (_, rest) ← readOptions "" arguments
  match rest with
  | [] => Action.fail ["usage: printf format [arg ...]".toList]
  | format :: rest =>
      let done := Format.printf format rest
      complainAll done.complaints
      match done.mistake with
      | some message =>
          Action.complain [message]
          discard (put done.output)
          return 2
      | none =>
          let status ← put done.output
          return if done.complaints.isEmpty then status else 1

/-- The arguments of a condition. In brackets, the last one closes it. -/
def conditionArguments (name : Text) (arguments : List Text) : Except Condition.Mistake (List Text) :=
  if name = ['['] then
    if arguments.getLast? = some [']'] then .ok arguments.dropLast else .error .missingBracket
  else .ok arguments

def test (name : Text) : Handler := fun arguments => do
  let tree ← Action.tree
  match conditionArguments name arguments >>= Condition.holds tree with
  | .ok true => return 0
  | .ok false => return 1
  | .error mistake => Action.fail mistake.message

/-! ### Reading

A line is read octet by octet, so that what is behind it is left for others. A backslash takes the
next character or the end of the line, unless that is not wanted. -/

/-- A character of a line, and whether a backslash stood before it. -/
abbrev Stroke := Char × Bool

def separates (separators : Text) (s : Stroke) : Bool := !s.2 && separators.contains s.1

def separatesAsBlank (separators : Text) (s : Stroke) : Bool :=
  separates separators s && (s.1 == ' ' || s.1 == '\t' || s.1 == '\n')

/-- The last field of a line: all that is left. One separator at its end does not count if nothing
else separates it. -/
def lastField (separators : Text) (line : List Stroke) : Text :=
  let dropBlanks := fun (l : List Stroke) => (l.reverse.dropWhile (separatesAsBlank separators)).reverse
  let whole := dropBlanks line
  let shorter := match whole.getLast? with
    | some s => if separates separators s then dropBlanks whole.dropLast else whole
    | none => whole
  (if shorter.any (separates separators) then whole else shorter).map Prod.fst

def splitLine (separators : Text) : Nat → List Stroke → List Text
  | 0, _ => []
  | 1, line => [lastField separators (line.dropWhile (separatesAsBlank separators))]
  | n + 2, line =>
      let start := line.dropWhile (separatesAsBlank separators)
      let field := start.takeWhile (!separates separators ·)
      let behind := (start.drop field.length).dropWhile (separatesAsBlank separators)
      let rest := match behind with
        | s :: rest =>
            if separates separators s && !separatesAsBlank separators s then rest else behind
        | [] => []
      field.map Prod.fst :: splitLine separators (n + 1) rest

/-- Reads a line from bytes, with so many steps at most: its characters, whether it has an end, and
where it ends. -/
def readStrokes (isRaw : Bool) (bytes : ByteArray) : Nat → Nat → List Stroke × Bool × Nat
  | 0, i => ([], false, i)
  | fuel + 1, i =>
      match bytes[i]? with
      | none => ([], false, i)
      | some 0x0A => ([], true, i + 1)
      | some 0 => readStrokes isRaw bytes fuel (i + 1)
      | some b =>
          if b == 0x5C && !isRaw then
            match bytes[i + 1]? with
            | none => ([], false, i + 1)
            | some 0x0A => readStrokes isRaw bytes fuel (i + 2)
            | some d =>
                let (others, isEnded, n) := readStrokes isRaw bytes fuel (i + 2)
                ((Octets.ofByte d, true) :: others, isEnded, n)
          else
            let (others, isEnded, n) := readStrokes isRaw bytes fuel (i + 1)
            ((Octets.ofByte b, false) :: others, isEnded, n)

/-- Takes the next line of the input, and says whether it has an end. -/
def takeLine (isRaw : Bool) : Action (List Stroke × Bool) := do
  let s ← get
  match s.shell.seat.channel? 0 with
  | none => return ([], false)
  | some index =>
      match s.machine.remaining index with
      | .error _ => return ([], false)
      | .ok bytes =>
          let (line, isEnded, n) := readStrokes isRaw bytes (bytes.size + 1) 0
          set { s with machine := s.machine.skip index n }
          return (line, isEnded)

/-- Sets variables one after the other. -/
def assignAll : List (Text × Text) → Action Unit
  | [] => return
  | (name, value) :: rest => do
      Action.assign name value
      assignAll rest

def read : Handler := fun arguments => do
  let (options, names) ← readOptions "p:r" arguments
  if names.isEmpty then Action.fail ["arg count".toList]
  else
    let (line, isEnded) ← takeLine (options.any fun (c, _) => c == 'r')
    let separators ← Action.separators
    assignAll (names.zip (splitLine separators names.length line))
    return if isEnded then 0 else 1

end SwiftExistential.Shell.Builtin

/-! ## Commands that say what a name stands for

A name stands for a keyword, an alias, a function, a command of the shell, or a program. Programs
are searched in the directories of `PATH`. -/

namespace SwiftExistential.Shell

/-- What the search for a program finds. -/
inductive Found where
  | program (path : Text)
  /-- There is something, but it cannot run. -/
  | denied
  | missing
deriving DecidableEq, Repr

def searchIn (tree : FileTree) (name : Text) : Bool → List Text → Found
  | isDenied, [] => if isDenied then .denied else .missing
  | isDenied, directory :: rest =>
      let path := if directory.isEmpty then name else directory ++ '/' :: name
      match tree.find (Octets.toText path) with
      | .ok (_, .file _ mode) =>
          if mode &&& 0o111 != 0 then .program path else searchIn tree name true rest
      | .ok _ => searchIn tree name true rest
      | .error _ => searchIn tree name isDenied rest

/-- **Searches a program** in the directories of `PATH`. -/
def searchProgram (name : Text) : Action Found := do
  match ← Action.value? "PATH".toList with
  | none => return .missing
  | some path => return searchIn (← Action.tree) name false (Text.splitOn ':' path)

namespace Builtin

def shownAlias (name value : Text) : Text := name ++ '=' :: Action.shownQuoted value

def sortedAliases (aliases : List (Text × Text)) : List (Text × Text) :=
  aliases.mergeSort fun (a, _) (b, _) => Action.bucket a ≤ Action.bucket b

/-- Defines aliases. Returns those that are to be shown, and whether all were there. -/
def defineAliases : List Text → Action (List Text × Bool)
  | [] => return ([], true)
  | argument :: rest => do
      match Text.splitAtPart? ['='] (argument.drop 1) with
      | some (name, value) =>
          let name := argument.take 1 ++ name
          Action.change fun s =>
            { s with aliases := if s.aliases.any fun (n, _) => n = name
                then s.aliases.map fun (n, v) => (n, if n = name then value else v)
                else s.aliases ++ [(name, value)] }
          defineAliases rest
      | none =>
          match (← Action.ask (·.aliases)).lookup argument with
          | some value =>
              let (shown, areThere) ← defineAliases rest
              return (shownAlias argument value :: shown, areThere)
          | none =>
              discard (Action.write 2 ("alias: ".toList ++ argument ++ " not found\n".toList))
              let (shown, _) ← defineAliases rest
              return (shown, false)

def alias' : Handler := fun arguments => do
  if arguments.isEmpty then
    let aliases ← Action.ask (·.aliases)
    putLines ((sortedAliases aliases).map fun (name, value) => shownAlias name value)
  else
    let (shown, areThere) ← defineAliases arguments
    discard (putLines shown)
    return if areThere then 0 else 1

/-- Takes away aliases. Returns whether all were there. -/
def removeAliases : List Text → Action Bool
  | [] => return true
  | name :: rest => do
      let isThere := ((← Action.ask (·.aliases)).lookup name).isSome
      if isThere then
        Action.change fun s => { s with aliases := s.aliases.filter fun (n, _) => n != name }
      else discard (Action.write 2 ("unalias: ".toList ++ name ++ " not found\n".toList))
      return (← removeAliases rest) && isThere

def unalias : Handler := fun arguments => do
  let (options, names) ← readOptions "a" arguments
  if !options.isEmpty then
    Action.change fun s => { s with aliases := [] }
    return 0
  else return if ← removeAliases names then 0 else 1

/-- Says what a name stands for. With `isShort`, only the name or path is written. -/
def describe (isShort : Bool) (name : Text) : Action Nat := do
  let say := fun (short long : Text) => putLines [if isShort then short else name ++ long]
  if (Keyword.ofText? name).isSome then say name " is a shell keyword".toList
  else match (← Action.ask (·.aliases)).lookup name with
    | some value => say ("alias ".toList ++ shownAlias name value) (" is an alias for ".toList ++ value)
    | none =>
        if name.contains '/' then
          if ((← Action.tree).find (Octets.toText name)).toOption.isSome then
            say name (" is ".toList ++ name)
          else missing
        else if (← Action.ask (·.functions)).contains name then
          say name " is a shell function".toList
        else if isSpecialBuiltin name then say name " is a special shell builtin".toList
        else if isOrdinaryBuiltin name then say name " is a shell builtin".toList
        else match ← searchProgram name with
          | .program path =>
              let isTracked := (← Action.ask (·.tracked)).contains name
              Action.track name
              say path ((if isTracked then " is a tracked alias for " else " is ").toList ++ path)
          | _ => missing
where
  /-- Nothing has that name. -/
  missing : Action Nat := do
    if !isShort then discard (putLines [name ++ ": not found".toList])
    return 127

def describeAll : List Text → Action Nat
  | [] => return 0
  | name :: rest => do
      let status ← describe false name
      return max status (← describeAll rest)

def type : Handler := describeAll

def trackAll : List Text → Action Nat
  | [] => return 0
  | name :: rest => do
      let status ← match ← searchProgram name with
        | .program _ => do
            Action.change fun s => { s with tracked := s.tracked.filter (· != name) ++ [name] }
            pure 0
        | _ =>
            if isSpecialBuiltin name || isOrdinaryBuiltin name ||
                (← Action.ask (·.functions)).contains name then pure 0
            else do
              Action.complain [name, "not found".toList]
              pure 1
      return max status (← trackAll rest)

/-- Shows the programs that were found by a search. -/
def showTracked : List Text → Action Nat
  | [] => return 0
  | name :: rest => do
      if let .program path ← searchProgram name then discard (putLines [path])
      showTracked rest

def hash : Handler := fun arguments => do
  let (options, names) ← readOptions "rv" arguments
  if options.any fun (c, _) => c == 'r' then
    Action.change fun s => { s with tracked := [] }
    return 0
  else if names.isEmpty then
    let tracked ← Action.ask (·.tracked)
    showTracked (tracked.mergeSort fun a b => Action.bucketOf 31 a ≤ Action.bucketOf 31 b)
  else trackAll names

end Builtin

end SwiftExistential.Shell
