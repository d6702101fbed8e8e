import SwiftExistential.Expression.Reader
import SwiftExistential.Utility.Find.Test
import SwiftExistential.Utility.Times

/-!
# Reading tests

The arguments of `find` are read one after the other into tokens; here a value that is wrong is
noticed. The tokens are then put together: a test that is turned around binds most, then tests that
all have to hold, then alternatives, then tests of which the last one counts.

Some words are no tests but say something about the walk, wherever they stand. They always hold.
-/

set_option autoImplicit false

namespace SwiftExistential.Utility.Find

open Process

/-- An operator between two tests. -/
inductive Joint where
  | and
  | or
  | both
deriving DecidableEq, Repr

def Joint.strength : Joint → Nat
  | both => 1
  | or => 2
  | and => 3

/-- The test that an operator makes of two. -/
def Joint.join : Joint → Test → Test → Test
  | both => .both
  | or => .or
  | and => .and

/-- A part of an expression of tests, with the name as it was given. -/
inductive Token where
  | test (t : Test)
  | not (name : Text)
  | joint (j : Joint) (name : Text)
  | opens
  | closes

/-- What is left of the arguments, and what they have asked for. -/
structure Source where
  rest : List Text
  /-- The tokens so far, the last one first. -/
  tokens : List Token
  style : FindStyle
  dialect : Expression.Dialect
  countsFromMidnight : Bool
  warns : Bool
  /-- The name of the last test that is no option. -/
  lastTest : Option Text
  /-- The name that was read last. -/
  lastName : Option Text
  /-- Whether directories come last because somebody asked for it. -/
  isDepthAsked : Bool

/-- A reader of tests. It can say no in words. -/
abbrev Reader := StateT Source (ExceptT Text Job)

/-- The mark for the path of a file in a command. -/
def hole : Text := "\x7b\x7d".toList

/-- A name between the quotes of old messages. -/
def oldQuoted (t : Text) : Text := '\x60' :: t ++ ['\'']

/-- Does something that cannot fail. -/
def perform {α : Type} (job : Job α) : Reader α := StateT.lift (ExceptT.lift job)

def warn (message : Text) : Reader Unit := perform (complain "find" message)

/-! ## Values

Numbers may be bounds, with a sign before them. Sizes and times have units, and a time is counted
back from the present. -/

def takeValue (name : Text) : Reader Text := do
  match (← get).rest with
  | [] => throw ("missing argument to ".toList ++ oldQuoted name)
  | t :: rest =>
      modify fun s => { s with rest := rest }
      return t

def wrongValue {α : Type} (name value : Text) : Reader α :=
  throw ("invalid argument ".toList ++ oldQuoted value ++ " to ".toList ++ oldQuoted name)

/-- Splits off the sign of a bound. -/
def splitSense (t : Text) : Ordering × Text :=
  match t with
  | '+' :: rest => (.gt, rest)
  | '-' :: rest => (.lt, rest)
  | t => (.eq, t)

/-- The bound that a sign and a number make. -/
def boundOf (sense : Ordering) (n : Nat) : Bound :=
  match sense with
  | .gt => .more n
  | .lt => .fewer n
  | .eq => .exactly n

def bound? (t : Text) : Option Bound :=
  let (sense, digits) := splitSense t
  if !digits.isEmpty && digits.all Char.isDigit then some (boundOf sense (Number.value 10 digits)) else none

def takeBound (name : Text) : Reader Bound := do
  let value ← takeValue name
  match bound? value with
  | some bound => return bound
  | none => wrongValue name value

def takeAge (name : Text) : Reader AgeBound := do
  let value ← takeValue name
  let (sense, number) := splitSense value
  let whole := number.takeWhile Char.isDigit
  let fraction := match number.drop whole.length with
    | '.' :: digits => if digits.all Char.isDigit then some digits else none
    | [] => some []
    | _ => none
  match fraction with
  | some digits =>
      if whole.isEmpty && digits.isEmpty then wrongValue name value
      else return ⟨sense, Number.value 10 (whole ++ (digits ++ ['0', '0']).take 2)⟩
  | none => wrongValue name value

def takeDepth (name : Text) : Reader Nat := do
  let t ← takeValue name
  if t.isEmpty || !t.all Char.isDigit then
    throw ("Expected a positive decimal integer argument to ".toList ++ name ++ ", but got ".toList ++ cited t)
  else if Number.value 10 t > 2147483647 then throw (t ++ ": Numerical result out of range".toList)
  else return Number.value 10 t

/-- The letters of kinds, with commas between them. -/
def readKinds (name : Text) : Nat → Text → Text → Reader Text
  | 0, _, _ => return []
  | _, _, [] => throw ("Arguments to ".toList ++ name ++ " should contain at least one letter".toList)
  | fuel + 1, seen, c :: rest => do
      if c == 'D' then
        throw (name ++ (" D is not supported because Solaris doors are not supported on the platform " ++
          "find was compiled on.").toList)
      if !"bcdpfls".toList.contains c then throw ("Unknown argument to ".toList ++ name ++ ": ".toList ++ [c])
      if seen.contains c then
        throw ("Duplicate file type ".toList ++ cited [c] ++ " in the argument list to ".toList ++ name ++ ['.'])
      match rest with
      | [] => return [c]
      | [','] =>
          throw ("Last file type in list argument to ".toList ++ name ++
            " is missing, i.e., list is ending on: ','".toList)
      | ',' :: more => return c :: (← readKinds name fuel (c :: seen) more)
      | _ => throw ("Must separate multiple arguments to ".toList ++ name ++ " using: ','".toList)

def takeSize (name : Text) : Reader Test := do
  let value ← takeValue name
  match value.getLast? with
  | none => throw ("invalid null argument to ".toList ++ name)
  | some last =>
      let unit? := match last with
        | 'b' => some 512
        | 'c' => some 1
        | 'w' => some 2
        | 'k' => some 1024
        | 'M' => some 1048576
        | 'G' => some 1073741824
        | _ => none
      if unit?.isNone && !last.isDigit then
        throw ("invalid ".toList ++ name ++ " type ".toList ++ oldQuoted [last])
      else match bound? (if unit?.isSome then value.dropLast else value) with
        | some bound => return .size (unit?.getD 512) bound
        | none => throw ("Invalid argument ".toList ++ oldQuoted value ++ " to ".toList ++ name)

def takeMode (name : Text) : Reader Test := do
  let value ← takeValue name
  let (way, text) := match value with
    | '-' :: rest => (ModeWay.all, rest)
    | '/' :: rest => (.any, rest)
    | t => (.exactly, t)
  let isOctal := !text.isEmpty && text.all (Number.isDigit 8)
  let wrong := throw ("invalid mode ".toList ++ cited value)
  if isOctal then
    let bits := Number.value 8 text
    if bits > Rights.all then wrong
    else
      if way = .any && bits = 0 then
        warn (("warning: you have specified a mode pattern " ++ String.ofList value ++
          " (which is equivalent to /000). The meaning of -perm /000 has now been changed to be consistent " ++
          "with -perm -000; that is, while it used to match no files, it now matches all files.").toList)
      return .mode way bits bits
  else match text.head?, Rights.read? text with
    | some c, some steps =>
        if c.isDigit || (c == '+' && (text.drop 1).any Char.isDigit) then wrong
        else return .mode way (Rights.change steps 0 false 0) (Rights.change steps 0 true 0)
    | _, _ => wrong

/-- Takes the name or the number of a user or a group. -/
def takeOwner (name : Text) (known : List (String × Nat)) (empty unknown : String) : Reader Bound := do
  let value ← takeValue name
  if value.isEmpty then throw empty.toList
  match numberIn? known value with
  | some n => return .exactly n
  | none => throw (cited value ++ unknown.toList)

/-- The ways to write expressions, by their names. -/
def dialects : List (String × Expression.Dialect) :=
  let lenient := Expression.Dialect.lenient
  let strict := Expression.Dialect.strictBasic
  [("findutils-default", .editor), ("ed", strict), ("emacs", .editor),
    ("gnu-awk", { lenient with hidesInBrackets := true, knowsLetters := false }),
    ("grep", { strict with refusesDoubled := false }),
    ("posix-awk", { Expression.Dialect.extended with
      toleratesClosing := true, hidesInBrackets := true, knowsLetters := false }),
    ("awk", .uncounted), ("posix-basic", strict), ("posix-egrep", lenient), ("egrep", lenient),
    ("posix-extended", { Expression.Dialect.extended with toleratesClosing := true }),
    ("posix-minimal-basic", .minimal), ("sed", strict)]

def takeExpression (name : Text) (ignoresCase : Bool) : Reader Test := do
  let value ← takeValue name
  match Expression.read (← get).dialect value with
  | .ok e => return .fits ignoresCase e
  | .error mistake =>
      throw ("failed to compile regular expression ".toList ++ cited value ++ ": ".toList ++
        mistake.message.toList)

/-- What a path leads to, for tests that compare with it. -/
def takeEntry (name : Text) : Reader Entry := do
  let path ← takeValue name
  match Entry.find (← perform Job.tree) ((← get).style.links != .none) path with
  | .ok e => return e
  | .error e => throw (cited path ++ ": ".toList ++ reason e)

/-- Makes the file that a test writes to. -/
def takeFile (name : Text) : Reader (Option Text) := do
  let path ← takeValue name
  match ← perform (Job.writeFile path false []) with
  | .ok _ => return some path
  | .error e => throw (cited path ++ ": ".toList ++ reason e)

/-- Reads a format and warns of what is odd in it. -/
def formatOf (t : Text) : Reader (List FactPiece) := do
  match readFormat (t.length + 1) t with
  | .error message => throw message
  | .ok (pieces, warnings) =>
      warnings.forM warn
      return pieces

def takeCommand (name : Text) (isInside asks : Bool) : Reader Test := do
  let missing := fun (_ : Unit) => throw ("missing argument to ".toList ++ oldQuoted name)
  let all := (← get).rest
  let single := all.takeWhile (· != [';'])
  let isEnd := fun ((a, b) : Text × Text) => Text.hasPart hole a && b = ['+']
  let together := (all.zip (all.drop 1)).findIdx? isEnd
  match together with
  | some i =>
      if !asks && i + 1 < single.length then
        let arguments := all.take (i + 1)
        let last := arguments.getLast?.getD []
        let holes := (arguments.filter (Text.hasPart hole)).length
        if holes > 1 then
          throw ("Only one instance of ".toList ++ hole ++ " is supported with ".toList ++ name ++ " ... +".toList)
        if last != hole then
          throw ("In '".toList ++ name ++ " ... ".toList ++ hole ++ " +' the '".toList ++ hole ++
            "' must appear by itself, but you specified ".toList ++ cited last)
        modify fun s => { s with rest := all.drop (i + 2) }
        return .run ⟨true, isInside, asks⟩ arguments.dropLast
      else untilMark all single missing
  | none => untilMark all single missing
where
  /-- The command up to the mark that stands alone. -/
  untilMark (all single : List Text) (missing : Unit → Reader Test) : Reader Test := do
    if single.length = all.length then missing ()
    else if single.isEmpty then wrongValue name [';']
    else
      modify fun s => { s with rest := all.drop (single.length + 1) }
      return .run ⟨false, isInside, asks⟩ single

/-! ## Tests -/

/-- Adds a token, and the operator that is left out before it. -/
def push (token : Token) : Reader Unit := do
  let needsJoint := match token with
    | .test _ | .not _ | .opens => true
    | _ => false
  let follows := match (← get).tokens.head? with
    | some (.test _) | some .closes => true
    | _ => false
  modify fun s => { s with
    tokens := token :: if needsJoint && follows then .joint .and "-a".toList :: s.tokens else s.tokens }

def pushTest (name : Text) (t : Test) : Reader Unit := do
  push (.test t)
  modify fun s => { s with lastTest := some name }

/-- The present, and what counts as the present for ages in days. -/
def presents : Reader (Int × Int) := do
  let now ← perform present
  let day := 86400 * Moment.perSecond
  return (now, if (← get).countsFromMidnight then now.fdiv day * day + day else now)

def stampOf (letter : Char) : Stamp := if letter == 'a' then .accessed else .modified

/-- Reads a test that compares one time with another. -/
def readNewer (name : Text) (which other : Char) : Reader Unit := do
  if !"acmB".toList.contains which || !"acmBt".toList.contains other then
    throw ("invalid predicate ".toList ++ oldQuoted name)
  if which == 'B' || other == 'B' then
    warn "This system does not provide a way to find the birth time of a file.".toList
    throw ("invalid predicate ".toList ++ oldQuoted name)
  if (← get).rest.isEmpty then throw ("The ".toList ++ cited name ++ " test needs an argument".toList)
  if other == 't' then
    let value ← takeValue name
    match Moment.ofText? (← perform present) value with
    | some moment => pushTest name (.newerThan (stampOf which) moment)
    | none => throw ("I cannot figure out how to interpret ".toList ++ cited value ++ " as a date or time".toList)
  else
    let e ← takeEntry name
    pushTest name (.newerThan (stampOf which) ((stampOf other).of e))

/-- Changes the style. An option that stands behind tests is warned of if somebody wants that. -/
def setStyle (name : Text) (change : FindStyle → FindStyle) : Reader Unit := do
  match (← get).warns, (← get).lastTest with
  | true, some other =>
      warn ("warning: you have specified the global option ".toList ++ name ++ " after the argument ".toList ++
        other ++ ", but global options are not positional, i.e., ".toList ++ name ++
        " affects tests specified before it as well as those specified after it.  ".toList ++
        "Please specify global options before other arguments.".toList)
  | _, _ => pure ()
  modify fun s => { s with style := change s.style }
  push (.test .always)

/-- Reads one argument, which is the name of a test, with its values. -/
def readOne (name : Text) : Reader Unit := do
  let test := pushTest name
  let always := push (.test .always)
  let asDepth := fun (s : FindStyle) => { s with isDepthFirst := true }
  match String.ofList name with
  | "(" => push .opens
  | ")" => push .closes
  | "!" | "-not" => push (.not name)
  | "-a" | "-and" => push (.joint .and name)
  | "-o" | "-or" => push (.joint .or name)
  | "," => push (.joint .both name)
  | "-name" => test (.named false (← takeValue name))
  | "-iname" => test (.named true (← takeValue name))
  | "-path" | "-wholename" => test (.path false (← takeValue name))
  | "-ipath" | "-iwholename" => test (.path true (← takeValue name))
  | "-lname" => test (.target false (← takeValue name))
  | "-ilname" => test (.target true (← takeValue name))
  | "-regex" => test (← takeExpression name false)
  | "-iregex" => test (← takeExpression name true)
  | "-type" | "-xtype" => do
      let value ← takeValue name
      test (.kind (name = "-xtype".toList) (← readKinds name (value.length + 1) [] value))
  | "-empty" => test .empty
  | "-executable" => test .executable
  | "-readable" | "-writable" | "-true" => test .always
  | "-false" | "-nouser" | "-nogroup" => test .never
  | "-size" => test (← takeSize name)
  | "-links" => test (.links (← takeBound name))
  | "-inum" => test (.serial (← takeBound name))
  | "-uid" => test (.owner (← takeBound name))
  | "-gid" => test (.group (← takeBound name))
  | "-user" =>
      test (.owner (← takeOwner name knownUsers "The argument to -user should not be empty"
        " is not the name of a known user"))
  | "-group" =>
      test (.group (← takeOwner name knownGroups "argument to -group is empty, but should be a group name"
        " is not the name of an existing group"))
  | "-perm" => test (← takeMode name)
  | "-mmin" | "-amin" | "-cmin" => test (.ageInMinutes (stampOf ((name.drop 1).headD 'm')) (← takeAge name))
  | "-mtime" | "-atime" | "-ctime" => do
      let bound ← takeAge name
      test (.ageInDays (stampOf ((name.drop 1).headD 'm')) (← presents).2 bound)
  | "-used" => do
      discard (takeBound name)
      test .never
  | "-newer" => do test (.newerThan .modified (Stamp.of .modified (← takeEntry name)))
  | "-anewer" => do test (.newerThan .accessed (Stamp.of .modified (← takeEntry name)))
  | "-cnewer" => do test (.newerThan .modified (Stamp.of .modified (← takeEntry name)))
  | "-samefile" => do
      let e ← takeEntry name
      test (.sameAs ((← perform Job.tree).namesOf e.location))
  | "-fstype" => do
      let value ← takeValue name
      test (if value = "ext4".toList then .always else .never)
  | "-context" => throw "invalid predicate -context: SELinux is not enabled.".toList
  | "-print" => test (.print none '\n')
  | "-print0" => test (.print none '\x00')
  | "-fprint" => do test (.print (← takeFile name) '\n')
  | "-fprint0" => do test (.print (← takeFile name) '\x00')
  | "-printf" => do test (.format none (← formatOf (← takeValue name)))
  | "-fprintf" => do
      let path ← takeValue name
      match (← get).rest with
      | [] => wrongValue name path
      | format :: rest =>
          modify fun s => { s with rest := path :: rest }
          let file ← takeFile name
          test (.format file (← formatOf format))
  | "-ls" => test (.list none)
  | "-fls" => do test (.list (← takeFile name))
  | "-prune" => test .prune
  | "-quit" => test .quit
  | "-delete" => do
      modify fun s => { s with style := asDepth s.style }
      test .delete
  | "-exec" => do test (← takeCommand name false false)
  | "-execdir" => do test (← takeCommand name true false)
  | "-ok" => do test (← takeCommand name false true)
  | "-okdir" => do test (← takeCommand name true true)
  | "-depth" | "-d" => do
      modify fun s => { s with isDepthAsked := true }
      setStyle name asDepth
  | "-mindepth" => do
      let n ← takeDepth name
      setStyle name fun s => { s with least := n }
  | "-maxdepth" => do
      let n ← takeDepth name
      setStyle name fun s => { s with most := some n }
  | "-mount" | "-xdev" | "-ignore_readdir_race" | "-noignore_readdir_race" | "-noleaf" => setStyle name id
  | "-follow" => do
      modify fun s => { s with style := { s.style with links := .all } }
      always
  | "-daystart" => do
      modify fun s => { s with countsFromMidnight := true }
      always
  | "-warn" => do
      modify fun s => { s with warns := true }
      always
  | "-nowarn" => do
      modify fun s => { s with warns := false }
      always
  | "-regextype" => do
      let value ← takeValue name
      match dialects.lookup (String.ofList value) with
      | some d =>
          modify fun s => { s with dialect := d }
          always
      | none =>
          let names := dialects.map fun (n, _) => cited n.toList
          throw ("Unknown regular expression type ".toList ++ cited value ++ "; valid types are ".toList ++
            Text.join ", ".toList names ++ ['.'])
  | _ =>
      match Text.dropPart? "-newer".toList name with
      | some [x, y] => readNewer name x y
      | _ =>
          if name.head? = some '-' && name.length > 1 then throw ("unknown predicate ".toList ++ oldQuoted name)
          else
            if let some other := (← get).lastName then
              if ((← perform Job.tree).find (Octets.toText name)).toOption.isSome then
                warn ("paths must precede expression: ".toList ++ oldQuoted name)
                throw ("possible unquoted pattern after predicate ".toList ++ oldQuoted other ++ ['?'])
            throw ("paths must precede expression: ".toList ++ oldQuoted name)

/-- Reads all arguments, with so many steps at most. -/
def readTokens : Nat → Reader Unit
  | 0 => return ()
  | fuel + 1 => do
      match (← get).rest with
      | [] => return ()
      | name :: rest =>
          modify fun s => { s with rest := rest }
          readOne name
          modify fun s => { s with lastName := some name }
          readTokens fuel

/-! ## Putting tests together -/

/-- What stands before the place where a test is expected. -/
inductive Before where
  /-- Nothing, or a parenthesis. -/
  | opening (isGiven : Bool)
  | operator (name : Text)

/-- Puts together what binds more than some strength, with so many steps at most. -/
def combine : Nat → Nat → Before → List Token → Except Text (Test × List Token)
  | 0, _, _, _ => .error "invalid expression".toList
  | fuel + 1, strength, before, tokens => do
      let invalid := fun (t : Text) => Except.error ("invalid expression; ".toList ++ t)
      let (first, rest) ← match before, tokens with
        | .opening false, [] => pure (Test.always, [])
        | .opening false, .closes :: _ | .opening true, [] =>
            invalid ("expected to find a ')' but didn't see one. " ++
              "Perhaps you need an extra predicate after '('").toList
        | .opening true, .closes :: _ => invalid "empty parentheses are not allowed.".toList
        | .operator name, [] => .error ("expected an expression after ".toList ++ cited name)
        | .operator name, .closes :: _ =>
            .error ("expected an expression between ".toList ++ cited name ++ " and ')'".toList)
        | _, .joint _ name :: _ =>
            invalid ("you have used a binary operator ".toList ++ cited name ++ " with nothing before it.".toList)
        | _, .test t :: rest => pure (t, rest)
        | _, .not name :: rest => do
            let (t, rest) ← combine fuel 4 (.operator name) rest
            pure (.not t, rest)
        | _, .opens :: rest => do
            let (t, rest) ← combine fuel 0 (.opening true) rest
            match rest with
            | .closes :: rest => pure (t, rest)
            | _ => invalid "I was expecting to find a ')' somewhere but did not see one.".toList
      extend fuel strength first rest
where
  /-- Goes on as long as operators bind more. -/
  extend : Nat → Nat → Test → List Token → Except Text (Test × List Token)
    | 0, _, t, tokens => .ok (t, tokens)
    | fuel + 1, strength, t, tokens =>
        match tokens with
        | .joint j name :: rest =>
            if j.strength > strength then do
              let (other, rest) ← combine fuel j.strength (.operator name) rest
              extend fuel strength (j.join t other) rest
            else .ok (t, tokens)
        | tokens => .ok (t, tokens)

/-- **The test that tokens make.** -/
def testOf (tokens : List Token) : Except Text Test := do
  let (t, rest) ← combine (2 * tokens.length + 2) 0 (.opening false) tokens
  match rest with
  | [] => return t
  | _ => .error "you have too many ')'".toList

end SwiftExistential.Utility.Find
