import SwiftExistential.Process.Machine
import SwiftExistential.Text.Basic
import SwiftExistential.Text.Number

/-!
# Options

How programs of the shell read their command lines, and what they say about them and about
themselves.

A program has a `Specification`: its name, the letters and words of its options, and what values
they take. One reader serves all programs, so they accept the same forms of arguments and report the
same mistakes in the same words. Programs that read their arguments in a way of their own have their
own reader, but share the reports.

The module also has what most programs need besides: names in messages, the lines of a text, and the
loop over the files that are named, or over the input if none is.
-/

set_option autoImplicit false

/-! ## What programs say about themselves

Each program can say with which arguments it is used, and which version it has. What follows behind
these first lines stands in the file of the program and is not known here. -/

namespace SwiftExistential.Utility.Manual

/-- The arguments of programs that do not take just options and files. -/
def arguments : List (String × String) :=
  [("arch", "[OPTION]..."), ("base32", "[OPTION]... [FILE]"), ("base64", "[OPTION]... [FILE]"),
    ("basename", "NAME [SUFFIX]"), ("basenc", "[OPTION]... [FILE]"), ("chgrp", "[OPTION]... GROUP FILE..."),
    ("chmod", "[OPTION]... MODE[,MODE]... FILE..."), ("chown", "[OPTION]... [OWNER][:[GROUP]] FILE..."),
    ("comm", "[OPTION]... FILE1 FILE2"), ("cp", "[OPTION]... [-T] SOURCE DEST"),
    ("csplit", "[OPTION]... FILE PATTERN..."), ("cut", "OPTION... [FILE]..."),
    ("date", "[OPTION]... [+FORMAT]"), ("dd", "[OPERAND]..."),
    ("diff3", "[OPTION]... MYFILE OLDFILE YOURFILE"), ("dirname", "[OPTION] NAME..."),
    ("env", "[OPTION]... [-] [NAME=VALUE]... [COMMAND [ARG]...]"), ("expr", "EXPRESSION"),
    ("factor", "[OPTION] [NUMBER]..."),
    ("find", "[-H] [-L] [-P] [-Olevel] [-D debugopts] [path...] [expression]"),
    ("fmt", "[-WIDTH] [OPTION]... [FILE]..."),
    ("grep", "[OPTION]... PATTERNS [FILE]..."), ("groups", "[OPTION]... [USERNAME]..."),
    ("hostid", "[OPTION]"), ("id", "[OPTION]... [USER]..."), ("install", "[OPTION]... [-T] SOURCE DEST"),
    ("join", "[OPTION]... FILE1 FILE2"), ("link", "FILE1 FILE2"), ("ln", "[OPTION]... [-T] TARGET LINK_NAME"),
    ("logname", "[OPTION]"), ("mkdir", "[OPTION]... DIRECTORY..."), ("mkfifo", "[OPTION]... NAME..."),
    ("mktemp", "[OPTION]... [TEMPLATE]"),
    ("mv", "[OPTION]... [-T] SOURCE DEST"), ("nice", "[OPTION] [COMMAND [ARG]...]"),
    ("nohup", "COMMAND [ARG]..."), ("nproc", "[OPTION]..."), ("numfmt", "[OPTION]... [NUMBER]..."),
    ("pathchk", "[OPTION]... NAME..."), ("printenv", "[OPTION]... [VARIABLE]..."), ("pwd", "[OPTION]..."),
    ("readlink", "[OPTION]... FILE..."), ("realpath", "[OPTION]... FILE..."),
    ("rmdir", "[OPTION]... DIRECTORY..."), ("sdiff", "[OPTION]... FILE1 FILE2"), ("seq", "[OPTION]... LAST"),
    ("shuf", "[OPTION]... [FILE]"),
    ("sleep", "NUMBER[SUFFIX]..."), ("split", "[OPTION]... [FILE [PREFIX]]"),
    ("stat", "[OPTION]... FILE..."), ("stdbuf", "OPTION... COMMAND"), ("sync", "[OPTION] [FILE]..."),
    ("timeout", "[OPTION] DURATION COMMAND [ARG]..."), ("touch", "[OPTION]... FILE..."),
    ("tr", "[OPTION]... STRING1 [STRING2]"), ("truncate", "OPTION... FILE..."), ("tsort", "[OPTION] [FILE]"),
    ("tty", "[OPTION]..."), ("uname", "[OPTION]..."), ("uniq", "[OPTION]... [INPUT [OUTPUT]]"),
    ("unlink", "FILE"), ("users", "[OPTION]... [FILE]"), ("whoami", "[OPTION]..."),
    ("xargs", "[OPTION]... COMMAND [INITIAL-ARGS]..."), ("yes", "[STRING]...")]

/-- The versions of programs that do not have the usual one. -/
def versions : List (String × String) :=
  [("diff3", "3.10"), ("find", "4.9.0"), ("grep", "3.11"), ("sdiff", "3.10"), ("xargs", "4.9.0")]

/-- The first line about the use of a program. -/
def useLine (name : String) : Text :=
  ("Usage: " ++ name ++ " " ++ (arguments.lookup name).getD "[OPTION]... [FILE]...").toList

/-- The first line about the version of a program. -/
def versionLine (name : String) : Text :=
  (name ++ " " ++ (versions.lookup name).getD "9.4").toList

end SwiftExistential.Utility.Manual

/-! ## Names in messages

Programs show names so that a shell would read them back. `quoted` always puts quotes around a name,
`shellWord` only around one that a shell would read as something else, and `readable` also around
one that would not be told from the message behind it. Octets that cannot be shown stand as escapes
in quotes of their own. -/

namespace SwiftExistential.Utility

def inQuotes (t : Text) : Text := '\'' :: t ++ ['\'']

def isPrintable (c : Char) : Bool := ' ' ≤ c && c ≤ '~'

/-- The octet as it stands between quotes with a dollar sign. -/
def escapedOctet (c : Char) : Text :=
  match c with
  | '\n' => ['\\', 'n']
  | '\t' => ['\\', 't']
  | '\r' => ['\\', 'r']
  | '\x07' => ['\\', 'a']
  | '\x08' => ['\\', 'b']
  | '\x0b' => ['\\', 'v']
  | '\x0c' => ['\\', 'f']
  | c =>
      let n := c.toNat
      '\\' :: [n / 64, n / 8 % 8, n % 8].map fun d => Char.ofNat (d + '0'.toNat)

/-- The octets of a text between quotes. Those that cannot be shown are in quotes of their own, as
long as these are open. -/
def betweenQuotes : Bool → Text → Text
  | _, [] => []
  | isOpen, c :: rest =>
      if c == '\'' then ['\'', '\\', '\'', '\''] ++ betweenQuotes false rest
      else if isPrintable c then (if isOpen then ['\'', '\''] else []) ++ c :: betweenQuotes false rest
      else (if isOpen then [] else ['\'', '$', '\'']) ++ escapedOctet c ++ betweenQuotes true rest

/-- The characters that mean something to a shell wherever they stand. -/
def shellMarks : Text := " \t\n!\"$&'()*;<=>?[\\^\x60|".toList

/-- The characters that mean something to a shell at the start of a word. -/
def leadingMarks : Text := ['#', '~']

/-- The braces, which mean something to a shell where they stand alone. -/
def braces : Text := ['\x7b', '\x7d']

/-- Whether a shell would read a name as something else. -/
def needsQuotes (t : Text) : Bool :=
  t.isEmpty || t.any shellMarks.contains || t.head?.any leadingMarks.contains ||
    (t.length = 1 && t.any braces.contains)

/-- Whether a text means the same between both kinds of quotes, but for a quote in it. -/
def isAlikeInQuotes (t : Text) : Bool :=
  let isPlain := fun (c : Char) =>
    isPrintable c && (c == ' ' || c == '\'' || !shellMarks.contains c) && !braces.contains c
  match t with
  | [] => true
  | c :: rest => isPlain c && rest.all fun d => isPlain d && !leadingMarks.contains d

/-- **A name in quotes**, so that a shell would read it back. A name with a quote in it is written
twice over, and the second time begins as the first one has ended: with escapes, if these came last.
-/
def quoted (t : Text) : Text :=
  if t.contains '\'' && isAlikeInQuotes t then '"' :: t ++ ['"']
  else '\'' :: betweenQuotes (t.contains '\'' && t.getLast?.any (!isPrintable ·)) t ++ ['\'']

/-- **An argument as messages cite it**: in single quotes, with a backslash before what would not be
read as itself. -/
def cited (t : Text) : Text :=
  let shown := fun (c : Char) =>
    if c == '\'' || c == '\\' then ['\\', c] else if isPrintable c then [c] else escapedOctet c
  '\'' :: t.flatMap shown ++ ['\'']

/-- A word as it is, or in quotes if a shell would read it as something else. -/
def shellWord (t : Text) : Text := if needsQuotes t || !t.all isPrintable then quoted t else t

/-- **A name as it stands before a colon**: in quotes if it has colons of its own, or a shell would
read it as something else. -/
def readable (t : Text) : Text := if t.contains ':' then quoted t else shellWord t

end SwiftExistential.Utility

/-! ## Options of programs

The standard programs read their arguments the same way. An option is a dash and letters, or two
dashes and a word, of which a part is enough if only one option starts with it. Options may stand
behind other arguments, unless the program says that they may not; two dashes alone end them. -/

namespace SwiftExistential.Utility

open Process

/-- Whether an option takes a value. -/
inductive Arity where
  | none
  | one
  /-- The value can only be given with an equals sign, or not at all. -/
  | optional
deriving DecidableEq, Repr

/-- What is wrong with arguments. -/
inductive Mistake where
  /-- An option that is not known or that lacks its value. The program gives a hint. -/
  | misuse (message : Text)
  /-- A value that an option does not take. -/
  | value (message : Text)
  /-- A word that an option does not take, with the lines of those that it takes. -/
  | word (argument : Text) (option : String) (valid : List String)

/-- The options of a program. -/
structure Specification where
  name : String
  /-- The letters; a colon behind a letter says that it takes a value, and two that the value can
  only stand right behind it. -/
  letters : String
  /-- The words, with the letters they stand for. -/
  words : List (String × Char × Arity) := []
  /-- Whether options may stand behind other arguments. -/
  isMixed : Bool := true
  /-- The status after a mistake. -/
  mistake : Nat := 1
  /-- The letters of options behind which no more are read. -/
  closing : String := ""
  /-- What is wrong with the value of an option. A mistake ends the reading of options. -/
  check : Char → Text → Option Mistake := fun _ _ => none

/-- The options that were given, and the other arguments. -/
structure Given where
  options : List (Char × Text)
  operands : List Text

namespace Given

def has (g : Given) (letter : Char) : Bool := g.options.any fun (c, _) => c == letter

def value? (g : Given) (letter : Char) : Option Text :=
  (g.options.reverse.find? fun (c, _) => c == letter).map Prod.snd

def values (g : Given) (letter : Char) : List Text :=
  (g.options.filter fun (c, _) => c == letter).map Prod.snd

def last? (g : Given) (letters : String) : Option Char :=
  (g.options.reverse.find? fun (c, _) => letters.toList.contains c).map Prod.fst

end Given

def readLetters (letters : Text) : Text → List Text → Except Text (List (Char × Text) × List Text)
  | [], rest => .ok ([], rest)
  | c :: more, rest =>
      let known := letters.dropWhile (· != c)
      if c == ':' || known.isEmpty then .error ("invalid option -- ".toList ++ inQuotes [c])
      else if (known.drop 1).take 2 = [':', ':'] then .ok ([(c, more)], rest)
      else if (known.drop 1).head? == some ':' then
        if !more.isEmpty then .ok ([(c, more)], rest)
        else match rest with
          | [] => .error ("option requires an argument -- ".toList ++ inQuotes [c])
          | value :: rest => .ok ([(c, value)], rest)
      else match readLetters letters more rest with
        | .error e => .error e
        | .ok (others, rest) => .ok ((c, []) :: others, rest)

/-- The options that a word may stand for. -/
def candidates (words : List (String × Char × Arity)) (word : Text) : List (String × Char × Arity) :=
  match words.filter fun (w, _) => w.toList = word with
  | [] => words.filter fun (w, _) => word.isPrefixOf w.toList
  | exact => exact

/-- Reads a word, which stands behind two dashes. -/
def readWord (words : List (String × Char × Arity)) (argument : Text) (rest : List Text) :
    Except Text ((Char × Text) × List Text) :=
  let word := argument.takeWhile (· != '=')
  let value := if word.length < argument.length then some (argument.drop (word.length + 1)) else none
  match candidates words word with
  | [] => .error ("unrecognized option ".toList ++ inQuotes ("--".toList ++ argument))
  | (name, letter, arity) :: others =>
      let shown := fun (w : String) => inQuotes ("--".toList ++ w.toList)
      if others.any fun (_, l, _) => l != letter then
        .error ("option ".toList ++ inQuotes ("--".toList ++ argument) ++
          " is ambiguous; possibilities:".toList ++
          ((name, letter, arity) :: others).flatMap fun (w, _) => ' ' :: shown w)
      else match arity, value with
        | .none, none => .ok ((letter, []), rest)
        | .none, some _ => .error ("option ".toList ++ shown name ++ " doesn't allow an argument".toList)
        | .optional, value => .ok ((letter, value.getD []), rest)
        | .one, some value => .ok ((letter, value), rest)
        | .one, none =>
            match rest with
            | [] => .error ("option ".toList ++ shown name ++ " requires an argument".toList)
            | value :: rest => .ok ((letter, value), rest)

/-- The letter that stands for the word that asks for help. -/
def helpMark : Char := '\x1d'

/-- The letter that stands for the word that asks for the version. -/
def versionMark : Char := '\x1e'

def Specification.allWords (s : Specification) : List (String × Char × Arity) :=
  s.words ++ [("help", helpMark, Arity.none), ("version", versionMark, .none)].filter fun (w, _) =>
    (s.words.lookup w).isNone

/-- The first mistake in the values of options. -/
def Specification.mistakeIn? (s : Specification) (options : List (Char × Text)) : Option Mistake :=
  options.findSome? fun (c, t) => s.check c t

/-- Reads arguments, with so many steps at most. Nothing is read behind a question that the program
answers by itself. -/
def readFrom (s : Specification) : Nat → List Text → Except Mistake Given
  | 0, arguments => .ok ⟨[], arguments⟩
  | _, [] => .ok ⟨[], []⟩
  | fuel + 1, argument :: rest =>
      match argument with
      | ['-', '-'] => .ok ⟨[], rest⟩
      | '-' :: '-' :: word =>
          match readWord s.allWords word rest with
          | .error e => .error (.misuse e)
          | .ok (found, rest) =>
              match s.mistakeIn? [found] with
              | some mistake => .error mistake
              | none =>
                  if found.1 == helpMark || found.1 == versionMark then .ok ⟨[found], []⟩
                  else if s.closing.toList.contains found.1 then .ok ⟨[found], rest⟩
                  else (readFrom s fuel rest).map fun g => { g with options := found :: g.options }
      | '-' :: c :: letters =>
          match readLetters s.letters.toList (c :: letters) rest with
          | .error e => .error (.misuse e)
          | .ok (found, rest) =>
              match s.mistakeIn? found with
              | some mistake => .error mistake
              | none =>
                  if found.any fun (c, _) => s.closing.toList.contains c then .ok ⟨found, rest⟩
                  else (readFrom s fuel rest).map fun g => { g with options := found ++ g.options }
      | operand =>
          if s.isMixed then
            (readFrom s fuel rest).map fun g => { g with operands := operand :: g.operands }
          else .ok ⟨[], operand :: rest⟩

/-! ### Values of options

Some options take words as values. Of a word a part is enough, and a wrong one is reported with a
list of those that can stand there. -/

/-- The words in a line of valid arguments. They stand in quotes, or alone behind what may be left
out. A line about what starts with a plus sign has none. -/
def wordsIn (line : String) : List Text :=
  if line.toList.head? = some '+' then []
  else match (Text.splitOn '\'' line.toList).filter fun t => !t.isEmpty && t != [',', ' '] with
  | [t] => if t.head? = some '[' then [(t.dropWhile (· != ']')).drop 1] else [t]
  | words => words

/-- Says what is wrong. A word may stand for nothing, or for several things. -/
def Mistake.message : Mistake → Text
  | .misuse message => message
  | .value message => message
  | .word argument option valid =>
      let isAmbiguous := valid.any fun line => (wordsIn line).any fun w => argument.isPrefixOf w
      (if isAmbiguous then "ambiguous argument " else "invalid argument ").toList ++ cited argument ++
        " for ".toList ++ cited option.toList

/-- What an argument stands for, of which a part is enough if only one thing starts with it. -/
def choice? {α : Type} [DecidableEq α] (choices : List (String × α)) (t : Text) : Option α :=
  match choices.lookup (String.ofList t) with
  | some a => some a
  | none =>
      match choices.filter fun (word, _) => t.isPrefixOf word.toList with
      | [] => none
      | (_, a) :: rest => if rest.all fun (_, b) => b = a then some a else none

/-- The mistake of an argument that stands for nothing, or may stand for several things. -/
def mistakenChoice? {α : Type} [DecidableEq α] (choices : List (String × α)) (option : String)
    (valid : List String) (t : Text) : Option Mistake :=
  if (choice? choices t).isSome then none else some (.word t option valid)

def linesOfWords (words : List String) : List String := words.map fun w => "'" ++ w ++ "'"

def mistakenWord? (words : List String) (option : String) (t : Text) : Option Mistake :=
  mistakenChoice? (words.map fun w => (w, w)) option (linesOfWords words) t

/-! ### Reports

Messages begin with the name of the program. A mistake in the arguments ends the program with a
status that the specification knows. -/

/-- Reports something in the name of a program. -/
def complain (name : String) (message : Text) : Job Unit := Job.complain [name.toList, message]

/-- Reports a mistake. The status after a wrong word is the same for all programs. -/
def report (s : Specification) (mistake : Mistake) : Job Nat := do
  complain s.name mistake.message
  let hint := "Try '".toList ++ (← read).named s.name.toList ++ " --help' for more information.\n".toList
  match mistake with
  | .misuse _ =>
      Job.write 2 hint
      return s.mistake
  | .value _ => return s.mistake
  | .word _ _ valid =>
      Job.write 2 ("Valid arguments are:\n".toList ++
        valid.flatMap (fun line => "  - ".toList ++ line.toList ++ ['\n']) ++ hint)
      return 1

/-- Reports a wrong use of a program. -/
def misuse (s : Specification) (message : Text) : Job Nat := report s (.misuse message)

/-- Reads the arguments of a program and goes on with what was given, or ends with a status: after a
mistake, or after a question that the program answers by itself. -/
def withOptionsAs {α : Type} (ended : Nat → α) (s : Specification) (arguments : List Text)
    (work : Given → Job α) : Job α :=
  match readFrom s (arguments.length + 1) arguments with
  | .error mistake => do return ended (← report s mistake)
  | .ok given =>
      if given.has helpMark then do
        Job.putLine (Manual.useLine s.name)
        return ended 0
      else if given.has versionMark then do
        Job.putVersion (Manual.versionLine s.name)
        return ended 0
      else work given

/-- **Reads the arguments of a program** and goes on with what was given, or reports a mistake. -/
def withOptions (s : Specification) (arguments : List Text) (work : Given → Job Nat) : Job Nat :=
  withOptionsAs id s arguments work

/-- Runs a program that takes no options, and so many other arguments at most. -/
def withOperands (s : Specification) (most : Nat) (arguments : List Text) (work : List Text → Job Nat) : Job Nat :=
  withOptions s arguments fun g =>
    match g.operands.drop most with
    | [] => work g.operands
    | extra :: _ => misuse s ("extra operand ".toList ++ cited extra)

/-- Says that something failed for a path. -/
def complainOf (name : String) (what : String) (path : Text) (e : FileError) : Job Unit :=
  Job.complain [name.toList, what.toList ++ quoted path, reason e]

/-! ### Lines

Most programs take a text line by line. A last line without an end is a line as well, and the
programs that write lines again decide whether its end is added. -/

/-- Splits a text at line ends, behind the lines that have been read and the start of one more. -/
def splitRecords (sep : Char) (lines : List Text) (start : Text) : Text → List Text
  | [] => (if start.isEmpty then lines else start.reverse :: lines).reverse
  | c :: rest =>
      if c == sep then splitRecords sep (start.reverse :: lines) [] rest
      else splitRecords sep lines (c :: start) rest

/-- The lines of a text without their ends. A line end at the end begins no new one. -/
def records (t : Text) : List Text := splitRecords '\n' [] [] t

def joinLines (lines : List Text) : Text := lines.flatMap (· ++ ['\n'])

/-- Fills a text with blanks at its start. -/
def padLeft (width : Nat) (t : Text) : Text := List.replicate (width - t.length) ' ' ++ t

/-- Fills a text with blanks at its end. -/
def padRight (width : Nat) (t : Text) : Text := t ++ List.replicate (width - t.length) ' '

def shownNat (n : Nat) : Text := (toString n).toList

/-- Does something for each text, and returns the largest status. -/
def forAll (work : Text → Job Nat) : List Text → Job Nat
  | [] => return 0
  | t :: rest => do
      let first ← work t
      return max first (← forAll work rest)

/-- The texts of files, or of the input if no file is named. Files that cannot be read are reported.
-/
def sources (report : Text → FileError → Job Unit) : List Text → Job (List (Text × Text) × Nat)
  | [] => return ([], 0)
  | path :: rest => do
      match ← Job.readSource path with
      | .ok content =>
          let (others, status) ← sources report rest
          return ((path, content) :: others, status)
      | .error e =>
          report path e
          let (others, _) ← sources report rest
          return (others, 1)

/-- The texts of the files that are named, or of the input. -/
def inputs (name : String) (paths : List Text) : Job (List (Text × Text) × Nat) :=
  sources (fun path e => Job.complain [name.toList, readable path, reason e])
    (if paths.isEmpty then [['-']] else paths)

/-- Prints what becomes of each file that is named, or of the input, one after the other. Files that
cannot be read are reported in their turn. -/
def printEach (name : String) (change : Text → Text) (paths : List Text) : Job Nat :=
  forAll
    (fun path => do
      match ← Job.readSource path with
      | .ok content =>
          Job.put (change content)
          return 0
      | .error e =>
          Job.complain [name.toList, readable path, reason e]
          return 1)
    (if paths.isEmpty then [['-']] else paths)

/-- Prints what becomes of all files together, behind a text of which so much has been printed.
Files that cannot be read are reported in their turn. -/
def printJoinedFrom (name : String) (change : Text → Text) (text : Text) (printed : Nat) :
    List Text → Job Nat
  | [] => do
      Job.put ((change text).drop printed)
      return 0
  | path :: rest => do
      match ← Job.readSource path with
      | .ok content => printJoinedFrom name change (text ++ content) printed rest
      | .error e =>
          let now := change text
          Job.put (now.drop printed)
          Job.complain [name.toList, readable path, reason e]
          discard (printJoinedFrom name change text now.length rest)
          return 1

/-- Prints what becomes of all files together, or of the input. -/
def printJoined (name : String) (change : Text → Text) (paths : List Text) : Job Nat :=
  printJoinedFrom name change [] 0 (if paths.isEmpty then [['-']] else paths)

end SwiftExistential.Utility

/-! ## Names that can be used everywhere

`pathchk` says whether files of some names could be made: here, or on any system. -/

namespace SwiftExistential.Utility

open Process

/-- The characters that every system knows in names. -/
def isPortableChar (c : Char) : Bool :=
  c.isAlphanum || c == '.' || c == '_' || c == '-' || c == '/'

def pathchkOptions : Specification :=
  { name := "pathchk", letters := "pP", words := [("portability", 'B', .none)] }

def lengthMistake (limit : Nat) (what : String) (t : Text) : Text :=
  ("limit " ++ toString limit ++ " exceeded by length " ++ toString t.length ++ " of " ++ what ++ " ").toList ++
    quoted t

/-- What is wrong with a name, as far as the name itself goes. -/
def nameMistake? (isBasic isLeading : Bool) (t : Text) : Option Text :=
  if isLeading && (Text.splitOn '/' t).any fun part => part.head? = some '-' then
    some ("leading '-' in a component of file name ".toList ++ quoted t)
  else if (isBasic || isLeading) && t.isEmpty then some "empty file name".toList
  else if isBasic then
    match t.find? fun c => !isPortableChar c with
    | some c => some ("non-portable character ".toList ++
        cited [c] ++ " in file name ".toList ++ quoted t)
    | none =>
        if t.length > 255 then some (lengthMistake 255 "file name" t)
        else ((Text.splitOn '/' t).find? fun part => part.length > 14).map
          (lengthMistake 14 "file name component")
  else none

/-- Whether a file of a name could be made here, or why not. -/
def checkName (tree : FileTree) (t : Text) : Option Text :=
  match tree.locate false (Octets.toText t) with
  | .ok _ => none
  | .error .notFound =>
      if t.isEmpty then some (readable t ++ ": ".toList ++ reason .notFound)
      else if t.length > 4095 then some (lengthMistake 4095 "file name" t)
      else ((Text.splitOn '/' t).find? fun part => part.length > 255).map
        (lengthMistake 255 "file name component")
  | .error e => some (readable t ++ ": ".toList ++ reason e)

def pathchk : Utility := fun _ arguments =>
  withOptions pathchkOptions arguments fun g => do
    let isBasic := g.has 'p' || g.has 'B'
    let isLeading := g.has 'P' || g.has 'B'
    let tree ← Job.tree
    if g.operands.isEmpty then misuse pathchkOptions "missing operand".toList
    else forAll (fun t => do
      let mistake := match nameMistake? isBasic isLeading t with
        | some message => some message
        | none => if isBasic then none else checkName tree t
      match mistake with
      | some message =>
          complain "pathchk" message
          return 1
      | none => return 0) g.operands

end SwiftExistential.Utility
