import SwiftExistential.Utility.Options

/-!
# Options for scripts

`getopt` reads options for a script and prints them so that they are easy to read: options first,
each with its value as a word of its own, then two dashes and the other arguments.

Which options there are is told by the first argument or by options of its own. The output is quoted
for a shell, unless that is not wanted. A mistake is reported in the name of the script and shows in
the status, and the options that could be read are printed all the same.
-/

set_option autoImplicit false

namespace SwiftExistential.Utility

open Process

namespace Getopt

/-- What becomes of arguments that are no options. -/
inductive Placing where
  /-- They go behind the options. -/
  | last
  /-- The first one ends the options. -/
  | ends
  /-- They stay where they are. -/
  | kept
deriving DecidableEq, Repr

/-- The options of a script. -/
structure Wanted where
  letters : Text
  words : List (String × Char × Arity)
  placing : Placing
  /-- Whether one dash is enough before words. -/
  allowsOneDash : Bool

/-- What is met in arguments. -/
inductive Item where
  | letter (c : Char)
  | word (name : String)
  | value (t : Text)
  | operand (t : Text)
  | mistake (message : Text)
deriving DecidableEq, Repr

/-- Reads the letters of one argument, also behind a wrong one. -/
def readCluster (letters : Text) : Text → List Text → List Item × List Text
  | [], rest => ([], rest)
  | c :: more, rest =>
      let known := letters.dropWhile (· != c)
      if c == ':' || known.isEmpty then
        let (items, rest) := readCluster letters more rest
        (.mistake ("invalid option -- ".toList ++ inQuotes [c]) :: items, rest)
      else if (known.drop 1).take 2 = [':', ':'] then ([.letter c, .value more], rest)
      else if (known.drop 1).head? == some ':' then
        match more, rest with
        | [], [] => ([.mistake ("option requires an argument -- ".toList ++ inQuotes [c])], [])
        | [], value :: rest => ([.letter c, .value value], rest)
        | more, rest => ([.letter c, .value more], rest)
      else
        let (items, rest) := readCluster letters more rest
        (.letter c :: items, rest)

/-- Reads a word behind dashes. -/
def readLong (w : Wanted) (argument : Text) (rest : List Text) : List Item × List Text :=
  match readWord w.words argument rest with
  | .error message => ([.mistake message], rest)
  | .ok (_, after) =>
      let word := argument.takeWhile (· != '=')
      match candidates w.words word with
      | (name, _, arity) :: _ =>
          let value := match arity with
            | .none => []
            | .optional => [.value (argument.drop (word.length + 1))]
            | .one =>
                if word.length < argument.length then [.value (argument.drop (word.length + 1))]
                else [.value (rest.headD [])]
          (.word name :: value, after)
      | [] => ([], after)

/-- Reads arguments, with so many steps at most. -/
def readItems (w : Wanted) : Nat → List Text → List Item
  | 0, arguments => arguments.map .operand
  | _, [] => []
  | fuel + 1, argument :: rest =>
      let go := fun (found : List Item × List Text) => found.1 ++ readItems w fuel found.2
      match argument with
      | ['-', '-'] => rest.map .operand
      | '-' :: '-' :: word => go (readLong w word rest)
      | '-' :: c :: more =>
          let isLong := w.allowsOneDash && !(candidates w.words ((c :: more).takeWhile (· != '='))).isEmpty
          if isLong then go (readLong w (c :: more) rest) else go (readCluster w.letters (c :: more) rest)
      | operand =>
          if w.placing = .ends then (operand :: rest).map .operand
          else .operand operand :: readItems w fuel rest

/-- How values are quoted. -/
inductive Quotes where
  | none
  | plain
  /-- For shells in which exclamation marks mean something. -/
  | strict
deriving DecidableEq, Repr

def Quotes.apply (q : Quotes) (t : Text) : Text :=
  match q with
  | none => t
  | plain => '\'' :: Text.replacePart ['\''] ['\'', '\\', '\'', '\''] t ++ ['\'']
  | strict =>
      '\'' :: (t.flatMap fun c =>
        if c == '\'' then ['\'', '\\', '\'', '\''] else if c == '\\' then ['\\', '\\']
        else if c == '!' then ['\'', '\\', '!', '\''] else if c == '\n' then ['\\', 'n'] else [c]) ++ ['\'']

def line (w : Wanted) (q : Quotes) (items : List Item) : Text :=
  let shown := fun (item : Item) => match item with
    | .letter c => [' ', '-', c]
    | .word name => " --".toList ++ name.toList
    | .value t | .operand t => ' ' :: q.apply t
    | .mistake _ => []
  let isLast := fun (item : Item) => w.placing != .kept && item matches .operand _
  (items.filter fun item => !isLast item).flatMap shown ++ " --".toList ++
    (items.filter isLast).flatMap shown ++ ['\n']

/-- The words that a list names; colons behind a word say whether it takes a value. -/
def wordsIn (t : Text) : List (String × Char × Arity) :=
  let names := (Text.splitOn ',' (t.map fun c => if Number.isSpace c then ',' else c)).filter (· != [])
  names.map fun name =>
    let bare := (name.reverse.dropWhile (· == ':')).reverse
    let arity := match name.length - bare.length with
      | 0 => Arity.none
      | 1 => .one
      | _ => .optional
    (String.ofList bare, 'x', arity)

def numbered (words : List (String × Char × Arity)) : List (String × Char × Arity) :=
  words.zipIdx.map fun ((name, _, arity), n) => (name, Char.ofNat (0x100 + n), arity)

/-- Takes the mark for the placing from the start of letters. -/
def splitPlacing : Text → Placing × Text
  | '+' :: letters => (.ends, letters)
  | '-' :: letters => (.kept, letters)
  | letters => (.last, letters)

def options : Specification :=
  { name := "getopt", letters := "ao:l:n:qQs:TuV", isMixed := false, mistake := 2,
    words := [("alternative", 'a', .none), ("longoptions", 'l', .one), ("name", 'n', .one),
      ("options", 'o', .one), ("quiet", 'q', .none), ("quiet-output", 'Q', .none), ("shell", 's', .one),
      ("test", 'T', .none), ("unquoted", 'u', .none)] }

/-- The first line about the version. -/
def version : String := "getopt from util-linux 2.39.3"

/-- Reads arguments as wanted and prints what was met. -/
def present (g : Given) (q : Quotes) (letters : Text) (arguments : List Text) : Job Nat := do
  let (placing, letters) := splitPlacing letters
  let words := numbered ((g.values 'l').flatMap wordsIn)
  let wanted : Wanted := ⟨letters, words, placing, g.has 'a'⟩
  let items := readItems wanted (arguments.length + 1) arguments
  let mistakes := items.filterMap fun item => match item with
    | .mistake message => some message
    | _ => none
  if !g.has 'q' then
    mistakes.forM fun message => Job.complain [(g.value? 'n').getD "getopt".toList, message]
  if !g.has 'Q' then Job.put (line wanted q items)
  return if mistakes.isEmpty then 0 else 1

end Getopt

def getopt : Utility := fun _ arguments => do
  let missing := misuse Getopt.options "missing optstring argument".toList
  match arguments with
  | [] => missing
  | ('-' :: _) :: _ =>
      withOptions Getopt.options arguments fun g => do
        if g.has 'T' then return 4
        else if g.has 'V' then
          Job.putLine Getopt.version.toList
          return 0
        else
          let shell := String.ofList ((g.value? 's').getD "bash".toList)
          if !(["sh", "bash", "csh", "tcsh"].contains shell) then
            misuse Getopt.options ("unknown shell after -s or --shell argument".toList)
          else
            let q : Getopt.Quotes := if g.has 'u' then .none
              else if shell = "csh" || shell = "tcsh" then .strict else .plain
            match g.value? 'o', g.operands with
            | some letters, operands => Getopt.present g q letters operands
            | none, letters :: operands => Getopt.present g q letters operands
            | none, [] => missing
  | letters :: operands =>
      let operands := if operands.head? = some ['-', '-'] then ['-', '-'] :: operands.tail else operands
      Getopt.present ⟨[], []⟩ .none letters operands

end SwiftExistential.Utility
