import SwiftExistential.Utility.Awk.Reader
import SwiftExistential.Utility.Awk.Run
import SwiftExistential.Utility.Options

/-!
# Programs of patterns and actions

`awk` runs a pattern program that is given as an argument or stands in files. This module reads the
command line, and puts the parts together: the text of the program is read, and the program is run
on the files.

The options are read by rules of its own: a value may stand in the same argument or in the next one,
and words are passed over if they are known and mean nothing here. A program with a mistake in it is
not run, and all that is wrong with it is reported.
-/

set_option autoImplicit false

namespace SwiftExistential.Utility.Awk

open Process

/-- What the options say. -/
structure Choices where
  /-- The files of the program, the last one first. -/
  programs : List Text
  /-- The assignments, the last one first. -/
  assignments : List (Text × Text)

/-- What is done when options are read. -/
inductive Decision where
  | run (c : Choices) (arguments : List Text)
  | usage
  | version
  | wrong (message : Text)

/-- What a word behind the option `W` asks for. -/
inductive Extension where
  | usage | version | ignored | unknown

def extension (t : Text) : Extension :=
  let word := (t.takeWhile (· != '=')).map Char.toLower
  let isPart := fun (w : String) => word.isPrefixOf w.toList
  if isPart "version" then .version
  else if isPart "help" || isPart "usage" then .usage
  else if ["compat", "dump", "interactive", "exec", "posix", "random", "re-interval", "repetitions",
      "sprintf", "traditional"].any isPart then .ignored
  else .unknown

def readOptions (c : Choices) : Nat → List Text → Decision
  | 0, arguments => .run c arguments
  | fuel + 1, arguments =>
      match arguments with
      | ['-', '-'] :: rest => .run c rest
      | ('-' :: '-' :: word) :: rest =>
          match extension word with
          | .version => .version
          | .usage => .usage
          | .ignored => readOptions c fuel rest
          | .unknown => .wrong ("not an option: --".toList ++ word)
      | ('-' :: letter :: value) :: rest =>
          let withValue := fun (use : Text → List Text → Decision) =>
            match value, rest with
            | [], [] => .wrong ("option -".toList ++ letter :: " lacks argument".toList)
            | [], v :: rest => use v rest
            | value, rest => use value rest
          match letter with
          | 'f' => withValue fun v rest => readOptions { c with programs := v :: c.programs } fuel rest
          | 'F' => withValue fun v rest =>
              let separator := unescape (v.length + 1) v
              readOptions { c with assignments := ("FS".toList, separator) :: c.assignments } fuel rest
          | 'v' => withValue fun v rest =>
              match assignment? v with
              | some a => readOptions { c with assignments := a :: c.assignments } fuel rest
              | none => .wrong ("improper assignment: -v ".toList ++ v)
          | 'W' => withValue fun v rest =>
              match extension v with
              | .version => .version
              | .usage => .usage
              | _ => readOptions c fuel rest
          | letter => .wrong ("not an option: -".toList ++ letter :: value)
      | arguments => .run c arguments

def usageText : String :=
  "Usage: mawk [Options] [Program] [file ...]\n" ++
  "\n" ++
  "Program:\n" ++
  "    The -f option value is the name of a file containing program text.\n" ++
  "    If no -f option is given, a \"--\" ends option processing; the following\n" ++
  "    parameters are the program text.\n" ++
  "\n" ++
  "Options:\n" ++
  "    -f program-file  Program  text is read from file instead of from the\n" ++
  "                     command-line.  Multiple -f options are accepted.\n" ++
  "    -F value         sets the field separator, FS, to value.\n" ++
  "    -v var=value     assigns value to program variable var.\n" ++
  "    --               unambiguous end of options.\n" ++
  "\n" ++
  "    Implementation-specific options are prefixed with \"-W\".  They can be\n" ++
  "    abbreviated:\n" ++
  "\n" ++
  "    -W version       show version information and exit.\n" ++
  "    -W compat        pre-POSIX 2001.\n" ++
  "    -W dump          show assembler-like listing of program and exit.\n" ++
  "    -W help          show this message and exit.\n" ++
  "    -W interactive   set unbuffered output, line-buffered input.\n" ++
  "    -W exec file     use file as program as well as last option.\n" ++
  "    -W posix         stricter POSIX checking.\n" ++
  "    -W random=number set initial random seed.\n" ++
  "    -W sprintf=number adjust size of sprintf buffer.\n" ++
  "    -W usage         show this message and exit.\n"

/-- The state before a program runs. -/
def startState (environment : List (Text × Text)) (arguments : List Text) (tables : List Text)
    (now : Nat) : State :=
  let known : List (String × Value) :=
    [("FS", .text [' ']), ("OFS", .text [' ']), ("ORS", .text ['\n']), ("RS", .text ['\n']),
      ("SUBSEP", .text ['\x1c']), ("OFMT", .text "%.6g".toList), ("CONVFMT", .text "%.6g".toList),
      ("NR", .number 0), ("FNR", .number 0), ("FILENAME", .text []), ("RSTART", .number 0),
      ("RLENGTH", .number 0), ("ARGC", .ofNat arguments.length)]
  let environ := environment.foldl
    (fun (t : Table) (name, value) => t.set (.text name) (.given value)) Table.empty
  let argv := arguments.zipIdx.foldl
    (fun (t : Table) (value, n) => t.set (.number n) (.given value)) Table.empty
  let empty := tables.foldl (fun (m : Std.TreeMap Text Table) name => m.insert name Table.empty) ∅
  { values := known.foldl (fun (m : Std.TreeMap Text Value) (name, v) => m.insert name.toList v) ∅,
    tables := (empty.insert "ENVIRON".toList environ).insert "ARGV".toList argv,
    tableCount := 0, frame := #[], record := [], fields := #[], isSplit := true, isJoined := true,
    files := ⟨none, 1, false⟩, inflows := [], outflows := [], output := [], status := 0, ranges := [],
    seed := .ofNat now, random := now % 2147483648 }

/-- The texts of files, one behind the other, or the message for one that cannot be read. -/
def readPrograms : List Text → Job (Except Text (List (Text × Text)))
  | [] => return .ok []
  | path :: rest => do
      match ← Job.readSource path with
      | .error e =>
          return .error ("cannot open \"".toList ++ path ++ "\" (".toList ++ reason e ++ ")".toList)
      | .ok t =>
          match ← readPrograms rest with
          | .error m => return .error m
          | .ok others => return .ok ((path, t) :: others)

/-- Runs a program with assignments and arguments. -/
def runText (launch : Launch) (name title text : Text) (assignments : List (Text × Text))
    (arguments : List Text) : Job Nat := do
  let report := fun (message : Text) => Job.write 2 (name ++ ": ".toList ++ message ++ ['\n'])
  match readProgram title text with
  | .error messages =>
      forAll (fun m => do
        report m
        return 0) messages *> return 2
  | .ok program =>
      let environment := (← ReaderT.read).environment
      let now := (← get).clock / 1000000
      let state := startState environment (name :: arguments) program.tables now
      let work : Run Unit := do
        discard (Run.each (fun (name, value) => Run.setName name (.given value)) assignments)
        Run.runProgram ⟨launch, program.functions⟩ program.rules
      let (_, state) ← (work.run).run state
      return state.status

end Awk

open Process in
def awk : Utility := fun launch arguments => do
  let title := (← read).title
  let last := (title.reverse.takeWhile (· != '/')).reverse
  let name := if last.isEmpty then "awk".toList else last
  let report := fun (message : Text) => Job.write 2 (name ++ ": ".toList ++ message ++ ['\n'])
  match Awk.readOptions ⟨[], []⟩ (arguments.length + 1) arguments with
  | .usage =>
      Job.put Awk.usageText.toList
      return 0
  | .version =>
      Job.putLine "mawk 1.3.4 20240123".toList
      return 0
  | .wrong message =>
      report message
      return 2
  | .run choices rest =>
      match choices.programs, rest with
      | [], [] =>
          if arguments.isEmpty then Job.write 2 Awk.usageText.toList
          return 0
      | [], text :: rest => Awk.runText launch name [] text choices.assignments.reverse rest
      | programs, rest =>
          match ← Awk.readPrograms programs.reverse with
          | .error m =>
              report m
              return 2
          | .ok found =>
              let path := (found.head?.map Prod.fst).getD []
              Awk.runText launch name (path ++ ": ".toList) (Text.join ['\n'] (found.map Prod.snd))
                choices.assignments.reverse rest

end SwiftExistential.Utility
