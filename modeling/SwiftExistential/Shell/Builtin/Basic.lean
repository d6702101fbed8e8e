import SwiftExistential.Shell.State
import SwiftExistential.Text.Number

/-!
# Commands that the shell itself knows: basics

The shell knows some commands itself, since they change what belongs to it. Such a command is a
`Handler`: an action of the shell that takes the arguments and returns the status.

This module has what the handlers share: the output, whose failure is theirs, the reading of
numbers, and the reading of options, which are single letters with or without a value behind them. A
letter that is not known is a failure of the shell.
-/

set_option autoImplicit false

namespace SwiftExistential.Shell.Builtin

abbrev Handler := List Text → Action Nat

/-- Writes to the output. A command whose output is closed fails. -/
def put (t : Text) : Action Nat := do
  if t.isEmpty || (← Action.write 1 t) then return 0
  else
    Action.complain [(← Action.ask (·.speaker)).getD [], "I/O error".toList]
    return 1

def putLines (lines : List Text) : Action Nat := put (lines.flatMap (· ++ ['\n']))

def number (t : Text) : Action Nat :=
  match Number.whole? 10 t with
  | some n => if 0 ≤ n && n ≤ 2147483647 then return n.toNat else Action.illegalNumber t
  | none => Action.illegalNumber t

/-- The letters of one argument that are options, with what they take, and the arguments behind it.
A colon behind a letter of the specification says that it takes something. -/
def readLetters (specification : Text) : Text → List Text → Action (List (Char × Text) × List Text)
  | [], rest => return ([], rest)
  | c :: letters, rest => do
      let known := (specification.dropWhile (· != c))
      if c == ':' || known.isEmpty then Action.fail ["Illegal option -".toList ++ [c]]
      else if (known.drop 1).head? == some ':' then
        if !letters.isEmpty then return ([(c, letters)], rest)
        else match rest with
          | [] => Action.fail ["No arg for -".toList ++ [c] ++ " option".toList]
          | argument :: rest => return ([(c, argument)], rest)
      else
        let (others, rest') ← readLetters specification letters rest
        return ((c, []) :: others, rest')

/-- Reads options, with so many steps at most. -/
def readOptionsFrom (specification : Text) :
    Nat → List Text → Action (List (Char × Text) × List Text)
  | 0, arguments => return ([], arguments)
  | fuel + 1, arguments => do
      match arguments with
      | ('-' :: c :: letters) :: rest =>
          if c :: letters = ['-'] then return ([], rest)
          else
            let (found, rest) ← readLetters specification (c :: letters) rest
            let (others, rest) ← readOptionsFrom specification fuel rest
            return (found ++ others, rest)
      | arguments => return ([], arguments)

/-- **Reads options** at the start of arguments, and returns them with the arguments behind them. -/
def readOptions (specification : String) (arguments : List Text) :
    Action (List (Char × Text) × List Text) :=
  readOptionsFrom specification.toList arguments.length arguments

end SwiftExistential.Shell.Builtin
