import SwiftExistential.Shell.Condition
import SwiftExistential.Utility.Options

/-!
# Conditions as a program

The program `test` reads conditions by the number of its arguments: up to four of them have only one
meaning, and more are read as alternatives of statements.

The shell has the same command, which it reads by other rules, so the two are not the same function:
they differ in what is taken as an operator and in their messages. What is asked of files and texts
is shared.
-/

set_option autoImplicit false

namespace SwiftExistential.Utility

open Process

namespace Truth

/-- Reads arguments, or stops with a message. -/
abbrev Reader := StateT (List Text) (Except Text)

/-- Whether an argument is an operator between two others. -/
def isBinary (t : Text) : Bool :=
  t = "==".toList || (Shell.Condition.kind? t = some .binary && t != ['<'] && t != ['>'])

/-- Whether an argument looks like an operator before another one. -/
def isUnary (t : Text) : Bool := t.length = 2 && t.head? = some '-'

section

/- The tree that files are looked up in, and the last of all arguments. -/
variable (tree : FileTree) (last : Text)

/-- Stops because something is missing. -/
def beyond {α : Type} : Reader α := throw ("missing argument after ".toList ++ cited last)

def take : Reader Text := do
  match ← get with
  | [] => beyond last
  | t :: rest =>
      set rest
      return t

def integer (t : Text) : Reader Int :=
  match Number.whole? 10 t with
  | some n => return n
  | none =>
      let body := (t.dropWhile Number.isSpace)
      let digits := if body.head? = some '-' || body.head? = some '+' then body.drop 1 else body
      let run := digits.takeWhile Char.isDigit
      if !run.isEmpty && ((digits.drop run.length).dropWhile Number.isSpace).isEmpty then
        return if body.head? = some '-' then -(Number.value 10 run : Int) else Number.value 10 run
      else throw ("invalid integer ".toList ++ cited t)

/-- Asks an operator between two arguments. -/
def binary : Reader Bool := do
  let a ← take last
  let operator ← take last
  let b ← take last
  let changed := Shell.Condition.changed? tree
  match String.ofList operator with
  | "==" => return a == b
  | "-nt" => return match changed a, changed b with
      | some x, some y => decide (x > y)
      | x, y => x.isSome && y.isNone
  | "-ot" => return match changed a, changed b with
      | some x, some y => decide (x < y)
      | x, y => x.isNone && y.isSome
  | "-eq" | "-ne" | "-lt" | "-le" | "-gt" | "-ge" =>
      let x ← integer a
      let y ← integer b
      return match String.ofList operator with
        | "-eq" => x == y
        | "-ne" => x != y
        | "-lt" => decide (x < y)
        | "-le" => decide (x ≤ y)
        | "-gt" => decide (x > y)
        | _ => decide (x ≥ y)
  | _ =>
      match Shell.Condition.binary tree operator a b with
      | .ok answer => return answer
      | .error _ => return false

/-- Asks an operator before an argument. -/
def unary : Reader Bool := do
  let operator ← take last
  if Shell.Condition.kind? operator = some .unary || operator = "-N".toList then
    let operand ← take last
    if operator = "-t".toList then discard (integer operand)
    return Shell.Condition.unary tree operator operand
  else throw (cited operator ++ ": unary operator expected".toList)

def one : Reader Bool := do return !(← take last).isEmpty

def two : Reader Bool := do
  match ← get with
  | t :: _ =>
      if t = ['!'] then
        discard (take last)
        return !(← one last)
      else if isUnary t then unary tree last
      else beyond last
  | [] => beyond last

/-- Three arguments, with how to read statements. -/
def three (general : Reader Bool) : Reader Bool := do
  match ← get with
  | a :: b :: c :: _ =>
      if isBinary b then binary tree last
      else if a = ['!'] then
        discard (take last)
        return !(← two tree last)
      else if a = ['('] && c = [')'] then
        discard (take last)
        let answer ← one last
        discard (take last)
        return answer
      else if b = "-a".toList || b = "-o".toList then general
      else throw (cited b ++ ": binary operator expected".toList)
  | _ => beyond last

/-- So many arguments, with how to read statements. -/
def counted (general : Reader Bool) (count : Nat) : Reader Bool := do
  match count, ← get with
  | 0, _ => beyond last
  | 1, _ => one last
  | 2, _ => two tree last
  | 3, _ => three tree last general
  | 4, a :: _ :: _ :: d :: _ =>
      if a = ['!'] then
        discard (take last)
        return !(← three tree last general)
      else if a = ['('] && d = [')'] then
        discard (take last)
        let answer ← two tree last
        discard (take last)
        return answer
      else general
  | _, _ => general

/-- The number of arguments before a closing parenthesis, or all if it is far away. -/
def innerCount (arguments : List Text) : Nat :=
  match (arguments.take 5).tail.findIdx? (· = [')']) with
  | some i => i + 1
  | none => arguments.length

mutual

/-- Alternatives of statements, so deep at most. -/
def general : Nat → Reader Bool
  | 0 => return false
  | fuel + 1 => do
      if (← get).isEmpty then beyond last
      let a ← conjunction fuel
      if (← get).head? = some "-o".toList then
        discard (take last)
        let b ← general fuel
        return a || b
      else return a

def conjunction : Nat → Reader Bool
  | 0 => return false
  | fuel + 1 => do
      let a ← statement fuel
      if (← get).head? = some "-a".toList then
        discard (take last)
        let b ← conjunction fuel
        return a && b
      else return a

def statement : Nat → Reader Bool
  | 0 => return false
  | fuel + 1 => do
      match ← get with
      | [] => beyond last
      | t :: rest =>
          if t = ['!'] then
            discard (take last)
            if rest.isEmpty then beyond last
            return !(← statement fuel)
          else if t = ['('] then
            discard (take last)
            if rest.isEmpty then beyond last
            let answer ← counted tree last (general fuel) (innerCount rest)
            match ← get with
            | [] => throw (cited [')'] ++ " expected".toList)
            | close :: _ =>
                if close = [')'] then
                  discard (take last)
                  return answer
                else throw (cited [')'] ++ " expected, found ".toList ++ close)
          else if rest.length ≥ 2 && isBinary (rest.headD []) then binary tree last
          else if isUnary t then unary tree last
          else one last

end

end

/-- **Whether arguments hold.** -/
def holds (tree : FileTree) (arguments : List Text) : Except Text Bool :=
  if arguments.isEmpty then .ok false
  else
    let last := arguments.getLast?.getD []
    let reader := counted tree last (general tree last (4 * arguments.length + 8)) arguments.length
    match reader.run arguments with
    | .error e => .error e
    | .ok (answer, []) => .ok answer
    | .ok (_, extra :: _) => .error ("extra argument ".toList ++ cited extra)

end Truth

/-- Asks a condition, which may have to end with a bracket. -/
def testAs (name : String) : Utility := fun _ arguments => do
  let tree ← Job.tree
  let isBracket := name = "["
  if isBracket && arguments.getLast? != some [']'] then
    complain name ("missing ']'".toList)
    return 2
  else match Truth.holds tree (if isBracket then arguments.dropLast else arguments) with
    | .ok answer => return if answer then 0 else 1
    | .error message =>
        complain name message
        return 2

end SwiftExistential.Utility
