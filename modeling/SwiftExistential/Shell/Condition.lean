import SwiftExistential.Process.Machine
import SwiftExistential.Text.Number

/-!
# Conditions

What the arguments of `test` say about texts, numbers and files. An argument that looks like an
operator is one only where an operator can stand, so what an argument means depends on the arguments
behind it.

A condition is a job, because it may ask for files. It is read and decided at once, from the loosest
operator to single statements, and a mistake in it ends the reading. A pair of parentheses around
all arguments, and a negation of all of them, are treated before the rest.
-/

set_option autoImplicit false

namespace SwiftExistential.Shell.Condition

/-- The kinds of operators. -/
inductive Kind where
  | unary
  | binary
  | not
  | and
  | or
  | opening
  | closing
deriving DecidableEq, Repr

/-- The kind of operator that an argument can be. -/
def kind? (t : Text) : Option Kind :=
  match String.ofList t with
  | "-r" | "-w" | "-x" | "-e" | "-f" | "-d" | "-c" | "-b" | "-p" | "-u" | "-g" | "-k" | "-s" | "-t"
  | "-z" | "-n" | "-h" | "-O" | "-G" | "-L" | "-S" => some .unary
  | "=" | "!=" | "<" | ">" | "-eq" | "-ne" | "-ge" | "-gt" | "-le" | "-lt" | "-nt" | "-ot" | "-ef" =>
      some .binary
  | "!" => some .not
  | "-a" => some .and
  | "-o" => some .or
  | "(" => some .opening
  | ")" => some .closing
  | _ => none

/-- Why arguments are no condition. -/
inductive Mistake where
  | missingOperand (operator : Text)
  | notNumber (argument : Text)
  | missingParenthesis
  /-- There is more behind an argument than it can have. -/
  | surplus (argument : Text)
  | missingBracket
deriving DecidableEq, Repr

def Mistake.message : Mistake → List Text
  | missingOperand operator => [operator, "argument expected".toList]
  | notNumber argument => ["Illegal number".toList, argument]
  | missingParenthesis => ["closing paren expected".toList]
  | surplus argument =>
      if argument.isEmpty then ["unexpected operator".toList]
      else [argument, "unexpected operator".toList]
  | missingBracket => ["missing ]".toList]

section

/- The tree that files are looked up in. -/
variable (tree : FileTree)

/-- What stands at the end of a path, links followed. -/
def node? (path : Text) : Option (Location × Node) :=
  (tree.find (Octets.toText path)).toOption

/-- Whether the mode of what a path leads to has a bit. -/
def hasBit (bit : Nat) (path : Text) : Bool :=
  match node? tree path with
  | some (location, _) => tree.modeAt location &&& bit != 0
  | none => false

def changed? (path : Text) : Option Int :=
  (node? tree path).map fun (location, _) => (tree.recordAt location).modified

def unary (operator : Text) (operand : Text) : Bool :=
  let node := (node? tree operand).map Prod.snd
  match String.ofList operator with
  | "-n" => !operand.isEmpty
  | "-z" => operand.isEmpty
  | "-e" | "-r" | "-w" | "-O" | "-G" => node.isSome
  | "-f" => match node with
      | some (.file ..) => true
      | _ => false
  | "-d" => match node with
      | some .directory => true
      | _ => false
  | "-c" => match node with
      | some .device => true
      | _ => false
  | "-s" => match node with
      | some (.file bytes _) => bytes.size != 0
      | some .directory => true
      | _ => false
  | "-x" => match node with
      | some (.file _ mode) => mode &&& 0o111 != 0
      | some .directory => true
      | _ => false
  | "-u" => hasBit tree 0o4000 operand
  | "-g" => hasBit tree 0o2000 operand
  | "-k" => hasBit tree 0o1000 operand
  | "-L" | "-h" => match tree.locate false (Octets.toText operand) with
      | .ok ⟨_, some (.link _)⟩ => true
      | _ => false
  | _ => false

def number (t : Text) : Except Mistake Int :=
  match Number.whole? 10 t with
  | some n => .ok n
  | none => .error (.notNumber t)

def binary (operator a b : Text) : Except Mistake Bool :=
  let numbers := fun (holds : Int → Int → Bool) => do return holds (← number a) (← number b)
  match String.ofList operator with
  | "=" => .ok (a == b)
  | "!=" => .ok (a != b)
  | "<" => .ok ((compare a b).isLT)
  | ">" => .ok ((compare a b).isGT)
  | "-eq" => numbers (· == ·)
  | "-ne" => numbers (· != ·)
  | "-lt" => numbers fun x y => decide (x < y)
  | "-le" => numbers fun x y => decide (x ≤ y)
  | "-gt" => numbers fun x y => decide (x > y)
  | "-ge" => numbers fun x y => decide (x ≥ y)
  | "-ef" => .ok (match node? tree a, node? tree b with
      | some (p, _), some (q, _) => (tree.namesOf p).contains q
      | _, _ => false)
  | "-nt" => .ok (match changed? tree a, changed? tree b with
      | some x, some y => decide (x > y)
      | _, _ => false)
  | "-ot" => .ok (match changed? tree a, changed? tree b with
      | some x, some y => decide (x < y)
      | _, _ => false)
  | _ => .ok false

/-- What the first of some arguments is. -/
inductive Token where
  | nothing
  | operand
  | operator (kind : Kind)
deriving DecidableEq, Repr

/-- Whether an argument before others is an operand although it looks like a unary operator. -/
def isOperand : List Text → Bool
  | [] => true
  | [_] => false
  | next :: _ => kind? next == some .binary

def token : List Text → Token
  | [] => .nothing
  | t :: rest =>
      match kind? t with
      | some .unary => if isOperand rest then .operand else .operator .unary
      | some .opening => if rest.isEmpty then .operand else .operator .opening
      | some kind => .operator kind
      | none => .operand

/-- A truth value, and the arguments from the last one that was read. -/
abbrev Result := Except Mistake (Bool × List Text)

mutual

def disjunction : Nat → List Text → Result
  | 0, arguments => .ok (false, arguments)
  | fuel + 1, arguments => do
      let (a, last) ← conjunction fuel arguments
      if token (last.drop 1) = .operator .or then
        let (b, last) ← disjunction fuel (last.drop 2)
        return (a || b, last)
      else return (a, last)

def conjunction : Nat → List Text → Result
  | 0, arguments => .ok (false, arguments)
  | fuel + 1, arguments => do
      let (a, last) ← negation fuel arguments
      if token (last.drop 1) = .operator .and then
        let (b, last) ← conjunction fuel (last.drop 2)
        return (a && b, last)
      else return (a, last)

def negation : Nat → List Text → Result
  | 0, arguments => .ok (false, arguments)
  | fuel + 1, arguments => do
      if token arguments = .operator .not then
        let next := arguments.drop 1
        if next.isEmpty then
          let (a, _) ← negation fuel next
          return (!a, arguments)
        else
          let (a, last) ← negation fuel next
          return (!a, last)
      else statement fuel arguments

/-- One statement. An argument that stands alone holds if it is not empty. -/
def statement : Nat → List Text → Result
  | 0, arguments => .ok (false, arguments)
  | fuel + 1, arguments => do
      match token arguments, arguments with
      | .nothing, _ => return (false, arguments)
      | .operator .opening, _ :: inner =>
          if token inner = .operator .closing then return (false, inner)
          else
            let (a, last) ← disjunction fuel inner
            if token (last.drop 1) = .operator .closing then return (a, last.drop 1)
            else throw .missingParenthesis
      | .operator .unary, operator :: rest =>
          match rest with
          | [] => throw (.missingOperand operator)
          | operand :: _ =>
              if operator = "-t".toList then discard (number operand)
              return (unary tree operator operand, rest)
      | _, a :: operator :: rest =>
          if token (operator :: rest) = .operator .binary then
            match rest with
            | [] => throw (.missingOperand operator)
            | b :: _ => return (← binary tree operator a b, rest)
          else return (!a.isEmpty, arguments)
      | _, a :: _ => return (!a.isEmpty, arguments)
      | _, [] => return (false, arguments)

end

/-- Whether arguments hold that may be negated, or in parentheses, as a whole. -/
def holdsFrom : Nat → Bool → List Text → Except Mistake Bool
  | 0, isNegated, _ => .ok isNegated
  | fuel + 1, isNegated, arguments =>
      let general := fun (arguments : List Text) => do
        let (a, last) ← disjunction tree (4 * arguments.length + 8) arguments
        match last with
        | t :: _ :: _ => throw (Mistake.surplus t)
        | _ => return (a != isNegated)
      match arguments with
      | [] => .ok isNegated
      | [a, operator, b] =>
          if kind? operator = some .binary then do
            return (← binary tree operator a b) != isNegated
          else if a = ['('] && b = [')'] then general [operator]
          else if a = ['!'] then holdsFrom fuel (!isNegated) [operator, b]
          else general arguments
      | [a, b, c, d] =>
          if a = ['('] && d = [')'] then general [b, c]
          else if a = ['!'] then holdsFrom fuel (!isNegated) [b, c, d]
          else general arguments
      | arguments => general arguments

/-- **Whether arguments hold.** -/
def holds (arguments : List Text) : Except Mistake Bool := holdsFrom tree 4 false arguments

end

end SwiftExistential.Shell.Condition
