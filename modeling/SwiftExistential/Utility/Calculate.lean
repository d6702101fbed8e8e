import SwiftExistential.Expression.Reader
import SwiftExistential.Shell.Format
import SwiftExistential.Utility.Options

/-!
# Calculating with arguments

`expr` reads its arguments as a term of numbers and texts and prints the value. The status tells
whether the value is empty or zero.

Each argument is a token of its own. An operator where a value has to stand is a text, and so is any
argument behind a plus sign in such a place. All levels of operators are read by one function,
`chain`, that is given the reader of the next level. Where one side decides already, the other is
read but not computed.
-/

set_option autoImplicit false

namespace SwiftExistential.Utility

open Process

/-! ## Terms -/

namespace Term

/-- Why a term has no value. -/
inductive Mistake where
  | nothingAfter (t : Text)
  | noClosingAfter (t : Text)
  | noClosingBut (t : Text)
  | unexpectedClosing
  | unexpected (t : Text)
  | notWhole
  | zeroDivision
  | wrongExpression (m : Expression.Mistake)

def Mistake.message : Mistake → Text × Nat
  | nothingAfter t => ("syntax error: missing argument after ".toList ++ cited t, 2)
  | noClosingAfter t => ("syntax error: expecting ')' after ".toList ++ cited t, 2)
  | noClosingBut t => ("syntax error: expecting ')' instead of ".toList ++ cited t, 2)
  | unexpectedClosing => ("syntax error: unexpected ')'".toList, 2)
  | unexpected t => ("syntax error: unexpected argument ".toList ++ cited t, 2)
  | notWhole => ("non-integer argument".toList, 2)
  | zeroDivision => ("division by zero".toList, 2)
  | wrongExpression m => (m.message.toList, 2)

def whole? (t : Text) : Option Int :=
  match t with
  | '-' :: digits =>
      if !digits.isEmpty && digits.all (Number.isDigit 10) then some (-(Number.value 10 digits : Int)) else none
  | digits =>
      if !digits.isEmpty && digits.all (Number.isDigit 10) then some (Number.value 10 digits : Int) else none

def isNull (t : Text) : Bool :=
  match t with
  | '-' :: digits => !digits.isEmpty && digits.all (· == '0')
  | t => t.all (· == '0')

/-- What is left of the arguments, and the one before it. -/
structure Source where
  rest : List Text
  previous : Text

abbrev Reader := StateT Source (Except Mistake)

def peek : Reader (Option Text) := do return (← get).rest.head?

def take : Reader Text := do
  match (← get).rest with
  | [] => throw (.nothingAfter (← get).previous)
  | t :: rest =>
      set (⟨rest, t⟩ : Source)
      return t

def arithmetic (operator : Text) (a b : Text) : Except Mistake Text :=
  match whole? a, whole? b with
  | some x, some y =>
      match String.ofList operator with
      | "+" => .ok (Number.shown (x + y))
      | "-" => .ok (Number.shown (x - y))
      | "*" => .ok (Number.shown (x * y))
      | "/" => if y = 0 then .error .zeroDivision else .ok (Number.shown (Int.tdiv x y))
      | _ => if y = 0 then .error .zeroDivision else .ok (Number.shown (Int.tmod x y))
  | _, _ => .error .notWhole

def comparison (operator : Text) (a b : Text) : Text :=
  let order := match whole? a, whole? b with
    | some x, some y => compare x y
    | _, _ => compare a b
  let holds : Bool := match String.ofList operator with
    | "<" => order == .lt
    | "<=" => order.isLE
    | "=" | "==" => order == .eq
    | "!=" => order != .eq
    | ">=" => order.isGE
    | _ => order == .gt
  if holds then ['1'] else ['0']

/-- The fit of an expression at the start of a text: its length, or the text of its group. -/
def fit (subject expression : Text) : Except Mistake Text :=
  match Expression.read .basic expression with
  | .error m => .error (.wrongExpression m)
  | .ok e =>
      let hasGroup := (Text.splitAtPart? ['\\', '('] expression).isSome
      match Expression.fitHere? ⟨false, false⟩ e none subject with
      | some f => .ok (if hasGroup then f.group 1 else shownNat f.taken.length)
      | none => .ok (if hasGroup then [] else ['0'])

/-- The part of a text that two numbers ask for. -/
def part (t position length : Text) : Text :=
  match whole? position, whole? length with
  | some p, some l => if p < 1 || l < 1 then [] else (t.drop (p.toNat - 1)).take l.toNat
  | _, _ => []

def place (t chars : Text) : Text :=
  let before := t.takeWhile fun c => !chars.contains c
  shownNat (if before.length < t.length then before.length + 1 else 0)

def result (isWanted : Bool) (r : Except Mistake Text) : Reader Text :=
  if isWanted then liftExcept r else return []
where
  /-- The result of a step in a reader. -/
  liftExcept (r : Except Mistake Text) : Reader Text := fun s => r.map (·, s)

/-- The operators of the levels, the loosest first. -/
def levels : List (List String) :=
  [["|"], ["&"], ["<", "<=", "=", "==", "!=", ">=", ">"], ["+", "-"], ["*", "/", "%"], [":"]]

/-- Joins two values by an operator. -/
def join (isWanted : Bool) (operator a b : Text) : Reader Text :=
  match String.ofList operator with
  | "|" => return if !isNull a then a else if isNull b then ['0'] else b
  | "&" => return if isNull a || isNull b then ['0'] else a
  | ":" => result isWanted (fit a b)
  | "+" | "-" | "*" | "/" | "%" => result isWanted (arithmetic operator a b)
  | _ => return if isWanted then comparison operator a b else []

/-- Reads a term of a level, given how the terms of the next level are read. -/
def chain (next : Bool → Reader Text) (operators : List String) (isWanted : Bool) :
    Nat → Text → Reader Text
  | 0, value => return value
  | fuel + 1, value => do
      match ← peek with
      | none => return value
      | some t =>
          if operators.contains (String.ofList t) then
            let operator ← take
            let skips := match String.ofList operator with
              | "|" => !isNull value
              | "&" => isNull value
              | _ => false
            let second ← next (isWanted && !skips)
            let value ← join isWanted operator value second
            chain next operators isWanted fuel value
          else return value

mutual

/-- Reads a value: a function, a term in parentheses or an argument. -/
def value : Nat → Bool → Reader Text
  | 0, _ => do throw (.unexpected (← take))
  | fuel + 1, isWanted => do
      let t ← take
      match String.ofList t with
      | "(" => do
          let inside ← level fuel isWanted levels
          match ← peek with
          | none => throw (.noClosingAfter (← get).previous)
          | some t =>
              if t = [')'] then
                discard take
                return inside
              else throw (.noClosingBut t)
      | ")" => throw .unexpectedClosing
      | "+" => take
      | "length" => do
          let t ← value fuel isWanted
          return shownNat t.length
      | "match" => do
          let a ← value fuel isWanted
          let b ← value fuel isWanted
          result isWanted (fit a b)
      | "index" => do
          let a ← value fuel isWanted
          let b ← value fuel isWanted
          return place a b
      | "substr" => do
          let a ← value fuel isWanted
          let b ← value fuel isWanted
          let c ← value fuel isWanted
          return part a b c
      | _ => return t

def level : Nat → Bool → List (List String) → Reader Text
  | 0, isWanted, _ => do
      discard (pure isWanted)
      throw (.unexpected (← take))
  | fuel + 1, isWanted, [] => value fuel isWanted
  | fuel + 1, isWanted, operators :: rest => do
      let next := fun (isWanted : Bool) => level fuel isWanted rest
      let first ← next isWanted
      chain next operators isWanted ((← get).rest.length + 1) first

end

def evaluate (arguments : List Text) : Except Mistake Text :=
  match (level (10 * arguments.length + 20) true levels).run ⟨arguments, []⟩ with
  | .error e => .error e
  | .ok (t, ⟨[], _⟩) => .ok t
  | .ok (_, ⟨extra :: _, _⟩) => .error (.unexpected extra)

end Term

def expr : Utility := fun _ arguments => do
  let arguments := if arguments.head? = some "--".toList then arguments.tail else arguments
  if arguments.isEmpty then misuse { name := "expr", letters := "", mistake := 2 } "missing operand".toList
  else match Term.evaluate arguments with
    | .ok t =>
        Job.putLine t
        return if Term.isNull t then 1 else 0
    | .error mistake =>
        let (message, status) := mistake.message
        complain "expr" message
        return status

end SwiftExistential.Utility
