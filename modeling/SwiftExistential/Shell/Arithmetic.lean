import SwiftExistential.Shell.State
import SwiftExistential.Text.Number

/-!
# Arithmetic of the shell

Whole numbers of 64 bits, variables, assignments and the usual operators. An expression is read and
evaluated at once; where a condition or a shortcut leaves a part out, the part is read but has no
effect.

The text is cut into tokens first. Each level of operators is a function of the tokens that are left
and of a flag that says whether anything has an effect; it returns a number and the tokens behind
it. All levels with two operands are one function, `binary`, which is told how loosely the operators
before it bind. A division by zero and a text that is no expression are failures of the shell.
-/

set_option autoImplicit false

namespace SwiftExistential.Shell.Arithmetic

/-- A token of an expression. -/
inductive Token where
  | number (value : Int)
  | name (name : Text)
  | mark (text : String)
  /-- A character that means nothing. -/
  | strange
deriving DecidableEq, Repr

/-- The marks, longer ones first. -/
def marks : List String :=
  ["<<=", ">>=", "==", "!=", "<=", ">=", "<<", ">>", "&&", "||", "+=", "-=", "*=", "/=", "%=", "&=",
    "|=", "^=", "=", "<", ">", "&", "|", "!", "(", ")", "*", "/", "%", "+", "-", "~", "^", "?", ":"]

def mark? (t : Text) : Option (String × Text) :=
  marks.findSome? fun m => (Text.dropPart? m.toList t).map fun rest => (m, rest)

/-- The tokens of a text of so many characters at most. -/
def tokensFrom : Nat → Text → List Token
  | 0, _ => []
  | _, [] => []
  | fuel + 1, c :: rest =>
      if c == ' ' || c == '\t' || c == '\n' then tokensFrom fuel rest
      else if c.isDigit then
        let found := Number.read 0 (c :: rest)
        .number found.value :: tokensFrom fuel found.rest
      else if isNameStart c then
        let name := (c :: rest).takeWhile isNameChar
        .name name :: tokensFrom fuel ((c :: rest).drop name.length)
      else match mark? (c :: rest) with
        | some (m, rest') => .mark m :: tokensFrom fuel rest'
        | none => .strange :: tokensFrom fuel rest

def looseness? : String → Option Nat
  | "*" | "/" | "%" => some 0
  | "+" | "-" => some 1
  | "<<" | ">>" => some 2
  | "<" | "<=" | ">" | ">=" => some 3
  | "==" | "!=" => some 4
  | "&" => some 5
  | "^" => some 6
  | "|" => some 7
  | _ => none

def ofBool (b : Bool) : Int := if b then 1 else 0

/-- Applies an operation to the bits of two numbers. -/
def onBits (f : BitVec 64 → BitVec 64 → BitVec 64) (a b : Int) : Int :=
  (f (BitVec.ofInt 64 a) (BitVec.ofInt 64 b)).toInt

/-- The result of an operator. There is none for a division by zero. -/
def combine? (operator : String) (a b : Int) : Option Int :=
  match operator with
  | "*" => some (Number.wrap (a * b))
  | "/" => if b = 0 then none else some (Number.wrap (Int.tdiv a b))
  | "%" => if b = 0 then none else some (Int.tmod a b)
  | "+" => some (Number.wrap (a + b))
  | "-" => some (Number.wrap (a - b))
  | "<<" => some (onBits (fun x _ => x <<< (b % 64).toNat) a b)
  | ">>" => some (onBits (fun x _ => x.sshiftRight (b % 64).toNat) a b)
  | "<" => some (ofBool (a < b))
  | "<=" => some (ofBool (a ≤ b))
  | ">" => some (ofBool (a > b))
  | ">=" => some (ofBool (a ≥ b))
  | "==" => some (ofBool (a == b))
  | "!=" => some (ofBool (a != b))
  | "&" => some (onBits (· &&& ·) a b)
  | "^" => some (onBits (· ^^^ ·) a b)
  | _ => some (onBits (· ||| ·) a b)

def assignedOperator? : String → Option String
  | "+=" => some "+"
  | "-=" => some "-"
  | "*=" => some "*"
  | "/=" => some "/"
  | "%=" => some "%"
  | "<<=" => some "<<"
  | ">>=" => some ">>"
  | "&=" => some "&"
  | "|=" => some "|"
  | "^=" => some "^"
  | _ => none

/-- The value of a text that stands for a number. -/
def numberOf (t : Text) : Action Int := do
  let found := Number.read 0 t
  if found.isCut || !(found.rest.dropWhile Number.isSpace).isEmpty then Action.illegalNumber t
  else return found.value

def valueOf (name : Text) : Action Int := do
  numberOf ((← Action.value? name).getD [])

section

/- The expression as it is written, for messages. -/
variable (source : Text)

/-- Fails because of a mistake in the expression. -/
def mistake {α : Type} (message : String) : Action α :=
  Action.fail ["arithmetic expression".toList, message.toList, '"' :: source ++ ['"']]

def apply (operator : String) (a b : Int) : Action Int :=
  match combine? operator a b with
  | some n => return n
  | none => mistake source "division by zero"

abbrev Result := Action (Int × List Token)

mutual

/-- A value, or an assignment. With `isIdle`, nothing has an effect. -/
def assignment : Nat → Bool → List Token → Result
  | 0, _, _ => mistake source "expecting primary"
  | fuel + 1, isIdle, .name name :: .mark m :: rest => do
      if m = "=" then
        let (value, rest) ← assignment fuel isIdle rest
        if !isIdle then Action.assign name (Number.shown value)
        return (value, rest)
      else match assignedOperator? m with
        | some operator =>
            let (value, rest) ← assignment fuel isIdle rest
            if isIdle then return (value, rest)
            else
              let result ← apply source operator (← valueOf name) value
              Action.assign name (Number.shown result)
              return (result, rest)
        | none => conditional fuel isIdle (.name name :: .mark m :: rest)
  | fuel + 1, isIdle, tokens => conditional fuel isIdle tokens

/-- A condition with two values, or one value. -/
def conditional : Nat → Bool → List Token → Result
  | 0, _, _ => mistake source "expecting primary"
  | fuel + 1, isIdle, tokens => do
      let (a, rest) ← disjunction fuel isIdle tokens
      match rest with
      | .mark "?" :: rest =>
          let (b, rest) ← assignment fuel (isIdle || a == 0) rest
          match rest with
          | .mark ":" :: rest =>
              let (c, rest) ← conditional fuel (isIdle || a != 0) rest
              return (if a != 0 then b else c, rest)
          | _ => mistake source "expecting ':'"
      | rest => return (a, rest)

def disjunction : Nat → Bool → List Token → Result
  | 0, _, _ => mistake source "expecting primary"
  | fuel + 1, isIdle, tokens => do
      let (a, rest) ← conjunction fuel isIdle tokens
      match rest with
      | .mark "||" :: rest =>
          let (b, rest) ← disjunction fuel (isIdle || a != 0) rest
          return (ofBool (a != 0 || b != 0), rest)
      | rest => return (a, rest)

def conjunction : Nat → Bool → List Token → Result
  | 0, _, _ => mistake source "expecting primary"
  | fuel + 1, isIdle, tokens => do
      let (a, rest) ← primary fuel isIdle tokens
      let (a, rest) ← binary fuel isIdle 8 a rest
      match rest with
      | .mark "&&" :: rest =>
          let (b, rest) ← conjunction fuel (isIdle || a == 0) rest
          return (ofBool (a != 0 && b != 0), rest)
      | rest => return (a, rest)

/-- Operators behind a first value, up to one that binds more loosely. -/
def binary : Nat → Bool → Nat → Int → List Token → Result
  | 0, _, _, _, _ => mistake source "expecting primary"
  | fuel + 1, isIdle, bound, a, tokens => do
      match tokens with
      | .mark m :: rest =>
          match looseness? m with
          | some l =>
              if l < bound then
                let (b, rest) ← primary fuel isIdle rest
                let (b, rest) ← binary fuel isIdle l b rest
                let value ← if isIdle then pure b else apply source m a b
                binary fuel isIdle bound value rest
              else return (a, tokens)
          | none => return (a, tokens)
      | _ => return (a, tokens)

/-- A number, a variable, or an expression with a sign or in parentheses. -/
def primary : Nat → Bool → List Token → Result
  | 0, _, _ => mistake source "expecting primary"
  | fuel + 1, isIdle, tokens => do
      match tokens with
      | .number n :: rest => return (n, rest)
      | .name name :: rest =>
          let value ← if isIdle then pure 0 else valueOf name
          return (value, rest)
      | .mark "(" :: rest =>
          let (value, rest) ← assignment fuel isIdle rest
          match rest with
          | .mark ")" :: rest => return (value, rest)
          | _ => mistake source "expecting ')'"
      | .mark "+" :: rest => primary fuel isIdle rest
      | .mark "-" :: rest =>
          let (n, rest) ← primary fuel isIdle rest
          return (Number.wrap (-n), rest)
      | .mark "!" :: rest =>
          let (n, rest) ← primary fuel isIdle rest
          return (ofBool (n == 0), rest)
      | .mark "~" :: rest =>
          let (n, rest) ← primary fuel isIdle rest
          return (-n - 1, rest)
      | _ => mistake source "expecting primary"

end

/-- **The value of an expression.** -/
def evaluate : Action Int := do
  let (value, rest) ← assignment source (8 * source.length + 16) false (tokensFrom source.length source)
  if rest.isEmpty then return value else mistake source "expecting EOF"

end

end SwiftExistential.Shell.Arithmetic
