import SwiftExistential.Expression.Basic
import SwiftExistential.Text.Number
import SwiftExistential.Utility.Awk.Value

/-!
# The programs of awk

The form of a pattern program: its rules, its functions, its statements and its expressions, with
the patterns that stand in it. The readers return this form and the runner takes it, so the two do
not know each other.

Statements and expressions are trees. A name is either shared by the whole program or a parameter of
the function around it, which is known by its number; whether it is a table is settled when the
program is read.
-/

set_option autoImplicit false

/-! ## Patterns of pattern programs

The expressions of a pattern program have their own rules: each operator stands without a backslash,
a backslash gives a character by its code, and an operator needs something to work on. -/

namespace SwiftExistential.Utility.Awk.Pattern

/-- What is wrong with a text that is no pattern. -/
inductive Mistake where
  | missingOperand
  | missingClosing
  | wrongClass
  | wrongCount
  | repeatedEdge
  | tooLarge
deriving DecidableEq, Repr

def Mistake.message : Mistake → String
  | missingOperand => "missing operand"
  | missingClosing => "missing ')'"
  | wrongClass => "bad class -- [], [^] or ["
  | wrongCount => "bad interval expression"
  | repeatedEdge => "syntax error ^* or ^+"
  | tooLarge => "resource exhaustion -- regular expression too large"

/-- The character that a letter behind a backslash stands for. -/
def letterEscape? : Char → Option Char
  | '"' => some '"'
  | '\\' => some '\\'
  | '/' => some '/'
  | 'a' => some '\x07'
  | 'b' => some '\x08'
  | 'f' => some '\x0c'
  | 'n' => some '\n'
  | 'r' => some '\r'
  | 't' => some '\t'
  | 'v' => some '\x0b'
  | _ => none

/-- The character that digits behind a backslash stand for, and what follows. -/
def codeEscape? (t : Text) : Option (Char × Text) :=
  match t with
  | 'x' :: rest =>
      let digits := (rest.take 2).takeWhile (Number.isDigit 16)
      if digits.isEmpty then none
      else some (Char.ofNat (Number.value 16 digits), rest.drop digits.length)
  | rest =>
      let digits := (rest.take 3).takeWhile (Number.isDigit 8)
      if digits.isEmpty then none
      else some (Char.ofNat (Number.value 8 digits % 256), rest.drop digits.length)

/-- The character behind a backslash, which hides what it means. -/
def escaped (t : Text) : Char × Text :=
  match codeEscape? t, t with
  | some found, _ => found
  | none, [] => ('\\', [])
  | none, c :: rest => ((letterEscape? c).getD c, rest)

/-! ### Classes -/

def classChar : Text → Char × Text
  | '\\' :: rest => escaped rest
  | c :: rest => (c, rest)
  | [] => ('\\', [])

/-- Reads choices up to the closing bracket, which can also be the first one. -/
def readChoices : Nat → Bool → Text → Except Mistake (List Choice × Text)
  | 0, _, _ => .error .wrongClass
  | _, _, [] => .error .wrongClass
  | fuel + 1, isFirst, t =>
      let single := do
        let (low, rest) := classChar t
        match rest with
        | '-' :: ']' :: after =>
            let (others, after) ← readChoices fuel false (']' :: after)
            pure (Choice.range low low :: .range '-' '-' :: others, after)
        | '-' :: more =>
            let (high, after) := classChar more
            let (others, after) ← readChoices fuel false after
            if high < low then
              pure (.range low low :: .range '-' '-' :: .range high high :: others, after)
            else pure (.range low high :: others, after)
        | rest =>
            let (others, after) ← readChoices fuel false rest
            pure (.range low low :: others, after)
      match t with
      | ']' :: rest => if isFirst then single else .ok ([], rest)
      | '[' :: ':' :: rest =>
          match Text.splitAtPart? [':', ']'] rest with
          | none => single
          | some (name, after) =>
              let name := String.ofList name
              if (Choice.classHolds? name 'a').isNone then .error .wrongClass
              else (readChoices fuel false after).map fun (others, after) => (.named name :: others, after)
      | _ => single

/-- Reads what follows an opening bracket. -/
def readClass (t : Text) : Except Mistake (Expression × Text) := do
  let (isNegated, inside) := match t with
    | '^' :: rest => (true, rest)
    | t => (false, t)
  let (choices, after) ← readChoices (inside.length + 1) true inside
  return (.oneOf isNegated choices, after)

/-! ### Repetitions -/

/-- The counts behind an opening brace, with what follows the closing one. If there have to be two
or more, a second count means nothing. -/
def counts? (t : Text) : Option (Nat × Option Nat × Text) :=
  let least := t.takeWhile Char.isDigit
  let value := Number.value 10
  match t.drop least.length with
  | '\x7d' :: rest => if least.isEmpty then none else some (value least, some (value least), rest)
  | ',' :: rest =>
      let most := rest.takeWhile Char.isDigit
      match rest.drop most.length with
      | '\x7d' :: after =>
          if least.isEmpty && most.isEmpty then none
          else some (value least, if most.isEmpty then none else some (value most), after)
      | _ => none
  | _ => none

def repetition? : Text → Option (Nat × Option Nat × Text)
  | '*' :: rest => some (0, none, rest)
  | '+' :: rest => some (1, none, rest)
  | '?' :: rest => some (0, some 1, rest)
  | '\x7b' :: rest => counts? rest
  | _ => none

def readRepetitions : Nat → Expression → Text → Except Mistake (Expression × Text)
  | 0, e, t => .ok (e, t)
  | fuel + 1, e, t =>
      match repetition? t with
      | none => .ok (e, t)
      | some (least, most, rest) =>
          if most.any (· < least) then .error .wrongCount
          else if e matches .edge .lineStart then .error .repeatedEdge
          else readRepetitions fuel (.repeated e least (if least ≥ 2 then some least else most)) rest

/-! ### Patterns

A single expression, a row of them, and alternatives of rows. The reader of groups is handed to the
reader of single expressions, and `readAt` closes the circle. -/

/-- Reads a single expression; a group is read by the reader that is given. -/
def readOne (depth : Nat) (group : Text → Except Mistake (Expression × Text)) (isFirst : Bool) (t : Text) :
    Except Mistake (Expression × Text) :=
  match t with
  | [] => .error (if depth = 0 then .missingOperand else .missingClosing)
  | '(' :: rest => group rest
  | '[' :: rest => readClass rest
  | '.' :: rest => .ok (.any, rest)
  | '^' :: rest => .ok (.edge .lineStart, rest)
  | '$' :: rest => .ok (.edge .lineEnd, rest)
  | '\\' :: rest =>
      let (c, rest) := escaped rest
      .ok (.exactly c, rest)
  | c :: rest =>
      if c == '\x7b' && (counts? rest).isSome then .error .tooLarge
      else if c == '*' || c == '+' || c == '?' || (c == '|' && isFirst) || (c == ')' && depth != 0) then
        .error .missingOperand
      else .ok (.exactly c, rest)

def endsRow (depth : Nat) (t : Text) : Bool :=
  match t with
  | [] => true
  | '|' :: _ => true
  | ')' :: _ => depth != 0
  | _ => false

/-- Reads a row of expressions, behind those that were read. -/
def readRow (depth : Nat) (group : Text → Except Mistake (Expression × Text)) :
    Nat → Option Expression → Text → Except Mistake (Expression × Text)
  | 0, _, _ => .error .tooLarge
  | fuel + 1, row, t =>
      match row, endsRow depth t with
      | some e, true => .ok (e, t)
      | row, _ => do
          let (single, rest) ← readOne depth group row.isNone t
          let (single, rest) ← readRepetitions (rest.length + 1) single rest
          readRow depth group fuel (some (row.elim single fun e => .sequence e single)) rest

def readAlternatives (row : Text → Except Mistake (Expression × Text)) :
    Nat → Expression → Text → Except Mistake (Expression × Text)
  | fuel + 1, e, '|' :: rest => do
      let (next, rest) ← row rest
      readAlternatives row fuel (.choice e next) rest
  | _, e, t => .ok (e, t)

/-- Reads a pattern in which groups may stand so deep in each other. -/
def readAt (depth : Nat) : Nat → Text → Except Mistake (Expression × Text)
  | 0, _ => .error .tooLarge
  | fuel + 1, t => do
      let group := fun (t : Text) => do
        let (e, rest) ← readAt (depth + 1) fuel t
        match rest with
        | ')' :: after => pure (e, after)
        | _ => throw Mistake.missingClosing
      let row := readRow depth group (t.length + 2) none
      let (e, rest) ← row t
      readAlternatives row (t.length + 1) e rest

/-- **Reads a pattern.** -/
def read (t : Text) : Except Mistake Expression :=
  if t.isEmpty then .ok .empty else (readAt 0 (t.length + 1) t).map Prod.fst

def manner : Expression.Manner := ⟨false, false⟩

/-- The first fit of a pattern in a text behind a character. -/
def find? (e : Expression) (before : Option Char) (t : Text) : Option Expression.Fit :=
  Expression.find? manner e before t

/-- Whether a pattern fits somewhere in a text. -/
def fits (e : Expression) (t : Text) : Bool := (find? e none t).isSome

end SwiftExistential.Utility.Awk.Pattern

/-! ## Pattern programs

A pattern program is a list of rules. A rule says what is done before the first record, for each
record that it fits, or behind the last one. -/

namespace SwiftExistential.Utility.Awk

/-- A name: it belongs to the whole program, or it is a parameter of the function around it. -/
inductive Name where
  | shared (t : Text)
  | own (index : Nat)
deriving DecidableEq, Repr

/-- The operators of arithmetic. -/
inductive Operator where
  | add | subtract | multiply | divide | remainder | power
deriving DecidableEq, Repr

/-- The functions that every program has. -/
inductive Builtin where
  | length | index | substr | sprintf | match' | split | sub | gsub | toUpper | toLower
  | sin | cos | atan2 | exp | log | sqrt | int | rand | srand
  | close | system | flush | now | timeText | timeNumber
deriving DecidableEq, Repr

/-- Where a record is read from. -/
inductive Origin where
  | files | file | command
deriving DecidableEq, Repr

/-- An expression that has a value. -/
inductive Expr where
  | number (x : Float)
  | text (t : Text)
  | pattern (e : Expression)
  | name (n : Name)
  | element (n : Name) (keys : List Expr)
  | field (index : Expr)
  | assign (target value : Expr)
  | update (o : Operator) (target value : Expr)
  /-- Adds or subtracts one; the value is the one after that, or the one before. -/
  | step (isBefore isUp : Bool) (target : Expr)
  | condition (test yes no : Expr)
  | either (a b : Expr)
  | both (a b : Expr)
  | not (a : Expr)
  | negative (a : Expr)
  | plus (a : Expr)
  | arithmetic (o : Operator) (a b : Expr)
  | compare (c : Comparison) (a b : Expr)
  | join (a b : Expr)
  | fits (isNegated : Bool) (a pattern : Expr)
  | has (keys : List Expr) (n : Name)
  | group (e : Expr)
  /-- Several expressions between parentheses, which only `print` can take. -/
  | several (es : List Expr)
  | call (function : Text) (arguments : List Expr)
  | builtin (b : Builtin) (arguments : List Expr)
  /-- Reads a record. The source is named by an expression, unless it is the files. -/
  | input (origin : Origin) (source target : Option Expr)

/-- Where a text is written. -/
inductive Direction where
  | file | append | command
deriving DecidableEq, Repr

/-- A step of a program. -/
inductive Statement where
  | nothing
  | expression (e : Expr)
  | print (values : List Expr) (direction : Option (Direction × Expr))
  | printf (values : List Expr) (direction : Option (Direction × Expr))
  | block (statements : List Statement)
  | if' (test : Expr) (yes : Statement) (no : Option Statement)
  | while' (test : Expr) (body : Statement)
  | doWhile (body : Statement) (test : Expr)
  | for' (start test step : Option Expr) (body : Statement)
  | forKeys (target : Name) (table : Name) (body : Statement)
  | next
  | nextFile
  | exit (status : Option Expr)
  | return' (value : Option Expr)
  | break'
  | continue'
  | delete (n : Name) (keys : List Expr)
  | clear (n : Name)

/-- When a rule applies. -/
inductive Occasion where
  | start
  | finish
  | always
  | holds (e : Expr)
  | range (first last : Expr)

structure Rule where
  occasion : Occasion
  /-- Without a body, the record is printed. -/
  body : Option Statement

/-- A function of a program. -/
structure Function where
  /-- For each parameter, whether it is a table. -/
  tables : List Bool
  body : Statement

structure Program where
  rules : List Rule
  functions : List (Text × Function)
  /-- The names that are tables. -/
  tables : List Text

namespace Expr

/-- Whether a value can be assigned to an expression. -/
def isTarget : Expr → Bool
  | name _ | element .. | field _ => true
  | _ => false

end Expr

end SwiftExistential.Utility.Awk
