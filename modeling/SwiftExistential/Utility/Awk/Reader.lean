import SwiftExistential.Utility.Awk.Source

/-!
# Reading pattern programs

From tokens to a pattern program. Of the operators, those of a field bind first and assignments
last. Outside of parentheses, a sign of comparison or a bar in what is printed says where it goes,
so the readers of expressions are told where they stand.

A mistake does not end the reading at once. It is noted, tokens are passed over up to the next
statement or block, and reading goes on; a program with notes is not run. The number of messages has
a limit.

What a name stands for, a value or a table, is often known only from a call further on. The calls
are kept, and are compared with the definitions at the end.
-/

set_option autoImplicit false

namespace SwiftExistential.Utility.Awk.Reader

/-! ## Operators

Three tables: operators between expressions, of arithmetic, and of assignment, each with how
strongly it binds. -/

/-- The operators between expressions that are not joined, from the weakest on. -/
def betweenOf? (printed : Bool) : Token → Option (Nat × (Expr → Expr → Expr))
  | .mark "||" => some (2, .either)
  | .mark "&&" => some (3, .both)
  | .mark "~" => some (5, .fits false)
  | .mark "!~" => some (5, .fits true)
  | .mark "==" => some (6, .compare .equal)
  | .mark "!=" => some (6, .compare .unequal)
  | .mark "<" => some (6, .compare .less)
  | .mark "<=" => some (6, .compare .lessEqual)
  | .mark ">" => if printed then none else some (6, .compare .greater)
  | .mark ">=" => some (6, .compare .greaterEqual)
  | _ => none

/-- The operators of arithmetic, with how they bind on both sides. -/
def operatorOf? : Token → Option (Nat × Nat × Operator)
  | .mark "+" => some (10, 11, .add)
  | .mark "-" => some (10, 11, .subtract)
  | .mark "*" => some (20, 21, .multiply)
  | .mark "/" => some (20, 21, .divide)
  | .mark "%" => some (20, 21, .remainder)
  | .mark "^" => some (40, 40, .power)
  | _ => none

def assignmentOf? : Token → Option (Expr → Expr → Expr)
  | .mark "=" => some .assign
  | .mark "+=" => some (.update .add)
  | .mark "-=" => some (.update .subtract)
  | .mark "*=" => some (.update .multiply)
  | .mark "/=" => some (.update .divide)
  | .mark "%=" => some (.update .remainder)
  | .mark "^=" => some (.update .power)
  | _ => none

/-- Whether an expression that is joined to the one before can start with a token. -/
def startsValue : Token → Bool
  | .number .. | .text _ | .pattern _ | .name .. | .builtin _ => true
  | .keyword k => k == "getline"
  | .mark m => m == "(" || m == "$" || m == "!" || m == "++" || m == "--"
  | _ => false

/-- A function, with the fewest and the most arguments. -/
def builtinOf? : String → Option (Builtin × Nat × Nat)
  | "length" => some (.length, 0, 1)
  | "index" => some (.index, 2, 2)
  | "substr" => some (.substr, 2, 3)
  | "sprintf" => some (.sprintf, 1, 255)
  | "match" => some (.match', 2, 2)
  | "split" => some (.split, 2, 3)
  | "sub" => some (.sub, 2, 3)
  | "gsub" => some (.gsub, 2, 3)
  | "toupper" => some (.toUpper, 1, 1)
  | "tolower" => some (.toLower, 1, 1)
  | "sin" => some (.sin, 1, 1)
  | "cos" => some (.cos, 1, 1)
  | "atan2" => some (.atan2, 2, 2)
  | "exp" => some (.exp, 1, 1)
  | "log" => some (.log, 1, 1)
  | "sqrt" => some (.sqrt, 1, 1)
  | "int" => some (.int, 1, 1)
  | "rand" => some (.rand, 0, 0)
  | "srand" => some (.srand, 0, 1)
  | "close" => some (.close, 1, 1)
  | "system" => some (.system, 1, 1)
  | "fflush" => some (.flush, 0, 1)
  | "systime" => some (.now, 0, 0)
  | "strftime" => some (.timeText, 0, 3)
  | "mktime" => some (.timeNumber, 1, 2)
  | _ => none

/-! ## Expressions

Texts that stand side by side are joined, so it has to be known which tokens may begin an
expression. The readers are defined together and count down a number, since an expression may hold
any other. -/

def endsArgument : Token → Bool
  | .mark m => m == "," || m == ")"
  | _ => false

def tableName : Reader Name := do
  match ← peek with
  | .name t false =>
      advance
      useAs .table t
  | _ => throw .unexpected

mutual

/-- Reads an expression. With `printed`, it stands in what is printed, outside of parentheses. -/
def expression : Nat → Bool → Reader Expr
  | 0, _ => throw .fatal
  | fuel + 1, printed => do
      let test ← compared fuel printed 2
      if ← takes "?" then
        let yes ← expression fuel printed
        expect ":"
        let no ← expression fuel printed
        return .condition test yes no
      else return test

/-- Reads operands and operators that bind so strongly at least. -/
def compared : Nat → Bool → Nat → Reader Expr
  | 0, _, _ => throw .fatal
  | fuel + 1, printed, least => do
      let e ← joined fuel printed
      if e.isTarget then
        match assignmentOf? (← peek) with
        | some assign =>
            advance
            let value ← expression fuel printed
            comparedRest fuel printed least (assign e value)
        | none => comparedRest fuel printed least e
      else comparedRest fuel printed least e

def comparedRest : Nat → Bool → Nat → Expr → Reader Expr
  | 0, _, _, _ => throw .fatal
  | fuel + 1, printed, least, e => do
      let token ← peek
      match token, betweenOf? printed token with
      | .keyword "in", _ =>
          if least ≤ 4 then
            advance
            let table ← tableName
            comparedRest fuel printed least (.has [e] table)
          else return e
      | _, some (level, make) =>
          if least ≤ level then
            advance
            let right ← compared fuel printed (level + 1)
            let right ← if level = 5 then wanted right else pure right
            comparedRest fuel printed least (make e right)
          else return e
      | _, none => return e

def joined : Nat → Bool → Reader Expr
  | 0, _ => throw .fatal
  | fuel + 1, printed => do joinedRest fuel printed (← calculated fuel printed 10)

/-- Goes on behind an expression that others are joined to. -/
def joinedRest : Nat → Bool → Expr → Reader Expr
  | 0, _, _ => throw .fatal
  | fuel + 1, printed, e => do
      if startsValue (← peek) && !(e matches .several _) then
        let next ← calculated fuel printed 10
        joinedRest fuel printed (.join e next)
      else return e

/-- Reads operands and operators of arithmetic that bind so strongly at least. -/
def calculated : Nat → Bool → Nat → Reader Expr
  | 0, _, _ => throw .fatal
  | fuel + 1, printed, least => do
      let token ← peek
      match token with
      | .mark "!" =>
          advance
          calculatedRest fuel printed least (.not (← calculated fuel printed 30))
      | .mark "-" =>
          advance
          calculatedRest fuel printed least (.negative (← calculated fuel printed 30))
      | .mark "+" =>
          advance
          calculatedRest fuel printed least (.plus (← calculated fuel printed 30))
      | _ =>
          let e ← simple fuel printed
          if e.isTarget then
            if ← takes "++" then calculatedRest fuel printed least (.step false true e)
            else if ← takes "--" then calculatedRest fuel printed least (.step false false e)
            else calculatedRest fuel printed least e
          else calculatedRest fuel printed least e

/-- Goes on behind an operand of arithmetic. -/
def calculatedRest : Nat → Bool → Nat → Expr → Reader Expr
  | 0, _, _, _ => throw .fatal
  | fuel + 1, printed, least, e => do
      let token ← peek
      match token, operatorOf? token with
      | .mark "|", _ =>
          if printed || least > 35 then return e
          else
            advance
            unless ← takesKeyword "getline" do throw .unexpected
            let target ← inputTarget fuel printed
            calculatedRest fuel printed least (.input .command (some e) target)
      | _, some (level, right, o) =>
          if least ≤ level then
            advance
            let second ← calculated fuel printed right
            calculatedRest fuel printed least (.arithmetic o e second)
          else return e
      | _, none => return e

def inputTarget : Nat → Bool → Reader (Option Expr)
  | 0, _ => throw .fatal
  | fuel + 1, printed => do
      match ← peek with
      | .name _ false | .mark "$" => return some (← simple fuel printed)
      | _ => return none

def target : Nat → Bool → Reader Expr
  | 0, _ => throw .fatal
  | fuel + 1, printed => do
      match ← peek with
      | .name _ false | .mark "$" => simple fuel printed
      | _ => throw .unexpected

def simple : Nat → Bool → Reader Expr
  | 0, _ => throw .fatal
  | fuel + 1, printed => do
      match ← peek with
      | .number x _ =>
          advance
          return .number x
      | .text t =>
          advance
          return .text t
      | .pattern t =>
          advance
          pattern t
      | .name t isCalled =>
          advance
          let s ← get
          let isFree := !s.parameters.contains t && kindOf s (.shared t) = .unknown
          if isFree && (isCalled || s.definitions.any (·.name == t) || s.owner == some t) then
            expect "("
            callRest fuel t
          else if ← takes "[" then
            let table ← useAs .table t
            let keys ← expressions fuel
            expect "]"
            return .element table keys
          else return .name (← useAs .value t)
      | .mark "$" =>
          advance
          match ← peek with
          | .mark "-" | .mark "+" | .mark "!" => return .field (← calculated fuel printed 50)
          | _ => return .field (← simple fuel printed)
      | .mark "++" =>
          advance
          return .step true true (← target fuel printed)
      | .mark "--" =>
          advance
          return .step true false (← target fuel printed)
      | .mark "(" =>
          advance
          match ← expressions fuel with
          | [e] =>
              expect ")"
              return .group e
          | es =>
              expect ")"
              if ← takesKeyword "in" then return .group (.has es (← tableName)) else return .several es
      | .keyword "getline" =>
          advance
          let into ← inputTarget fuel printed
          if ← takes "<" then
            let source ← calculated fuel printed 36
            return .input .file (some source) into
          else return .input .files none into
      | .builtin b =>
          advance
          builtinRest fuel b
      | _ => throw .unexpected

/-- Reads expressions with commas between them. -/
def expressions : Nat → Reader (List Expr)
  | 0 => throw .fatal
  | fuel + 1 => do
      let first ← expression fuel false
      if ← takes "," then return first :: (← expressions fuel) else return [first]

/-- Reads the arguments of a call behind the parenthesis. A name alone may be a table. -/
def arguments : Nat → Reader (List (Argument × Expr))
  | 0 => throw .fatal
  | fuel + 1 => do
      let token ← peek
      let second ← peekSecond
      let first : Argument × Expr ← match token, endsArgument second with
        | .name t false, true =>
            advance
            let n ← resolve t
            pure (some n, Expr.name n)
        | _, _ => pure (none, ← expression fuel false)
      if ← takes "," then return first :: (← arguments fuel)
      else
        expect ")"
        return [first]

/-- Reads a call behind the opening parenthesis. -/
def callRest : Nat → Text → Reader Expr
  | 0, _ => throw .fatal
  | fuel + 1, function => do
      let line := (← get).line
      let given ← if ← takes ")" then pure [] else arguments fuel
      modify fun s => { s with calls := ⟨function, given.map Prod.fst, line, s.owner⟩ :: s.calls }
      return .call function (given.map Prod.snd)

/-- Reads a call of a function that every program has. -/
def builtinRest : Nat → String → Reader Expr
  | 0, _ => throw .fatal
  | fuel + 1, b => do
      match builtinOf? b with
      | none => throw .unexpected
      | some (kind, least, most) =>
          if kind = .length then
            if ← takes "(" then
              match ← peek, ← peekSecond with
              | .mark ")", _ =>
                  advance
                  return .builtin .length []
              | .name t false, .mark ")" =>
                  advance
                  advance
                  return .builtin .length [.name (← resolve t)]
              | _, _ =>
                  let e ← expression fuel false
                  expect ")"
                  return .builtin .length [e]
            else return .builtin .length []
          else
            expect "("
            if kind = .split then
              let t ← expression fuel false
              expect ","
              let table ← tableName
              let separator ← if ← takes "," then
                  let e ← expression fuel false
                  pure [e]
                else pure []
              expect ")"
              return .builtin .split (t :: .name table :: separator)
            else
              let given ← if ← takes ")" then pure []
                else
                  let given ← expressions fuel
                  expect ")"
                  pure given
              if given.length < least || most < given.length then
                note ("wrong number of arguments in call to ".toList ++ b.toList)
              match kind, given with
              | .sub, e :: rest | .gsub, e :: rest => return .builtin kind ((← wanted e) :: rest)
              | .match', [t, e] => return .builtin kind [t, ← wanted e]
              | _, given => return .builtin kind given

end

/-! ## Statements -/

/-- Takes what separates statements; a closing brace is left. -/
def separator : Reader Unit := do
  match ← peek with
  | .mark ";" | .lineEnd => advance
  | .mark "\x7d" => return ()
  | _ => throw .unexpected

/-- The number of steps that reading an expression may take. -/
def stepsFor : Reader Nat := do return 40 * (← get).tokens.length + 100

def value : Reader Expr := do expression (← stepsFor) false

def printed : Reader (List Expr × Option (Direction × Expr)) := do
  let steps ← stepsFor
  let isEmpty := match ← peek with
    | .mark ";" | .mark "\x7d" | .mark ">" | .mark ">>" | .mark "|" | .lineEnd => true
    | _ => false
  let second ← peekSecond
  let values ←
    if isEmpty then pure []
    else match ← peek, second with
      | .mark "(", .mark ")" =>
          advance
          advance
          pure []
      | _, _ =>
          let first ← expression steps true
          match first with
          | .several es => pure es
          | first => printedRest steps.succ [first]
  let redirected := fun (d : Direction) => do
    advance
    return some (d, ← expression steps true)
  let direction ← match ← peek with
    | .mark ">" => redirected .file
    | .mark ">>" => redirected .append
    | .mark "|" => redirected .command
    | _ => pure none
  return (values, direction)
where
  /-- Goes on behind values that were read. -/
  printedRest : Nat → List Expr → Reader (List Expr)
    | 0, values => return values.reverse
    | fuel + 1, values => do
        if ← takes "," then
          let e ← expression (← stepsFor) true
          printedRest fuel (e :: values)
        else return values.reverse

/-- Reads with one more loop around. -/
def inLoop {α : Type} (r : Reader α) : Reader α := do
  modify fun s => { s with loops := s.loops + 1 }
  let result ← r
  modify fun s => { s with loops := s.loops - 1 }
  return result

/-- Reads a test between parentheses. -/
def test : Reader Expr := do
  expect "("
  let e ← value
  expect ")"
  return e

/-- Reads an expression that may be missing, up to a mark. -/
def optional (stop : String) : Reader (Option Expr) := do
  if ← takes stop then return none
  else
    let e ← value
    expect stop
    return some e

/-- Passes tokens up to the next statement. -/
def skipStatement : Nat → Reader Unit
  | 0 => return ()
  | fuel + 1 => do
      match ← peek with
      | .mark ";" | .lineEnd =>
          advance
          modify fun s => { s with taken := 3 }
      | .mark "\x7d" => modify fun s => { s with taken := 3 }
      | .fileEnd => return ()
      | _ =>
          modify fun s => { s with tokens := s.tokens.tail }
          skipStatement fuel

mutual

/-- Reads a statement. What does not fit is passed over. -/
def statement : Nat → Reader Statement
  | 0 => throw .fatal
  | fuel + 1 =>
      tryCatch (plainStatement fuel) fun
        | .fatal => throw .fatal
        | .unexpected => do
            if (← peek) matches .fileEnd then throw .unexpected
            noteUnexpected
            skipStatement (← get).tokens.length
            return .nothing

def plainStatement : Nat → Reader Statement
  | 0 => throw .fatal
  | fuel + 1 => do
      let token ← peek
      match token with
      | .mark "\x7b" => block fuel
      | .mark ";" | .lineEnd =>
          advance
          return .nothing
      | .mark "\x7d" => return .nothing
      | .keyword "if" =>
          advance
          let e ← test
          skipLines
          let yes ← statement fuel
          if ← takesKeyword "else" then return .if' e yes (some (← statement fuel))
          else return .if' e yes none
      | .keyword "while" =>
          advance
          let e ← test
          skipLines
          return .while' e (← inLoop (statement fuel))
      | .keyword "do" =>
          advance
          let body ← inLoop (statement fuel)
          unless ← takesKeyword "while" do throw .unexpected
          let e ← test
          separator
          return .doWhile body e
      | .keyword "for" =>
          advance
          expect "("
          forRest fuel
      | .keyword "next" =>
          advance
          unless (← get).hasRecord do note "improper use of next".toList
          separator
          return .next
      | .keyword "nextfile" =>
          advance
          unless (← get).hasRecord do note "improper use of nextfile".toList
          separator
          return .nextFile
      | .keyword "exit" =>
          advance
          return .exit (← statementValue)
      | .keyword "return" =>
          advance
          let e ← statementValue
          if (← get).owner.isNone then note "return outside function body".toList
          return .return' e
      | .keyword "break" =>
          advance
          separator
          if (← get).loops = 0 then note "break statement outside of loop".toList
          return .break'
      | .keyword "continue" =>
          advance
          separator
          if (← get).loops = 0 then note "continue statement outside of loop".toList
          return .continue'
      | .keyword "delete" =>
          advance
          let n ← tableName
          if ← takes "[" then
            let keys ← expressions (← stepsFor)
            expect "]"
            separator
            return .delete n keys
          else
            separator
            return .clear n
      | .keyword "print" =>
          advance
          let (values, direction) ← printed
          separator
          return .print values direction
      | .keyword "printf" =>
          advance
          let (values, direction) ← printed
          if values.isEmpty then note "no arguments in call to printf".toList
          separator
          return .printf values direction
      | _ =>
          let e ← value
          if e matches .several _ then throw .unexpected
          separator
          return .expression e
where
  /-- The value behind a keyword, if there is one. -/
  statementValue : Reader (Option Expr) := do
    match ← peek with
    | .mark ";" | .lineEnd | .mark "\x7d" =>
        separator
        return none
    | _ =>
        let e ← value
        separator
        return some e

/-- Reads a loop behind the opening parenthesis. -/
def forRest : Nat → Reader Statement
  | 0 => throw .fatal
  | fuel + 1 => do
      let token ← peek
      let second ← peekSecond
      let third := ((← get).tokens.drop 3).head?.map Prod.fst
      match token, second, third with
      | .name key false, .keyword "in", some (.mark ")") =>
          advance
          advance
          let table ← tableName
          expect ")"
          let key ← useAs .value key
          skipLines
          return .forKeys key table (← inLoop (statement fuel))
      | _, _, _ =>
          match token, second with
          | .name key false, .keyword "in" =>
              let tokens := (← get).tokens.drop 2
              match tokens.head?.map Prod.fst with
              | some (.name ..) => pure ()
              | _ =>
                  discard (useAs .value key)
                  advance
                  advance
                  throw .unexpected
          | _, _ => pure ()
          let start ← optional ";"
          let e ← optional ";"
          let step ← optional ")"
          skipLines
          return .for' start e step (← inLoop (statement fuel))

def block : Nat → Reader Statement
  | 0 => throw .fatal
  | fuel + 1 => do
      expect "\x7b"
      let statements ← statements fuel
      expect "\x7d"
      return .block statements

/-- Reads statements up to a closing brace. What is wrong is passed over. -/
def statements : Nat → Reader (List Statement)
  | 0 => throw .fatal
  | fuel + 1 => do
      match ← peek with
      | .mark "\x7d" => return []
      | .fileEnd => throw .unexpected
      | _ =>
          let first ← statement fuel
          return first :: (← statements fuel)

end

/-! ## Rules and functions

A program is a row of rules and functions in any order. -/

def body : Reader Statement := do block (20 * (← get).tokens.length + 100)

def parameters (function : Text) : Nat → List Text → Reader (List Text)
  | 0, _ => throw .fatal
  | fuel + 1, names => do
      match ← peek with
      | .name t _ =>
          advance
          if t = function then note "function parameter cannot be the function".toList
          if names.contains t then note (t ++ " is duplicated in argument list".toList)
          if ← takes "," then parameters function fuel (t :: names)
          else
            expect ")"
            return (t :: names).reverse
      | _ => throw .unexpected

def function : Reader Unit := do
  match ← peek with
  | .name t _ =>
      advance
      let kind := kindOf (← get) (.shared t)
      if kind != .unknown then
        note ("illegal reference to ".toList ++ (kindText (.shared t) kind).toList ++ t)
      if (← get).definitions.any (·.name == t) then note ("redefinition of ".toList ++ t)
      expect "("
      let names ← if ← takes ")" then pure [] else parameters t (← get).tokens.length []
      skipLines
      modify fun s => { s with
        owner := some t, parameters := names, ownKinds := names.map fun _ => .unknown, hasRecord := false }
      let body ← body
      modify fun s => { s with
        owner := none, parameters := [], ownKinds := [],
        definitions := ⟨t, names, s.ownKinds, body⟩ :: s.definitions }
  | _ => throw .unexpected

def item : Reader (Option Rule) := do
  match ← peek with
  | .keyword "function" =>
      advance
      function
      return none
  | .keyword "BEGIN" =>
      advance
      modify fun s => { s with hasRecord := false }
      return some ⟨.start, some (← body)⟩
  | .keyword "END" =>
      advance
      modify fun s => { s with hasRecord := false }
      return some ⟨.finish, some (← body)⟩
  | .mark "\x7b" =>
      modify fun s => { s with hasRecord := true }
      return some ⟨.always, some (← body)⟩
  | _ =>
      modify fun s => { s with hasRecord := true }
      let first ← value
      if first matches .several _ then throw .unexpected
      let occasion ← if ← takes "," then
          let last ← value
          pure (Occasion.range first last)
        else pure (Occasion.holds first)
      match ← peek with
      | .mark "\x7b" => return some ⟨occasion, some (← body)⟩
      | .mark ";" | .lineEnd =>
          advance
          return some ⟨occasion, none⟩
      | _ => throw .unexpected

/-- Passes tokens up to the next block. -/
def skipToBlock : Nat → Reader Unit
  | 0 => return ()
  | fuel + 1 => do
      match ← peek with
      | .mark "\x7b" | .fileEnd => return ()
      | _ =>
          modify fun s => { s with tokens := s.tokens.tail }
          skipToBlock fuel

/-- Reads rules and functions up to the end. -/
def items : Nat → Reader (List Rule)
  | 0 => return []
  | fuel + 1 => do
      if (← peek) matches .fileEnd then return []
      let first ← tryCatch item fun
        | .fatal => throw .fatal
        | .unexpected => do
            noteUnexpected
            modify fun s => { s with owner := none, parameters := [], ownKinds := [], loops := 0 }
            skipToBlock (← get).tokens.length
            return none
      return first.toList ++ (← items fuel)

/-! ## Kinds of arguments

What is known of an argument is handed on to the parameter, and the other way round, so often that
it reaches every call. -/

def parameterKind (s : Source) (function : Text) (index : Nat) : Kind :=
  match s.definitions.find? (·.name == function) with
  | some d => (d.kinds[index]?).getD .unknown
  | none => .unknown

def setParameterKind (s : Source) (function : Text) (index : Nat) (k : Kind) : Source :=
  { s with definitions := s.definitions.map fun d =>
      if d.name == function then { d with kinds := d.kinds.set index k } else d }

def argumentKind (s : Source) (owner : Option Text) : Name → Kind
  | .shared t => (s.kinds.lookup t).getD .unknown
  | .own index => parameterKind s (owner.getD []) index

/-- Lets each argument and its parameter be of one kind, as far as one of them is known. -/
def spread (s : Source) (c : Call) : Source :=
  (c.arguments.zipIdx).foldl
    (fun s (argument, index) => match argument with
      | none => s
      | some n =>
          let given := argumentKind s c.owner n
          let taken := parameterKind s c.function index
          if given = .unknown && taken != .unknown then
            match n with
            | .shared t => setKind s (.shared t) taken
            | .own i => setParameterKind s (c.owner.getD []) i taken
          else if taken = .unknown && given != .unknown then setParameterKind s c.function index given
          else s) s

def spreadAll : Nat → Source → Source
  | 0, s => s
  | n + 1, s => spreadAll n (s.calls.foldl spread s)

def localKind : Kind → String
  | .table => "local array"
  | _ => "local variable"

def checkCall (c : Call) : Reader Unit := do
  let s ← get
  match s.definitions.find? (·.name == c.function) with
  | none => return ()
  | some d =>
      if d.parameters.length < c.arguments.length then
        noteAt c.line ("too many arguments in call to ".toList ++ c.function)
      else
        let wrong := c.arguments.zipIdx.find? fun (argument, index) =>
          let taken := (d.kinds[index]?).getD .unknown
          let given := match argument with
            | none => .value
            | some n => argumentKind s c.owner n
          taken != .unknown && given != .unknown && taken != given
        match wrong with
        | none => return ()
        | some (_, index) =>
            let taken := (d.kinds[index]?).getD .unknown
            let given := if taken = .table then Kind.value else .table
            noteAt c.line ("type error in arg(".toList ++ Number.shown (index + 1) ++ ") in call to ".toList ++
              c.function ++ " (actual ".toList ++ (localKind given).toList ++ " vs ".toList ++
              (localKind taken).toList ++ ")".toList)

def checkDefined : List Call → List Text → Reader Unit
  | [], _ => return ()
  | c :: rest, seen => do
      let s ← get
      if !seen.contains c.function && !s.definitions.any (·.name == c.function) then
        let last := (s.tokens.head?.map Prod.snd).getD s.line
        noteAt last ("function ".toList ++ c.function ++ " never defined".toList)
      checkDefined rest (c.function :: seen)

def checkCalls : List Call → Reader Unit
  | [] => return ()
  | c :: rest => do
      checkCall c
      checkCalls rest

def program : Reader Program := do
  let rules ← items ((← get).tokens.length + 1)
  let calls := (← get).calls.reverse
  if (← get).messages.isEmpty then
    modify (spreadAll (calls.length + 1))
    checkDefined calls []
    checkCalls calls
  let s ← get
  return {
    rules := rules,
    functions := s.definitions.map fun d => (d.name, ⟨d.kinds.map (· = .table), d.body⟩),
    tables := s.kinds.filterMap fun (t, k) => if k = .table then some t else none }

end Reader

def maxMessages : Nat := 5

/-- **Reads a program**, or returns what is wrong with it. The title stands before the numbers of
lines. -/
def readProgram (title t : Text) : Except (List Text) Program :=
  let source : Source :=
    { tokens := scan t, line := 1, messages := [], title := title,
      kinds := [("ENVIRON".toList, .table), ("ARGV".toList, .table)] ++
        ["NR", "NF", "FNR", "FS", "OFS", "ORS", "RS", "SUBSEP", "FILENAME", "OFMT", "CONVFMT", "RSTART",
          "RLENGTH", "ARGC"].map fun name => (name.toList, .value),
      definitions := [], owner := none, parameters := [], ownKinds := [], calls := [], loops := 0,
      hasRecord := false, depth := ⟨0, 0⟩, taken := 3 }
  match Reader.program.run.run source with
  | (.ok program, s) => if s.messages.isEmpty then .ok program else .error (s.messages.reverse.take maxMessages)
  | (.error _, s) => .error (s.messages.reverse.take maxMessages)

end SwiftExistential.Utility.Awk
