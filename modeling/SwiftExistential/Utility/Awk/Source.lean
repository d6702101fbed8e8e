import SwiftExistential.Text.Real
import SwiftExistential.Utility.Awk.Program

/-!
# The text of awk programs

From the characters of a pattern program to the tokens that its reader works on, and the state of
that reader.

What a character means depends on what stands before it: a slash may divide or begin a pattern, and
the end of a line may end a statement or mean nothing. So scanning knows the last token and how deep
the place is in parentheses and braces. A token that makes no sense carries its message along, and
is reported when the reader comes to it.
-/

set_option autoImplicit false

/-! ## Tokens of pattern programs

A slash begins a pattern unless it stands behind something that has a value. Ends of lines count,
but not behind what needs something to follow. -/

namespace SwiftExistential.Utility.Awk

inductive Token where
  | number (x : Float) (shown : Text)
  | text (t : Text)
  | pattern (t : Text)
  /-- A name; the flag says whether a parenthesis stands right behind it. -/
  | name (t : Text) (isCalled : Bool)
  | keyword (t : String)
  | builtin (t : String)
  | mark (t : String)
  | lineEnd
  | fileEnd
  /-- Something that does not belong there and is passed over. -/
  | extra (c : Char)
  /-- Nothing can be read from here on: the message, and whether it starts with the number of the
  line alone. -/
  | broken (message : Text) (isBare : Bool)

namespace Token

def shown : Token → Text
  | number _ t => t
  | text t => t
  | pattern t => '/' :: t ++ ['/']
  | name t _ => t
  | keyword t | builtin t | mark t => t.toList
  | lineEnd => "end of line".toList
  | fileEnd => "end of file".toList
  | extra c => [c]
  | broken t _ => t

end Token

def keywords : List String :=
  ["BEGIN", "END", "if", "else", "while", "do", "for", "break", "continue", "next", "nextfile", "exit",
    "return", "delete", "function", "print", "printf", "getline", "in"]

def builtinNames : List String :=
  ["length", "index", "substr", "sprintf", "match", "split", "sub", "gsub", "toupper", "tolower", "sin",
    "cos", "atan2", "exp", "log", "sqrt", "int", "rand", "srand", "close", "system", "fflush", "systime",
    "strftime", "mktime"]

def doubleMarks : List String :=
  ["&&", "||", "==", "!=", "<=", ">=", "++", "--", "+=", "-=", "*=", "/=", "%=", "^=", "!~", ">>"]

def singleMarks : String := "{}()[];,+-*/%^!<>|?:~$="

/-- Whether a slash behind a token divides. -/
def endsValue : Token → Bool
  | .number .. | .text _ | .pattern _ | .name .. => true
  | .mark m => m == ")" || m == "]" || m == "++" || m == "--" || m == "$"
  | .builtin b => b == "length"
  | _ => false

/-- Whether ends of lines behind a token do not count. -/
def takesLines : Token → Bool
  | .mark m => m == "\x7b" || m == "&&" || m == "||" || m == "," || m == ";" || m == "\x7d"
  | .keyword k => k == "do" || k == "else"
  | .lineEnd => true
  | _ => false

/-! ### Texts and patterns -/

/-- Puts the characters into a text that backslashes stand for, with so many steps at most. -/
def unescape : Nat → Text → Text
  | 0, t => t
  | _, [] => []
  | fuel + 1, '\\' :: '\n' :: rest => unescape fuel rest
  | fuel + 1, '\\' :: rest =>
      match Pattern.codeEscape? rest, rest with
      | some (c, rest), _ => c :: unescape fuel rest
      | none, '/' :: rest => '\\' :: '/' :: unescape fuel rest
      | none, c :: rest =>
          match Pattern.letterEscape? c with
          | some e => e :: unescape fuel rest
          | none => '\\' :: c :: unescape fuel rest
      | none, [] => ['\\']
  | fuel + 1, c :: rest => c :: unescape fuel rest

/-- The text up to a quotation mark, and the text behind it. There is none if the line ends before.
-/
def splitText (taken : Text) : Text → Option (Text × Text)
  | [] | '\n' :: _ => none
  | '"' :: rest => some (taken.reverse, rest)
  | '\\' :: c :: rest => splitText (c :: '\\' :: taken) rest
  | c :: rest => splitText (c :: taken) rest

/-- The pattern up to a slash, and the text behind it. A slash between brackets belongs to it; the
numbers say how far the place is behind an opening bracket. -/
def splitPattern (taken : Text) (inside : Option Nat) : Text → Option (Text × Text)
  | [] | '\n' :: _ => none
  | '\\' :: '\n' :: rest => splitPattern taken (inside.map (· + 1)) rest
  | '\\' :: '/' :: rest => splitPattern ('/' :: taken) (inside.map (· + 1)) rest
  | '\\' :: c :: rest => splitPattern (c :: '\\' :: taken) (inside.map (· + 1)) rest
  | c :: rest =>
      match inside with
      | none =>
          if c == '/' then some (taken.reverse, rest)
          else if c == '[' then splitPattern (c :: taken) (some 0) rest
          else splitPattern (c :: taken) none rest
      | some n =>
          if c == ']' && n != 0 then splitPattern (c :: taken) none rest
          else if c == '^' && n = 0 then splitPattern (c :: taken) (some 0) rest
          else splitPattern (c :: taken) (some (n + 1)) rest

/-! ### Scanning -/

/-- Passes blanks and comments, and ends of lines if they do not count. Returns how many lines
ended. -/
def skipBlanks (lines : Bool) : Nat → Text → Nat × Text
  | 0, t => (0, t)
  | _, [] => (0, [])
  | fuel + 1, c :: rest =>
      if c == ' ' || c == '\t' || c == '\r' || c == '\x0b' || c == '\x0c' then skipBlanks lines fuel rest
      else if c == '#' then skipBlanks lines fuel (rest.dropWhile (· != '\n'))
      else if c == '\n' && lines then
        let (n, rest) := skipBlanks lines fuel rest
        (n + 1, rest)
      else if c == '\\' then
        match rest with
        | '\n' :: rest =>
            let (n, rest) := skipBlanks lines fuel rest
            (n + 1, rest)
        | rest => (0, '\\' :: rest)
      else (0, c :: rest)

def isNameStart (c : Char) : Bool := c.isAlpha || c == '_'

def isNameChar (c : Char) : Bool := c.isAlphanum || c == '_'

/-- A message about something that does not end. -/
def runaway (what : String) (t : Text) : Token :=
  .broken (what.toList ++ (t.takeWhile (· != '\n')).take 10 ++ " ...".toList) false

/-- The token at the start of a text, and the text behind it. -/
def scanOne (last : Token) (t : Text) : Token × Text :=
  match t with
  | [] => (.fileEnd, [])
  | c :: rest =>
      if c == '\n' then (.lineEnd, rest)
      else if isNameStart c then
        let name := t.takeWhile isNameChar
        let behind := t.drop name.length
        let word := String.ofList name
        if keywords.contains word then (.keyword word, behind)
        else if builtinNames.contains word then (.builtin word, behind)
        else (.name name (behind.head? == some '('), behind)
      else if c.isDigit || (c == '.' && rest.head?.any Char.isDigit) then
        let found := if Real.startsWithWord "0x" t then ⟨0, true, rest⟩ else Real.read t
        (.number found.value (t.take (t.length - found.rest.length)), found.rest)
      else if c == '"' then
        match splitText [] rest with
        | some (inside, behind) => (.text (unescape (inside.length + 1) inside), behind)
        | none => (runaway "runaway string constant \"" (rest.filter (· != '\\')), [])
      else if c == '/' && !endsValue last then
        match splitPattern [] none rest with
        | some (inside, behind) => (.pattern inside, behind)
        | none => (runaway "runaway regular expression /" rest, [])
      else
        let two := String.ofList (t.take 2)
        if doubleMarks.contains two then (.mark two, t.drop 2)
        else if singleMarks.toList.contains c then (.mark (String.ofList [c]), rest)
        else
          let shown := if ' ' < c && c < '\x7f' then ['\'', c, '\'']
            else "0x".toList ++ (if c.toNat < 16 then ['0'] else []) ++ Number.digits 16 c.toNat
          (.broken ("unexpected character ".toList ++ shown) true, [])

/-- How deep the place is. -/
structure Depth where
  parentheses : Nat
  braces : Nat

/-- Whether a semicolon behind a brace belongs to it. -/
def skipSemicolon (t : Text) : Text :=
  let (_, rest) := skipBlanks false (t.length + 1) t
  match rest with
  | ';' :: rest => rest
  | _ => t

/-- Scans a text from a line on, with so many steps at most. -/
def scanFrom : Nat → Depth → Token → Nat → Text → List (Token × Nat)
  | 0, _, _, line, _ => [(.fileEnd, line)]
  | fuel + 1, depth, last, line, t =>
      let (lines, start) := skipBlanks (takesLines last) (t.length + 1) t
      let line := line + lines
      let (token, rest) := scanOne last start
      match token with
      | .fileEnd | .broken .. => [(token, line)]
      | .lineEnd => (token, line) :: scanFrom fuel depth token (line + 1) rest
      | .mark "(" =>
          (token, line) :: scanFrom fuel { depth with parentheses := depth.parentheses + 1 } token line rest
      | .mark ")" =>
          if depth.parentheses = 0 then (.extra ')', line) :: scanFrom fuel depth last line rest
          else
            (token, line) :: scanFrom fuel { depth with parentheses := depth.parentheses - 1 } token line rest
      | .mark "\x7b" =>
          (token, line) :: scanFrom fuel { depth with braces := depth.braces + 1 } token line rest
      | .mark "\x7d" =>
          if depth.braces = 0 then
            (.extra '\x7d', line) :: scanFrom fuel depth (.mark ")") line (skipSemicolon rest)
          else
            let rest := if depth.braces = 1 then skipSemicolon rest else rest
            (token, line) :: scanFrom fuel ⟨0, depth.braces - 1⟩ token line rest
      | token =>
          let inside := (start.take (start.length - rest.length)).countP (· == '\n')
          (token, line) :: scanFrom fuel depth token (line + inside) rest

/-- **The tokens of a program**, each with its line. -/
def scan (t : Text) : List (Token × Nat) :=
  scanFrom (t.length + 2) ⟨0, 0⟩ .lineEnd 1 (t ++ ['\n'])

end SwiftExistential.Utility.Awk

/-! ## The source of a pattern program

What a reader of a program knows: the tokens that are left, what is wrong so far, and what each name
stands for. A name is a table if it is first used as one. -/

namespace SwiftExistential.Utility.Awk

/-- What a name stands for. -/
inductive Kind where
  | unknown
  | value
  | table
deriving DecidableEq, Repr

/-- An argument of a call: a name alone, or something that has a value. -/
abbrev Argument := Option Name

/-- A call of a function, for which the kinds of arguments are checked at the end. -/
structure Call where
  function : Text
  arguments : List Argument
  line : Nat
  /-- The function in which the call stands. -/
  owner : Option Text

/-- A function that was read. -/
structure Definition where
  name : Text
  parameters : List Text
  kinds : List Kind
  body : Statement

/-- The state of a reader. -/
structure Source where
  tokens : List (Token × Nat)
  /-- The line of the token that was taken last. -/
  line : Nat
  /-- What is wrong, the last message first. -/
  messages : List Text
  /-- What stands before the number of the line. -/
  title : Text
  kinds : List (Text × Kind)
  definitions : List Definition
  /-- The function that is read. -/
  owner : Option Text
  parameters : List Text
  ownKinds : List Kind
  calls : List Call
  /-- In how many loops the place is. -/
  loops : Nat
  /-- Whether the statements are for a record. -/
  hasRecord : Bool
  /-- How many parentheses and braces are open. -/
  depth : Depth
  /-- How many tokens were taken since something was wrong. -/
  taken : Nat

/-- Why reading stops. -/
inductive Failure where
  /-- The next token does not fit. -/
  | unexpected
  /-- Nothing can be read any more. -/
  | fatal

abbrev Reader := ExceptT Failure (StateM Source)

namespace Reader

def noteAt (line : Nat) (message : Text) : Reader Unit :=
  modify fun s => { s with
    messages := (s.title ++ "line ".toList ++ Number.shown line ++ ": ".toList ++ message) :: s.messages }

def note (message : Text) : Reader Unit := do noteAt (← get).line message

def skipExtra : Nat → Reader Unit
  | 0 => return ()
  | fuel + 1 => do
      match (← get).tokens with
      | (.extra c, line) :: rest =>
          noteAt line ("extra '".toList ++ [c, '\''])
          modify fun s => { s with tokens := rest }
          skipExtra fuel
      | (.broken message isBare, line) :: _ =>
          if isBare then
            modify fun s => { s with
              messages := (Number.shown line ++ ": ".toList ++ message) :: s.messages }
          else noteAt line message
          throw .fatal
      | _ => return ()

def peek : Reader Token := do
  skipExtra (← get).tokens.length
  match (← get).tokens with
  | (t, _) :: _ => return t
  | [] => return .fileEnd

def peekSecond : Reader Token := do
  match (← get).tokens with
  | _ :: (t, _) :: _ => return t
  | _ => return .fileEnd

/-- How deep the place is behind a token. -/
def depthBehind (d : Depth) : Token → Depth
  | .mark "(" => { d with parentheses := d.parentheses + 1 }
  | .mark ")" => { d with parentheses := d.parentheses - 1 }
  | .mark "\x7b" => { d with braces := d.braces + 1 }
  | .mark "\x7d" => { d with braces := d.braces - 1 }
  | _ => d

def advance : Reader Unit :=
  modify fun s => match s.tokens with
    | (.fileEnd, _) :: _ | [] => s
    | (t, line) :: rest =>
        { s with tokens := rest, line := line, taken := s.taken + 1, depth := depthBehind s.depth t }

/-- Takes a mark, if it comes next. -/
def takes (m : String) : Reader Bool := do
  match ← peek with
  | .mark t =>
      if t == m then
        advance
        return true
      else return false
  | _ => return false

/-- Takes a mark that has to come next. -/
def expect (m : String) : Reader Unit := do
  unless ← takes m do throw .unexpected

def takesKeyword (k : String) : Reader Bool := do
  match ← peek with
  | .keyword t =>
      if t == k then
        advance
        return true
      else return false
  | _ => return false

def skipLines : Reader Unit := do
  if (← peek) matches .lineEnd then advance

/-- Notes that the next token does not fit, unless something was wrong right before. -/
def noteUnexpected : Reader Unit := do
  let token ← peek
  let s ← get
  let line := match s.tokens with
    | (_, line) :: _ => line
    | [] => s.line
  let missing := fun (c : Char) => "missing ".toList ++ c :: " near ".toList ++ token.shown
  let isEnd := match token with
    | .fileEnd | .lineEnd | .mark ";" | .mark "\x7d" => true
    | _ => false
  let isOutside := match token with
    | .fileEnd | .keyword "BEGIN" | .keyword "END" => true
    | _ => false
  if s.taken ≥ 3 || s.messages.isEmpty || token matches .fileEnd then
    if s.depth.parentheses != 0 && isEnd then
      noteAt line (missing ')')
      modify fun s => { s with depth := { s.depth with parentheses := 0 } }
    else if s.depth.braces != 0 && isOutside then
      noteAt line (missing '\x7d')
      modify fun s => { s with depth := { s.depth with braces := 0 } }
    else noteAt line ("syntax error at or near ".toList ++ token.shown)
  modify fun s => { s with taken := 0 }

/-! ### Names -/

/-- What a name stands for in the place where it is used. -/
def resolve (t : Text) : Reader Name := do
  match (← get).parameters.findIdx? (· == t) with
  | some index => return .own index
  | none => return .shared t

def kindOf (s : Source) : Name → Kind
  | .shared t => (s.kinds.lookup t).getD .unknown
  | .own index => (s.ownKinds[index]?).getD .unknown

def kindText (n : Name) (k : Kind) : String :=
  match n, k with
  | .shared _, .table => "array "
  | .shared _, _ => "variable "
  | .own _, .table => "local array "
  | .own _, _ => "local variable "

def setKind (s : Source) (n : Name) (k : Kind) : Source :=
  match n with
  | .shared t => { s with kinds := (t, k) :: s.kinds.filter fun (u, _) => u != t }
  | .own index => { s with ownKinds := s.ownKinds.set index k }

/-- Uses a name as something of a kind. -/
def useAs (k : Kind) (t : Text) : Reader Name := do
  let n ← resolve t
  let known := kindOf (← get) n
  if known = .unknown then modify fun s => setKind s n k
  else if known != k then note ("illegal reference to ".toList ++ (kindText n known).toList ++ t)
  return n

def pattern (t : Text) : Reader Expr := do
  match Pattern.read t with
  | .ok e => return .pattern e
  | .error m =>
      note ("regular expression compile failed (".toList ++ m.message.toList ++ ")\n".toList ++ t)
      return .pattern .empty

/-- What is looked for: a text that is known is read as a pattern. -/
def wanted : Expr → Reader Expr
  | .text t => pattern t
  | e => return e

end Reader

end SwiftExistential.Utility.Awk
