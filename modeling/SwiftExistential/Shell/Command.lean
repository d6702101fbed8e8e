import SwiftExistential.Text.Octets

/-!
# Commands

The syntax of commands, and the source they are read from. Both the readers and what runs commands
start here.

Words, redirections and commands are defined together: a command has words, a word has parts, and
the part that is a substitution has a command. Names, keywords and quotes are here as well, because
reading and running have to agree on them.
-/

set_option autoImplicit false

/-! ## Commands of the shell

What a script says, once it is read: words, which are made of parts, redirections and commands. A
word is expanded when its command runs; what stands in quotes is then neither split nor matched
against names. -/

namespace SwiftExistential.Shell

/-- What a pattern takes away from a value. -/
structure Side where
  /-- Whether it is the start of the value, and not the end. -/
  isStart : Bool
  /-- Whether it is as long as it can be. -/
  isLongest : Bool
deriving DecidableEq, Repr

/-- What is done with the value of a parameter. With `orEmpty`, an empty value counts as unset. -/
inductive Use where
  | plain
  /-- The number of octets. -/
  | length
  /-- The word, if the parameter is unset. -/
  | orElse (orEmpty : Bool)
  /-- The word, which is assigned, if the parameter is unset. -/
  | assign (orEmpty : Bool)
  /-- The word, if the parameter is set. -/
  | alternative (orEmpty : Bool)
  /-- An error with the word as its message, if the parameter is unset. -/
  | required (orEmpty : Bool)
  /-- The value without what matches the word at a side. -/
  | trim (side : Side)
  /-- What is written means nothing, which is noticed when it is expanded. -/
  | wrong
deriving DecidableEq, Repr

/-- What a file is opened for. -/
inductive Access where
  | input
  | output
  | append
  /-- Output that replaces a file even where files are protected. -/
  | clobber
  | update
deriving DecidableEq, Repr

mutual

/-- A part of a word. -/
inductive Part where
  | plain (chars : Text)
  /-- Characters that stand for themselves. Even without characters there is a field. -/
  | quoted (chars : Text)
  | parameter (isQuoted : Bool) (name : Text) (use : Use) (word : List Part)
  | substitution (isQuoted : Bool) (body : Command)
  | arithmetic (isQuoted : Bool) (expression : List Part)

/-- A redirection of a descriptor. -/
inductive Redirection where
  | file (descriptor : Nat) (access : Access) (target : List Part)
  /-- The word is the number of another descriptor, or a dash. -/
  | duplicate (descriptor : Nat) (target : List Part)
  /-- Text that is given in the script. -/
  | document (descriptor : Nat) (body : List Part)

/-- A branch of a selection: its patterns and what runs if one of them fits. -/
inductive Branch where
  | mk (patterns : List (List Part)) (body : Command)

/-- A command. Those that can fail themselves know their line. -/
inductive Command where
  | nothing
  | simple (line : Nat) (assignments words : List (List Part)) (redirections : List Redirection)
  | redirected (line : Nat) (body : Command) (redirections : List Redirection)
  | subshell (line : Nat) (body : Command) (redirections : List Redirection)
  | background (body : Command)
  | pipeline (commands : List Command)
  | negated (body : Command)
  | andThen (first second : Command)
  | orElse (first second : Command)
  | sequence (first second : Command)
  | conditional (condition body other : Command)
  /-- Repeats the body while the condition succeeds, or until it does. -/
  | loop (isUntil : Bool) (condition body : Command)
  | forEach (line : Nat) (name : Text) (words : List (List Part)) (body : Command)
  | select (line : Nat) (subject : List Part) (branches : List Branch)
  | define (name : Text) (body : Command)

end

instance : Inhabited Command := ⟨.nothing⟩

abbrev Word := List Part

namespace Word

/-- The characters of a word that needs no expansion and has no quotes. -/
def plain? : Word → Option Text
  | [] => some []
  | .plain chars :: rest => (plain? rest).map (chars ++ ·)
  | _ :: _ => none

/-- The characters of a word that needs no expansion. -/
def literal? : Word → Option Text
  | [] => some []
  | .plain chars :: rest => (literal? rest).map (chars ++ ·)
  | .quoted chars :: rest => (literal? rest).map (chars ++ ·)
  | _ :: _ => none

/-- Whether all parts are quoted text, so that nothing is split, matched or expanded. -/
def isQuoted (word : Word) : Bool :=
  word.all fun
    | .quoted _ => true
    | _ => false

def hasQuotes (word : Word) : Bool :=
  word.any fun
    | .quoted _ => true
    | _ => false

/-- Puts a part before a word. Plain characters become one part. -/
def cons (part : Part) (word : Word) : Word :=
  match part, word with
  | .plain a, .plain b :: rest => .plain (a ++ b) :: rest
  | .plain [], rest => rest
  | part, rest => part :: rest

def allArguments : Word := [.parameter true ['@'] .plain []]

end Word

/-! ### Names

Some commands of the shell have a special standing: their failure ends it, and no function can take
their name. -/

def isNameStart (c : Char) : Bool := c.isAlpha || c == '_'

def isNameChar (c : Char) : Bool := c.isAlphanum || c == '_'

def isName : Text → Bool
  | [] => false
  | c :: rest => isNameStart c && rest.all isNameChar

def Word.assignment? (word : Word) : Option (Text × Word) :=
  match word with
  | .plain chars :: rest =>
      match Text.splitAtPart? ['='] chars with
      | some (name, value) => if isName name then some (name, cons (.plain value) rest) else none
      | none => none
  | _ => none

/-- The commands whose failure ends the shell. A function cannot be named for them. -/
def isSpecialBuiltin (name : Text) : Bool :=
  ["break", ":", "continue", ".", "eval", "exec", "exit", "export", "local", "readonly", "return",
    "set", "shift", "times", "trap", "unset"].contains (String.ofList name)

/-- The commands that the shell knows besides. -/
def isOrdinaryBuiltin (name : Text) : Bool :=
  ["[", "alias", "bg", "cd", "chdir", "command", "echo", "false", "fg", "getopts", "hash", "jobs", "kill",
    "printf", "pwd", "read", "test", "true", "type", "ulimit", "umask", "unalias", "wait"].contains
    (String.ofList name)

/-! ### Quoting

How a text is written so that it reads as a single word without any expansion. -/

/-- Writes a text in single quotes. A single quote inside ends the quotation, stands behind a
backslash, and starts the quotation again. -/
def quote (t : Text) : Text :=
  '\'' :: Text.replacePart ['\''] ['\'', '\\', '\'', '\''] t ++ ['\'']

end SwiftExistential.Shell

/-! ## Scripts as they are read

A script is read from a text that is left, with a count of lines. A token that was read can be
pushed back. The text of a document stands behind the line that asks for it; it is taken out as soon
as the document is asked for, and its lines are owed to the count until that line ends. -/

namespace SwiftExistential.Shell

/-- Words with a meaning of their own. -/
inductive Keyword where
  | bang
  | case'
  | do'
  | done
  | elif
  | else'
  | esac
  | fi
  | for'
  | if'
  | in'
  | then'
  | until'
  | while'
  | opening
  | closing
deriving DecidableEq, Repr

def Keyword.text : Keyword → String
  | bang => "!"
  | case' => "case"
  | do' => "do"
  | done => "done"
  | elif => "elif"
  | else' => "else"
  | esac => "esac"
  | fi => "fi"
  | for' => "for"
  | if' => "if"
  | in' => "in"
  | then' => "then"
  | until' => "until"
  | while' => "while"
  | opening => "\x7b"
  | closing => "\x7d"

def Keyword.all : List Keyword :=
  [bang, case', do', done, elif, else', esac, fi, for', if', in', then', until', while', opening,
    closing]

def Keyword.ofText? (t : Text) : Option Keyword :=
  let s := String.ofList t
  Keyword.all.find? fun k => k.text == s

/-- What a redirection mark asks for. -/
inductive Mark where
  | file (access : Access)
  | duplicate
  | document (isIndented : Bool)
deriving DecidableEq, Repr

inductive Token where
  | endOfFile
  | newline
  | redirection (descriptor : Nat) (mark : Mark)
  | word (word : Word)
  | semicolon
  | background
  | andThen
  | orElse
  | pipe
  | opening
  | closing
  | endCase
  | keyword (k : Keyword)

def Token.spelling : Token → Text
  | endOfFile => "end of file".toList
  | newline => "newline".toList
  | redirection .. => "redirection".toList
  | word _ => "word".toList
  | semicolon => "\";\"".toList
  | background => "\"&\"".toList
  | andThen => "\"&&\"".toList
  | orElse => "\"||\"".toList
  | pipe => "\"|\"".toList
  | opening => "\"(\"".toList
  | closing => "\")\"".toList
  | endCase => "\";;\"".toList
  | keyword k => '"' :: k.text.toList ++ ['"']

/-- Whether a list of commands ends before a token. -/
def Token.endsList : Token → Bool
  | endOfFile | closing | endCase => true
  | keyword k =>
      [Keyword.do', .done, .elif, .else', .esac, .fi, .then', .closing].contains k
  | _ => false

/-- A mistake in a script. -/
structure Mistake where
  line : Nat
  message : Text

/-- What is left of a script. -/
structure Source where
  rest : Text
  line : Nat
  /-- The lines that were taken out behind the current one. -/
  owed : Nat
  pushed : Option Token
  aliases : List (Text × Text)
  /-- The aliases whose text is being read, with the length of what follows that text, and whether
  the next word can be an alias too. -/
  active : List (Text × Nat × Bool)

def Source.ofText (t : Text) (aliases : List (Text × Text)) : Source := ⟨t, 1, 0, none, aliases, []⟩

/-- A reader of something at the start of a script. -/
abbrev Reader := EStateM Mistake Source

namespace Reader

/-- Fails with a message about the current line. -/
def fail {α : Type} (message : Text) : Reader α := do throw ⟨(← get).line, message⟩

/-- Fails because of a token that stands where none such can. -/
def unexpected {α : Type} (token : Token) (expected : Option Token) : Reader α :=
  fail (token.spelling ++ " unexpected".toList ++ match expected with
    | some e => " (expecting ".toList ++ e.spelling ++ ")".toList
    | none => [])

def rest : Reader Text := do return (← get).rest

def setRest (t : Text) : Reader Unit := modify fun s => { s with rest := t }

def countLines (t : Text) : Reader Unit := do
  let n := t.count '\n'
  if n > 0 then modify fun s => { s with line := s.line + n + s.owed, owed := 0 }

def take (n : Nat) : Reader Text := do
  let t ← rest
  setRest (t.drop n)
  let taken := t.take n
  countLines taken
  return taken

def pushBack (token : Token) : Reader Unit := modify fun s => { s with pushed := some token }

/-- The line ends behind a backslash at the start of a text, each with its backslash. -/
def continuations : Text → Nat
  | '\\' :: '\n' :: rest => continuations rest + 1
  | _ => 0

/-- Drops line ends behind a backslash. -/
def skipContinuations : Reader Unit := do
  let n := continuations (← rest)
  if n > 0 then discard (take (2 * n))

end Reader

end SwiftExistential.Shell
