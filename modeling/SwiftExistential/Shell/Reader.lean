import SwiftExistential.Shell.WordReader

/-!
# Reading commands

A script is read one line at a time, so that a mistake in it is found only when the lines before it
have run. Whether a word is a keyword or an alias depends on where it stands, so every read says
what it wants.

Commands nest, and so do the readers. Each of them takes what reads commands inside as a parameter,
and `readAt` closes the circle with the depth that is still allowed. A token that was read too far
is pushed back, which happens at the end of almost every command.
-/

set_option autoImplicit false

namespace SwiftExistential.Shell

/-- What a reader of a token wants. -/
structure Wants where
  /-- Whether line ends are skipped. -/
  skipsLines : Bool
  /-- Whether a word can be a keyword. -/
  keywords : Bool
  /-- Whether a word can be an alias. -/
  aliases : Bool

namespace Wants

def plain : Wants := ⟨false, false, false⟩

def command : Wants := ⟨false, true, true⟩

def laterCommand : Wants := ⟨true, true, true⟩

end Wants

/-- How a list of commands ends. -/
inductive ListKind where
  /-- With the line. -/
  | line
  /-- With a token that cannot go on; there is at least one command. -/
  | block
  /-- As a block, but there may be no command. -/
  | open'
deriving DecidableEq, Repr

/-- What can be read at a depth. -/
inductive Goal where
  | list (kind : ListKind)
  | command
deriving DecidableEq, Repr

namespace Reader

/-- The number of blanks, and of comments, at the start of a text. -/
def blanks : Text → Nat
  | ' ' :: rest => blanks rest + 1
  | '\t' :: rest => blanks rest + 1
  | '\\' :: '\n' :: rest => blanks rest + 2
  | _ => 0

def skipBlanks : Reader Unit := do
  let n := blanks (← rest)
  if n > 0 then discard (take n)
  let t ← rest
  if t.head? = some '#' then setRest (t.dropWhile (· != '\n'))

/-- Forgets the aliases whose text has been read. Returns whether the next word can be an alias. -/
def leaveAliases : Reader Bool := do
  let s ← get
  if s.active.isEmpty then return false
  else
    let length := s.rest.length
    let (left, stay) := s.active.partition fun (_, after, _) => length ≤ after
    set { s with active := stay }
    return left.any fun (_, _, goesOn) => goesOn

def enterAlias (name value : Text) : Reader Unit :=
  modify fun s => { s with
    rest := value ++ s.rest,
    active := (name, s.rest.length,
      value.getLast? == some ' ' || value.getLast? == some '\t') :: s.active }

/-! ## Documents

The lines of a document stand behind the line that asks for it. Unless its delimiter has quotes, the
document is expanded like a text in double quotes. -/

/-- Whether a line goes on behind its end. -/
def isContinued (line : Text) : Bool := (line.reverse.takeWhile (· == '\\')).length % 2 == 1

/-- The lines of a document up to its delimiter, and the number of lines that it takes in all. The
flag says whether the line before goes on. -/
def documentLines (isVerbatim isIndented : Bool) (delimiter : Text) :
    Bool → List Text → List Text × Nat
  | _, [] => ([], 0)
  | _, [[]] => ([], 0)
  | goesOn, line :: rest =>
      let line := if isIndented && !goesOn then line.dropWhile (· == '\t') else line
      if line = delimiter && !goesOn then ([], 1)
      else
        let (others, n) :=
          documentLines isVerbatim isIndented delimiter (!isVerbatim && isContinued line) rest
        (line :: others, n + 1)

section

/- Reads the commands of a substitution. -/
variable (commands : Reader Command)

/-- Steps that are enough to read the parts of a text. -/
def steps (t : Text) : Nat := 3 * t.length + 8

/-- Takes the text of a document from the lines behind the current one. -/
def readDocument (isIndented : Bool) (delimiter : Word) : Reader Word := do
  let s ← get
  let current := s.rest.takeWhile (· != '\n')
  let behind := s.rest.drop current.length
  let all := Text.lines (behind.drop 1)
  let isVerbatim := delimiter.hasQuotes
  let (body, count) :=
    documentLines isVerbatim isIndented (delimiter.literal?.getD []) false all
  let text := (body.map (· ++ ['\n'])).flatten
  let text := if body.length = all.length then text.dropLast else text
  set { s with
    rest := current ++ behind.take 1 ++ Text.join ['\n'] (all.drop count),
    owed := s.owed + count }
  if isVerbatim then return [.quoted text]
  else
    let start : Source := ⟨text, s.line + s.owed + 1, 0, none, s.aliases, []⟩
    match (readParts commands (steps text) .document 0 false).run start with
    | .ok word _ => return word
    | .error e _ => throw e

/-! ## Tokens

The text of an alias is put before the rest of the source. An alias is not expanded inside of its
own text. -/

/-- The redirection mark at the start of a text, with the descriptor that it is about. -/
def redirectionMark? : Text → Option (Nat × Mark × Nat)
  | '>' :: '>' :: _ => some (1, .file .append, 2)
  | '>' :: '|' :: _ => some (1, .file .clobber, 2)
  | '>' :: '&' :: _ => some (1, .duplicate, 2)
  | '>' :: _ => some (1, .file .output, 1)
  | '<' :: '<' :: '-' :: _ => some (0, .document true, 3)
  | '<' :: '<' :: _ => some (0, .document false, 2)
  | '<' :: '&' :: _ => some (0, .duplicate, 2)
  | '<' :: '>' :: _ => some (0, .file .update, 2)
  | '<' :: _ => some (0, .file .input, 1)
  | _ => none

def operator? : Text → Option (Token × Nat)
  | '\n' :: _ => some (.newline, 1)
  | '&' :: '&' :: _ => some (.andThen, 2)
  | '&' :: _ => some (.background, 1)
  | '|' :: '|' :: _ => some (.orElse, 2)
  | '|' :: _ => some (.pipe, 1)
  | ';' :: ';' :: _ => some (.endCase, 2)
  | ';' :: _ => some (.semicolon, 1)
  | '(' :: _ => some (.opening, 1)
  | ')' :: _ => some (.closing, 1)
  | [] => some (.endOfFile, 0)
  | _ => none

/-- Reads a token from the text, a word in a context. -/
def readRaw (context : Context) : Reader Token := do
  skipBlanks
  let t ← rest
  match operator? t with
  | some (token, n) =>
      discard (take n)
      return token
  | none =>
      let word ← readParts commands (steps t) context 0 false
      let number : Option (Option Nat) := match word with
        | [] => some none
        | [.plain [d]] => if d.isDigit then some (some (d.toNat - '0'.toNat)) else none
        | _ => none
      match number, redirectionMark? (← rest) with
      | some given, some (usual, mark, n) =>
          discard (take n)
          return .redirection (given.getD usual) mark
      | _, _ => return .word word

/-- The next token as it stands, or the one that was pushed back. -/
def nextRaw : Reader Token := do
  match (← get).pushed with
  | some token =>
      modify fun s => { s with pushed := none }
      return token
  | none => readRaw commands .bare

def skipLines : Nat → Token → Reader Token
  | fuel + 1, .newline => do skipLines fuel (← nextRaw commands)
  | _, token => return token

/-- Reads a token and asks whether it is a keyword or an alias, of which so many can follow each
other. -/
def readTokenWith (wants : Wants) : Nat → Reader Token
  | 0 => fail "Too deep".toList
  | fuel + 1 => do
      let isFresh := (← get).pushed.isNone
      let before ← leaveAliases
      let isActive := fun (text : Text) (s : Source) => s.active.any fun (name, _) => name = text
      let entered ← get
      let token ← nextRaw commands
      let after ← leaveAliases
      let token ← if wants.skipsLines then skipLines commands ((← rest).length + 1) token
        else pure token
      match token with
      | .word word =>
          match word.plain? with
          | none => return token
          | some text =>
              match (if wants.keywords then Keyword.ofText? text else none) with
              | some k => return .keyword k
              | none =>
                  let mayBeAlias := isFresh && (wants.aliases || before || after) &&
                    !(isActive text entered && !after)
                  match (if mayBeAlias then entered.aliases.lookup text else none) with
                  | some value =>
                      enterAlias text value
                      readTokenWith wants fuel
                  | none => return token
      | token => return token

/-- **Reads a token.** -/
def readToken (wants : Wants) : Reader Token := readTokenWith commands wants 1000

/-- Reads the word that a redirection mark asks for. -/
def readTarget (descriptor : Nat) (mark : Mark) : Reader Redirection := do
  let context := match mark with
    | .document _ => Context.delimiter
    | _ => .bare
  match ← readRaw commands context with
  | .word word =>
      match mark with
      | .file access => return .file descriptor access word
      | .duplicate => return .duplicate descriptor word
      | .document isIndented =>
          return .document descriptor (← readDocument commands isIndented word)
  | token => unexpected token none

/-! ## Commands

From simple commands over pipelines to lists, each kind is read by its own function. -/

def expect (expected : Keyword) (wants : Wants) : Reader Unit := do
  match ← readToken commands wants with
  | .keyword k => if k = expected then pure () else unexpected (.keyword k) (some (.keyword expected))
  | token => unexpected token (some (.keyword expected))

def readRedirections : Nat → Wants → Reader (List Redirection)
  | 0, _ => return []
  | fuel + 1, wants => do
      match ← readToken commands wants with
      | .redirection descriptor mark =>
          let first ← readTarget commands descriptor mark
          return first :: (← readRedirections fuel .plain)
      | token =>
          pushBack token
          return []

/-- The words up to the end of the line or a semicolon. -/
def readItems : Nat → Reader (List Word)
  | 0 => return []
  | fuel + 1 => do
      match ← readToken commands .plain with
      | .word word => return word :: (← readItems fuel)
      | .newline | .semicolon => return []
      | token => unexpected token none

/-- The patterns of a branch behind its first token, up to its parenthesis. -/
def readPatterns : Nat → Token → Reader (List Word)
  | 0, token => unexpected token none
  | fuel + 1, token => do
      let word := match token with
        | .word word => word
        | .keyword k => [Part.plain k.text.toList]
        | _ => []
      match ← readToken commands .plain with
      | .pipe => return word :: (← readPatterns fuel (← readToken commands .plain))
      | .closing => return [word]
      | other => unexpected other (some .closing)

/- Reads what nests. -/
variable (nested : Goal → Reader Command)

/-- A conditional behind its first keyword. -/
def readConditional : Nat → Reader Command
  | 0 => fail "Too deep".toList
  | fuel + 1 => do
      let condition ← nested (.list .block)
      expect commands .then' .plain
      let body ← nested (.list .block)
      match ← readToken commands .plain with
      | .keyword .elif => return .conditional condition body (← readConditional fuel)
      | .keyword .else' => return .conditional condition body (← nested (.list .block))
      | token =>
          pushBack token
          return .conditional condition body .nothing

def readBranches : Nat → Reader (List Branch)
  | 0 => fail "Too deep".toList
  | fuel + 1 => do
      match ← readToken commands ⟨true, true, false⟩ with
      | .keyword .esac => return []
      | token =>
          let first ← match token with
            | .opening => readToken commands .plain
            | token => pure token
          let patterns ← readPatterns commands ((← rest).length + 1) first
          let body ← nested (.list .open')
          match ← readToken commands ⟨true, true, false⟩ with
          | .keyword .esac => return [.mk patterns body]
          | .endCase => return .mk patterns body :: (← readBranches fuel)
          | token => unexpected token (some .endCase)

/-- A loop over words behind its keyword. -/
def readForEach (line : Nat) : Reader Command := do
  let name := match ← readToken commands .plain with
    | .word word => (word.plain?.getD [])
    | _ => []
  if !isName name then fail "Bad for loop variable".toList
  else
    let words ← match ← readToken commands .laterCommand with
      | .keyword .in' => readItems commands ((← rest).length + 1)
      | .semicolon => pure [Word.allArguments]
      | token =>
          pushBack token
          pure [Word.allArguments]
    expect commands .do' .laterCommand
    let body ← nested (.list .block)
    return .forEach line name words body

def readSelection (line : Nat) : Reader Command := do
  match ← readToken commands .plain with
  | .word subject =>
      expect commands .in' .laterCommand
      return .select line subject (← readBranches commands nested ((← rest).length + 1))
  | token => unexpected token (some (.word []))

/-- A simple command, as far as it is read. -/
structure Simple where
  assignments : List Word
  words : List Word
  redirections : List Redirection

/-- Reads a simple command, or the definition of a function. -/
def readSimple (line : Nat) : Nat → Simple → Reader Command
  | 0, _ => fail "Too deep".toList
  | fuel + 1, s => do
      let finish : Reader Command :=
        return .simple line s.assignments.reverse s.words.reverse s.redirections.reverse
      match ← readToken commands ⟨false, false, s.words.isEmpty⟩ with
      | .word word =>
          if s.words.isEmpty && word.assignment?.isSome then
            readSimple line fuel { s with assignments := word :: s.assignments }
          else readSimple line fuel { s with words := word :: s.words }
      | .redirection descriptor mark =>
          let redirection ← readTarget commands descriptor mark
          readSimple line fuel { s with redirections := redirection :: s.redirections }
      | .opening =>
          match s.words, s.assignments, s.redirections with
          | [name], [], [] =>
              match ← readToken commands .plain with
              | .closing =>
                  let name := name.plain?.getD []
                  if !isName name || isSpecialBuiltin name then fail "Bad function name".toList
                  else
                    let first ← readToken commands .laterCommand
                    pushBack first
                    return .define name (← nested .command)
              | token => unexpected token (some .closing)
          | _, _, _ =>
              pushBack .opening
              finish
      | token =>
          pushBack token
          finish

/-- Puts the redirections that follow a command around it. -/
def withRedirections (line : Nat) (body : Command) : Reader Command := do
  match ← readRedirections commands ((← rest).length + 1) .command with
  | [] => return body
  | redirections =>
      match body with
      | .subshell line body _ => return .subshell line body redirections
      | body => return .redirected line body redirections

def readCommand (wants : Wants) : Reader Command := do
  let token ← readToken commands wants
  let line := (← get).line
  let closed := fun (body : Command) (k : Keyword) => do
    expect commands k .plain
    withRedirections commands line body
  match token with
  | .keyword .if' => closed (← readConditional commands nested ((← rest).length + 1)) .fi
  | .keyword .while' | .keyword .until' =>
      let isUntil := match token with
        | .keyword .until' => true
        | _ => false
      let condition ← nested (.list .block)
      expect commands .do' .plain
      closed (.loop isUntil condition (← nested (.list .block))) .done
  | .keyword .for' => closed (← readForEach commands nested line) .done
  | .keyword .case' => withRedirections commands line (← readSelection commands nested line)
  | .opening =>
      let body ← nested (.list .block)
      match ← readToken commands .plain with
      | .closing => withRedirections commands line (.subshell line body [])
      | token => unexpected token (some .closing)
  | .keyword .opening => closed (← nested (.list .block)) .closing
  | .word _ | .redirection .. =>
      pushBack token
      readSimple commands nested line (2 * (← rest).length + 8) ⟨[], [], []⟩
  | token => unexpected token none

/-- Commands that hand on their output, behind the first. -/
def readPiped : Nat → Reader (List Command)
  | 0 => return []
  | fuel + 1 => do
      match ← readToken commands .plain with
      | .pipe =>
          let next ← readCommand commands nested .laterCommand
          return next :: (← readPiped fuel)
      | token =>
          pushBack token
          return []

/-- A pipeline whose success may be turned around. -/
def readPipeline (wants : Wants) : Reader Command := do
  let token ← readToken commands wants
  let isNegated := match token with
    | .keyword .bang => true
    | _ => false
  if !isNegated then pushBack token
  let first ← readCommand commands nested (if isNegated then .command else .plain)
  let all ← match ← readPiped commands nested ((← rest).length + 1) with
    | [] => pure first
    | others => pure (.pipeline (first :: others))
  return if isNegated then .negated all else all

/-- Pipelines that run depending on the success of those before. -/
def readAndOr : Nat → Command → Reader Command
  | 0, before => return before
  | fuel + 1, before => do
      match ← readToken commands .plain with
      | .andThen => readAndOr fuel (.andThen before (← readPipeline commands nested .laterCommand))
      | .orElse => readAndOr fuel (.orElse before (← readPipeline commands nested .laterCommand))
      | token =>
          pushBack token
          return before

/-- Puts a command behind others. -/
def behind : Option Command → Command → Command
  | none, next => next
  | some before, next => .sequence before next

/-- Reads commands one after the other, behind those that were read. There is none at the end of the
text. -/
def readListFrom (kind : ListKind) : Nat → Option Command → Reader (Option Command)
  | 0, before => return before
  | fuel + 1, before => do
      match ← readToken commands ⟨kind != .line, true, true⟩ with
      | .newline => return some (before.getD .nothing)
      | .endOfFile =>
          pushBack .endOfFile
          return before
      | token =>
          pushBack token
          if token.endsList && (kind = .open' || (kind = .block && before.isSome)) then return before
          else
            let first ← readPipeline commands nested .plain
            let next ← readAndOr commands nested ((← rest).length + 1) first
            match ← readToken commands .plain with
            | .background =>
                readListFrom kind fuel (some (behind before (.background next)))
            | .semicolon => readListFrom kind fuel (some (behind before next))
            | .newline =>
                pushBack .newline
                readListFrom kind fuel (some (behind before next))
            | .endOfFile =>
                pushBack .endOfFile
                readListFrom kind fuel (some (behind before next))
            | token =>
                if kind = .line then unexpected token none
                else
                  pushBack token
                  return some (behind before next)

end

/-- Reads what nests, so deep at most. -/
def readAt : Nat → Goal → Reader Command
  | 0, _ => fail "Too deep".toList
  | depth + 1, goal =>
      let commands := readAt depth (.list .open')
      match goal with
      | .list kind => do
          let all ← readListFrom commands (readAt depth) kind (2 * (← rest).length + 8) none
          return all.getD .nothing
      | .command => readCommand commands (readAt depth) .plain

/-- How deep commands can nest. -/
def maxNesting : Nat := 1000

/-- Reads the commands of one line, or of several if one goes on. There are none at the end of the
text. The flag says whether the text ends there. -/
def readLine : Reader (Option (Command × Bool)) := do
  modify fun s => { s with pushed := none }
  let command? ← readListFrom (readAt maxNesting (.list .open')) (readAt maxNesting) .line
    (2 * (← rest).length + 8) none
  let isLast := match (← get).pushed with
    | some .endOfFile => true
    | _ => false
  return command?.map fun command => (command, isLast)

end Reader

/-- **Reads the word at the start of a text.** -/
def readWord (t : Text) : Option (Word × Text) :=
  let reader := Reader.readParts (Reader.readAt Reader.maxNesting (.list .open'))
    (Reader.steps t) .bare 0 false
  match reader.run (Source.ofText t []) with
  | .ok word source => some (word, source.rest)
  | .error _ _ => none

end SwiftExistential.Shell
