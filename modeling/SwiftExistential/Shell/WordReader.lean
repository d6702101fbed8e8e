import SwiftExistential.Shell.Command

/-!
# Reading words

Single quotes take everything up to the next single quote, a backslash takes the next character, and
in double quotes the parameters and substitutions are still read. Where a word ends depends on where
it stands: `Context` says that. The commands of a substitution are read by a reader that is handed
in.

A word is read part by part, with one function for the parts of a word, one for a single part and
one for what a dollar sign begins. They call each other, since quotes stand in the words of
parameters and parameters in quotes. Backquotes are taken apart first, and the text between them is
read as a source of its own.
-/

set_option autoImplicit false

namespace SwiftExistential.Shell

/-- Where parts are read. -/
inductive Context where
  /-- Outside of quotes, up to a blank or an operator. -/
  | bare
  /-- As outside of quotes, where only quotes mean something. -/
  | delimiter
  /-- Up to a double quote. -/
  | quotes
  /-- Up to the brace that closes a parameter, which may stand in quotes. -/
  | braces (isQuoted : Bool)
  /-- A whole text, as if it stood in quotes. -/
  | document
  /-- Up to the two parentheses that close an arithmetic expression. -/
  | expression
deriving DecidableEq, Repr

namespace Context

/-- Whether parts stand in double quotes, or as if they did. -/
def isQuoted : Context → Bool
  | bare | delimiter | braces false => false
  | quotes | braces true | document | expression => true

/-- The characters that end a word outside of quotes. -/
def endsWord (c : Char) : Bool :=
  c == ' ' || c == '\t' || c == '\n' || c == ';' || c == '&' || c == '|' || c == '<' || c == '>' ||
    c == '(' || c == ')'

/-- Whether a character stands for itself and is no end. -/
def isOrdinary (context : Context) (c : Char) : Bool :=
  !(c == '\\' || c == '$' || c == '\x60' || c == '"' || c == '\x7d') &&
  match context with
  | bare | delimiter => !(endsWord c) && c != '\''
  | braces false => c != '\''
  | quotes | braces true | document => true
  | expression => c != '(' && c != ')'

def part (context : Context) (chars : Text) : Part :=
  if context.isQuoted then .quoted chars else .plain chars

end Context

/-- The use that an operator behind the name of a parameter asks for, and the text behind it. A
character that is no operator is dropped. -/
def readUse : Text → Use × Text
  | ':' :: '-' :: rest => (.orElse true, rest)
  | '-' :: rest => (.orElse false, rest)
  | ':' :: '=' :: rest => (.assign true, rest)
  | '=' :: rest => (.assign false, rest)
  | ':' :: '+' :: rest => (.alternative true, rest)
  | '+' :: rest => (.alternative false, rest)
  | ':' :: '?' :: rest => (.required true, rest)
  | '?' :: rest => (.required false, rest)
  | '#' :: '#' :: rest => (.trim ⟨true, true⟩, rest)
  | '#' :: rest => (.trim ⟨true, false⟩, rest)
  | '%' :: '%' :: rest => (.trim ⟨false, true⟩, rest)
  | '%' :: rest => (.trim ⟨false, false⟩, rest)
  | ':' :: _ :: rest => (.wrong, rest)
  | _ :: rest => (.wrong, rest)
  | [] => (.wrong, [])

/-- Whether a character is the name of a parameter that the shell itself sets. -/
def isSpecial (c : Char) : Bool := c.isDigit || "@*#?$!-".toList.contains c

/-- How the opening brace of a parameter goes on. -/
structure BraceStart where
  name : Text
  use : Use
  /-- Whether a word follows up to the closing brace, which is not read yet. -/
  hasWord : Bool
  rest : Text

/-- Reads what follows the name of a parameter in braces. -/
def readBraceUse (name : Text) : Text → BraceStart
  | '\x7d' :: rest => ⟨name, .plain, false, rest⟩
  | t =>
      let (use, rest) := readUse t
      ⟨name, use, true, rest⟩

/-- Reads the name of a parameter in braces, and its use. -/
def readBraceStart : Text → BraceStart
  | '#' :: c :: rest =>
      if isNameChar c then
        let name := if c.isDigit then (c :: rest).takeWhile Char.isDigit
          else (c :: rest).takeWhile isNameChar
        ⟨name, .length, true, (c :: rest).drop name.length⟩
      else if c != '\x7d' && isSpecial c && rest.head? == some '\x7d' then ⟨[c], .length, true, rest⟩
      else readBraceUse ['#'] (c :: rest)
  | c :: rest =>
      if isNameStart c then
        let name := (c :: rest).takeWhile isNameChar
        readBraceUse name ((c :: rest).drop name.length)
      else if c.isDigit then
        let name := (c :: rest).takeWhile Char.isDigit
        readBraceUse name ((c :: rest).drop name.length)
      else if c = '\x7d' then ⟨[], .wrong, true, c :: rest⟩
      else if isSpecial c then readBraceUse [c] rest
      else ⟨[], .wrong, true, rest⟩
  | [] => ⟨[], .wrong, true, []⟩

/-- The raw text up to the next backquote, and the text behind it. A backslash before a backquote, a
dollar sign or a backslash is taken away, and in quotes also before a double quote. -/
def splitAtBackquote (isQuoted : Bool) : Text → Option (Text × Text)
  | [] => none
  | '\\' :: '\n' :: rest => splitAtBackquote isQuoted rest
  | '\\' :: c :: rest =>
      let isTaken := c = '\x60' || c = '$' || c = '\\' || (isQuoted && c = '"')
      (splitAtBackquote isQuoted rest).map fun (a, b) =>
        ((if isTaken then [c] else ['\\', c]) ++ a, b)
  | c :: rest =>
      if c = '\x60' then some ([], rest)
      else (splitAtBackquote isQuoted rest).map fun (a, b) => (c :: a, b)

namespace Reader

def readEscape (context : Context) : Reader Part := do
  match ← rest with
  | [] => return .quoted ['\\']
  | c :: _ =>
      discard (take 1)
      if c = '\n' then return .plain []
      else if !context.isQuoted then return .quoted [c]
      else
        let isTaken := c = '\\' || c = '\x60' || c = '$' || (c = '"' && context != .document) ||
          (c = '\x7d' && context = .braces true)
        return .quoted (if isTaken then [c] else ['\\', c])

def endOfText (context : Context) : Reader Word :=
  match context with
  | .bare | .delimiter | .document => return []
  | .quotes | .braces true => fail "Unterminated quoted string".toList
  | .braces false => fail ("Missing '".toList ++ "\x7d'".toList)
  | .expression => fail "Missing '))'".toList

section

/- Reads the commands of a substitution, up to what cannot be one. -/
variable (commands : Reader Command)

/-- Reads a substitution that stands between backquotes. Its lines are counted apart. -/
def readBackquoted (isQuoted : Bool) : Reader Part := do
  match splitAtBackquote isQuoted (← rest) with
  | none =>
      discard (take (← rest).length)
      fail "EOF in backquote substitution".toList
  | some (source, after) =>
      discard (take ((← rest).length - after.length))
      let outer ← get
      match commands.run (Source.ofText source outer.aliases) with
      | .ok body _ => return .substitution isQuoted body
      | .error e _ => throw e

/-- Reads a substitution behind its opening parenthesis. The token behind its commands has been read
with them. -/
def readSubstitution (isQuoted : Bool) : Reader Part := do
  let outer ← get
  modify fun s => { s with pushed := none }
  let body ← commands
  match (← get).pushed with
  | some .closing =>
      modify fun s => { s with pushed := outer.pushed }
      return .substitution isQuoted body
  | token => unexpected (token.getD .endOfFile) (some .closing)

mutual

/-- Reads parts up to the end of the context, with so many steps at most. The count says how many
parentheses are open in an expression, and the flag whether a quotation is open inside of quoted
braces. -/
def readParts : Nat → Context → Nat → Bool → Reader Word
  | 0, _, _, _ => fail "Too deep".toList
  | fuel + 1, context, depth, inner => do
      let t ← rest
      let run := t.takeWhile context.isOrdinary
      if !run.isEmpty then
        discard (take run.length)
        return .cons (context.part run) (← readParts fuel context depth inner)
      else match t with
        | [] => endOfText context
        | c :: _ =>
            match context, c with
            | .bare, _ | .delimiter, _ =>
                if Context.endsWord c then return [] else readPart fuel context depth inner c
            | .quotes, '"' => do discard (take 1); return []
            | .braces true, '"' => do
                discard (take 1)
                readParts fuel context depth !inner
            | .braces _, '\x7d' => do
                discard (take 1)
                if inner then return .cons (context.part [c]) (← readParts fuel context depth inner)
                else return []
            | .expression, '(' => do
                discard (take 1)
                return .cons (.quoted [c]) (← readParts fuel context (depth + 1) inner)
            | .expression, ')' => do
                discard (take 1)
                match depth with
                | d + 1 => return .cons (.quoted [c]) (← readParts fuel context d inner)
                | 0 =>
                    skipContinuations
                    if (← rest).head? = some ')' then
                      discard (take 1)
                      return []
                    else return .cons (.quoted [c]) (← readParts fuel context 0 inner)
            | _, _ => readPart fuel context depth inner c

/-- Reads one part that starts with a character that means something, and those behind it. -/
def readPart : Nat → Context → Nat → Bool → Char → Reader Word
  | 0, _, _, _, _ => fail "Too deep".toList
  | fuel + 1, context, depth, inner, c => do
      discard (take 1)
      let others := readParts fuel context depth inner
      if c = '\\' then
        let part ← readEscape context
        return .cons part (← others)
      else if c = '\'' then
        match Text.splitAtPart? ['\''] (← rest) with
        | none =>
            discard (take (← rest).length)
            fail "Unterminated quoted string".toList
        | some (chars, _) =>
            discard (take (chars.length + 1))
            return .quoted chars :: (← others)
      else if c = '"' && !context.isQuoted then
        let inside ← readParts fuel .quotes 0 false
        let isAll := match inside with
          | [.parameter true ['@'] .plain _] => true
          | _ => false
        return (if isAll then inside else .quoted [] :: inside) ++ (← others)
      else if c = '\x60' && context != .delimiter then
        let part ← readBackquoted commands context.isQuoted
        return part :: (← others)
      else if c = '$' && context != .delimiter then
        let part ← readDollar fuel context
        return .cons part (← others)
      else return .cons (context.part [c]) (← others)

def readDollar : Nat → Context → Reader Part
  | 0, _ => fail "Too deep".toList
  | fuel + 1, context => do
      skipContinuations
      let isQuoted := context.isQuoted
      match ← rest with
      | '(' :: _ => do
          discard (take 1)
          skipContinuations
          if (← rest).head? = some '(' then
            discard (take 1)
            return .arithmetic isQuoted (← readParts fuel .expression 0 false)
          else readSubstitution commands isQuoted
      | '\x7b' :: _ => do
          discard (take 1)
          skipContinuations
          let t ← rest
          let start := readBraceStart t
          discard (take (t.length - start.rest.length))
          if start.hasWord then
            let isPattern := match start.use with
              | .trim _ => true
              | _ => false
            let word ← readParts fuel (.braces (isQuoted && !isPattern)) 0 false
            return .parameter isQuoted start.name start.use word
          else return .parameter isQuoted start.name start.use []
      | c :: t => do
          if isNameStart c then
            let name := (c :: t).takeWhile isNameChar
            discard (take name.length)
            return .parameter isQuoted name .plain []
          else if isSpecial c then
            discard (take 1)
            return .parameter isQuoted [c] .plain []
          else return context.part ['$']
      | [] => return context.part ['$']

end

end

end Reader

end SwiftExistential.Shell
