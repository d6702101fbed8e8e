import SwiftExistential.Expression.Basic
import SwiftExistential.Text.Number

/-!
# Reading ordered expressions

The written form of ordered expressions. Groups can have names and options, can look ahead and back,
or can be chosen by what other groups have taken. Options hold up to the end of the group they stand
in.

A reader is an action on a `Source`: the text that is left, the options that hold, and the groups
that were met. It ends with the first fault that it finds, and each fault has the wording in which
the program reports it. Alternatives stand in groups, and groups in alternatives: `readAt` ties the
two together with the depth that is still allowed.
-/

set_option autoImplicit false

namespace SwiftExistential.Ordered

/-- What is wrong with a text that is no ordered expression. -/
inductive Fault where
  | missingClosing
  | extraClosing
  | openClass
  | nothingToRepeat
  | swappedCounts
  | hugeCount
  | lastBackslash
  | strangeLetter
  | missingGroup
  | swappedRange
  | classInRange
  | strangeOption
  | unknownClass
  | collating
  | classOutside
  | variableWidth
  | missingName
  | digitName
  | openName
  | doubledName
  | openComment
  | unsupportedLetter
  | unknownProperty
  | malformedProperty
  | strangeInClass
  | strangeHex
  | strangeOctal
  | missingBrace
  | missingDigits
  | lastControl
  | strangeControl
  | referenceForm
  | nameForm
  | strangeVerb
  | strangeNamed
deriving DecidableEq, Repr

def Fault.message : Fault → String
  | missingClosing => "missing closing parenthesis"
  | extraClosing => "unmatched closing parenthesis"
  | openClass => "missing terminating ] for character class"
  | nothingToRepeat => "quantifier does not follow a repeatable item"
  | swappedCounts => "numbers out of order in \x7b\x7d quantifier"
  | hugeCount => "number too big in \x7b\x7d quantifier"
  | lastBackslash => "\\ at end of pattern"
  | strangeLetter => "unrecognized character follows \\"
  | missingGroup => "reference to non-existent subpattern"
  | swappedRange => "range out of order in character class"
  | classInRange => "invalid range in character class"
  | strangeOption => "unrecognized character after (? or (?-"
  | unknownClass => "unknown POSIX class name"
  | collating => "POSIX collating elements are not supported"
  | classOutside => "POSIX named classes are supported only within a class"
  | variableWidth => "lookbehind assertion is not fixed length"
  | missingName => "subpattern name expected"
  | digitName => "subpattern name must start with a non-digit"
  | openName => "syntax error in subpattern name (missing terminator?)"
  | doubledName => "two named subpatterns have the same name (PCRE2_DUPNAMES not set)"
  | openComment => "missing ) after (?# comment"
  | unsupportedLetter => "PCRE2 does not support \\F, \\L, \\l, \\N\x7bname\x7d, \\U, or \\u"
  | unknownProperty => "unknown property after \\P or \\p"
  | malformedProperty => "malformed \\P or \\p sequence"
  | strangeInClass => "escape sequence is invalid in character class"
  | strangeHex => "non-hex character in \\x\x7b\x7d (closing brace missing?)"
  | strangeOctal => "non-octal character in \\o\x7b\x7d (closing brace missing?)"
  | missingBrace => "missing opening brace after \\o"
  | missingDigits => "digits missing in \\x\x7b\x7d or \\o\x7b\x7d or \\N\x7bU+\x7d"
  | lastControl => "\\c at end of pattern"
  | strangeControl => "\\c must be followed by a printable ASCII character"
  | referenceForm => "\\g is not followed by a braced, angle-bracketed, or quoted name/number or by a plain number"
  | nameForm => "\\k is not followed by a braced, angle-bracketed, or quoted name"
  | strangeVerb => "(*alpha_assertion) not recognized"
  | strangeNamed => "unrecognized character after (?P"

/-- What can be said about how the text is read. -/
structure Options where
  ignoresCase : Bool
  isMultiline : Bool
  /-- Whether the dot takes line ends. -/
  dotsAll : Bool
  /-- Whether blanks and comments mean nothing. -/
  isSpaced : Bool

/-- What is left to read, and what has been met. -/
structure Source where
  rest : Text
  options : Options
  opened : Nat
  names : List (Text × Nat)
  /-- The largest number of a group that was asked for. -/
  wanted : Nat

abbrev Reader := StateT Source (Except Fault)

namespace Reader

def rest : Reader Text := do return (← get).rest

def setRest (t : Text) : Reader Unit := modify fun s => { s with rest := t }

def options : Reader Options := do return (← get).options

/-! ## Characters

A letter behind a backslash stands for a class or for a character that cannot be seen. Characters
can also be given by their codes, in braces or without, and the classes have names behind a letter
of their own. -/

def others (choices : List Choice) : List Choice :=
  (List.range 256).filterMap fun n =>
    let c := Char.ofNat n
    if choices.any (Choice.holds c) then none else some (.range c c)

/-- The class that a letter behind a backslash stands for. -/
def classOf? : Char → Option (List Choice)
  | 'd' => some [.named "digit"]
  | 'w' => some [.named "alnum", .range '_' '_']
  | 's' => some [.named "space"]
  | 'h' => some [.range ' ' ' ', .range '\t' '\t', .range '\xa0' '\xa0']
  | 'v' => some [.range '\n' '\r', .range '\x85' '\x85']
  | 'D' => some (others [.named "digit"])
  | 'W' => some (others [.named "alnum", .range '_' '_'])
  | 'S' => some (others [.named "space"])
  | 'H' => some (others [.range ' ' ' ', .range '\t' '\t', .range '\xa0' '\xa0'])
  | 'V' => some (others [.range '\n' '\r', .range '\x85' '\x85'])
  | _ => none

def property? : String → Option (List Choice)
  | "L" | "Alphabetic" => some [.named "alpha"]
  | "Lu" | "Lt" | "Uppercase" => some [.named "upper"]
  | "Ll" | "Lowercase" => some [.named "lower"]
  | "L&" | "Latin" | "Lm" | "Lo" => some [.named "alpha"]
  | "N" | "Nd" => some [.named "digit"]
  | "P" => some ("!\"#%&'()*,-./:;?@[\\]_\x7b\x7d".toList.map fun c => .range c c)
  | "S" => some ("$+<=>^\x60|~".toList.map fun c => .range c c)
  | "Z" | "Zs" => some [.range ' ' ' ']
  | "C" | "Cc" => some [.named "cntrl"]
  | "Any" => some [.range '\x00' '\xff']
  | "Xan" => some [.named "alnum"]
  | "Xsp" | "Xps" => some [.named "space"]
  | "Xwd" => some [.named "alnum", .range '_' '_']
  | _ => none

/-- Reads the name of a property behind its letter. -/
def readProperty (isNegated : Bool) : Reader (List Choice) := do
  let found := fun (isNegated : Bool) (name after : Text) => do
    setRest after
    match property? (String.ofList name) with
    | none => throw .unknownProperty
    | some choices => return if isNegated then others choices else choices
  match ← rest with
  | '\x7b' :: more =>
      match Text.splitAtPart? ['\x7d'] more with
      | none => throw .malformedProperty
      | some ('^' :: name, after) => found (!isNegated) name after
      | some (name, after) => found isNegated name after
  | c :: after => if c.isAlpha then found isNegated [c] after else throw .malformedProperty
  | [] => throw .malformedProperty

def readBraced (base : Nat) (fault : Fault) (t : Text) : Reader Char := do
  let digits := t.takeWhile (Number.isDigit base)
  match t.drop digits.length with
  | '\x7d' :: after =>
      if digits.isEmpty then throw .missingDigits
      setRest after
      return Char.ofNat (Number.value base digits)
  | [] => throw (if digits.isEmpty then .missingDigits else fault)
  | _ => throw fault

/-- Reads the character that a letter behind a backslash stands for, if it stands for one. -/
def readHidden? (letter : Char) : Reader (Option Char) := do
  let t ← rest
  match letter with
  | 't' => return some '\t'
  | 'n' => return some '\n'
  | 'r' => return some '\r'
  | 'f' => return some '\x0c'
  | 'e' => return some '\x1b'
  | 'a' => return some '\x07'
  | 'x' =>
      match t with
      | '\x7b' :: more => return some (← readBraced 16 .strangeHex more)
      | t =>
          let digits := (t.take 2).takeWhile (Number.isDigit 16)
          setRest (t.drop digits.length)
          return some (Char.ofNat (Number.value 16 digits))
  | 'o' =>
      match t with
      | '\x7b' :: more => return some (← readBraced 8 .strangeOctal more)
      | _ => throw .missingBrace
  | '0' =>
      let digits := (t.take 2).takeWhile (Number.isDigit 8)
      setRest (t.drop digits.length)
      return some (Char.ofNat (Number.value 8 digits))
  | 'c' =>
      match t with
      | [] => throw .lastControl
      | c :: after =>
          if c.toNat < 32 || c.toNat > 126 then throw .strangeControl
          setRest after
          return some (Char.ofNat (c.toUpper.toNat ^^^ 64))
  | c =>
      if c.isAlphanum then return none
      else return some c

/-! ## Classes

In a class only a few characters mean something: the bracket at its end, the dash of a range, the
backslash, and brackets with marks around the name of a class. -/

/-- Part of a class: a single character, or several. -/
inductive Member where
  | single (c : Char)
  | several (choices : List Choice)

/-- Reads what stands behind a backslash in a class. -/
def readClassEscape : Reader Member := do
  match ← rest with
  | [] => throw .lastBackslash
  | c :: after =>
      setRest after
      match classOf? c, c with
      | some choices, _ => return .several choices
      | none, 'p' => return .several (← readProperty false)
      | none, 'P' => return .several (← readProperty true)
      | none, 'b' => return .single '\x08'
      | none, 'N' | none, 'B' | none, 'R' | none, 'X' => throw .strangeInClass
      | none, c =>
          if '1' ≤ c && c ≤ '7' then
            let digits := ((c :: after).take 3).takeWhile (Number.isDigit 8)
            setRest ((c :: after).drop digits.length)
            return .single (Char.ofNat (Number.value 8 digits % 256))
          else match ← readHidden? c with
            | some d => return .single d
            | none =>
                if "FLlUu".toList.contains c then throw .unsupportedLetter
                else if "AzZGKCk".toList.contains c then throw .strangeInClass
                else throw .strangeLetter

/-- The name between marks and brackets, if there is one. -/
def splitNamed? (mark : Char) (t : Text) : Option (Text × Text) :=
  match Text.splitAtPart? [mark, ']'] t with
  | some (name, behind) => if name.contains ']' || Text.hasPart ['[', mark] name then none else some (name, behind)
  | none => none

def readMember : Reader Member := do
  match ← rest with
  | '\\' :: after =>
      setRest after
      readClassEscape
  | '[' :: mark :: after =>
      if [':', '.', '='].contains mark then
        match splitNamed? mark after with
        | none =>
            setRest (mark :: after)
            return .single '['
        | some (name, behind) =>
            if mark != ':' then throw .collating
            else
              let (isNegated, name) := match name with
                | '^' :: name => (true, name)
                | name => (false, name)
              let name := String.ofList name
              let choices := if name = "word" then [.named "alnum", .range '_' '_'] else [.named name]
              if name != "word" && (Choice.classHolds? name 'a').isNone then throw .unknownClass
              setRest behind
              return .several (if isNegated then others choices else choices)
      else
        setRest (mark :: after)
        return .single '['
  | c :: after =>
      setRest after
      return .single c
  | [] => throw .openClass

/-- Reads the parts of a class up to its end. -/
def readMembers : Nat → Bool → Reader (List Choice)
  | 0, _ => throw .openClass
  | fuel + 1, isFirst => do
      match ← rest, isFirst with
      | ']' :: after, false =>
          setRest after
          return []
      | '\\' :: 'E' :: after, _ =>
          setRest after
          readMembers fuel isFirst
      | [], _ => throw .openClass
      | _, _ =>
          let member ← readMember
          match member, ← rest with
          | _, '-' :: ']' :: after =>
              setRest (']' :: after)
              let more ← readMembers fuel false
              return parts member ++ .range '-' '-' :: more
          | .single low, '-' :: after =>
              setRest after
              match ← readMember with
              | .several _ => throw .classInRange
              | .single high =>
                  if high < low then throw .swappedRange
                  return .range low high :: (← readMembers fuel false)
          | .several _, '-' :: _ => throw .classInRange
          | member, _ => return parts member ++ (← readMembers fuel false)
where
  /-- The choices of a part. -/
  parts : Member → List Choice
    | .single c => [.range c c]
    | .several choices => choices

/-- Reads a class behind its opening bracket. -/
def readClass : Reader Ordered := do
  let t ← rest
  match t with
  | mark :: more =>
      if [':', '.', '='].contains mark && (splitNamed? mark more).isSome then
        throw (if mark == ':' then .classOutside else .collating)
  | _ => pure ()
  let isNegated := t.head? = some '^'
  if isNegated then setRest (t.drop 1)
  let choices ← readMembers (t.length + 1) true
  return .oneOf (← options).ignoresCase isNegated choices

/-! ## Repetition

Braces that do not hold counts stand for themselves, so counts are looked at before they are read.
-/

/-- The counts at the start of a text, behind an opening brace. -/
def counts? (t : Text) : Option ((Nat × Option Nat) × Text) :=
  let least := t.takeWhile (Number.isDigit 10)
  if least.isEmpty then none
  else
    let n := Number.value 10 least
    match t.drop least.length with
    | '\x7d' :: after => some ((n, some n), after)
    | ',' :: more =>
        let most := more.takeWhile (Number.isDigit 10)
        match more.drop most.length with
        | '\x7d' :: after => some ((n, if most.isEmpty then none else some (Number.value 10 most)), after)
        | _ => none
    | _ => none

def repetition? (t : Text) : Option ((Nat × Option Nat) × Text) :=
  match t with
  | '*' :: after => some ((0, none), after)
  | '+' :: after => some ((1, none), after)
  | '?' :: after => some ((0, some 1), after)
  | '\x7b' :: after => counts? after
  | _ => none

/-- Passes blanks and comments if they mean nothing. -/
def skipSpace : Nat → Reader Unit
  | 0 => return ()
  | fuel + 1 => do
      if !(← options).isSpaced then return ()
      match ← rest with
      | '#' :: after =>
          setRest ((after.dropWhile (· != '\n')).drop 1)
          skipSpace fuel
      | c :: after =>
          if Number.isSpace c then
            setRest after
            skipSpace fuel
      | [] => return ()

def readRepetition (e : Ordered) : Reader Ordered := do
  skipSpace (← rest).length
  match repetition? (← rest) with
  | none => return e
  | some ((least, most), after) =>
      if least > 65535 || most.any (· > 65535) then throw .hugeCount
      if most.any (· < least) then throw .swappedCounts
      match after with
      | '?' :: after =>
          setRest after
          return .repeated .fewer e least most
      | '+' :: after =>
          setRest after
          return .first (.repeated .more e least most)
      | after =>
          setRest after
          return .repeated .more e least most

/-! ## Groups

What follows an opening parenthesis and a question mark decides what kind of group it is. Groups
that look back need alternatives of which each has one width. -/

def readName (closing : Char) : Reader Text := do
  let t ← rest
  let name := t.takeWhile Expression.isWordChar
  match name, t.drop name.length with
  | [], _ => throw .missingName
  | d :: _, after =>
      if d.isDigit then throw .digitName
      else if after.head? = some closing then
        setRest (after.drop 1)
        return name
      else throw .openName

def numberOf (name : Text) : Reader Nat := do
  match (← get).names.lookup name with
  | some n => return n
  | none => throw .missingGroup

def again (number : Nat) : Reader Ordered := do
  modify fun s => { s with wanted := max s.wanted number }
  return .again (← options).ignoresCase number

/-- Reads a number of a group, counted back from here if it is negative. -/
def groupNumber? (t : Text) : Reader (Option Nat) := do
  match t with
  | '-' :: digits =>
      let n := Number.value 10 digits
      if digits.isEmpty || !digits.all Char.isDigit then return none
      else
        let opened := (← get).opened
        if n = 0 || opened < n then throw .missingGroup else return some (opened + 1 - n)
  | digits => return if digits.isEmpty || !digits.all Char.isDigit then none else some (Number.value 10 digits)

/-- Reads the text between a mark and its counterpart. -/
def readEnclosed (fault : Fault) : Reader Text := do
  let closing? := match (← rest).head? with
    | some '\x7b' => some '\x7d'
    | some '<' => some '>'
    | some '\'' => some '\''
    | _ => none
  match closing? with
  | none => throw fault
  | some closing =>
      match Text.splitAtPart? [closing] ((← rest).drop 1) with
      | none => throw .missingName
      | some (inside, after) =>
          setRest after
          return inside

/-- Reads what stands behind a backslash. -/
def readEscape : Reader Ordered := do
  let o ← options
  match ← rest with
  | [] => throw .lastBackslash
  | c :: after =>
      setRest after
      match classOf? c, c with
      | some choices, _ => return .oneOf false false choices
      | none, 'p' => return .oneOf false false (← readProperty false)
      | none, 'P' => return .oneOf false false (← readProperty true)
      | none, 'b' => return .edge .word
      | none, 'B' => return .edge .notWord
      | none, 'A' => return .edge .textStart
      | none, 'z' => return .edge .textEnd
      | none, 'Z' => return .lastEdge
      | none, 'G' => return .edge .textStart
      | none, 'K' => return .restart
      | none, 'E' => return .empty
      | none, 'N' => return .oneOf false true [.range '\n' '\n']
      | none, 'C' | none, 'X' => return .oneOf false true []
      | none, 'R' =>
          return .first (.choice (.sequence (.exactly false '\r') (.exactly false '\n'))
            (.oneOf false false [.range '\n' '\r', .range '\x85' '\x85']))
      | none, 'k' =>
          let name ← readEnclosed .nameForm
          again (← numberOf name)
      | none, 'g' =>
          let digits := after.takeWhile Char.isDigit
          if !digits.isEmpty then
            setRest (after.drop digits.length)
            again (Number.value 10 digits)
          else
            let inside ← readEnclosed .referenceForm
            match ← groupNumber? inside with
            | some n => again n
            | none => again (← numberOf inside)
      | none, c =>
          if '1' ≤ c && c ≤ '9' then
            let digits := (c :: after).takeWhile Char.isDigit
            let n := Number.value 10 digits
            if n < 10 || n ≤ (← get).opened then
              setRest ((c :: after).drop digits.length)
              again n
            else
              let digits := ((c :: after).take 3).takeWhile (Number.isDigit 8)
              if digits.isEmpty then throw .missingGroup
              setRest ((c :: after).drop digits.length)
              return .exactly o.ignoresCase (Char.ofNat (Number.value 8 digits % 256))
          else match ← readHidden? c with
            | some d => return .exactly o.ignoresCase d
            | none => throw (if "FLlUu".toList.contains c then .unsupportedLetter else .strangeLetter)

def readOptions : Nat → Bool → Reader Unit
  | 0, _ => return ()
  | fuel + 1, isOn => do
      let set := fun (change : Options → Options) => modify fun s => { s with options := change s.options }
      match ← rest with
      | [] => throw .missingClosing
      | c :: after =>
          let goOn := fun (isOn : Bool) => do
            setRest after
            readOptions fuel isOn
          match c with
          | ')' | ':' => return ()
          | '-' => goOn false
          | '^' =>
              set fun _ => ⟨false, false, false, false⟩
              goOn true
          | 'i' =>
              set fun o => { o with ignoresCase := isOn }
              goOn isOn
          | 'm' =>
              set fun o => { o with isMultiline := isOn }
              goOn isOn
          | 's' =>
              set fun o => { o with dotsAll := isOn }
              goOn isOn
          | 'x' =>
              set fun o => { o with isSpaced := isOn }
              goOn isOn
          | 'n' | 'J' | 'U' => goOn isOn
          | _ => throw .strangeOption

def oneOfAll : List Ordered → Ordered
  | [] => .empty
  | [e] => e
  | e :: rest => .choice e (oneOfAll rest)

def allBack (branches : List Ordered) : Reader Ordered := do
  let moved ← branches.mapM fun (e : Ordered) =>
    match width? e with
    | some n => (pure (.back n e) : Reader Ordered)
    | none => throw .variableWidth
  return oneOfAll moved

def readClosing : Reader Unit := do
  match ← rest with
  | ')' :: after => setRest after
  | _ => throw .missingClosing

def openGroup (name? : Option Text) : Reader Nat := do
  let number := (← get).opened + 1
  modify fun s => { s with opened := number }
  match name? with
  | none => pure ()
  | some name =>
      if ((← get).names.lookup name).isSome then throw .doubledName
      modify fun s => { s with names := (name, number) :: s.names }
  return number

def readCondition : Reader Nat := do
  match Text.splitAtPart? [')'] (← rest) with
  | none => throw .missingClosing
  | some (inside, after) =>
      setRest after
      let name := inside.filter Expression.isWordChar
      match ← groupNumber? inside with
      | some n =>
          modify fun s => { s with wanted := max s.wanted n }
          return n
      | none => numberOf name

/-- Reads a group behind its opening parenthesis, given how alternatives are read. -/
def readGroup (branches : Reader (List Ordered)) : Reader Ordered := do
  let before ← options
  let inside := do
    let found ← branches
    modify fun s => { s with options := before }
    readClosing
    return found
  let counted := fun (name? : Option Text) => do
    let number ← openGroup name?
    return Ordered.group number (oneOfAll (← inside))
  match ← rest with
  | '?' :: '#' :: more =>
      match Text.splitAtPart? [')'] more with
      | none => throw .openComment
      | some (_, after) =>
          setRest after
          return .empty
  | '?' :: ':' :: more | '?' :: '|' :: more =>
      setRest more
      return oneOfAll (← inside)
  | '?' :: '>' :: more =>
      setRest more
      return .first (oneOfAll (← inside))
  | '?' :: '=' :: more =>
      setRest more
      return .look false (oneOfAll (← inside))
  | '?' :: '!' :: more =>
      setRest more
      return .look true (oneOfAll (← inside))
  | '?' :: '<' :: '=' :: more =>
      setRest more
      return .look false (← allBack (← inside))
  | '?' :: '<' :: '!' :: more =>
      setRest more
      return .look true (← allBack (← inside))
  | '?' :: '<' :: more | '?' :: 'P' :: '<' :: more =>
      setRest more
      counted (some (← readName '>'))
  | '?' :: '\'' :: more =>
      setRest more
      counted (some (← readName '\''))
  | '?' :: 'P' :: '=' :: more =>
      setRest more
      again (← numberOf (← readName ')'))
  | '?' :: 'P' :: '>' :: _ | '?' :: '&' :: _ => throw .missingGroup
  | '?' :: 'P' :: rest => throw (if rest.isEmpty then .missingClosing else .strangeNamed)
  | '?' :: '(' :: more =>
      setRest more
      let number ← readCondition
      match ← inside with
      | [a] => return .given number a .empty
      | [a, b] => return .given number a b
      | _ => throw .missingGroup
  | '?' :: more =>
      setRest more
      readOptions (more.length + 1) true
      match ← rest with
      | ':' :: after =>
          setRest after
          return oneOfAll (← inside)
      | rest =>
          setRest (rest.drop 1)
          return .empty
  | '*' :: more =>
      match Text.splitAtPart? [')'] more with
      | none => throw .missingClosing
      | some (verb, after) =>
          if verb.any Char.isLower then throw .strangeVerb
          setRest after
          return if verb = "ACCEPT".toList then .accept else .empty
  | _ => counted none

/-- Whether nothing can be repeated behind an expression. -/
def isFixed : Ordered → Bool
  | .edge .lineStart | .edge .lineEnd | .edge .textStart | .edge .textEnd | .lastEdge => true
  | _ => false

/-- The characters up to the end of a quotation, each with a backslash where it needs one. -/
def unquoted : Text → Text
  | [] => []
  | '\\' :: 'E' :: rest => rest
  | c :: rest => (if c.isAlphanum then [c] else ['\\', c]) ++ unquoted rest

/-- Reads a row of expressions, behind those that were read. -/
def readRow (branches : Reader (List Ordered)) : Nat → Ordered → Reader Ordered
  | 0, e => return e
  | fuel + 1, e => do
      skipSpace fuel
      let o ← options
      let goOn := fun (single : Ordered) => do
        let whole ← if isFixed single then pure single else readRepetition single
        readRow branches fuel (.sequence e whole)
      match ← rest with
      | [] | '|' :: _ | ')' :: _ => return e
      | '\\' :: 'Q' :: after =>
          setRest (unquoted after)
          readRow branches fuel e
      | '\\' :: 'E' :: after =>
          setRest after
          readRow branches fuel e
      | c :: after =>
          if (repetition? (c :: after)).isSome then throw .nothingToRepeat
          setRest after
          match c with
          | '(' =>
              let isSilent := match after with
                | '?' :: '#' :: _ => true
                | _ => false
              let group ← readGroup branches
              if isSilent then readRow branches fuel (.sequence e group) else goOn group
          | '[' => goOn (← readClass)
          | '.' => goOn (.oneOf false true (if o.dotsAll then [] else [.range '\n' '\n']))
          | '^' => goOn (.edge (if o.isMultiline then .lineStart else .textStart))
          | '$' => goOn (.edge (if o.isMultiline then .lineEnd else .textEnd))
          | '\\' => goOn (← readEscape)
          | c => goOn (.exactly o.ignoresCase c)

/-- Reads alternatives, with so many at most. -/
def readBranches (row : Reader Ordered) : Nat → Reader (List Ordered)
  | 0 => return []
  | fuel + 1 => do
      let branch ← row
      match ← rest with
      | '|' :: after =>
          setRest after
          return branch :: (← readBranches row fuel)
      | _ => return [branch]

/-- Reads alternatives in which groups may stand so deep in each other. -/
def readAt : Nat → Reader (List Ordered)
  | 0 => throw .missingClosing
  | depth + 1 => do
      let length := 2 * (← rest).length + 1
      readBranches (readRow (readAt depth) length .empty) length

end Reader

/-- **Reads an ordered expression.** -/
def read (ignoresCase : Bool) (t : Text) : Except Fault Ordered :=
  match (Reader.readAt (t.length + 1)).run ⟨t, ⟨ignoresCase, false, false, false⟩, 0, [], 0⟩ with
  | .error e => .error e
  | .ok (branches, source) =>
      if !source.rest.isEmpty then .error .extraClosing
      else if source.opened < source.wanted then .error .missingGroup
      else .ok (Reader.oneOfAll branches)

end SwiftExistential.Ordered
