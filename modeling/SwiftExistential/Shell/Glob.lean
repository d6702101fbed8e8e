import SwiftExistential.FileTree.Basic
import SwiftExistential.Shell.Command
import SwiftExistential.Text.Choice
import SwiftExistential.Text.Octets

/-!
# File name patterns

Patterns of file names, the paths that they stand for, and what they trim from a value.

A pattern is made of glyphs, characters of which each knows whether it was quoted, and is read into
pieces. Whether a text fits is decided from the pieces alone, the same way for the names of files,
for selections and for trimming. Only the paths add rules: separators are never matched by a mark,
and neither is a dot at the start of a name.
-/

set_option autoImplicit false

/-! ## Patterns for names

The patterns of the shell: a star stands for any text, a question mark for one octet, and brackets
for one of several. A quoted character stands for itself, and so does one behind a backslash. A
pattern with such marks in a word stands for the paths that it fits. -/

namespace SwiftExistential.Shell

/-- A character of an expanded word. -/
structure Glyph where
  char : Char
  isQuoted : Bool
deriving DecidableEq, Repr

def glyphText (glyphs : List Glyph) : Text := glyphs.map Glyph.char

namespace Glob

/-- A piece of a pattern. -/
inductive Piece where
  | exactly (c : Char)
  | one
  | many
  /-- One character that is, or is not, among the choices. -/
  | oneOf (isNegated : Bool) (choices : List Choice)
deriving DecidableEq, Repr

/-- The name of a class behind its opening bracket and colon, and the glyphs behind it. -/
def className? (glyphs : List Glyph) : Option (String × List Glyph) :=
  let name := glyphs.takeWhile fun g => g.char.isAlpha
  match glyphs.drop name.length with
  | ⟨':', false⟩ :: ⟨']', false⟩ :: rest =>
      let name := String.ofList (glyphText name)
      if (Choice.classHolds? name 'a').isSome then some (name, rest) else none
  | _ => none

/-- A character of a choice, where a backslash takes the next one. -/
def choiceChar : List Glyph → Option (Char × List Glyph)
  | ⟨'\\', false⟩ :: g :: rest => some (g.char, rest)
  | g :: rest => some (g.char, rest)
  | [] => none

/-- The choices between brackets, and the glyphs behind them. A bracket that comes first is one of
the characters. -/
def readChoices : Nat → Bool → List Glyph → Option (List Choice × List Glyph)
  | 0, _, _ => none
  | _, _, [] => none
  | fuel + 1, isFirst, g :: rest =>
      if g.char = ']' && !g.isQuoted && !isFirst then some ([], rest)
      else
        let other := fun (choice : Choice) (rest : List Glyph) =>
          (readChoices fuel false rest).map fun (choices, rest') => (choice :: choices, rest')
        let named := match g, rest with
          | ⟨'[', false⟩, ⟨':', false⟩ :: rest' => className? rest'
          | _, _ => none
        match named with
        | some (name, rest') => other (.named name) rest'
        | none =>
            match choiceChar (g :: rest) with
            | none => none
            | some (c, rest') =>
                match rest' with
                | ⟨'-', false⟩ :: last :: rest'' =>
                    if last.char = ']' && !last.isQuoted then other (.range c c) rest'
                    else match choiceChar (last :: rest'') with
                      | some (d, rest''') => other (.range c d) rest'''
                      | none => none
                | rest' => other (.range c c) rest'

/-- The pieces of a pattern, of so many glyphs at most. -/
def piecesFrom : Nat → List Glyph → List Piece
  | 0, _ => []
  | _, [] => []
  | fuel + 1, g :: rest =>
      if g.isQuoted then .exactly g.char :: piecesFrom fuel rest
      else match g.char, rest with
        | '*', _ => .many :: piecesFrom fuel rest
        | '?', _ => .one :: piecesFrom fuel rest
        | '\\', next :: rest' => .exactly next.char :: piecesFrom fuel rest'
        | '[', _ =>
            let isNegated := rest.head? = some ⟨'!', false⟩
            match readChoices (rest.length + 1) true (if isNegated then rest.drop 1 else rest) with
            | some (choices, rest') => .oneOf isNegated choices :: piecesFrom fuel rest'
            | none => .exactly '[' :: piecesFrom fuel rest
        | c, _ => .exactly c :: piecesFrom fuel rest

/-- The pieces of a pattern. Several stars in a row are one. -/
def pieces (glyphs : List Glyph) : List Piece :=
  (piecesFrom glyphs.length glyphs).foldr
    (fun piece others => match piece, others with
      | .many, .many :: _ => others
      | piece, others => piece :: others) []

def someEnd (holds : Text → Bool) : Text → Bool
  | [] => holds []
  | c :: rest => holds (c :: rest) || someEnd holds rest

/-- **Whether a text fits a pattern.** -/
def accepts : List Piece → Text → Bool
  | [], t => t.isEmpty
  | .many :: pattern, t => pattern.isEmpty || someEnd (accepts pattern) t
  | _ :: _, [] => false
  | .one :: pattern, _ :: rest => accepts pattern rest
  | .exactly e :: pattern, c :: rest => e == c && accepts pattern rest
  | .oneOf isNegated choices :: pattern, c :: rest =>
      (choices.any (Choice.holds c) != isNegated) && accepts pattern rest

/-! ### Paths

Patterns are matched part by part, from the directory that is known so far. Parts without marks are
not searched but only looked up. -/

/-- Whether glyphs have a mark that stands for other text. -/
def isPattern (glyphs : List Glyph) : Bool :=
  glyphs.any fun g => !g.isQuoted && (g.char == '*' || g.char == '?' || g.char == '[')

/-- Whether a pattern may stand for a name. A name that starts with a dot needs a dot. -/
def acceptsName (glyphs : List Glyph) (name : Text) : Bool :=
  let first := match glyphs with
    | ⟨'\\', false⟩ :: g :: _ => some g.char
    | g :: _ => some g.char
    | [] => none
  (name.head? != some '.' || first == some '.') && accepts (pieces glyphs) name

def pathParts : List Glyph → List (List Glyph)
  | [] => [[]]
  | g :: rest =>
      if g.char = '/' then [] :: pathParts rest
      else match pathParts rest with
        | [] => [[g]]
        | part :: parts => (g :: part) :: parts

/-- The names in a directory, with the dots for itself and the one above. -/
def namesIn (tree : FileTree) (known : Text) : List Text :=
  match tree.list (Octets.toText (if known.isEmpty then ['.'] else known)) with
  | .ok all => ['.'] :: ['.', '.'] :: all.map Octets.ofText
  | .error _ => []

/-- A part without marks, as the name that it stands for. -/
def partText (part : List Glyph) : Text :=
  match part with
  | ⟨'\\', false⟩ :: g :: rest => g.char :: partText rest
  | g :: rest => g.char :: partText rest
  | [] => []

/-- The paths that fit the parts of a pattern, each behind the text that is known. -/
def pathsFrom (tree : FileTree) : Text → List (List Glyph) → List Text
  | known, [] => [known]
  | known, [part] =>
      if isPattern part then ((namesIn tree known).filter (acceptsName part)).map (known ++ ·)
      else [known ++ partText part]
  | known, part :: rest =>
      if isPattern part then
        ((namesIn tree known).filter (acceptsName part)).flatMap fun name =>
          pathsFrom tree (known ++ name ++ ['/']) rest
      else pathsFrom tree (known ++ partText part ++ ['/']) rest

def stands (tree : FileTree) (path : Text) : Bool :=
  match tree.locate false (Octets.toText path) with
  | .ok ⟨_, some _⟩ => true
  | _ => false

/-- **The paths that a field stands for**: the field itself if it is no pattern or fits nothing. -/
def paths (tree : FileTree) (field : List Glyph) : List Text :=
  if isPattern field then
    let found := (pathsFrom tree [] (pathParts field)).filter (stands tree)
    if found.isEmpty then [glyphText field]
    else found.mergeSort fun a b => (compare a b).isLE
  else [glyphText field]

end Glob

end SwiftExistential.Shell

/-! ## Trimming of values

A pattern can take away the start or the end of a value. All arguments together are trimmed as one
row: they stand one behind the other with a gap after each, and a text that is held against the
pattern ends at the first gap. So the start of the first argument is trimmed, while the search for
an end begins in the last one.

In quotes, the characters that mean something to patterns are held in the row with a guard before
them. If the first argument has such a character, it is looked up in a copy without guards, which
stands behind the row and the pattern; places are then counted from the ends of the row and the copy
alike. -/

namespace SwiftExistential.Shell.Trim

/-- The shortest or longest start of a text that fits a pattern, dropped. -/
def dropStart (longest : Bool) (pattern : List Glob.Piece) (t : Text) : Text :=
  let cuts := List.range (t.length + 1)
  let fits := fun n => Glob.accepts pattern (t.take n)
  match (if longest then cuts.reverse.find? fits else cuts.find? fits) with
  | some n => t.drop n
  | none => t

/-- The shortest or longest end of a text that fits a pattern, dropped. -/
def dropEnd (longest : Bool) (pattern : List Glob.Piece) (t : Text) : Text :=
  let cuts := List.range (t.length + 1)
  let fits := fun n => Glob.accepts pattern (t.drop n)
  match (if longest then cuts.find? fits else cuts.reverse.find? fits) with
  | some n => t.take n
  | none => t

/-- **A value without what a pattern takes away.** -/
def value (side : Side) (pattern : List Glyph) (t : Text) : Text :=
  let pieces := Glob.pieces pattern
  if side.isStart then dropStart side.isLongest pieces t else dropEnd side.isLongest pieces t

/-! ### Rows of arguments -/

def gap : Char := '\x00'

/-- What stands before a guarded character. -/
def guard : Char := Char.ofNat 0x81

def isGuarded (c : Char) : Bool := "!*?[=~:/-]\\".toList.contains c

/-- A text with its guards, one entry for each character. -/
def guarded (isQuoted : Bool) (t : Text) : List Text :=
  t.map fun c => if isQuoted && isGuarded c then [guard, c] else [c]

def row (isQuoted : Bool) : List Text → List Text
  | [] => []
  | [t] => guarded isQuoted t
  | t :: rest => guarded isQuoted t ++ [gap] :: row isQuoted rest

def arguments (cells : List Text) : List Text :=
  Text.splitOn gap (cells.map fun cell => cell.getLast?.getD gap)

def upToGap (t : Text) : Text := t.takeWhile (· != gap)

/-- The written form of a pattern, with a backslash before what is quoted. -/
def written (pattern : List Glyph) : Text :=
  pattern.flatMap fun g => if g.isQuoted && isGuarded g.char then ['\\', g.char] else [g.char]

/-- Counts places from the start of the first argument. -/
def fromFirst (side : Side) (fits : Text → Bool) (first : Text) (cells : List Text) : List Text :=
  let places := List.range (first.length + 1)
  if side.isStart then
    match places.find? fun n => fits (first.take n) with
    | some n => cells.drop n
    | none => cells
  else
    match places.find? fun n => fits (first.drop n) with
    | some n => cells.take n
    | none => cells

/-- Counts places from the end of the row. -/
def fromLast (side : Side) (fits : Text → Bool) (first written : Text) (cells : List Text) :
    List Text :=
  let held := cells.flatten
  let isCopied := upToGap held != first
  let start := if isCopied then held.length + written.length + 2 else 0
  let memory := if isCopied then held ++ gap :: written ++ gap :: first else held
  let places := List.range (cells.length + 1)
  if side.isStart then
    let copy := memory.drop start
    let fitsAt := fun n =>
      let place := memory.length - n
      fits (upToGap (if place < start then copy else copy.take (place - start)))
    match places.find? fitsAt with
    | some n => cells.drop (cells.length - n)
    | none => cells
  else
    match places.find? fun n => fits (upToGap (memory.drop (memory.length - n))) with
    | some n => cells.take (cells.length - n)
    | none => cells

/-- **All arguments without what a pattern takes away.** -/
def all (side : Side) (isQuoted : Bool) (pattern : List Glyph) (args : List Text) : List Text :=
  let fits := Glob.accepts (Glob.pieces pattern)
  let cells := row isQuoted args
  let first := args.headD []
  arguments
    (if side.isStart == side.isLongest then fromLast side fits first (written pattern) cells
    else fromFirst side fits first cells)

end SwiftExistential.Shell.Trim
