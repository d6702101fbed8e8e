import SwiftExistential.Toml.Scalar

/-!
# TOML documents

A document is a sequence of lines that open a table or assign a value to a key. `Toml.parse?` reads
the whole text and assembles its tables, or fails if the text is no document or defines a key or a
table twice.

Reading is strict: a mistake anywhere means that nothing is read, since a setting that is silently
left out would be worse than none at all. What went wrong is not told.
-/

set_option autoImplicit false

namespace SwiftExistential.Toml

/-! ## Keys and blanks

A key is a row of parts with dots between them, each bare or in quotes. -/

/-- The text without blanks at its start. -/
def skipSpaces (t : Text) : Text := t.dropWhile isSpace

/-- Skips blanks, line ends and comments. The flag says that a comment is going on. -/
def skipBlankLines? (inComment : Bool) : Text → Option Text
  | [] => some []
  | '\n' :: rest => skipBlankLines? false rest
  | '\r' :: '\n' :: rest => skipBlankLines? false rest
  | c :: rest =>
      if inComment then if isPlain c then skipBlankLines? true rest else none
      else if isSpace c then skipBlankLines? false rest
      else if c == '#' then skipBlankLines? true rest
      else some (c :: rest)

/-- Skips the rest of a line, which may hold only blanks and a comment. -/
def endLine? (t : Text) : Option Text :=
  let afterComment :=
    match skipSpaces t with
    | '#' :: rest => rest.dropWhile isPlain
    | rest => rest
  match afterComment with
  | [] => some []
  | '\n' :: rest => some rest
  | '\r' :: '\n' :: rest => some rest
  | _ => none

def isKeyChar (c : Char) : Bool := c.isAlphanum || c == '_' || c == '-'

def keyPart? (t : Text) : Option (Text × Text) :=
  match t with
  | '"' :: '"' :: '"' :: _ => none
  | '\'' :: '\'' :: '\'' :: _ => none
  | '"' :: rest => basicString? [] rest
  | '\'' :: rest => literalString? [] rest
  | _ =>
      let key := t.takeWhile isKeyChar
      if key.isEmpty then none else some (key, t.dropWhile isKeyChar)

/-- How many lists and tables may stand in each other, and how many parts a key may have. -/
def maxDepth : Nat := 80

/-- The parts of a key, parted by dots with blanks around them. The number bounds the parts. -/
def keyWithin? : Nat → Text → Option (List Text × Text)
  | 0, _ => none
  | n + 1, t =>
      (keyPart? (skipSpaces t)).bind fun (part, rest) =>
        match skipSpaces rest with
        | '.' :: rest' => (keyWithin? n rest').map fun (parts, after) => (part :: parts, after)
        | rest' => some ([part], rest')

def key? (t : Text) : Option (List Text × Text) := keyWithin? maxDepth t

/-- The parts of a key before its last one, and the last one. -/
def splitKey? (parts : List Text) : Option (List Text × Text) :=
  parts.getLast?.map fun last => (parts.dropLast, last)

/-! ## Values

Lists and tables in braces may go over several lines, with comments in them and a comma at the end.
How deep they may stand in each other is limited. -/

mutual

/-- A value. The first number bounds the length of what is read, the second how many more lists and
tables may be opened inside each other. -/
def value? : Nat → Nat → Text → Option (Value × Text)
  | 0, _, _ => none
  | n + 1, depth, t =>
      match t, depth with
      | '[' :: _, 0 => none
      | '\x7b' :: _, 0 => none
      | '[' :: rest, depth' + 1 => items? n depth' [] rest
      | '\x7b' :: rest, depth' + 1 => pairs? n depth' [] rest
      | _, _ => scalar? t

/-- The items of a list up to its closing bracket. -/
def items? : Nat → Nat → List Value → Text → Option (Value × Text)
  | 0, _, _, _ => none
  | n + 1, depth, acc, t =>
      match skipBlankLines? false t with
      | none => none
      | some (']' :: rest) => some (.list acc.reverse, rest)
      | some rest =>
          match value? n depth rest with
          | none => none
          | some (v, after) =>
              match skipBlankLines? false after with
              | some (',' :: more) => items? n depth (v :: acc) more
              | some (']' :: more) => some (.list (v :: acc).reverse, more)
              | _ => none

/-- The assignments of a table in braces up to its closing brace. -/
def pairs? : Nat → Nat → Entries → Text → Option (Value × Text)
  | 0, _, _, _ => none
  | n + 1, depth, acc, t =>
      match skipBlankLines? false t with
      | none => none
      | some ('\x7d' :: rest) => some (.table .braced acc, rest)
      | some rest =>
          match pair? n depth acc rest with
          | none => none
          | some (acc', after) =>
              match skipBlankLines? false after with
              | some (',' :: more) => pairs? n depth acc' more
              | some ('\x7d' :: more) => some (.table .braced acc', more)
              | _ => none

/-- One assignment, added to the entries. Around the sign lines may end. -/
def pair? : Nat → Nat → Entries → Text → Option (Entries × Text)
  | 0, _, _, _ => none
  | n + 1, depth, acc, t =>
      match key? t with
      | none => none
      | some (parts, rest) =>
          match skipBlankLines? false rest with
          | some ('=' :: more) =>
              match splitKey? parts, (skipBlankLines? false more).bind (value? n depth) with
              | some (path, key), some (v, after) =>
                  (acc.assignDotted? path key v).map fun acc' => (acc', after)
              | _, _ => none
          | _ => none

end

/-! ## Documents -/

/-- What has been read of a document. -/
structure Reading where
  entries : Entries
  /-- The table of the last header. -/
  current : List Text

/-- Reads a header in single brackets, after the bracket. -/
def header? (reading : Reading) (t : Text) : Option (Reading × Text) :=
  match key? t with
  | some (parts, ']' :: rest) =>
      (splitKey? parts).bind fun (path, key) =>
        (reading.entries.updateAt? (·.openTable? key) path).map fun entries =>
          (⟨entries, parts⟩, rest)
  | _ => none

/-- Reads a header in double brackets, after the brackets. -/
def listHeader? (reading : Reading) (t : Text) : Option (Reading × Text) :=
  match key? t with
  | some (parts, ']' :: ']' :: rest) =>
      (splitKey? parts).bind fun (path, key) =>
        (reading.entries.updateAt? (·.openListed? key) path).map fun entries =>
          (⟨entries, parts⟩, rest)
  | _ => none

/-- Reads an assignment into the current table. -/
def assignment? (reading : Reading) (t : Text) : Option (Reading × Text) :=
  match key? t with
  | some (parts, '=' :: rest) =>
      match splitKey? parts, value? (2 * rest.length + 2) maxDepth (skipSpaces rest) with
      | some (path, key), some (v, after) =>
          (reading.entries.updateAt? (·.assignDotted? path key v) reading.current).map
            fun entries => (⟨entries, reading.current⟩, after)
      | _, _ => none
  | _ => none

def statement? (reading : Reading) (t : Text) : Option (Reading × Text) :=
  match t with
  | '[' :: '[' :: rest => listHeader? reading rest
  | '[' :: rest => header? reading rest
  | _ => assignment? reading t

/-- Reads the statements of a document. The number bounds how many there are. -/
def statements? : Nat → Reading → Text → Option Entries
  | 0, _, _ => none
  | n + 1, reading, t =>
      match skipBlankLines? false t with
      | none => none
      | some [] => some reading.entries
      | some rest =>
          (statement? reading rest).bind fun (reading', after) =>
            (endLine? after).bind fun more => statements? n reading' more

/-- **Reads a document.** A byte order mark at its start is skipped. -/
def parse? (t : Text) : Option Entries :=
  let body := match t with
    | '\uFEFF' :: rest => rest
    | _ => t
  statements? (body.length + 1) ⟨[], []⟩ body

end SwiftExistential.Toml
