import SwiftExistential.Shell.Arithmetic
import SwiftExistential.Shell.Glob

/-!
# Expansion of words

A word is expanded into items: characters that stand there, characters of values that can still be
split into fields, and marks between them. Fields are split at the separators, and patterns among
them are replaced by the paths that they fit. The commands of a substitution run by a function that
is handed in.

Splitting comes after all values are in place, and the items remember what may be split. A quoted
character is never split and matches only itself, and a quotation makes a field even if nothing is
in it. Where a word is no list of fields, as in an assignment, a document or a pattern, the same
expansion is used in another mode.
-/

set_option autoImplicit false

namespace SwiftExistential.Shell

/-- A piece of an expanded word. -/
inductive Item where
  | glyph (g : Glyph)
  /-- A character that ends a field if it is a separator. -/
  | value (c : Char)
  /-- There is a field, even if it is empty. -/
  | mark
  /-- A field ends. -/
  | cut
  /-- A value ends. -/
  | seam
deriving DecidableEq, Repr

def itemText (items : List Item) : Text :=
  items.filterMap fun
    | .glyph g => some g.char
    | .value c => some c
    | _ => none

def itemGlyphs (items : List Item) : List Glyph :=
  items.filterMap fun
    | .glyph g => some g
    | .value c => some ⟨c, false⟩
    | _ => none

def quotedItems (t : Text) : List Item := t.map fun c => .glyph ⟨c, true⟩

def valueItems (isQuoted : Bool) (t : Text) : List Item :=
  if isQuoted then quotedItems t else t.map .value ++ [.seam]

def argumentItems (isQuoted : Bool) : List Text → List Item
  | [] => []
  | [t] => one t
  | t :: rest => one t ++ .cut :: argumentItems isQuoted rest
where
  /-- The items of one argument. -/
  one (t : Text) : List Item := if isQuoted then .mark :: quotedItems t else valueItems false t

/-- Splits items into fields: those that have ended, the last first, and the one that was begun. The
flag says whether blanks ended the last one, so that one more separator ends nothing. -/
def splitItems (separators : Text) :
    List (List Glyph) → Option (List Glyph) → Bool → List Item → List (List Glyph)
  | ended, begun, _, [] => (begun.toList ++ ended).map List.reverse |>.reverse
  | ended, begun, _, .glyph g :: rest =>
      splitItems separators ended (some (g :: begun.getD [])) false rest
  | ended, begun, _, .mark :: rest => splitItems separators ended (some (begun.getD [])) false rest
  | ended, begun, _, .cut :: rest => splitItems separators (begun.toList ++ ended) none false rest
  | ended, begun, _, .seam :: rest => splitItems separators ended begun false rest
  | ended, begun, afterBlank, .value c :: rest =>
      if !separators.contains c then
        splitItems separators ended (some (⟨c, false⟩ :: begun.getD [])) false rest
      else if c == ' ' || c == '\t' || c == '\n' then
        splitItems separators (begun.toList ++ ended) none (begun.isSome || afterBlank) rest
      else if begun.isNone && afterBlank then splitItems separators ended none false rest
      else splitItems separators (begun.getD [] :: ended) none false rest

/-! ## Homes

A tilde stands for a home at the start of a word. In assignments it may stand behind colons too,
because values are often lists of paths. -/

/-- The home of a user, for a tilde with the user's name. -/
def home? (user : Text) : Action (Option Text) :=
  if user.isEmpty then Action.value? "HOME".toList
  else if user = "root".toList then return some "/root".toList
  else return none

/-- Replaces a tilde at the start of plain characters. With `colons`, a colon ends the name, and
there may be another tilde behind it. The flag says whether nothing follows the characters. -/
def expandTilde (colons isLast : Bool) (chars : Text) : Action Word := do
  match chars with
  | '~' :: rest =>
      let user := rest.takeWhile fun c => c != '/' && !(colons && c == ':')
      let after := rest.drop user.length
      if after.isEmpty && !isLast then return [.plain chars]
      else match ← home? user with
        | some home => return [.quoted home, .plain after]
        | none => return [.plain chars]
  | chars => return [.plain chars]

/-- The parts of an assignment's value between its colons, with homes for their tildes. The first
flag says whether a tilde may stand at the start. -/
def expandTildesBetween (isLast : Bool) : Bool → List Text → Action Word
  | _, [] => return []
  | isStart, [chars] => if isStart then expandTilde true isLast chars else return [.plain chars]
  | isStart, chars :: rest => do
      let first ← if isStart then expandTilde true true chars else pure [.plain chars]
      return first ++ .plain [':'] :: (← expandTildesBetween isLast true rest)

def expandAssignedTildes (isStart : Bool) : Word → Action Word
  | [] => return []
  | .plain chars :: rest => do
      let first ← expandTildesBetween rest.isEmpty isStart (Text.splitOn ':' chars)
      return first ++ (← expandAssignedTildes (chars.getLast? == some ':') rest)
  | part :: rest => do return part :: (← expandAssignedTildes false rest)

/-! ## Parts

A mode says what is done with plain characters and with the result. The expansion of a parameter may
need the expansion of its word, so the functions for parts and for lists of parts are defined
together. -/

/-- How the commands of a substitution run; returns what they write. -/
abbrev Substitute := Command → Action Text

/-- How parts are expanded. -/
structure Mode where
  /-- Whether fields are split. -/
  splits : Bool
  /-- Whether plain characters belong to a value. -/
  isValue : Bool
  /-- Whether a tilde may stand at the start. -/
  tilde : Bool

def Mode.whole : Mode := ⟨false, false, true⟩

/-- A pattern, or another text without homes. -/
def Mode.exact : Mode := ⟨false, false, false⟩

def plainItems (mode : Mode) (chars : Text) : List Item :=
  if mode.isValue then chars.map .value else chars.map fun c => .glyph ⟨c, false⟩

/-- The items of parts that need no expansion. -/
def literalItems (mode : Mode) (word : Word) : List Item :=
  word.flatMap fun
    | .plain chars => plainItems mode chars
    | .quoted chars => .mark :: quotedItems chars
    | _ => []

/-- Fails because a parameter has no value. -/
def failUnset {α : Type} (name message : Text) : Action α := Action.fail [name, message]

mutual

def expandParts (substitute : Substitute) (mode : Mode) : List Part → Action (List Item)
  | [] => return []
  | part :: rest => do
      let items ← match part with
        | .plain ('~' :: chars) =>
            if mode.tilde then
              pure (literalItems mode (← expandTilde false rest.isEmpty ('~' :: chars)))
            else pure (plainItems mode ('~' :: chars))
        | part => expandPart substitute mode part
      return items ++ (← expandParts substitute { mode with tilde := false } rest)

def expandPart (substitute : Substitute) (mode : Mode) : Part → Action (List Item)
  | .plain chars => return plainItems mode chars
  | .quoted chars => return .mark :: quotedItems chars
  | .substitution isQuoted body => do return valueItems isQuoted (← substitute body)
  | .arithmetic isQuoted expression => do
      let items ← expandParts substitute .exact expression
      let value ← Arithmetic.evaluate (itemText items)
      return valueItems isQuoted (Number.shown value)
  | .parameter isQuoted name use word => do
      let value ← Action.parameter? name
      let isAll := name = ['@'] || name = ['*']
      let plain : Action (List Item) := do
        if isAll && mode.splits && (!isQuoted || name = ['@']) then
          return argumentItems isQuoted (← Action.ask (·.arguments))
        else return valueItems isQuoted ((← Action.parameter? name).getD [])
      let isSet := fun (orEmpty : Bool) => match value with
        | some v => !(orEmpty && v.isEmpty)
        | none => false
      let check : Action Unit := do
        if value.isNone && (← Action.isOn 'u') then failUnset name "parameter not set".toList
      let other : Action (List Item) := expandParts substitute ⟨mode.splits, !isQuoted, true⟩ word
      let text : Action Text := do return itemText (← expandParts substitute .whole word)
      match use with
      | .plain => do
          check
          plain
      | .length => do
          if !word.isEmpty then Action.fail ["Bad substitution".toList]
          else
            check
            return valueItems isQuoted (toString (value.getD []).length).toList
      | .orElse orEmpty => if isSet orEmpty then plain else other
      | .alternative orEmpty => if isSet orEmpty then other else return []
      | .assign orEmpty => do
          if isSet orEmpty then plain
          else
            Action.assign name (← text)
            plain
      | .required orEmpty => do
          if isSet orEmpty then plain
          else if word.isEmpty then
            failUnset name
              ((if orEmpty then "parameter not set or null" else "parameter not set").toList)
          else failUnset name (← text)
      | .trim side => do
          check
          let pattern := itemGlyphs (← expandParts substitute .whole word)
          let hasSeparators := (← Action.value? "IFS".toList).isSome
          let isRow := isAll && mode.splits && (if isQuoted then name = ['@'] else hasSeparators)
          let args ← Action.ask (·.arguments)
          if isRow && !args.isEmpty then return argumentItems isQuoted (Trim.all side isQuoted pattern args)
          else return valueItems isQuoted (Trim.value side pattern (value.getD []))
      | .wrong => Action.fail ["Bad substitution".toList]

end

/-! ## Words

One function for each place in which a word may stand. -/

def expandText (substitute : Substitute) (word : Word) : Action Text := do
  return itemText (← expandParts substitute .whole word)

def expandDocument (substitute : Substitute) (word : Word) : Action Text := do
  return itemText (← expandParts substitute .exact word)

def expandValue (substitute : Substitute) (word : Word) : Action Text := do
  expandDocument substitute (← expandAssignedTildes true word)

def expandPattern (substitute : Substitute) (word : Word) : Action (List Glob.Piece) := do
  return Glob.pieces (itemGlyphs (← expandParts substitute .whole word))

/-- **The fields of a word.** -/
def expandFields (substitute : Substitute) (word : Word) : Action (List Text) := do
  let items ← expandParts substitute ⟨true, false, true⟩ word
  let fields := splitItems (← Action.separators) [] none false items
  if ← Action.isOn 'f' then return fields.map glyphText
  else
    let tree ← Action.tree
    return fields.flatMap (Glob.paths tree)

def expandAll (substitute : Substitute) : List Word → Action (List Text)
  | [] => return []
  | word :: rest => do
      let first ← expandFields substitute word
      return first ++ (← expandAll substitute rest)

end SwiftExistential.Shell
