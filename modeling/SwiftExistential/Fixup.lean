import SwiftExistential.Edit
import SwiftExistential.Pattern.Source
import SwiftExistential.SitePatch

/-!
# Fixups of diagnosed lines

A diagnostic asks for a change at a line and column. The change is looked for on that line only,
from a few characters before the column on, and the first occurrence that is not already annotated
or qualified is changed, by a verified edit.

There are five kinds of changes. Each has a pattern whose group 1 is the text to be replaced, and a
new text that may be made of the groups. Both are known in writing too, as they are shown to a
reader of reports; `expand_template` ties the written form of the new text to the one that is used.

Fixups of later lines are applied first. A line keeps its place whatever happens on others, so the
order matters only among fixups of one line.
-/

set_option autoImplicit false

namespace SwiftExistential

open Pattern

/-- The text that a template stands for: a digit in braces behind a dollar sign is the text of the
group with that number. -/
def Match.expand (m : Match) : Text → Text
  | '$' :: '\x7b' :: digit :: '\x7d' :: rest => m.groupText (digit.toNat - '0'.toNat) ++ m.expand rest
  | c :: rest => c :: m.expand rest
  | [] => []

/-- The change that a diagnostic asks for. -/
inductive LineFix where
  /-- Writes `any` before the protocol. -/
  | addAny (name : Text)
  /-- Removes `any` before the type. -/
  | dropAny (name : Text)
  /-- Writes `any` for a `some` inside a parameter list. -/
  | anyForParameter
  /-- Writes `any` for the `some` of a return type. -/
  | anyForReturn
  /-- Removes `some` before the type. -/
  | dropSome (type : Text)
deriving DecidableEq, Repr

namespace LineFix

/-- What is looked for. Group 1 is the text that is replaced. -/
def pattern : LineFix → Pattern
  | addAny name =>
      inOrder [boundary,
        group 1 (seq (optional (cluster (seq wordRun (char '.')))) (literal name)), boundary]
  | dropAny name =>
      group 1 (seq (literal "any ".toList) (group 2 (seq SitePatch.qualifiers (literal name))))
  | anyForParameter =>
      inOrder [plus (one (.noneOf [')'])), char ' ', group 1 (literal "some".toList), char ' ']
  | anyForReturn =>
      inOrder [literal "-> ".toList, group 1 (literal "some".toList), char ' ']
  | dropSome type => seq (group 1 (literal "some ".toList)) (literal type)

/-- What is looked for, in writing. The arrow of a return is written without a backslash. -/
def patternSource : LineFix → Text
  | anyForReturn => "-> (some) ".toList
  | fix => fix.pattern.source

def replacement : LineFix → Match → Text
  | addAny _, m => "any ".toList ++ m.groupText 1
  | dropAny _, m => m.groupText 2
  | anyForParameter, _ => "any".toList
  | anyForReturn, _ => "any".toList
  | dropSome _, _ => []

theorem replacement_addAny (name : Text) (m : Match) :
    (addAny name).replacement m = "any ".toList ++ m.groupText 1 := rfl

theorem replacement_dropAny (name : Text) (m : Match) :
    (dropAny name).replacement m = m.groupText 2 := rfl

theorem replacement_anyForParameter (m : Match) :
    anyForParameter.replacement m = "any".toList := rfl

theorem replacement_anyForReturn (m : Match) : anyForReturn.replacement m = "any".toList := rfl

theorem replacement_dropSome (name : Text) (m : Match) : (dropSome name).replacement m = [] := rfl

/-- The new text of group 1, in writing. -/
def template : LineFix → Text
  | addAny _ => "any $\x7b1\x7d".toList
  | dropAny _ => "$\x7b2\x7d".toList
  | anyForParameter => "any".toList
  | anyForReturn => "any".toList
  | dropSome _ => []

/-- **The written form gives the new text**, once its groups are filled in. -/
theorem expand_template (fix : LineFix) (m : Match) :
    m.expand fix.template = fix.replacement m := by
  cases fix with
  | addAny name => exact congrArg ("any ".toList ++ ·) (List.append_nil (m.groupText 1))
  | dropAny name => exact List.append_nil (m.groupText 2)
  | anyForParameter => rfl
  | anyForReturn => rfl
  | dropSome type => rfl

end LineFix

/-- A change at a diagnosed place. -/
structure Fixup where
  /-- The file as the diagnostic names it. -/
  file : Text
  /-- The line, counted from one. -/
  line : Nat
  /-- The column in characters, counted from one, if it was reported. -/
  column : Option Nat
  fix : LineFix
deriving DecidableEq, Repr

namespace Fixup

/-- How many characters before the column are still searched. -/
def columnSlack : Nat := 20

/-- The number of characters of the line that are passed over. -/
def skipped (fixup : Fixup) : Nat :=
  match fixup.column with
  | none => 0
  | some column => column - (1 + columnSlack)

/-- Whether the text before a match, the nearest character first, shows that the type is annotated
or is the tail of a qualified one. -/
def isTaken (before : Text) : Bool :=
  ["any ".toList, "some ".toList, ".".toList].any fun g => g.reverse.isPrefixOf before

/-- The occurrence to change: the first one in reach that is not taken. -/
def target? (fixup : Fixup) (line : Text) : Option Match :=
  -- Only the search starts behind what is skipped: a word boundary there is judged by all of the
  -- line.
  (fixup.fix.pattern.matchesFrom ((Cursor.start line).skip fixup.skipped)).find?
    fun m => !isTaken m.start.before

/-- The edit for a line that begins at a byte offset. -/
def edit? (fixup : Fixup) (lineStart : Nat) (line : Text) : Option Edit :=
  (fixup.target? line).bind fun m =>
    (m.group? 1).map fun g =>
      let start := lineStart + Text.byteLength g.start.before
      let replaced := g.start.textTo g.stop
      .ofTexts start (start + replaced.byteLength) (fixup.fix.replacement m) replaced

/-- The text before a line and from it on. Lines are counted from one. -/
def splitLine? : Nat → Text → Option (Text × Text)
  | 0, _ => none
  | 1, t => some ([], t)
  | n + 2, t =>
      -- Behind the last line end there is still a line, maybe an empty one.
      match t.dropWhile (· != '\n') with
      | [] => none
      | lineEnd :: rest =>
          (splitLine? (n + 1) rest).map fun (before, after) =>
            (t.takeWhile (· != '\n') ++ lineEnd :: before, after)

/-- Applies one fixup. Returns the text and whether it changed. -/
def apply (fixup : Fixup) (t : Text) : Text × Bool :=
  match splitLine? fixup.line t with
  | none => (t, false)
  | some (before, rest) =>
      match fixup.edit? before.byteLength (rest.takeWhile (· != '\n')) with
      | none => (t, false)
      | some edit =>
          -- The edit was made for this text, so it is neither refused nor done already.
          match edit.apply t with
          | .ok (.applied _, t') => (t', true)
          | _ => (t, false)

/-- **Applies fixups**, those of later lines first. Returns the new text and how many changed it. -/
def applyAll (t : Text) (fixups : List Fixup) : Text × Nat :=
  let ordered := fixups.mergeSort fun a b => decide (b.line ≤ a.line)
  ordered.foldl (fun (text, count) fixup =>
    let (text', changed) := fixup.apply text
    (text', if changed then count + 1 else count)) (t, 0)

end Fixup

end SwiftExistential
