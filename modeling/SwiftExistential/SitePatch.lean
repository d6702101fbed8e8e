import SwiftExistential.Pattern.Search
import SwiftExistential.Policy

/-!
# Patches at reported sites

A syntax dump reports where a type is used. Each `SitePatch` names the byte offset of a use and the
protocol in its type; the keyword goes before every occurrence of the protocol between the offset
and the end of its line that is not guarded by the text around it.

All offsets refer to the text before any change. Patches are applied from the highest offset down,
and the window of each ends where the window above it began, so no insertion moves an offset that is
still to be used. A patch without a keyword, or with an offset that is no place of the text, is
passed over and takes no window.
-/

set_option autoImplicit false

namespace SwiftExistential

/-- One use of a protocol. -/
structure SitePatch where
  /-- The byte offset of the use in the unpatched text. -/
  offset : Nat
  identifier : Text
  /-- The keyword to insert; a patch without one changes nothing. -/
  keyword : Option Keyword
deriving DecidableEq, Repr

namespace SitePatch

/-- Zero or more qualifying words, each with its dot. -/
def qualifiers : Pattern := .star (.cluster (.seq .wordRun (.char '.')))

def metatype : Pattern := .optional (.cluster (.literal ".Type".toList))

/-- An occurrence of the identifier, with its qualifiers and metatype, as whole words. -/
def occurrence (identifier : Text) : Pattern :=
  .inOrder [.boundary, .group 1 (.inOrder [qualifiers, .literal identifier, metatype]), .boundary]

/-- What stands directly before an occurrence that already has a keyword, or that is a declaration,
constraint, composition, member or generic argument. -/
def guardsBefore : List Text :=
  ["any ".toList, "some ".toList, "protocol ".toList, "extension ".toList, "where ".toList,
    "& ".toList, ".".toList, "<".toList]

/-- Whether the text before an occurrence, the nearest character first, guards it. -/
def isGuardedBefore (before : Text) : Bool := guardsBefore.any fun g => g.reverse.isPrefixOf before

/-- What stands directly after a label, a call or a reference to the type itself. -/
def guardsAfter : List Text := [":".toList, "(".toList, ">(".toList, ".self".toList]

/-- Whether the text after an occurrence guards it: by what stands there directly, or by empty
braces after blanks. -/
def isGuardedAfter (after : Text) : Bool :=
  guardsAfter.any (·.isPrefixOf after) ||
    (after.head?.any Unicode.isBlank && "\x7b\x7d".toList.isPrefixOf (Text.trimStart after))

/-- How a generic parameter of the same name is declared. -/
def constraintOf (identifier : Text) : Text := "<".toList ++ identifier ++ ": ".toList

/-- The part of a line that one patch looks at. -/
structure Window where
  /-- The line before the offset, the nearest character first. -/
  before : Text
  /-- The text that is searched. -/
  inside : Text
  /-- The rest of the line. -/
  after : Text
deriving DecidableEq, Repr

/-- Whether an occurrence in the window takes the keyword. -/
def Window.isFree (w : Window) (m : Match) : Bool :=
  !isGuardedBefore m.start.before && !isGuardedAfter (m.stop.after ++ w.after)

/-- The inside of a window with the keyword before each free occurrence, and their number. If the
line declares a generic parameter of that name before the window there are none. -/
def Window.patch (w : Window) (identifier : Text) (keyword : Keyword) : Text × Nat :=
  if Text.hasPart (constraintOf identifier) w.before.reverse then (w.inside, 0)
  else
    let start : Cursor := ⟨w.before, w.inside⟩
    let found := (occurrence identifier).matchesFrom start
    (Pattern.splice (fun m => if w.isFree m then keyword.lead ++ m.text else m.text) start found,
      found.countP w.isFree)

/-- The text patched so far. -/
structure Progress where
  output : Text
  inserted : Nat
  /-- Where the last window began. -/
  ceiling : Nat
deriving DecidableEq, Repr

/-- Annotates the occurrences of one patch in the window from its offset to `stop` or the end of the
line, whichever comes first. -/
def patchWindow (t : Text) (offset stop : Nat) (identifier : Text) (keyword : Keyword) :
    Text × Nat :=
  match t.splitAtByte? offset with
  | none => (t, 0)
  | some (before, after) =>
      let line := after.takeWhile (· != '\n')
      -- Above the stop the line was patched already. A stop behind the line's end leaves all of the
      -- line.
      let (inside, tail) := (Text.splitAtByte? line (stop - offset)).getD (line, [])
      let window : Window := ⟨before.reverse.takeWhile (· != '\n'), inside, tail⟩
      let (patched, count) := window.patch identifier keyword
      (before ++ patched ++ tail ++ after.dropWhile (· != '\n'), count)

/-- Applies one patch. A patch without a keyword, or whose offset is no place of the unpatched text,
is passed over. -/
def step (content : Text) (progress : Progress) (patch : SitePatch) : Progress :=
  match patch.keyword, content.splitAtByte? patch.offset with
  | some keyword, some _ =>
      -- Behind a patch at the same offset the window is empty.
      let stop := max progress.ceiling patch.offset
      let (output, count) :=
        patchWindow progress.output patch.offset stop patch.identifier keyword
      ⟨output, progress.inserted + count, patch.offset⟩
  | _, _ => progress

/-- **Applies a batch of patches.** Returns the new text and the number of keywords inserted. -/
def applyAll (content : Text) (patches : List SitePatch) : Text × Nat :=
  -- The sort is stable: patches at one offset keep their order.
  let ordered := patches.mergeSort fun a b => decide (b.offset ≤ a.offset)
  let progress := ordered.foldl (step content) ⟨content, 0, content.byteLength⟩
  (progress.output, progress.inserted)

end SitePatch

end SwiftExistential
