import SwiftExistential.Hash.XXH3
import SwiftExistential.Text.Quoted

/-!
# Verified edits

An `Edit` replaces a span of bytes by a new text. It carries a description of the text it expects to
find, and is refused if the span holds something else, so that a stale edit never damages a file. An
edit whose span already holds the new text has nothing to do.

The description is the text itself if it is short, and its hash if it is long. The checks come in a
fixed order: the range, the two ends of the span, and then what stands there. That the new text is
there already is noticed before the expected text is looked at.
-/

set_option autoImplicit false

namespace SwiftExistential

/-- What an edit expects to find in its span. -/
inductive Verification where
  /-- This text. -/
  | exact (text : Text)
  /-- A text with this hash. -/
  | hash (value : UInt64)
deriving DecidableEq, Repr

namespace Verification

def hashText (t : Text) : UInt64 := Hash.XXH3.hash (String.ofList t).toUTF8

def accepts : Verification → Text → Bool
  | exact expected, t => t == expected
  | hash value, t => hashText t == value

/-- The longest text, in bytes, that is compared as it stands. -/
def exactLimit : Nat := 1024

/-- The description of a text: the text itself, or its hash if it is long. -/
def ofText (t : Text) : Verification :=
  if exactLimit < t.byteLength then hash (hashText t) else exact t

/-- A text meets its own description. -/
@[simp] theorem accepts_ofText (t : Text) : (ofText t).accepts t = true := by
  unfold ofText
  split <;> simp [accepts]

end Verification

/-- The replacement of the bytes from `start` up to `stop`. -/
structure Edit where
  start : Nat
  stop : Nat
  replacement : Text
  expected : Verification
deriving DecidableEq, Repr

/-- Why an edit is refused. -/
inductive EditError where
  /-- The span does not lie in the text. -/
  | invalidRange (start stop length : Nat)
  /-- An end of the span lies inside a character. -/
  | notBoundary (offset : Nat)
  /-- The span holds another text than expected. -/
  | mismatch (start : Nat) (found : Text)
deriving DecidableEq, Repr

/-- What an accepted edit did. -/
inductive EditResult where
  /-- The span was replaced by this many bytes. -/
  | applied (bytes : Nat)
  | alreadyApplied
deriving DecidableEq, Repr

def EditError.message : EditError → String
  | invalidRange start stop length =>
      s!"Invalid byte range: [{start}, {stop}) in content of length {length}"
  | notBoundary offset => s!"Byte offset {offset} is not on a UTF-8 character boundary"
  | mismatch start found =>
      let shown := String.ofList found.quote
      s!"Before-text verification failed at byte {start} (found {shown})"

/-- A text cut at the two ends of a span. -/
structure Span where
  before : Text
  inside : Text
  after : Text
deriving DecidableEq, Repr

namespace Edit

/-- The edit that expects a given text in its span. -/
def ofTexts (start stop : Nat) (replacement expected : Text) : Edit :=
  ⟨start, stop, replacement, .ofText expected⟩

/-- Cuts a text at the ends of the span. -/
def locate (e : Edit) (t : Text) : Except EditError Span :=
  if e.stop < e.start ∨ t.byteLength < e.stop then
    .error (.invalidRange e.start e.stop t.byteLength)
  else
    -- If both ends lie inside characters, the first one is reported.
    match t.splitAtByte? e.start with
    | none => .error (.notBoundary e.start)
    | some (before, rest) =>
        match Text.splitAtByte? rest (e.stop - e.start) with
        | none => .error (.notBoundary e.stop)
        | some (inside, after) => .ok ⟨before, inside, after⟩

/-- **Applies an edit.** A span that already holds the new text is left alone, without a look at
what was expected. -/
def apply (e : Edit) (t : Text) : Except EditError (EditResult × Text) :=
  match e.locate t with
  | .error err => .error err
  | .ok span =>
      if span.inside = e.replacement then .ok (.alreadyApplied, t)
      else if e.expected.accepts span.inside then
        .ok (.applied e.replacement.byteLength, span.before ++ e.replacement ++ span.after)
      else .error (.mismatch e.start span.inside)

end Edit

end SwiftExistential
