import SwiftExistential.Fixup

/-!
# Compiler diagnostics

Reading the output of a build. Each error line that names a place is either understood, and becomes
a fixup, or is kept as it is; all other lines say nothing. Protocols that diagnostics name are added
to the registry as they appear.

A missing precompiled header makes the rest of the output meaningless: reading stops there, and the
header is reported so that it can be repaired. What was learned about protocols before is kept, and
the fixups are dropped.
-/

set_option autoImplicit false

namespace SwiftExistential.Diagnostic

open Pattern

/-! ## The patterns

Each message has a pattern with a group for what it names. Names stand in single quotes, so most
parts are runs without one. -/

/-- Everything but some characters, at least once. -/
def runWithout (chars : List Char) : Pattern := plus (one (.noneOf chars))

/-- `<file>:<line>[:<column>]: error: <message>`, as groups 1 to 4. -/
def location : Pattern :=
  inOrder [textStart, group 1 (runWithout [':']), char ':', group 2 (plus (one .digit)),
    optional (cluster (seq (char ':') (group 3 (plus (one .digit))))),
    literal ": error: ".toList, group 4 (star (one .inLine)), textEnd]

/-- Any number of qualifying parts, each with its dot, rather few. -/
def qualifyingParts : Pattern := lazyStar (cluster (seq (runWithout ['\'', '.']) (char '.')))

/-- A protocol without a keyword. Group 1 is the last part of its name. -/
def useAsType : Pattern :=
  inOrder [literal "use of ".toList, optional (cluster (literal "protocol ".toList)), char '\'',
    qualifyingParts, group 1 wordRun, SitePatch.metatype, literal "' ".toList,
    optional (cluster (inOrder [literal "(aka '".toList, runWithout ['\''],
      literal "') ".toList])),
    literal "as a type".toList]

/-- A keyword where it means nothing. Group 1 is the last part of the type's name, which may be
optional. -/
def noEffect : Pattern :=
  inOrder [literal "'any' has no effect on ".toList,
    cluster (either [literal "type parameter".toList, literal "concrete type".toList]),
    literal " '".toList, qualifyingParts, group 1 (seq wordRun (optional (char '?'))),
    SitePatch.metatype, char '\'']

/-- A method whose signature no longer fits what it overrides or implements. -/
def overrideMismatch : Pattern :=
  either [
    inOrder [literal "instance method cannot be ".toList,
      cluster (either [literal "an implementation".toList, literal "a member".toList]),
      literal " of an @objc".toList],
    literal "method does not override any method from its superclass".toList,
    literal "initializer does not override a designated initializer".toList]

def someReturn : Pattern := literal "'some' return types are only available in".toList

/-- `some` before something that is no protocol. Group 1 is the type. -/
def constrainedSome : Pattern :=
  inOrder [literal "type 'some ".toList, group 1 (runWithout ['\'']),
    literal "' constrained to non-protocol, non-class type".toList]

/-- A precompiled header that is gone. Group 1 is its path, of which groups 2 and 3 are the parts
before and after the changing part of the name. -/
def missingHeader : Pattern :=
  inOrder [literal "PCH file '".toList,
    group 1 (inOrder [
      group 2 (seq (lazyPlus (one (.noneOf ['\'']))) (literal "-Bridging-Header-swift_".toList)),
      wordRun,
      group 3 (inOrder [literal "-clang_".toList, wordRun, literal ".pch".toList])]),
    literal "' not found:".toList]

/-! ## Messages

The shapes of messages are tried in turn, and the first one that fits decides what is asked for. -/

/-- What a message asks for: the change of the line, and the protocol that it names, if any. -/
structure Verdict where
  fix : LineFix
  protocol : Option Text
deriving DecidableEq, Repr

/-- Drops the question marks at the end. -/
def withoutMarks (name : Text) : Text := (name.reverse.dropWhile (· == '?')).reverse

/-- Understands a message. The shapes are tried in turn. -/
def understand? (message : Text) : Option Verdict :=
  match useAsType.findIn? message with
  | some m => some ⟨.addAny (m.groupText 1), some (m.groupText 1)⟩
  | none =>
      match noEffect.findIn? message with
      | some m => some ⟨.dropAny (m.groupText 1), some (withoutMarks (m.groupText 1))⟩
      | none =>
          if overrideMismatch.occursIn message then some ⟨.anyForParameter, none⟩
          else if someReturn.occursIn message then some ⟨.anyForReturn, none⟩
          else (constrainedSome.findIn? message).map fun m => ⟨.dropSome (m.groupText 1), none⟩

/-! ## Lines

A line number that does not fit 64 bits is no number, and the line is passed over. -/

/-- The number that decimal digits of ASCII spell, if it has 64 bits. -/
def number? (t : Text) : Option Nat :=
  if !t.isEmpty && t.all Char.isDigit then
    let n := t.foldl (fun n c => 10 * n + (c.toNat - '0'.toNat)) 0
    if n < UInt64.size then some n else none
  else none

/-- An error line that names a place. -/
structure ErrorLine where
  file : Text
  line : Nat
  column : Option Nat
  message : Text
deriving DecidableEq, Repr

/-- Reads an error line. A line number that is no number makes it no error line; a column that is no
number is left out. -/
def errorLine? (line : Text) : Option ErrorLine :=
  (location.findIn? line).bind fun m =>
    (number? (m.groupText 2)).map fun n =>
      ⟨m.groupText 1, n, (m.groupText? 3).bind number?, m.groupText 4⟩

/-- A precompiled header that the build misses. -/
structure MissingHeader where
  path : Text
  /-- The path up to the changing part of the name. -/
  stem : Text
  /-- The end of the name. -/
  ending : Text
deriving DecidableEq, Repr

def missingHeader? (line : Text) : Option MissingHeader :=
  (missingHeader.findIn? line).map fun m => ⟨m.groupText 1, m.groupText 2, m.groupText 3⟩

/-- What one line of output says. -/
inductive Reading where
  | headerMissing (header : MissingHeader)
  | fixable (fixup : Fixup) (protocol : Option Text)
  | unrecognized
  | silent
deriving DecidableEq, Repr

def read (line : Text) : Reading :=
  match missingHeader? line with
  | some header => .headerMissing header
  | none =>
      match errorLine? line with
      | none => .silent
      | some e =>
          match understand? e.message with
          | none => .unrecognized
          | some verdict => .fixable ⟨e.file, e.line, e.column, verdict.fix⟩ verdict.protocol

/-! ## Whole outputs -/

/-- What a whole output says. -/
inductive Outcome where
  /-- Every line was read. -/
  | completed (fixups : List Fixup) (unrecognized : List Text)
  /-- A header is missing. -/
  | aborted (header : MissingHeader)
deriving DecidableEq, Repr

/-- Adds a protocol named by a diagnostic. -/
def register (registry : Registry) (protocol : Option Text) (file : Text) : Registry :=
  match protocol with
  | none => registry
  | some name => registry.insert name (.file file)

def Outcome.addFixup (fixup : Fixup) : Outcome → Outcome
  | completed fixups unrecognized => completed (fixup :: fixups) unrecognized
  | aborted header => aborted header

/-- Puts a line that was not understood in front. -/
def Outcome.addUnrecognized (line : Text) : Outcome → Outcome
  | completed fixups unrecognized => completed fixups (line :: unrecognized)
  | aborted header => aborted header

/-- **Reads the output of a build**, and adds the protocols it names to the registry. -/
def parse (registry : Registry) : List Text → Outcome × Registry
  | [] => (.completed [] [], registry)
  | line :: rest =>
      match read line with
      | .headerMissing header => (.aborted header, registry)
      | .fixable fixup protocol =>
          let (outcome, registry') := parse (register registry protocol fixup.file) rest
          (outcome.addFixup fixup, registry')
      | .unrecognized =>
          let (outcome, registry') := parse registry rest
          (outcome.addUnrecognized line, registry')
      | .silent => parse registry rest

end SwiftExistential.Diagnostic
