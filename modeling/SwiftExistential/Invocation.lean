import SwiftExistential.Pattern.Search

/-!
# Compiler invocations

The command lines of a verbose build that compile one file. When the project as a whole cannot be
built, each of them is run on its own, without the flags that only the build system understands and
with the check for missing keywords switched on.

A line is captured if it has the flag for a primary file between blanks, and it is trimmed. Flags
are taken out as texts, together with the blank behind them, and the feature is put in behind the
option to compile, which is looked for between two blanks.
-/

set_option autoImplicit false

namespace SwiftExistential.Invocation

open Pattern

/-- What introduces the file that an invocation compiles. -/
def primaryFlag : Text := " -primary-file ".toList

/-- The flag that makes the compiler ask for keywords. -/
def featureFlag : Text := "-enable-upcoming-feature ExistentialAny".toList

def buildSystemFlags : List Text :=
  ["builtin-swiftTaskExecution -- ".toList, "-frontend-parseable-output ".toList]

def outputMap : Pattern :=
  inOrder [literal "-supplementary-output-file-map ".toList, plus (one .notBlank), char ' ']

/-- How the name of a bridging header begins. -/
def headerStem : Text := "Bridging-Header-swift_".toList

/-- The name of a bridging header with the part that changes from build to build. -/
def header : Pattern := seq (literal headerStem) wordRun

/-- The lines that compile a primary file, without blanks at their ends. -/
def capture (lines : List Text) : List Text :=
  (lines.filter (Text.hasPart primaryFlag)).map Text.trim

def primaryFile? (invocation : Text) : Option Text :=
  (Text.splitAtPart? primaryFlag invocation).bind fun (_, rest) =>
    let file := (Text.trimStart rest).takeWhile (!Unicode.isBlank ·)
    if file.isEmpty then none else some file

/-- Removes the occurrences of some texts, one text after the other. -/
def removeAll (parts : List Text) (t : Text) : Text :=
  parts.foldl (fun acc part => Text.replacePart part [] acc) t

/-- Switches the check on after the first ` -c `, unless it is on. -/
def addFeature (command : Text) : Text :=
  if Text.hasPart featureFlag command then command
  else
    match Text.splitAtPart? " -c ".toList command with
    | none => command
    | some (before, after) =>
        before ++ " -c ".toList ++ featureFlag ++ " ".toList ++ after

/-- **Makes an invocation runnable on its own.** The extra flags are removed after the known ones.
-/
def sanitize (extraFlags : List Text) (invocation : Text) : Text :=
  let plain := removeAll buildSystemFlags invocation
  let plain := (outputMap.substitute (fun _ => some []) plain).1
  -- The name of a header changes from build to build, so the shell is left to find it.
  let plain := (header.substitute (fun _ => some (headerStem ++ "*".toList)) plain).1
  addFeature (removeAll extraFlags plain)

end SwiftExistential.Invocation
