import SwiftExistential.Utility.Paths

/-!
# Removal and backups

`rm` removes files. The programs that copy and move files may have to remove something as well, and
can be told to keep it; both matters are here because they ask the same questions.

A question is written to the messages, and the next line of the input is the answer. Only an answer
that begins with a certain letter is a yes, so that an input without lines refuses everything.
-/

set_option autoImplicit false

/-! ## Programs that remove files

What is removed is found without following a link at its end. Directories are removed only if that
is asked for, with all that is below them, from the inside out. -/

namespace SwiftExistential.Utility

open Process

/-! ### Questions -/

/-- Asks a question, and reads the next line of the input. Returns whether it says yes. -/
def confirm (question : Text) : Job Bool := do
  Job.write 2 question
  let line ← Job.inputLine
  return line.head?.any fun c => c == 'y' || c == 'Y'

/-! ### Removing -/

/-- When files are asked for. -/
inductive Asking where
  | never
  /-- Only once for many files or whole directories. -/
  | once
  | always
deriving DecidableEq, Repr

def askingWords : List (String × Asking) :=
  [("never", .never), ("no", .never), ("none", .never), ("once", .once), ("always", .always), ("yes", .always)]

def rmOptions : Specification :=
  { name := "rm", letters := "dfirRvI",
    words := [("dir", 'd', .none), ("force", 'f', .none), ("interactive", 'a', .optional),
      ("no-preserve-root", 'p', .none), ("one-file-system", 'x', .none), ("preserve-root", 'P', .optional),
      ("recursive", 'r', .none), ("verbose", 'v', .none)],
    check := fun c t =>
      if c == 'a' && !t.isEmpty then
        mistakenChoice? askingWords "--interactive" ["'never', 'no', 'none'", "'once'", "'always', 'yes'"] t
      else none }

/-- Whether each file is asked for. The last option counts. -/
def asksAlways (g : Given) : Bool :=
  match g.options.reverse.find? fun (c, _) => ['i', 'f', 'I', 'a'].contains c with
  | some ('i', _) => true
  | some ('a', t) => t.isEmpty || choice? askingWords t = some .always
  | _ => false

/-- Whether failures to find something do not count. -/
def isForced (g : Given) : Bool := g.has 'f'

/-- Removes a location that is not a directory with something in it. -/
def removeHere (g : Given) (path : Text) (location : Location) (e : Entry) : Job Nat := do
  let isAllowed ← if asksAlways g then
      confirm ("rm: remove ".toList ++ e.kind ++ ' ' :: quoted path ++ "? ".toList)
    else pure true
  if isAllowed then
    Job.setTree ((← Job.tree).remove location)
    if g.has 'v' then
      Job.putLine ((if e.isDirectory then "removed directory " else "removed ").toList ++ quoted path)
  return 0

/-- Removes a location with all that is below it, so deep at most. -/
def removeDeep (g : Given) : Nat → Text → Location → Job Nat
  | 0, _, _ => return 1
  | depth + 1, path, location => do
      let tree ← Job.tree
      match tree.get? location with
      | none => return 0
      | some node =>
          let e := Entry.make tree location node
          if !e.isDirectory then removeHere g path location e
          else
            let names := tree.names location
            let goesIn ← if asksAlways g && !names.isEmpty then
                confirm ("rm: descend into directory ".toList ++ quoted path ++ "? ".toList)
              else pure true
            if !goesIn then return 0
            else
              let status ← forAll
                (fun name => removeDeep g depth (inside path (Octets.ofText name)) (location ++ [name])) names
              let tree ← Job.tree
              if (tree.names location).isEmpty then
                return max status (← removeHere g path location (Entry.make tree location .directory))
              else if status != 0 then return status
              else
                let isAllowed ← if asksAlways g then
                    confirm ("rm: remove directory ".toList ++ quoted path ++ "? ".toList)
                  else pure true
                if !isAllowed then return 0
                else
                  Job.complain ["rm".toList, "cannot remove ".toList ++ quoted path, "Directory not empty".toList]
                  return 1

def removePath (g : Given) (path : Text) : Job Nat := do
  let tree ← Job.tree
  let isRecursive := g.has 'r' || g.has 'R'
  let failed := fun (e : FileError) => do
    complainOf "rm" "cannot remove " path e
    pure 1
  if (isRecursive || g.has 'd') && [['.'], ['.', '.']].contains (lastName path) then
    complain "rm" ("refusing to remove '.' or '..' directory: skipping ".toList ++ quoted path)
    return 1
  else match ← Job.locate path with
    | .error e => if isForced g && (e = .notFound || e = .notDirectory) then return 0 else failed e
    | .ok ⟨_, none⟩ => if isForced g then return 0 else failed .notFound
    | .ok ⟨[], _⟩ =>
        complain "rm" "it is dangerous to operate recursively on '/'".toList
        complain "rm" "use --no-preserve-root to override this failsafe".toList
        return 1
    | .ok ⟨location, some .directory⟩ =>
        if isRecursive then removeDeep g (tree.entries.size + 1) path location
        else if g.has 'd' then
          if (tree.names location).isEmpty then
            removeHere g path location (Entry.make tree location .directory)
          else
            Job.complain ["rm".toList, "cannot remove ".toList ++ quoted path, "Directory not empty".toList]
            return 1
        else failed .isDirectory
    | .ok ⟨location, some node⟩ => removeHere g path location (Entry.make tree location node)

def rm : Utility := fun _ arguments =>
  withOptions rmOptions arguments fun g => do
    if g.operands.isEmpty then
      if isForced g then return 0 else misuse rmOptions "missing operand".toList
    else
      let isRecursive := g.has 'r' || g.has 'R'
      let asksOnce := g.last? "ifI" = some 'I' && (isRecursive || g.operands.length > 3)
      let count := g.operands.length
      let isAllowed ← if asksOnce then
          confirm ("rm: remove ".toList ++ shownNat count ++
            (if count = 1 then " argument" else " arguments").toList ++
            (if isRecursive then " recursively? " else "? ").toList)
        else pure true
      if isAllowed then forAll (removePath g) g.operands else return 0

def unlinkOptions : Specification := { name := "unlink", letters := "" }

def unlink : Utility := fun _ arguments =>
  withOptions unlinkOptions arguments fun g => do
    match g.operands with
    | [path] =>
        match Entry.find (← Job.tree) false path with
        | .error e =>
            complainOf "unlink" "cannot unlink " path e
            return 1
        | .ok e =>
            if e.isDirectory then
              complainOf "unlink" "cannot unlink " path .isDirectory
              return 1
            else
              Job.setTree ((← Job.tree).remove e.location)
              return 0
    | [] => misuse unlinkOptions "missing operand".toList
    | _ :: extra :: _ => misuse unlinkOptions ("extra operand ".toList ++ cited extra)

end SwiftExistential.Utility

/-! ## What stands in the way of a copy

A program that puts one file in the place of another may keep the other under a new name, ask
before, or leave it. This file reads the options for that, and says where things go. -/

namespace SwiftExistential.Utility

open Process

/-! ### Backups

A backup has the name of the file with a suffix or with a number. Which of them is used can be left
to the backups that are there already. -/

/-- How the name of a backup is made. -/
inductive BackupKind where
  | none
  | simple
  | existing
  | numbered
deriving DecidableEq, Repr

def backupWords : List (String × BackupKind) :=
  [("none", .none), ("off", .none), ("simple", .simple), ("never", .simple), ("existing", .existing),
    ("nil", .existing), ("numbered", .numbered), ("t", .numbered)]

def backupList : List String := ["'none', 'off'", "'simple', 'never'", "'existing', 'nil'", "'numbered', 't'"]

/-- The kind of backups that options ask for. The letter `b` is for a usual one, and `B` has a
value. -/
def backupKind (g : Given) (s : Specification) : Job (Except Nat BackupKind) := do
  if !(g.has 'b' || g.has 'B' || g.has 'S') then return .ok .none
  else
    let control := (← Job.environment? "VERSION_CONTROL".toList).getD []
    let (context, word) := match (g.values 'B').reverse.find? fun t => !t.isEmpty with
      | some t => ("backup type", t)
      | none => ("$VERSION_CONTROL", control)
    match choice? backupWords word with
    | some kind => return .ok (if word.isEmpty then .existing else kind)
    | none =>
        if word.isEmpty then return .ok .existing
        else return .error (← report s (.word word context backupList))

/-- The largest number of a backup of a name in a directory. -/
def lastBackup (names : List Text) (name : Text) : Nat :=
  (names.filterMap fun other =>
    match Text.dropPart? (name ++ ".~".toList) other with
    | some rest =>
        let digits := rest.takeWhile Char.isDigit
        if !digits.isEmpty && rest.drop digits.length = ['~'] then some (Number.value 10 digits) else none
    | none => none).foldl max 0

def backupPath (tree : FileTree) (kind : BackupKind) (suffix path : Text) : Option Text :=
  let names := match tree.list (Octets.toText (parentPath path)) with
    | .ok names => names.map Octets.ofText
    | .error _ => []
  let last := lastBackup names (lastName path)
  let numbered := path ++ ".~".toList ++ shownNat (last + 1) ++ ['~']
  match kind with
  | .none => none
  | .simple => some (path ++ suffix)
  | .numbered => some numbered
  | .existing => some (if last > 0 then numbered else path ++ suffix)

def backupSuffix (g : Given) : Job Text := do
  let given := (← Job.environment? "SIMPLE_BACKUP_SUFFIX".toList).getD ['~']
  return match g.value? 'S' with
    | some t => if t.contains '/' || t.isEmpty then ['~'] else t
    | none => if given.isEmpty then ['~'] else given

/-- The words that say which files are replaced. -/
def updateWords : List String := ["all", "none", "older"]

/-! ### Destinations

Several things go into a directory; one thing may also go in the place of another. Options can say
which of both is meant. -/

/-- Where several things go: into a directory, or one thing in place of another. -/
inductive Destination where
  | into (directory : Text)
  | onto (path : Text)

def destination (g : Given) (s : Specification) : Job (Except Nat (List Text × Destination)) := do
  let tree ← Job.tree
  if (g.values 't').length > 1 then
    complain s.name "multiple target directories specified".toList
    return .error 1
  else match g.value? 't', g.operands with
  | _, [] => return .error (← misuse s "missing file operand".toList)
  | some directory, operands =>
      let failed := fun (e : FileError) => do
        Job.complain [s.name.toList, "target directory ".toList ++ quoted directory, reason e]
        return .error 1
      if g.has 'T' then
        complain s.name "cannot combine --target-directory (-t) and --no-target-directory (-T)".toList
        return .error 1
      else match tree.find (Octets.toText directory) with
        | .error e => failed e
        | .ok (_, .directory) => return .ok (operands, .into directory)
        | .ok _ => failed .notDirectory
  | none, [path] =>
      return .error (← misuse s ("missing destination file operand after ".toList ++ quoted path))
  | none, operands =>
      let target := operands.getLast?.getD []
      let before := operands.dropLast
      if g.has 'T' then
        match before with
        | [_] => return .ok (before, .onto target)
        | _ => return .error (← misuse s ("extra operand ".toList ++ cited ((operands[2]?).getD [])))
      else if tree.isDirectory (Octets.toText target) then return .ok (before, .into target)
      else if before.length = 1 then return .ok (before, .onto target)
      else
        let e := match tree.find (Octets.toText target) with
          | .error e => e
          | .ok _ => FileError.notDirectory
        Job.complain [s.name.toList, "target ".toList ++ quoted target, reason e]
        return .error 1

def Destination.pathFor (source : Text) : Destination → Text
  | into directory => inside directory (lastName source)
  | onto path => path

end SwiftExistential.Utility
