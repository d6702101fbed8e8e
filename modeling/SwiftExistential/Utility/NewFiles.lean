import SwiftExistential.Utility.Content
import SwiftExistential.Utility.Paths

/-!
# New files

`mkdir` and `rmdir` make and remove directories, `mktemp` makes files and directories with new
names, and `truncate` sets the sizes of files.

What is made gets a mode from the mask of the process, unless one is given. Each argument is taken
by itself; one that fails is reported, and the largest status counts.
-/

set_option autoImplicit false

/-! ## Programs that make and remove directories -/

namespace SwiftExistential.Utility

open Process

/-- A path with the paths of the directories above it, from the top. -/
def pathsDown (path : Text) : List Text :=
  let parts := Text.splitOn '/' path
  ((List.range parts.length).map fun n => Text.join ['/'] (parts.take (n + 1))).filter fun p =>
    p != [] && p.getLast? != some '/'

/-- What `mkdir` does with each directory. -/
structure MakeStyle where
  /-- The mode of the last directory, if it is given. -/
  steps : Option (List Rights.Step)
  isTold : Bool

def makeOne (style : MakeStyle) (isLast : Bool) (path : Text) (failure : FileError → FileError) : Job Nat := do
  let usual ← Job.directoryMode
  let mask := (← read).mask
  let mode := match style.steps with
    | some steps => if isLast then Rights.change steps mask true 0o777 else usual ||| 0o300
    | none => if isLast then usual else usual ||| 0o300
  match (← Job.tree).makeDirectory (Octets.toText (trimSlashes path)) mode with
  | .error e =>
      Job.complain ["mkdir".toList, "cannot create directory ".toList ++ cited path, reason (failure e)]
      return 1
  | .ok tree =>
      Job.setTree tree
      if style.isTold then Job.putLine ("mkdir: created directory ".toList ++ quoted path)
      return 0

/-- Makes directories, each inside of the one before, where they are missing. -/
def makeAll (style : MakeStyle) : List Text → Job Nat
  | [] => return 0
  | path :: rest => do
      if (← Job.tree).isDirectory (Octets.toText path) then makeAll style rest
      else
        let status ← makeOne style rest.isEmpty path fun e =>
          if e = .alreadyExists && !rest.isEmpty then .notDirectory else e
        if status != 0 then return status else makeAll style rest

def mkdirOptions : Specification :=
  { name := "mkdir", letters := "m:pvZ",
    words := [("context", 'Z', .optional), ("mode", 'm', .one), ("parents", 'p', .none),
      ("verbose", 'v', .none)] }

def mkdir : Utility := fun _ arguments =>
  withOptions mkdirOptions arguments fun g => do
    if g.operands.isEmpty then misuse mkdirOptions "missing operand".toList
    else
      match g.value? 'm', (g.value? 'm').bind Rights.read? with
      | some mode, none =>
          complain "mkdir" ("invalid mode ".toList ++ cited mode)
          return 1
      | _, steps =>
          let style : MakeStyle := ⟨steps, g.has 'v'⟩
          forAll (fun path =>
            if g.has 'p' then makeAll style (pathsDown path) else makeOne style true path id) g.operands

/-- Removes an empty directory. Returns whether it is gone. -/
def removeEmpty (g : Given) (isParent : Bool) (path : Text) : Job Bool := do
  let tree ← Job.tree
  if g.has 'v' then Job.putLine ("rmdir: removing directory, ".toList ++ quoted path)
  let failed := fun (why : Text) => do
    Job.complain ["rmdir".toList,
      (if isParent then "failed to remove directory " else "failed to remove ").toList ++ quoted path, why]
    pure false
  let full := do
    if g.has 'i' then pure true else failed "Directory not empty".toList
  match ← Job.locate path with
  | .error e => failed (reason e)
  | .ok ⟨_, none⟩ => failed (reason .notFound)
  | .ok ⟨location, some .directory⟩ =>
      if lastName path = ['.'] then failed "Invalid argument".toList
      else if !(tree.names location).isEmpty then full
      else if location.isEmpty then failed "Device or resource busy".toList
      else
        Job.setTree (tree.remove location)
        return true
  | .ok ⟨_, some (.link _)⟩ =>
      if path.getLast? = some '/' then failed "Symbolic link not followed".toList
      else failed (reason .notDirectory)
  | .ok _ => failed (reason .notDirectory)

/-- Removes directories as long as that works. -/
def removeUp (g : Given) : List Text → Job Nat
  | [] => return 0
  | path :: rest => do
      let before := (← get).tree.entries.size
      if ← removeEmpty g true path then
        if (← get).tree.entries.size = before then return 0 else removeUp g rest
      else return 1

def rmdirOptions : Specification :=
  { name := "rmdir", letters := "pv",
    words := [("ignore-fail-on-non-empty", 'i', .none), ("parents", 'p', .none), ("verbose", 'v', .none)] }

def rmdir : Utility := fun _ arguments =>
  withOptions rmdirOptions arguments fun g => do
    if g.operands.isEmpty then misuse rmdirOptions "missing operand".toList
    else forAll (fun path => do
      if ← removeEmpty g false path then
        if g.has 'p' then removeUp g (pathsDown (trimSlashes path)).reverse.tail else return 0
      else return 1) g.operands

end SwiftExistential.Utility

/-! ## Programs that make new files or set their size -/

namespace SwiftExistential.Utility

open Process

/-! ### New names

The letters at the end of a template are replaced so that the name is free. Names are tried in
order. -/

def freeName (tree : FileTree) (start rest : Text) (width : Nat) : Nat → Nat → Option Text
  | 0, _ => none
  | fuel + 1, n =>
      let digits := Number.digits 36 n
      let name := start ++ List.replicate (width - digits.length) 'a' ++ digits ++ rest
      match tree.locate false (Octets.toText name) with
      | .ok ⟨_, none⟩ => some name
      | .error e => if e = .notFound then some name else none
      | _ => freeName tree start rest width fuel (n + 1)

def mktempOptions : Specification :=
  { name := "mktemp", letters := "dqutp:V",
    words := [("directory", 'd', .none), ("dry-run", 'u', .none), ("quiet", 'q', .none),
      ("suffix", 's', .one), ("tmpdir", 'P', .optional)] }

def mktemp : Utility := fun _ arguments =>
  withOptions mktempOptions arguments fun g => do
    let tree ← Job.tree
    let failed := fun (message : Text) => do
      if !g.has 'q' then complain "mktemp" message
      pure 1
    let usual := (← Job.environment? "TMPDIR".toList).getD "/tmp".toList
    let template := g.operands.headD "tmp.XXXXXXXXXX".toList
    let asked := match g.value? 'p', g.value? 'P' with
      | some d, _ => some d
      | none, some d => some d
      | none, none => none
    let place := match asked with
      | some [] | none => usual
      | some d => if g.has 't' then usual else d
    let isPlaced := g.operands.isEmpty || asked.isSome || g.has 't'
    let stem := (template.reverse.dropWhile (· != 'X')).reverse
    let suffix := match g.value? 's' with
      | some s => s
      | none => template.drop stem.length
    let marks := stem.reverse.takeWhile (· == 'X')
    if g.operands.length > 1 then misuse mktempOptions "too many templates".toList
    else if g.has 's' && template.getLast? != some 'X' then
      failed ("with --suffix, template ".toList ++ cited template ++ " must end in X".toList)
    else if marks.length < 3 then failed ("too few X's in template ".toList ++ cited template)
    else if suffix.contains '/' then
      failed ("invalid suffix ".toList ++ cited suffix ++ ", contains directory separator".toList)
    else if g.has 't' && template.contains '/' then
      failed ("invalid template, ".toList ++ cited template ++ ", contains directory separator".toList)
    else
      let start := stem.take (stem.length - marks.length)
      let whole := fun (t : Text) => if isPlaced then inside place t else t
      match freeName tree (whole start) suffix marks.length 1000 (Nat.pow 36 (marks.length - 1)) with
      | none => return 1
      | some name =>
          let made := if g.has 'd' then tree.makeDirectory (Octets.toText name) 0o700
            else (tree.openFile (Octets.toText name) false 0o600).map Prod.snd
          match made with
          | .ok tree =>
              if !g.has 'u' then Job.setTree tree
              Job.putLine name
              return 0
          | .error e =>
              if g.has 'u' then
                Job.putLine name
                return 0
              else
                failed ((if g.has 'd' then "failed to create directory via template "
                  else "failed to create file via template ").toList ++ cited (whole (stem ++ suffix)) ++
                  ": ".toList ++ reason e)

/-! ### Sizes

A size can be set, or be counted from the one that a file has. -/

/-- How a size is set. -/
inductive Resizing where
  | exactly
  | more
  | less
  | atMost
  | atLeast
  | roundDown
  | roundUp
deriving DecidableEq, Repr

/-- What the first character of a size asks for. -/
def resizing (t : Text) : Resizing × Text :=
  match t with
  | '+' :: rest => (.more, rest)
  | '-' :: rest => (.less, rest)
  | '<' :: rest => (.atMost, rest)
  | '>' :: rest => (.atLeast, rest)
  | '/' :: rest => (.roundDown, rest)
  | '%' :: rest => (.roundUp, rest)
  | t => (.exactly, t)

def Resizing.size (r : Resizing) (old n : Nat) : Nat :=
  match r with
  | exactly => n
  | more => old + n
  | less => old - n
  | atMost => min old n
  | atLeast => max old n
  | roundDown => old / n * n
  | roundUp => (old + n - 1) / n * n

def truncateOptions : Specification :=
  { name := "truncate", letters := "cor:s:",
    words := [("io-blocks", 'o', .none), ("no-create", 'c', .none), ("reference", 'r', .one),
      ("size", 's', .one)] }

def truncateOne (g : Given) (resize : Nat → Nat) (path : Text) : Job Nat := do
  let tree ← Job.tree
  let failed := fun (e : FileError) => do
    Job.complain ["truncate".toList, "cannot open ".toList ++ quoted path ++ " for writing".toList, reason e]
    pure 1
  match tree.openFile (Octets.toText path) true (← Job.fileMode) with
  | .error e => if g.has 'c' && e = .notFound then return 0 else failed e
  | .ok (location, tree') =>
      let isNew := (tree.get? location).isNone
      if isNew && g.has 'c' then return 0
      else
        let bytes := tree'.bytesAt location
        let size := resize bytes.size
        let new := bytes.extract 0 size ++ ⟨Array.replicate (size - bytes.size) 0⟩
        Job.setTree ((tree'.putFile location new (tree'.modeAt location)).stamp location)
        return 0

def truncate : Utility := fun _ arguments =>
  withOptions truncateOptions arguments fun g => do
    let (how, digits) := resizing (((g.value? 's').getD []).dropWhile Number.isSpace)
    match g.value? 's', g.value? 'r' with
    | none, none => misuse truncateOptions "you must specify either '--size' or '--reference'".toList
    | size, reference =>
        if size.isSome && reference.isSome && how = .exactly then
          misuse truncateOptions "you must specify a relative '--size' with '--reference'".toList
        else if g.has 'o' && size.isNone then
          misuse truncateOptions "'--io-blocks' was specified but '--size' was not".toList
        else if g.operands.isEmpty then misuse truncateOptions "missing file operand".toList
        else match size.map fun _ => count? digits with
          | some none =>
              complain "truncate" ("Invalid number: ".toList ++ cited digits)
              return 1
          | found =>
              let n := (found.join).getD 0
              if (how = .roundDown || how = .roundUp) && n = 0 then
                complain "truncate" "division by zero".toList
                return 1
              else match reference.map fun path => (path, ()) with
                | some (path, _) =>
                    match Entry.find (← Job.tree) true path with
                    | .error e =>
                        complainOf "truncate" "cannot stat " path e
                        return 1
                    | .ok e =>
                        let base := if size.isSome then how.size e.size n else e.size
                        forAll (truncateOne g fun _ => base) g.operands
                | none => forAll (truncateOne g fun old => how.size old n) g.operands

end SwiftExistential.Utility
