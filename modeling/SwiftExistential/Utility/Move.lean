import SwiftExistential.Utility.Backup

/-!
# Moving files

`mv` and `ln` move and link files, and `realpath` and `readlink` say where paths lead.

Moving and linking both put something in a place where something else may stand, and follow the
options for that. The last two walk over paths by rules that differ from those of the tree itself,
so the walk is defined once more.
-/

set_option autoImplicit false

/-! ## Programs that move and link files -/

namespace SwiftExistential.Utility

open Process

/-! ### Moving

A directory is not moved into itself, and a file not onto another name of its own. -/

def mvOptions : Specification :=
  { name := "mv", letters := "bfinS:t:TuvZ",
    words := [("backup", 'B', .optional), ("context", 'Z', .none), ("debug", 'D', .none), ("force", 'f', .none),
      ("interactive", 'i', .none), ("no-clobber", 'n', .none), ("no-copy", 'N', .none),
      ("no-target-directory", 'T', .none), ("strip-trailing-slashes", 'k', .none), ("suffix", 'S', .one),
      ("target-directory", 't', .one), ("update", 'U', .optional), ("verbose", 'v', .none)],
    check := fun c t => if c == 'U' && !t.isEmpty then mistakenWord? updateWords "--update" t else none }

def moveOne (g : Given) (backup : BackupKind) (suffix source target : Text) : Job Nat := do
  let tree ← Job.tree
  let failed := fun (message : Text) => do
    complain "mv" message
    pure 1
  let stat := fun (e : FileError) => failed ("cannot stat ".toList ++ quoted source ++ ": ".toList ++ reason e)
  let move := fun (e : FileError) =>
    failed ("cannot move ".toList ++ quoted source ++ " to ".toList ++ quoted target ++ ": ".toList ++ reason e)
  let rule := g.last? "ifn"
  let update := g.options.reverse.find? fun (c, _) => c == 'u' || c == 'U'
  match Entry.find tree false source with
  | .error e => stat e
  | .ok entry =>
      match tree.locate false (Octets.toText (trimSlashes target)) with
      | .error e => if target.isEmpty then move .notFound else move e
      | .ok ⟨goal, old⟩ =>
          let isOlder := update.any (fun (c, t) => c == 'u' || t = [] || t = "older".toList) &&
            entry.record.modified ≤ (tree.recordAt goal).modified
          let isKept := update.any fun (_, t) => t = "none".toList
          if old.isSome && rule = some 'n' then
            failed ("not replacing ".toList ++ quoted target)
          else if goal = entry.location || (tree.namesOf entry.location).contains goal then
            failed (quoted source ++ " and ".toList ++ quoted target ++ " are the same file".toList)
          else if old.isSome && old != some .directory && (isOlder || isKept) then return 0
          else if entry.isDirectory && FileTree.isBelow goal entry.location then
            failed ("cannot move ".toList ++ quoted source ++ " to a subdirectory of itself, ".toList ++
              quoted target)
          else if !tree.hasParent goal then move .notFound
          else if target.getLast? = some '/' && !entry.isDirectory && old.isNone then move .notDirectory
          else
            let done := do
              let isAllowed ← if old.isSome && rule = some 'i' then
                  confirm ("mv: overwrite ".toList ++ quoted target ++ "? ".toList)
                else pure true
              if !isAllowed then pure 1
              else
                let saved := if old.isSome then backupPath tree backup suffix (trimSlashes target) else none
                match saved with
                | some path =>
                    match tree.locate false (Octets.toText path) with
                    | .ok ⟨place, _⟩ => Job.setTree (tree.moveBelow goal place)
                    | .error _ => pure ()
                | none => pure ()
                Job.setTree ((← Job.tree).moveBelow entry.location goal)
                if g.has 'v' then
                  let note := match saved with
                    | some path => " (backup: ".toList ++ quoted path ++ [')']
                    | none => []
                  Job.putLine ("renamed ".toList ++ quoted source ++ " -> ".toList ++ quoted target ++ note)
                pure 0
            match entry.isDirectory, old with
            | true, some .directory =>
                if (tree.names goal).isEmpty || backup != .none then done
                else
                  failed ("cannot overwrite ".toList ++ quoted target ++ ": Directory not empty".toList)
            | true, some _ =>
                failed ("cannot overwrite non-directory ".toList ++ quoted target ++ " with directory ".toList ++
                  quoted source)
            | false, some .directory =>
                failed ("cannot overwrite directory ".toList ++ quoted target ++ " with non-directory".toList)
            | _, _ => done

def mv : Utility := fun _ arguments =>
  withOptions mvOptions arguments fun g => do
    match ← backupKind g mvOptions with
    | .error status => return status
    | .ok backup =>
        match ← destination g mvOptions with
        | .error status => return status
        | .ok (paths, goal) =>
            let suffix ← backupSuffix g
            forAll (fun path =>
              let path := if g.has 'k' then trimSlashes path else path
              moveOne g backup suffix path (goal.pathFor path)) paths

/-! ### Links

A link has a path as it is given, or one that is counted from the place of the link. -/

def lnOptions : Specification :=
  { name := "ln", letters := "bdfFinLPrsS:t:Tv",
    words := [("backup", 'B', .optional), ("directory", 'd', .none), ("force", 'f', .none),
      ("interactive", 'i', .none), ("logical", 'L', .none), ("no-dereference", 'n', .none),
      ("no-target-directory", 'T', .none), ("physical", 'P', .none), ("relative", 'r', .none),
      ("suffix", 'S', .one), ("symbolic", 's', .none), ("target-directory", 't', .one),
      ("verbose", 'v', .none)] }

def relativePath (start goal : Location) : Text :=
  let shared := ((start.zip goal).takeWhile fun (a, b) => a = b).length
  let up := List.replicate (start.length - shared) ['.', '.']
  let path := Text.join ['/'] (up ++ (goal.drop shared).map Octets.ofText)
  if path.isEmpty then ['.'] else path

def linkOne (g : Given) (backup : BackupKind) (suffix source path : Text) : Job Nat := do
  let tree ← Job.tree
  let isSymbolic := g.has 's'
  let failed := fun (message : Text) => do
    complain "ln" message
    pure 1
  let kind := if isSymbolic then "symbolic" else "hard"
  let create := fun (e : FileError) =>
    failed ("failed to create ".toList ++ kind.toList ++ " link ".toList ++ quoted path ++
      (if isSymbolic then [] else if e = .alreadyExists then [] else " => ".toList ++ quoted source) ++ ": ".toList ++
      reason e)
  let found := if isSymbolic then .ok none
    else (Entry.find tree (g.has 'L') source).map some
  match found with
  | .error e => failed ("failed to access ".toList ++ quoted source ++ ": ".toList ++ reason e)
  | .ok entry =>
      if entry.any Entry.isDirectory then failed (source ++ ": hard link not allowed for directory".toList)
      else match tree.locate false (Octets.toText path) with
        | .error e => create e
        | .ok ⟨location, old⟩ =>
            let isSame := entry.any fun e => (tree.namesOf e.location).contains location
            let saved := if old.isSome then backupPath tree backup suffix path else none
            if isSymbolic && source.isEmpty then create .notFound
            else if old = some .directory then
              if g.has 'f' || g.has 'i' || saved.isSome then
                failed (path ++ ": cannot overwrite directory".toList)
              else create .alreadyExists
            else
              let isAllowed ← if old.isSome && g.last? "if" = some 'i' then
                  confirm ("ln: replace ".toList ++ quoted path ++ "? ".toList)
                else pure (old.isNone || g.has 'f' || saved.isSome)
              if !isAllowed then
                if g.last? "if" = some 'i' then return 1 else create .alreadyExists
              else if isSame && saved.isNone && entry.any fun e => e.location = location then
                failed (quoted source ++ " and ".toList ++ quoted path ++ " are the same file".toList)
              else if isSame && saved.isNone then return 0
              else if !tree.hasParent location then create .notFound
              else
                match saved with
                | some path =>
                    match tree.locate false (Octets.toText path) with
                    | .ok ⟨place, _⟩ => Job.setTree (tree.moveBelow location place)
                    | .error _ => pure ()
                | none => pure ()
                let tree ← Job.tree
                let target := if g.has 'r' then
                    match tree.locate true (Octets.toText source) with
                    | .ok place => relativePath location.dropLast place.location
                    | .error _ => source
                  else source
                match entry with
                | none => Job.setTree ((tree.set location (.link (Octets.toText target))).stampNew location 0)
                | some e => Job.setTree ((tree.remove location).addName e.location location)
                if g.has 'v' then
                  Job.putLine ((match saved with
                    | some path => quoted path ++ " ~ ".toList
                    | none => []) ++ quoted path ++ (if isSymbolic then " -> " else " => ").toList ++ quoted target)
                return 0

def ln : Utility := fun _ arguments =>
  withOptions lnOptions arguments fun g => do
    let tree ← Job.tree
    match ← backupKind g lnOptions with
    | .error status => return status
    | .ok backup =>
        let suffix ← backupSuffix g
        let link := linkOne g backup suffix
        if g.has 'r' && !g.has 's' then
          complain "ln" "cannot do --relative without --symbolic".toList
          return 1
        else match g.value? 't', g.operands with
          | _, [] => misuse lnOptions "missing file operand".toList
          | some directory, operands =>
              if !tree.isDirectory (Octets.toText directory) then
                let e := match tree.find (Octets.toText directory) with
                  | .error e => e
                  | .ok _ => .notDirectory
                Job.complain ["ln".toList, "target directory ".toList ++ quoted directory, reason e]
                return 1
              else forAll (fun s => link s (inside directory (lastName s))) operands
          | none, [source] =>
              if g.has 'T' then misuse lnOptions ("missing destination file operand after ".toList ++ quoted source)
              else link source (inside ['.'] (lastName source))
          | none, operands =>
              let target := operands.getLast?.getD []
              let isLink := match tree.locate false (Octets.toText target) with
                | .ok ⟨_, some (.link _)⟩ => true
                | _ => false
              if g.has 'T' && operands.length > 2 then
                misuse lnOptions ("extra operand ".toList ++ cited ((operands[2]?).getD []))
              else if tree.isDirectory (Octets.toText target) && !(g.has 'n' && isLink) && !g.has 'T' then
                forAll (fun s => link s (inside target (lastName s))) operands.dropLast
              else match operands with
                | [source, path] => link source path
                | _ =>
                    let e := match tree.find (Octets.toText target) with
                      | .error e => e
                      | .ok _ => .notDirectory
                    Job.complain ["ln".toList, "target ".toList ++ quoted target, reason e]
                    return 1

def linkOptions : Specification := { name := "link", letters := "" }

def link : Utility := fun _ arguments =>
  withOptions linkOptions arguments fun g => do
    match g.operands with
    | [] => misuse linkOptions "missing operand".toList
    | [source] => misuse linkOptions ("missing operand after ".toList ++ cited source)
    | [source, path] =>
        let tree ← Job.tree
        let failed := fun (e : Text) => do
          complain "link" ("cannot create link ".toList ++ quoted path ++ " to ".toList ++ quoted source ++
            ": ".toList ++ e)
          pure 1
        match Entry.find tree false source with
        | .error e => failed (reason e)
        | .ok entry =>
            if entry.isDirectory then failed "Operation not permitted".toList
            else match tree.locate false (Octets.toText path) with
              | .error e => failed (reason e)
              | .ok ⟨_, some _⟩ => failed (reason .alreadyExists)
              | .ok ⟨location, none⟩ =>
                  if !tree.hasParent location then failed (reason .notFound)
                  else
                    Job.setTree (tree.addName entry.location location)
                    return 0
    | _ :: _ :: extra :: _ => misuse linkOptions ("extra operand ".toList ++ cited extra)

end SwiftExistential.Utility

/-! ## Paths without links

A path is walked part by part. Links are followed, unless the names alone count; how much of the
path has to be there is for the caller to say. `realpath` and `readlink` print where paths lead. -/

namespace SwiftExistential.Utility

open Process

namespace Canonical

/-- How much of a path has to be there. -/
inductive Presence where
  | all
  | allButLast
  | nothing
deriving DecidableEq, Repr

/-- How a path is walked. -/
structure Style where
  presence : Presence
  /-- Whether links are followed. -/
  follows : Bool

/-- Whether the parts behind a slash ask for a directory in front of them. -/
def asksForDirectory : List Text → Bool
  | [] => true
  | [] :: rest => asksForDirectory rest
  | ['.'] :: rest => asksForDirectory rest
  | ['.', '.'] :: _ => true
  | _ :: _ => false

/-- Whether a place with these parts behind it is as the style wants it. -/
def Style.check (s : Style) (t : FileTree) (place : Location) (rest : List Text) : Except FileError Unit :=
  let path := FileTree.render place
  let found : Except FileError Unit :=
    if !rest.isEmpty && asksForDirectory rest then (t.find (path ++ ['/'])).map fun _ => ()
    else if s.follows then
      match t.locate false path with
      | .error e => .error e
      | .ok ⟨_, none⟩ => .error .notFound
      | .ok _ => .ok ()
    else if rest.isEmpty then (t.find path).map fun _ => ()
    else .ok ()
  match s.presence, found with
  | .nothing, _ => .ok ()
  | .allButLast, .error .notFound => if rest.all List.isEmpty then .ok () else .error .notFound
  | _, found => found

/-- A link as it was met: the directory it is in, its name and the parts behind it. -/
abbrev Crossing := Location × List Text

abbrev Continuation := List Crossing → Location → List Text → Except FileError Location

/-- So many links are followed without a look at those before. -/
def freeLinks : Nat := 20

/-- Walks over parts from a location, after so many links. A link that was crossed before leads
nowhere. -/
def walkParts (s : Style) (t : FileTree) (count : Nat) (behindLink : Continuation) (crossed : List Crossing) :
    Location → List Text → Except FileError Location
  | place, [] => .ok place
  | place, part :: rest =>
      if part = [] || part = ['.'] then walkParts s t count behindLink crossed place rest
      else if part = ['.', '.'] then walkParts s t count behindLink crossed place.dropLast rest
      else
        let next := place ++ [part]
        let goOn := fun (_ : Unit) => walkParts s t count behindLink crossed next rest
        match s.follows, t.locate false (FileTree.render next) with
        | true, .ok ⟨_, some (.link target)⟩ =>
            let start := if Path.isAbsolute target then [] else place
            let parts := Text.splitOn '/' target ++ rest
            let crossing := (place, part :: rest)
            if count < freeLinks then behindLink crossed start parts
            else if !crossed.contains crossing then behindLink (crossing :: crossed) start parts
            else if s.presence = .nothing then goOn ()
            else .error .tooManyLinks
        | _, _ =>
            match s.check t next rest with
            | .error e => .error e
            | .ok () => goOn ()

def maxLinks : Nat := 1000

/-- Walks over parts, with so many links at most. -/
def walk (s : Style) (t : FileTree) : Nat → Continuation
  | 0, _, _, _ => .error .tooManyLinks
  | n + 1, crossed, place, parts => walkParts s t (maxLinks - (n + 1)) (walk s t n) crossed place parts

/-- **Where a path leads.** -/
def resolve (s : Style) (t : FileTree) (path : Text) : Except FileError Location :=
  if path.isEmpty then .error .notFound
  else walk s t maxLinks [] (if Path.isAbsolute path then [] else t.current) (Text.splitOn '/' path)

end Canonical

open Canonical

/-! ### The programs -/

/-- How much of a path has to be there, by the last option that says so. -/
def presenceOf (g : Given) : Presence :=
  match g.last? "fem" with
  | some 'e' => .all
  | some 'm' => .nothing
  | _ => .allButLast

def realpathOptions : Specification :=
  { name := "realpath", letters := "eLmPqsz",
    words := [("canonicalize-existing", 'e', .none), ("canonicalize-missing", 'm', .none),
      ("logical", 'L', .none), ("no-symlinks", 's', .none), ("physical", 'P', .none), ("quiet", 'q', .none),
      ("relative-base", 'B', .one), ("relative-to", 'R', .one), ("strip", 's', .none), ("zero", 'z', .none)] }

/-- Where a path leads for `realpath`: as the names say, through links, or both one after the other.
-/
def realpathOf (g : Given) (t : FileTree) (path : Text) : Except FileError Location :=
  let presence := presenceOf g
  let through := fun (follows : Bool) => resolve ⟨presence, follows⟩ t
  match g.last? "LPs" with
  | some 's' => through false (Octets.toText path)
  | some 'L' =>
      match through false (Octets.toText path) with
      | .error e => .error e
      | .ok location => through true (FileTree.render location)
  | _ => through true (Octets.toText path)

/-- The location of a directory that paths are shown from, or the message that there is none. -/
def startOf (g : Given) (t : FileTree) (path : Text) : Except Text Location :=
  let failed := fun (e : FileError) => .error (readable path ++ ": ".toList ++ reason e)
  match realpathOf g t path with
  | .error e => failed e
  | .ok location =>
      if presenceOf g = .all && t.get? location != some .directory then failed .notDirectory
      else .ok location

/-- The directory that paths are shown from and the one that they have to be below. -/
def startsOf (g : Given) (t : FileTree) : Except Text (Option Location × Option Location) := do
  match g.value? 'R', g.value? 'B' with
  | none, none => return (none, none)
  | some start, none => return (some (← startOf g t start), none)
  | none, some base =>
      let base ← startOf g t base
      return (some base, some base)
  | some start, some base =>
      let start ← startOf g t start
      let base ← startOf g t base
      return if base.isPrefixOf start then (some start, some base) else (none, none)

def realpath : Utility := fun _ arguments =>
  withOptions realpathOptions arguments fun g => do
    let tree ← Job.tree
    if g.operands.isEmpty then misuse realpathOptions "missing operand".toList
    else match startsOf g tree with
    | .error message =>
        complain "realpath" message
        return 1
    | .ok (start, base) =>
        forAll (fun path => do
          match realpathOf g tree path with
          | .ok location =>
              let isBelow := base.all fun b => b.isPrefixOf location
              let shown := match start with
                | some start =>
                    if isBelow then relativePath start location else Octets.ofText (FileTree.render location)
                | none => Octets.ofText (FileTree.render location)
              Job.put (shown ++ [if g.has 'z' then '\x00' else '\n'])
              return 0
          | .error e =>
              if !g.has 'q' then Job.complain ["realpath".toList, readable path, reason e]
              return 1) g.operands

def readlinkOptions : Specification :=
  { name := "readlink", letters := "efmnqsvz",
    words := [("canonicalize", 'f', .none), ("canonicalize-existing", 'e', .none),
      ("canonicalize-missing", 'm', .none), ("no-newline", 'n', .none), ("quiet", 'q', .none),
      ("silent", 's', .none), ("verbose", 'v', .none), ("zero", 'z', .none)] }

def readlinkOf (g : Given) (t : FileTree) (path : Text) : Except FileError Text :=
  if g.has 'f' || g.has 'e' || g.has 'm' then
    (resolve ⟨presenceOf g, true⟩ t (Octets.toText path)).map fun location =>
      Octets.ofText (FileTree.render location)
  else match t.locate false (Octets.toText path) with
  | .error e => .error e
  | .ok ⟨_, some (.link target)⟩ => .ok (Octets.ofText target)
  | .ok ⟨_, none⟩ => .error .notFound
  | .ok _ => .error .notText

def readlink : Utility := fun _ arguments =>
  withOptions readlinkOptions arguments fun g => do
    let tree ← Job.tree
    if g.operands.isEmpty then misuse readlinkOptions "missing operand".toList
    else
      let isMany := g.operands.length > 1
      if g.has 'n' && isMany then
        complain "readlink" "ignoring --no-newline with multiple arguments".toList
      let ending := if g.has 'n' && !isMany then [] else [if g.has 'z' then '\x00' else '\n']
      let isLoud := g.last? "qsv" = some 'v'
      forAll (fun path => do
        match readlinkOf g tree path with
        | .ok t =>
            Job.put (t ++ ending)
            return 0
        | .error e =>
            if isLoud then Job.complain ["readlink".toList, readable path, reason e]
            return 1) g.operands

end SwiftExistential.Utility
