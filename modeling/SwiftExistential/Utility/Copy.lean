import SwiftExistential.Utility.Backup

/-!
# Copying files

`cp` copies files and directories, and `install` copies files and gives them a mode. Both keep what
is in the way if that is asked for.

What stands at the destination decides as much as the source does. The cases are gone through in a
fixed order: nothing stands there, the two are the same file, a directory meets a file, or one file
takes the place of another. A directory is copied with what is below it, and a failure below does
not keep the rest from being copied.
-/

set_option autoImplicit false

namespace SwiftExistential.Utility

open Process

/-- How files are copied. -/
structure CopyStyle where
  name : String
  isRecursive : Bool
  /-- Whether links are followed, at the top and below. -/
  followsTop : Bool
  followsBelow : Bool
  keepsMode : Bool
  keepsTimes : Bool
  /-- What happens to files that are there already. -/
  overwrites : Bool
  asks : Bool
  onlyNewer : Bool
  isTold : Bool
  makesNames : Bool
  makesLinks : Bool
  removesFirst : Bool
  onlyFacts : Bool
  backup : BackupKind
  suffix : Text

def failing (name : String) (message : Text) : Job Nat := do
  complain name message
  return 1

def tellCopy (style : CopyStyle) (source target : Text) (backup : Option Text) : Job Unit := do
  if style.isTold then
    let note := match backup with
      | some path => " (backup: ".toList ++ quoted path ++ [')']
      | none => []
    Job.putLine (quoted source ++ " -> ".toList ++ quoted target ++ note)

/-- Copies a file that is no directory to a location. -/
def copyPlain (style : CopyStyle) (entry : Entry) (goal : Location) (old : Option Node) : Job Unit := do
  let tree ← Job.tree
  let mask := (← read).mask
  let bytes := match entry.node with
    | .file bytes _ => bytes
    | _ => FileTree.deviceBytes entry.location
  let mode := match old with
    | some (.file _ mode) => if style.keepsMode then entry.mode else mode
    | _ => if style.keepsMode then entry.mode else Rights.without (entry.mode &&& 0o777) mask
  match entry.node with
  | .link target => Job.setTree ((tree.set goal (.link target)).stampNew goal 0)
  | _ =>
      let content := if style.onlyFacts then (tree.bytesAt goal) else bytes
      let tree := match old with
        | some (.file ..) => (tree.putFile goal content mode).stamp goal
        | some .device => tree
        | _ => (tree.set goal (.file content mode)).stampNew goal 0
      Job.setTree (if style.keepsTimes then tree.setRecord goal entry.record else tree)

/-- Copies an entry to a location, where something may stand. -/
def copyOnto (style : CopyStyle) (below : Text → Text → Job Nat) (entry : Entry) (goal : Location) (old : Option Node)
    (source target : Text) (create : String) : Job Nat := do
  let failed := failing style.name
  let tree ← Job.tree
  let isDangling := match tree.locate false (Octets.toText target) with
    | .ok ⟨_, some (.link _)⟩ => old.isNone
    | _ => false
  let isLink := match tree.locate false (Octets.toText target) with
    | .ok ⟨_, some (.link _)⟩ => true
    | _ => false
  let isSame := (tree.namesOf entry.location).contains goal
  if isSame && !(style.removesFirst && isLink) then
    failed (quoted source ++ " and ".toList ++ quoted target ++ " are the same file".toList)
  else if old.isSome && old != some .directory && !style.overwrites then return 0
  else if old.isSome && style.onlyNewer && old != some .directory &&
      entry.record.modified ≤ (tree.recordAt goal).modified then return 0
  else match entry.isDirectory, old with
    | true, some .directory | true, none =>
        if !tree.hasParent goal then
          failed ("cannot create directory ".toList ++ quoted target ++ ": ".toList ++ reason .notFound)
        else if FileTree.isBelow goal entry.location then
          failed ("cannot copy a directory, ".toList ++ quoted source ++ ", into itself, ".toList ++
            quoted target)
        else
          let mask := (← read).mask
          let mode := if style.keepsMode then entry.mode else Rights.without (entry.mode &&& 0o777) mask
          let names := tree.names entry.location
          if old.isNone then
            Job.setTree ((tree.set goal .directory).stampNew goal mode)
            tellCopy style source target none
          let status ← forAll (fun name =>
            below (inside source (Octets.ofText name)) (inside target (Octets.ofText name))) names
          if old.isNone && style.keepsTimes then
            Job.setTree ((← Job.tree).setRecord goal entry.record)
          return status
    | true, some _ =>
        failed ("cannot overwrite non-directory ".toList ++ quoted target ++ " with directory ".toList ++
          quoted source)
    | false, some .directory =>
        failed ("cannot overwrite directory ".toList ++ quoted target ++ " with non-directory".toList)
    | false, old =>
        if isDangling then failed ("not writing through dangling symlink ".toList ++ quoted target)
        else if !tree.hasParent goal then
          failed (create.toList ++ quoted target ++ ": ".toList ++ reason .notFound)
        else if target.getLast? = some '/' then
          failed (create.toList ++ quoted target ++ ": ".toList ++ reason .notDirectory)
        else
          let isAllowed ← if style.asks && old.isSome then
              confirm (style.name.toList ++ ": overwrite ".toList ++ quoted target ++ "? ".toList)
            else pure true
          if !isAllowed then return 1
          else
            let saved := if old.isSome then backupPath tree style.backup style.suffix target else none
            let removes := style.removesFirst && old.isSome && saved.isNone
            match saved with
            | some path =>
                match tree.locate false (Octets.toText path) with
                | .ok ⟨place, _⟩ => Job.setTree (tree.moveBelow goal place)
                | .error _ => pure ()
            | none => if removes then Job.setTree (tree.remove goal)
            if removes && style.isTold then Job.putLine ("removed ".toList ++ quoted target)
            let old := if saved.isSome || removes then none else old
            if style.makesNames then
              if old.isSome then
                failed ("cannot create hard link ".toList ++ quoted target ++ " to ".toList ++ quoted source ++
                  ": ".toList ++ reason .alreadyExists)
              else
                Job.setTree ((← Job.tree).addName entry.location goal)
                tellCopy style source target saved
                return 0
            else if style.makesLinks then
              if source.head? != some '/' && (parentPath target != ['.']) then
                failed (target ++ ": can make relative symbolic links only in current directory".toList)
              else if old.isSome then
                failed ("cannot create symbolic link ".toList ++ quoted target ++ " to ".toList ++ quoted source ++
                  ": ".toList ++ reason .alreadyExists)
              else
                Job.setTree ((← Job.tree).set goal (.link (Octets.toText source)))
                tellCopy style source target saved
                return 0
            else
              copyPlain style entry goal old
              tellCopy style source target saved
              return 0

/-- Copies one thing, so deep at most. -/
def copyAt (style : CopyStyle) : Nat → Bool → Text → Text → Job Nat
  | 0, _, _, _ => return 1
  | depth + 1, isTop, source, target => do
      let failed := failing style.name
      let tree ← Job.tree
      let follows := if isTop then style.followsTop else style.followsBelow
      match Entry.find tree follows source with
      | .error e => failed ("cannot stat ".toList ++ quoted source ++ ": ".toList ++ reason e)
      | .ok entry =>
          if entry.isDirectory && !style.isRecursive then
            failed ("-r not specified; omitting directory ".toList ++ quoted source)
          else
            let isLink := entry.letter == 'l'
            let create := if entry.isDirectory then "cannot create directory "
              else if isLink then "cannot create symbolic link " else "cannot create regular file "
            match tree.locate (!isLink && !style.makesNames && !style.makesLinks) (Octets.toText target) with
            | .error e =>
                let what := if e = .notDirectory then "failed to access " else create
                failed (what.toList ++ quoted target ++ ": ".toList ++ reason e)
            | .ok ⟨goal, old⟩ =>
                copyOnto style (copyAt style depth false) entry goal old source target create

/-- The attributes that copies may keep. -/
def attributes : List String :=
  ["mode", "timestamps", "ownership", "links", "context", "xattr", "all"]

/-- The first word of a list of attributes that is none. -/
def mistakenAttribute? (option : String) (t : Text) : Option Mistake :=
  (Text.splitOn ',' t).findSome? (mistakenWord? attributes option)

def cpOptions : Specification :=
  { name := "cp", letters := "abdfHilLnPprRsS:t:TuvxZ",
    words := [("archive", 'a', .none), ("attributes-only", 'A', .none), ("backup", 'B', .optional),
      ("context", 'Z', .optional), ("copy-contents", 'C', .none), ("debug", 'D', .none),
      ("dereference", 'L', .none), ("force", 'f', .none), ("interactive", 'i', .none), ("link", 'l', .none),
      ("no-clobber", 'n', .none), ("no-dereference", 'P', .none), ("no-preserve", 'N', .one),
      ("no-target-directory", 'T', .none), ("one-file-system", 'x', .none), ("parents", 'Q', .none),
      ("preserve", 'K', .optional), ("recursive", 'r', .none), ("reflink", 'F', .optional),
      ("remove-destination", 'M', .none), ("sparse", 'E', .one), ("strip-trailing-slashes", 'k', .none),
      ("suffix", 'S', .one), ("symbolic-link", 's', .none), ("target-directory", 't', .one),
      ("update", 'U', .optional), ("verbose", 'v', .none)],
    check := fun c t =>
      if t.isEmpty then none
      else match c with
        | 'K' => mistakenAttribute? "--preserve" t
        | 'N' => mistakenAttribute? "--no-preserve" t
        | 'U' => mistakenWord? updateWords "--update" t
        | 'F' => mistakenWord? ["auto", "always", "never"] "--reflink" t
        | 'E' => mistakenWord? ["never", "auto", "always"] "--sparse" t
        | _ => none }

def namesAttribute (lists : List Text) (some : List String) : Bool :=
  lists.any fun t => (Text.splitOn ',' t).any fun word => some.contains (String.ofList word)

def cpStyle (g : Given) (backup : BackupKind) (suffix : Text) : CopyStyle :=
  let isRecursive := g.has 'r' || g.has 'R' || g.has 'a'
  let linkRule := (g.options.reverse.find? fun (c, _) => ['a', 'd', 'P', 'L', 'H'].contains c).map Prod.fst
  let keeps := fun (word : String) =>
    (g.has 'p' || g.has 'a' || (g.values 'K').any (·.isEmpty) || namesAttribute (g.values 'K') [word, "all"]) &&
      !namesAttribute (g.values 'N') [word, "all"]
  let overwriteRule := (g.options.reverse.find? fun (c, _) => ['i', 'n'].contains c).map Prod.fst
  let update := (g.options.reverse.find? fun (c, _) => ['u', 'U'].contains c)
  { name := "cp", isRecursive := isRecursive,
    followsTop := match linkRule with
      | some 'L' | some 'H' => true
      | some _ => false
      | none => !isRecursive,
    followsBelow := match linkRule with
      | some 'L' => true
      | some _ => false
      | none => !isRecursive,
    keepsMode := keeps "mode",
    keepsTimes := (keeps "timestamps" && (g.has 'p' || g.has 'a' || !(g.values 'K').isEmpty)),
    overwrites := overwriteRule != some 'n' && update.all fun (_, t) => t != "none".toList,
    asks := overwriteRule = some 'i',
    onlyNewer := update.any fun (c, t) => c == 'u' || t = [] || t = "older".toList,
    isTold := g.has 'v', makesNames := g.has 'l', makesLinks := g.has 's', removesFirst := g.has 'M',
    onlyFacts := g.has 'A', backup := backup, suffix := suffix }

/-- Makes the directories of a path below another one, as they stand at the source. -/
def copyParents (style : CopyStyle) (directory : Text) : List Text → Job Unit
  | [] => return
  | path :: rest => do
      let target := inside directory path
      let tree ← Job.tree
      if !tree.isDirectory (Octets.toText target) then
        let mode := match Entry.find tree true path with
          | .ok e => e.mode
          | .error _ => 0o755
        match tree.makeDirectory (Octets.toText target) mode with
        | .ok tree =>
            Job.setTree tree
            if style.isTold then Job.putLine (path ++ " -> ".toList ++ target)
        | .error _ => pure ()
      copyParents style directory rest

def cp : Utility := fun _ arguments =>
  withOptions cpOptions arguments fun g => do
    if g.has 'l' && g.has 's' then misuse cpOptions "cannot make both hard and symbolic links".toList
    else
      match ← backupKind g cpOptions with
      | .error status => return status
      | .ok backup =>
          if g.has 'n' then
            complain "cp" ("warning: behavior of -n is non-portable and may change in future; " ++
              "use --update=none instead").toList
          match ← destination g cpOptions with
          | .error status => return status
          | .ok (paths, goal) =>
              let style := cpStyle g backup (← backupSuffix g)
              let depth := (← get).tree.entries.size + 1
              match goal, g.has 'Q' with
              | .onto _, true =>
                  misuse cpOptions "with --parents, the destination must be a directory".toList
              | .into directory, true =>
                  forAll (fun path => do
                    let relative := (path.dropWhile (· == '/'))
                    if (← Job.tree).find (Octets.toText path) |>.toOption |>.isSome then
                      copyParents style directory (pathsAbove relative)
                    copyAt style depth true path (inside directory relative)) paths
              | goal, false =>
                  forAll (fun path =>
                    let path := if g.has 'k' then trimSlashes path else path
                    copyAt style depth true path (goal.pathFor path)) paths
where
  /-- The paths of the directories above a path, from the top. -/
  pathsAbove (path : Text) : List Text :=
    let parts := (Text.splitOn '/' path).dropLast
    (List.range parts.length).map fun n => Text.join ['/'] (parts.take (n + 1))

/-! ## Installing -/

def installOptions : Specification :=
  { name := "install", letters := "bcCdDg:m:o:psS:t:TvZ",
    words := [("backup", 'B', .optional), ("compare", 'C', .none), ("context", 'Z', .optional),
      ("directory", 'd', .none), ("group", 'g', .one), ("mode", 'm', .one), ("no-target-directory", 'T', .none),
      ("owner", 'o', .one), ("preserve-timestamps", 'p', .none), ("strip", 's', .none), ("suffix", 'S', .one),
      ("target-directory", 't', .one), ("verbose", 'v', .none)] }

/-- Makes directories, each inside of the one before, where they are missing. The last gets a mode.
-/
def installDirectories (isTold : Bool) (mode : Nat) : List Text → Job Nat
  | [] => return 0
  | path :: rest => do
      let tree ← Job.tree
      if tree.isDirectory (Octets.toText path) then
        match rest, tree.find (Octets.toText path) with
        | [], .ok (location, _) =>
            Job.setTree (tree.setModeAt location mode)
            return 0
        | rest, _ => installDirectories isTold mode rest
      else match tree.makeDirectory (Octets.toText path) (if rest.isEmpty then mode else 0o755) with
        | .error e =>
            complainOf "install" "cannot create directory " path e
            return 1
        | .ok tree =>
            Job.setTree tree
            if isTold then Job.putLine ("install: creating directory ".toList ++ quoted path)
            installDirectories isTold mode rest

def pathsTo (path : Text) : List Text :=
  let parts := Text.splitOn '/' (trimSlashes path)
  ((List.range parts.length).map fun n => Text.join ['/'] (parts.take (n + 1))).filter (· != [])

/-- Copies one file, and gives it a mode. -/
def installOne (style : CopyStyle) (mode : Nat) (source target : Text) : Job Nat := do
  let failed := failing "install"
  let tree ← Job.tree
  match Entry.find tree true source with
  | .error e => failed ("cannot stat ".toList ++ quoted source ++ ": ".toList ++ reason e)
  | .ok entry =>
      if entry.isDirectory then failed ("omitting directory ".toList ++ quoted source)
      else
        let status ← copyAt style 1 true source target
        if status != 0 then return status
        else
          let tree ← Job.tree
          match tree.find (Octets.toText target) with
          | .ok (location, _) =>
              Job.setTree (tree.setModeAt location mode)
              return 0
          | .error _ => return 1

def install : Utility := fun _ arguments =>
  withOptions installOptions arguments fun g => do
    match (g.value? 'm').getD "755".toList, Rights.read? ((g.value? 'm').getD "755".toList) with
    | mode, none =>
        complain "install" ("invalid mode ".toList ++ cited mode)
        return 1
    | _, some steps =>
        let mode := Rights.change steps 0 false 0
        if g.has 'd' then
          if g.operands.isEmpty then misuse installOptions "missing file operand".toList
          else
            let mode := Rights.change steps 0 true 0
            forAll (fun path => installDirectories (g.has 'v') mode (pathsTo path)) g.operands
        else
          match ← backupKind g installOptions with
          | .error status => return status
          | .ok backup =>
              if g.has 'D' then
                let place := match g.value? 't', g.operands with
                  | some directory, _ => some directory
                  | none, [_, target] => some (parentPath target)
                  | none, _ => none
                if let some directory := place then
                  discard (installDirectories (g.has 'v') 0o755 (pathsTo directory))
              match ← destination g installOptions with
              | .error status => return status
              | .ok (paths, goal) =>
                  let style : CopyStyle :=
                    { name := "install", isRecursive := false, followsTop := true, followsBelow := true,
                      keepsMode := false, keepsTimes := g.has 'p', overwrites := true, asks := false,
                      onlyNewer := false, isTold := g.has 'v', makesNames := false, makesLinks := false,
                      removesFirst := true, onlyFacts := false, backup := backup, suffix := ← backupSuffix g }
                  forAll (fun path => installOne style mode path (goal.pathFor path)) paths

end SwiftExistential.Utility
