import SwiftExistential.Utility.Paths

/-!
# Rights and owners

`chmod` changes the modes of files, and `chown` and `chgrp` their owners. All three can go through
directories with all that is below them.

What is done at one location is a function of its own, and the walk lists the locations. A mode can
look like options, so `chmod` looks for it among the arguments before they are read.
-/

set_option autoImplicit false

namespace SwiftExistential.Utility

open Process

/-! ## Walks -/

/-- The locations that a path stands for: itself, or with all that is below it, each with its path.
-/
def walkPaths (tree : FileTree) (isRecursive : Bool) (path : Text) (location : Location) :
    List (Text × Location) :=
  if !isRecursive then [(path, location)]
  else (tree.allBelow location).map fun key =>
    ((key.drop location.length).foldl (fun p name => inside p (Octets.ofText name)) path, key)

/-! ## Modes

A mode is a list of steps, which are applied to the mode that a file has. If the mode looked like an
option, and the mask has kept it from taking rights away, this is reported. -/

def chmodOptions : Specification :=
  { name := "chmod", letters := "RcfvrwxXstugoa,+=0:1:2:3:4:5:6:7:",
    words := [("changes", 'c', .none), ("no-preserve-root", 'n', .none), ("preserve-root", 'P', .none),
      ("quiet", 'f', .none), ("recursive", 'R', .none), ("reference", '@', .one), ("silent", 'f', .none),
      ("verbose", 'v', .none)] }

def shownMode (mode : Nat) : Text := Rights.octal 4 mode ++ " (".toList ++ Rights.letters mode ++ [')']

/-- Changes the mode of what stands at a location. A mode that is given as an option must not be
stopped by the mask. -/
def changeMode (g : Given) (steps : List Rights.Step) (isOption isTop : Bool) (path : Text)
    (location : Location) : Job Nat := do
  let tree ← Job.tree
  let mask := (← read).mask
  let isLink := match tree.get? location with
    | some (.link _) => true
    | _ => false
  if isLink && !isTop then
    if g.has 'v' then
      Job.putLine ("neither symbolic link ".toList ++ quoted path ++ " nor referent has been changed".toList)
    return 0
  else
    let isDirectory := tree.get? location = some .directory
    let old := tree.modeAt location
    let new := Rights.change steps mask isDirectory old
    let naive := Rights.change steps 0 isDirectory old
    Job.setTree (tree.setModeAt location new)
    if old != new && (g.has 'v' || g.has 'c') then
      Job.putLine ("mode of ".toList ++ quoted path ++ " changed from ".toList ++ shownMode old ++ " to ".toList ++
        shownMode new)
    else if g.has 'v' then
      Job.putLine ("mode of ".toList ++ quoted path ++ " retained as ".toList ++ shownMode new)
    if isOption && Rights.without new naive != 0 then
      Job.complain ["chmod".toList, readable path, "new permissions are ".toList ++ Rights.letters new ++
        ", not ".toList ++ Rights.letters naive]
      return 1
    else return 0

/-- Whether an argument is a mode that looks like options. -/
def isModeOption : Text → Bool
  | '-' :: c :: _ => "rwxXstugoa,+=01234567".toList.contains c
  | _ => false

def changeModes (g : Given) (steps : List Rights.Step) (isOption : Bool) (path : Text) : Job Nat := do
  let tree ← Job.tree
  let failed := fun (message : Text) => do
    if !g.has 'f' then complain "chmod" message
    if g.has 'v' then Job.putLine (quoted path ++ " could not be accessed".toList)
    pure 1
  match tree.find (Octets.toText path) with
  | .error e =>
      match tree.locate false (Octets.toText path) with
      | .ok ⟨_, some (.link _)⟩ => failed ("cannot operate on dangling symlink ".toList ++ quoted path)
      | _ => failed ("cannot access ".toList ++ quoted path ++ ": ".toList ++ reason e)
  | .ok (location, _) =>
      forEach (walkPaths tree (g.has 'R') path location) fun (p, l) =>
        changeMode g steps isOption (p = path) p l
where
  /-- Does something for each pair, and returns the largest status. -/
  forEach (pairs : List (Text × Location)) (work : Text × Location → Job Nat) : Job Nat :=
    pairs.foldlM (fun status pair => do return max status (← work pair)) 0

def chmod : Utility := fun _ arguments => do
  let before := arguments.takeWhile (· != ['-', '-'])
  let option? := before.find? isModeOption
  let others := match option? with
    | some mode => arguments.erase mode
    | none => arguments
  withOptions chmodOptions others fun g => do
    let (mode?, paths) := match option?, g.value? '@', g.operands with
      | some mode, _, paths => (some mode, paths)
      | none, some _, paths => (none, paths)
      | none, none, mode :: paths => (some mode, paths)
      | none, none, [] => (none, [])
    match g.value? '@', mode? with
    | some reference, none =>
        match Entry.find (← Job.tree) true reference with
        | .error e =>
            complainOf "chmod" "failed to get attributes of " reference e
            return 1
        | .ok e =>
            if paths.isEmpty then misuse chmodOptions "missing operand".toList
            else forAll (changeModes g [⟨'=', Rights.all, e.mode, Rights.all, false, false⟩] false) paths
    | _, none => misuse chmodOptions "missing operand".toList
    | _, some mode =>
        if paths.isEmpty then misuse chmodOptions ("missing operand after ".toList ++ cited mode)
        else match Rights.read? mode with
          | none => misuse chmodOptions ("invalid mode: ".toList ++ cited mode)
          | some steps => forAll (changeModes g steps option?.isSome) paths

/-! ## Owners -/

def chownOptions (name : String) : Specification :=
  { name := name, letters := "cfhHLPRv",
    words := [("changes", 'c', .none), ("dereference", 'd', .none), ("from", 'F', .one),
      ("no-dereference", 'h', .none), ("no-preserve-root", 'n', .none), ("preserve-root", 'p', .none),
      ("quiet", 'f', .none), ("recursive", 'R', .none), ("reference", '@', .one), ("silent", 'f', .none),
      ("verbose", 'v', .none)] }

/-- The owner and the group that are to be set. -/
structure Ownership where
  owner : Option Nat
  group : Option Nat

/-- The owner and the group that a text names. A colon alone behind an owner stands for the group of
that owner. -/
def ownership? (t : Text) : Except Text Ownership :=
  let plain := fun (t : Text) => if t.head? = some '+' then t.drop 1 else t
  match Text.splitAtPart? [':'] t with
  | none =>
      if t.isEmpty then .ok ⟨none, none⟩
      else match numberIn? knownUsers (plain t) with
        | some n => .ok ⟨some n, none⟩
        | none => .error ("invalid user: ".toList ++ cited t)
  | some (user, group) =>
      let owner? := if user.isEmpty then some none else (numberIn? knownUsers (plain user)).map some
      match owner? with
      | none => .error ("invalid user: ".toList ++ cited t)
      | some owner =>
          if group.isEmpty then .ok ⟨owner, owner⟩
          else match numberIn? knownGroups (plain group) with
            | some n => .ok ⟨owner, some n⟩
            | none => .error ("invalid group: ".toList ++ cited t)

def shownOwners (o : Ownership) (r : Record) : Text :=
  let user := nameIn knownUsers r.owner
  let group := nameIn knownGroups r.group
  match o.owner, o.group with
  | some _, some _ => user ++ ':' :: group
  | none, some _ => group
  | _, _ => user

def changeOwner (g : Given) (o : Ownership) (path : Text) (location : Location) : Job Nat := do
  let tree ← Job.tree
  let old := tree.recordAt location
  let new := { old with owner := o.owner.getD old.owner, group := o.group.getD old.group }
  Job.setTree (tree.setRecord location new)
  let subject := (if o.owner.isNone && o.group.isSome then "group of " else "ownership of ").toList ++ quoted path
  if old != new && (g.has 'v' || g.has 'c') then
    Job.putLine ("changed ".toList ++ subject ++ " from ".toList ++ shownOwners o old ++ " to ".toList ++
      shownOwners o new)
  else if g.has 'v' then Job.putLine (subject ++ " retained as ".toList ++ shownOwners o new)
  return 0

def changeOwners (name : String) (g : Given) (o : Ownership) (path : Text) : Job Nat := do
  let tree ← Job.tree
  let place := if g.has 'h' then Entry.find tree false path else Entry.find tree true path
  match place with
  | .error e =>
      if !g.has 'f' then complainOf name "cannot access " path e
      return 1
  | .ok e =>
      (walkPaths tree (g.has 'R') path e.location).foldlM
        (fun status (p, l) => do return max status (← changeOwner g o p l)) 0

/-- The program of a name that changes owners, or groups only. -/
def chownAs (name : String) (onlyGroup : Bool) : Utility := fun _ arguments =>
  let s := chownOptions name
  withOptions s arguments fun g => do
    match g.value? '@', g.operands with
    | some reference, paths =>
        match Entry.find (← Job.tree) true reference with
        | .error e =>
            complainOf name "failed to get attributes of " reference e
            return 1
        | .ok e =>
            if paths.isEmpty then misuse s "missing operand".toList
            else
              let o : Ownership := ⟨if onlyGroup then none else some e.record.owner, some e.record.group⟩
              forAll (changeOwners name g o) paths
    | none, [] => misuse s "missing operand".toList
    | none, [owner] => misuse s ("missing operand after ".toList ++ cited owner)
    | none, owner :: paths =>
        let read : Except Text Ownership := if onlyGroup then
            match numberIn? knownGroups owner with
            | some n => .ok ⟨none, some n⟩
            | none => if owner.isEmpty then .ok ⟨none, none⟩ else .error ("invalid group: ".toList ++ cited owner)
          else ownership? owner
        match read with
        | .error message =>
            complain name message
            return 1
        | .ok o => forAll (changeOwners name g o) paths

end SwiftExistential.Utility
