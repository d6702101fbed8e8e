import SwiftExistential.Utility.Difference.Request
import SwiftExistential.Utility.Listing

/-!
# Comparing files and directories

`diff` shows what has to change in the first of two texts to get the second one. Directories are
compared name by name, with what is below them if that is asked for.

What is compared is an entry, the input, or nothing, where options say that a missing file counts as
an empty one. Of files that look like no texts only is said that they differ; all others are
compared line by line. The status tells whether there were differences or failures, and the largest
status of several comparisons counts.
-/

set_option autoImplicit false

namespace SwiftExistential.Utility

open Process

/-- Reports a wrong use of a program that names itself twice. -/
def misuseTwice (s : Specification) (message : Text) : Job Nat := do
  complain s.name message
  complain s.name ("Try '".toList ++ s.name.toList ++ " --help' for more information.".toList)
  return s.mistake

namespace Difference

/-- What stands under a name. -/
inductive Subject where
  /-- Nothing, which is taken as an empty text. -/
  | nothing
  | input
  | entry (e : Entry)

/-- One of two things that are compared. -/
structure Side where
  name : Text
  subject : Except FileError Subject

namespace Side

def known? (s : Side) : Option Entry :=
  match s.subject with
  | .ok (.entry e) => some e
  | _ => none

def isNothing (s : Side) : Bool :=
  match s.subject with
  | .ok .nothing => true
  | _ => false

def isDirectory (s : Side) : Bool := s.known?.any Entry.isDirectory

def isLink (s : Side) : Bool := s.known?.any fun e => e.letter == 'l'

def isPlain (s : Side) : Bool := s.known?.all fun e => e.letter == '-' || e.letter == 'l'

/-- Whether nothing stands there, or an empty file that nobody may use. -/
def isAbsent (s : Side) (other : Side) (isTop : Bool) : Bool :=
  match s.subject with
  | .ok (.entry e) => e.letter == '-' && e.mode % 0o1000 = 0 && e.size = 0
  | .error .notFound => isTop && other.subject.toOption.isSome
  | _ => false

def kind (s : Side) : Text := (s.known?.map Entry.kind).getD "fifo".toList

def modified (s : Side) (now : Int) : Int :=
  match s.subject with
  | .ok (.entry e) => e.record.modified
  | .ok .input => now
  | _ => 0

def content (s : Side) : Job (Except FileError Text) :=
  match s.subject with
  | .ok .input => Job.input
  | .ok (.entry _) => Job.readFile s.name
  | .ok .nothing => return .ok []
  | .error e => return .error e

def target (s : Side) : Option Text :=
  s.known?.bind fun e => match e.node with
    | .link target => some (Octets.ofText target)
    | _ => none

end Side

def isSame (a b : Side) : Bool :=
  match a.subject, b.subject with
  | .ok (.entry a), .ok (.entry b) => a.location == b.location && a.letter == b.letter
  | .ok .input, .ok .input => true
  | _, _ => false

def look (r : Request) (name : Text) : Job Side := do
  if name = ['-'] then return ⟨name, .ok .input⟩
  else return ⟨name, (Entry.find (← Job.tree) r.followsLinks name).map .entry⟩

/-- How names are shown: labels stand in their place. -/
structure Names where
  first : Text
  second : Text

/-- How two sides are called in messages. -/
def namesOf (r : Request) (a b : Side) : Names :=
  ⟨(r.labels[0]?).getD a.name, (r.labels[1]?).getD b.name⟩

/-- A message about two names. -/
def aboutBoth (start : String) (n : Names) (stop : String) : Text :=
  start.toList ++ n.first ++ " and ".toList ++ n.second ++ stop.toList

def headingName (t : Text) : Text :=
  if t.all (fun c => isPrintable c && c != ' ' && c != '"' && c != '\\') then t else Quoting.c.apply t

/-- The lines before changes with lines around them. -/
def heading (r : Request) (a b : Side) (now : Int) : Text :=
  let form := if r.layout.style = .unified then "\t%Y-%m-%d %H:%M:%S.%N %z" else "\t%a %b %e %T %Y"
  let line := fun (mark : String) (i : Nat) (s : Side) =>
    mark.toList ++ (r.labels[i]?).getD
      (headingName s.name ++ Moment.format (s.modified now) form.toList) ++ ['\n']
  match r.layout.style with
  | .unified => line "--- " 0 a ++ line "+++ " 1 b
  | .context => line "*** " 0 a ++ line "--- " 1 b
  | _ => []

def isBinary (t : Text) : Bool := (t.take 4096).contains '\x00'

/-- Compares texts. The given options stand in a line before changes of files in directories. -/
def compareTexts (r : Request) (given : Text) (inDirectory : Bool) (a b : Side) (first second : Text) :
    Job Nat := do
  let names := namesOf r a b
  if !r.treatsAsText && (isBinary first || isBinary second) then
    if first = second then return 0
    else
      Job.putLine (aboutBoth (if r.isBrief then "Files " else "Binary files ") names " differ")
      return 1
  else
    let sides : Sides := ⟨(linesOf first).toArray, (linesOf second).toArray⟩
    let around := match r.layout.style with
      | .unified | .context => r.layout.context
      | _ => 0
    let changes := r.regard.changes around sides.first.toList sides.second.toList
    let passes := r.regard.passes sides
    let differs := changes.any fun c => !passes c
    if r.isBrief then
      if differs then Job.putLine (aboutBoth "Files " names " differ")
    else if differs || !r.isQuiet then
      let title := if inDirectory then
          "diff".toList ++ given ++ ' ' :: headingName names.first ++ ' ' :: headingName names.second ++ ['\n']
        else []
      Job.put (title ++ heading r a b (← present) ++ r.layout.text sides passes changes)
    let unended := if r.regard.showsEnds then []
      else [(names.first, first), (names.second, second)].filter fun (_, t) =>
        t.getLast?.any (· != '\n')
    unended.forM fun (name, _) => complain "diff" (name ++ ": No newline at end of file\n".toList)
    return if !unended.isEmpty then 2 else if differs then 1 else 0

/-- Reads both sides and compares what they hold. -/
def compareContents (r : Request) (given : Text) (inDirectory : Bool) (a b : Side) : Job Nat := do
  let first ← a.content
  let second ← b.content
  match first, second with
  | .ok first, .ok second => compareTexts r given inDirectory a b first second
  | first, second =>
      [(a, first), (b, second)].forM fun (s, t) => match t with
        | .error e => Job.complain ["diff".toList, s.name, reason e]
        | .ok _ => pure ()
      return 2

/-- Says that two things are not of one kind. -/
def reportKinds (r : Request) (a b : Side) : Job Nat := do
  let names := namesOf r a b
  Job.putLine ("File ".toList ++ names.first ++ " is a ".toList ++ a.kind ++ " while file ".toList ++
    names.second ++ " is a ".toList ++ b.kind)
  return 1

/-- The names in a directory that are compared, in order. -/
def namesIn (r : Request) (tree : FileTree) (s : Side) : List Text :=
  match s.known? with
  | some e =>
      if e.isDirectory then
        let names := (tree.names e.location).map Octets.ofText
        (names.filter fun n => !r.excluded.any (fitsPattern · n)).mergeSort fun a b => !(b < a)
      else []
  | none => []

/-- Puts the names of two lists side by side, with so many steps at most. -/
def pairNames : Nat → List Text → List Text → List (Option Text × Option Text)
  | 0, _, _ => []
  | _, [], [] => []
  | fuel + 1, a :: as, [] => (some a, none) :: pairNames fuel as []
  | fuel + 1, [], b :: bs => (none, some b) :: pairNames fuel [] bs
  | fuel + 1, a :: as, b :: bs =>
      if a = b then (some a, some b) :: pairNames fuel as bs
      else if a < b then (some a, none) :: pairNames fuel as (b :: bs)
      else (none, some b) :: pairNames fuel (a :: as) bs

/-- **Compares two things**, with so many levels of directories at most. Those in directories have
the names of both directories. -/
def compareSides (r : Request) (given : Text) : Nat → Option (Side × Side) → Side → Side → Job Nat
  | 0, _, _, _ => return 2
  | fuel + 1, above, a, b => do
      let isTop := above.isNone
      let fills := fun (isFirst : Bool) => r.fillsMissing || (isFirst && r.fillsFirst)
      let (a, b) :=
        (if fills true && a.isAbsent b isTop then { a with subject := .ok .nothing } else a,
          if fills false && b.isAbsent a isTop then { b with subject := .ok .nothing } else b)
      let missing := [a, b].filter fun s => s.subject.toOption.isNone
      if !missing.isEmpty then
        missing.forM fun s => match s.subject with
          | .error e => Job.complain ["diff".toList, s.name, reason e]
          | .ok _ => pure ()
        return 2
      else
        let (a, b) ←
          if !isTop || a.isDirectory == b.isDirectory then pure (a, b)
          else if a.isDirectory then do pure (← look r (inside a.name (lastName b.name)), b)
          else do pure (a, ← look r (inside b.name (lastName a.name)))
        let names := namesOf r a b
        let finish := fun (status : Nat) => do
          if status = 0 && r.reportsSame && !a.isDirectory then
            Job.putLine (aboutBoth "Files " names " are identical")
          pure status
        match a.subject, b.subject with
        | .error e, _ =>
            Job.complain ["diff".toList, a.name, reason e]
            return 2
        | _, .error e =>
            Job.complain ["diff".toList, b.name, reason e]
            return 2
        | .ok _, .ok _ =>
            if a.isNothing && b.isNothing then finish 0
            else if isSame a b && r.isQuiet then finish 0
            else if (a.isDirectory || b.isDirectory) && (a.isDirectory || a.isNothing) &&
                (b.isDirectory || b.isNothing) then
              if r.layout.style = .conditional then
                complain "diff" "-D option not supported with directories".toList
                return 2
              else if above.isSome && !r.isRecursive then
                Job.putLine (aboutBoth "Common subdirectories: " ⟨a.name, b.name⟩ "")
                return 0
              else
                let tree ← Job.tree
                let first := namesIn r tree a
                let second := namesIn r tree b
                let pairs := pairNames (first.length + second.length + 1) first second
                let pairs := match above, r.start with
                  | none, some start =>
                      pairs.filter fun ((x, y) : Option Text × Option Text) => !((x.or y).getD [] < start)
                  | _, _ => pairs
                pairs.foldlM
                  (fun status (x, y) => do
                    let one ← match x, y with
                      | some x, none =>
                          if r.fillsMissing then
                            let s ← look r (inside a.name x)
                            compareSides r given fuel (some (a, b)) s ⟨inside b.name x, .ok .nothing⟩
                          else
                            Job.putLine ("Only in ".toList ++ a.name ++ ": ".toList ++ x)
                            pure 1
                      | none, some y =>
                          if r.fillsMissing || r.fillsFirst then
                            let s ← look r (inside b.name y)
                            compareSides r given fuel (some (a, b)) ⟨inside a.name y, .ok .nothing⟩ s
                          else
                            Job.putLine ("Only in ".toList ++ b.name ++ ": ".toList ++ y)
                            pure 1
                      | x, y => do
                          compareSides r given fuel (some (a, b)) (← look r (inside a.name (x.getD [])))
                            (← look r (inside b.name (y.getD [])))
                    pure (max status one)) 0
            else if a.isDirectory || b.isDirectory || (above.isSome && !(a.isPlain && b.isPlain)) then
              if a.isNothing || b.isNothing then
                let directory := (above.map fun (p, q) => if a.isNothing then q.name else p.name).getD []
                Job.putLine ("Only in ".toList ++ directory ++ ": ".toList ++ lastName a.name)
                return 1
              else reportKinds r a b
            else if a.isLink || b.isLink then
              if a.isLink && b.isLink then
                if a.target == b.target then finish 0
                else
                  Job.putLine (aboutBoth "Symbolic links " ⟨a.name, b.name⟩ " differ")
                  return 1
              else reportKinds r a b
            else do
              let status ← compareContents r given above.isSome a b
              finish status

/-- The arguments that are options, with their values, in so many steps at most. -/
def optionArguments (s : Specification) : Nat → List Text → List Text
  | 0, _ => []
  | _, [] => []
  | fuel + 1, argument :: rest =>
      let upTo := fun (after : List Text) =>
        (argument :: rest).take (rest.length + 1 - after.length) ++ optionArguments s fuel after
      match argument with
      | ['-', '-'] => [argument]
      | '-' :: '-' :: word =>
          match readWord s.words word rest with
          | .ok (_, after) => upTo after
          | .error _ => []
      | '-' :: c :: letters =>
          match readLetters s.letters.toList (c :: letters) rest with
          | .ok (_, after) => upTo after
          | .error _ => []
      | _ => optionArguments s fuel rest

/-- The names that are left out, of files with one in each line. -/
def excludedNames : List Text → Job (Except Fault (List Text))
  | [] => return .ok []
  | path :: rest => do
      match ← Job.readSource path with
      | .error e => return .error (.failed (path ++ ": ".toList ++ reason e))
      | .ok content => return (← excludedNames rest).map (records content ++ ·)

def pairsOf (r : Request) (operands : List Text) : Except Fault (List (Text × Text)) :=
  match r.allFrom, r.allTo with
  | some _, some _ => .error (.failed "--from-file and --to-file both specified".toList)
  | some origin, none => .ok (operands.map fun o => (origin, o))
  | none, some goal => .ok (operands.map fun o => (o, goal))
  | none, none =>
      match operands with
      | [a, b] => .ok [(a, b)]
      | [] => .error (.misused "missing operand after 'diff'".toList)
      | [a] => .error (.misused ("missing operand after ".toList ++ quoted a))
      | _ :: _ :: extra :: _ => .error (.misused ("extra operand ".toList ++ quoted extra))

end Difference

open Difference in
def diff : Utility := fun _ arguments => do
  let report := fun (fault : Fault) => match fault with
    | .misused message => misuseTwice options message
    | .failed message => do
        complain "diff" message
        pure 2
  match readFrom options (arguments.length + 1) arguments with
  | .error mistake => misuseTwice options mistake.message
  | .ok g =>
      match Request.ofOptions .usual g.options, ← excludedNames (g.values 'X') with
      | .error fault, _ => report fault
      | .ok _, .error fault => report fault
      | .ok r, .ok more =>
          if g.has 'v' then
            Job.putVersion "diff 3.10".toList
            return 0
          else
            let r := { r with excluded := r.excluded ++ more }
            -- the last option without an operand behind it is named
            match pairsOf r g.operands with
            | .error fault =>
                match fault, g.operands, arguments.getLast? with
                | .misused _, [], some last => report (.misused ("missing operand after ".toList ++ quoted last))
                | fault, _, _ => report fault
            | .ok pairs =>
                let given := (optionArguments options (arguments.length + 1) arguments).flatMap fun t =>
                  ' ' :: Quoting.shell.apply t
                let fuel := (← Job.tree).entries.size + 2
                pairs.foldlM
                  (fun status (a, b) => do
                    let first ← look r a
                    let second ← look r b
                    pure (max status (← compareSides r given fuel none first second))) 0

end SwiftExistential.Utility
