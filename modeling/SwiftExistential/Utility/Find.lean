import SwiftExistential.Utility.Find.Reader

/-!
# Finding files

`find` walks through directories and asks its tests about all that it meets. If no test does
something by itself, paths for which the tests hold are shown.

The tests are read before the walk begins, in a module of their own. The walk is here, with what it
needs to know: how deep it goes, in which order, whether links are followed, and which commands wait
for more files.
-/

set_option autoImplicit false

/-! ## Walking through directories

A walk meets a directory before or behind what is in it and asks the tests about everything that it
meets. Commands that take all files at once wait until the walk is over, or until it leaves the
directory if they run there. -/

namespace SwiftExistential.Utility.Find

open Process

/-- A command that waits for files. -/
structure Waiting where
  arguments : List Text
  /-- The directory in which it runs, if it does not run where the search does. -/
  directory : Option Location
  /-- The last path comes first. -/
  paths : List Text

/-- What a walk leaves behind. -/
structure Progress where
  status : Nat
  waiting : List Waiting
  isOver : Bool

/-- Runs a command in a directory. Returns whether it succeeded. -/
def runCommand (launch : Launch) (directory : Option Location) (hasInput : Bool) (arguments : List Text) :
    Job Bool := do
  let input ← if hasInput then pure none else do
    let (index, m) := (← get).openChannel .null
    set m
    pure (some index)
  let sit := fun (s : Seat) =>
    let s := match input with
      | some index => s.connect 0 index
      | none => s
    { s with directory := directory.getD s.directory }
  match ← (launch arguments).run (sit (← read)) with
  | .ok ending => return ending.status = 0
  | .error e =>
      Job.complain ["find".toList, cited (arguments.headD []), match e with
        | .missing => reason .notFound
        | .denied => "Permission denied".toList
        | .strange => "Exec format error".toList]
      return false

def runWaiting (launch : Launch) : List Waiting → Job Nat
  | [] => return 0
  | w :: rest => do
      let isGood ← if w.paths.isEmpty then pure true
        else runCommand launch w.directory true (w.arguments ++ w.paths.reverse)
      let others ← runWaiting launch rest
      return if isGood then others else 1

/-- The directory that a file stands in, and its path as seen from there. -/
def seenInside (m : Met) : Location × Text :=
  if m.path.all (· == '/') then ([], m.path) else (m.location.dropLast, "./".toList ++ nameText m.path)

/-- Writes to a file that is open already, or to the output. -/
def emit (file : Option Text) (t : Text) : Job Unit :=
  match file with
  | none => Job.put t
  | some path => discard (Job.writeFile path true t)

/-- Asks a test that does nothing by itself. -/
def answer (tree : FileTree) (now : Int) (m : Met) : Test → Bool
  | .always => true
  | .named ignoresCase pattern =>
      let lower := fun (t : Text) => if ignoresCase then t.map Char.toLower else t
      fitsPattern (lower pattern) (lower (lastName m.path))
  | .path ignoresCase pattern =>
      let lower := fun (t : Text) => if ignoresCase then t.map Char.toLower else t
      fitsPattern (lower pattern) (lower m.path)
  | .target ignoresCase pattern =>
      let lower := fun (t : Text) => if ignoresCase then t.map Char.toLower else t
      match m.entry.node with
      | .link target => fitsPattern (lower pattern) (lower (Octets.ofText target))
      | _ => false
  | .fits ignoresCase e =>
      (Expression.fitHere? ⟨ignoresCase, false⟩ (.sequence e (.edge .textEnd)) none m.path).isSome
  | .kind isOther letters => letters.contains (kindLetter (if isOther then m.other.getD m.entry else m.entry))
  | .empty =>
      match m.entry.node with
      | .directory => (tree.names m.entry.location).isEmpty
      | .file bytes _ => bytes.isEmpty
      | _ => false
  | .executable =>
      let e := (if m.entry.letter == 'l' then m.other else none).getD m.entry
      e.isDirectory || (e.letter == '-' && e.mode &&& 0o111 != 0)
  | .size unit bound => bound.holds ((m.entry.size + unit - 1) / unit)
  | .links bound => bound.holds m.entry.links
  | .serial bound => bound.holds (m.entry.serial tree)
  | .owner bound => bound.holds m.entry.record.owner
  | .group bound => bound.holds m.entry.record.group
  | .mode way bits directoryBits =>
      let wanted := if m.entry.isDirectory then directoryBits else bits
      let mode := m.entry.mode % 0o10000
      match way with
      | .exactly => mode = wanted
      | .all => mode &&& wanted = wanted
      | .any => wanted = 0 || mode &&& wanted != 0
  | .ageInMinutes stamp bound =>
      let minute := 60 * Moment.perSecond
      bound.holds minute minute 0 0 (now - stamp.of m.entry)
  | .ageInDays stamp present bound =>
      let day := 86400 * Moment.perSecond
      bound.holds day 0 day Moment.perSecond (present - stamp.of m.entry)
  | .newerThan stamp moment => decide (moment < stamp.of m.entry)
  | .sameAs locations => locations.contains m.entry.location
  | _ => false

def consents (program path : Text) : Job Bool := do
  Job.write 2 ("< ".toList ++ program ++ " ... ".toList ++ path ++ " > ? ".toList)
  return (← Job.inputLine).head?.any fun c => c == 'y' || c == 'Y'

/-- **Asks a test.** Returns the answer, and whether what is below is left out. -/
def ask (launch : Launch) (m : Met) : Test → Progress → Job (Bool × Bool × Progress)
  | .print file ending, p => do
      emit file (m.path ++ [ending])
      return (true, false, p)
  | .format file pieces, p => do
      emit file (fillFormat (← Job.tree) m pieces)
      return (true, false, p)
  | .list file, p => do
      emit file (listLine (← Job.tree) (← present) m)
      return (true, false, p)
  | .delete, p => do
      let tree ← Job.tree
      let isDirectory := tree.get? m.location = some .directory
      if m.path = ['.'] then return (true, false, p)
      else if isDirectory && !(tree.names m.location).isEmpty then
        Job.complain ["find".toList, "cannot delete ".toList ++ cited m.path, "Directory not empty".toList]
        return (false, false, { p with status := 1 })
      else
        Job.setTree (tree.remove m.location)
        return (true, false, p)
  | .prune, p => return (true, m.entry.isDirectory, p)
  | .quit, p => return (true, false, { p with isOver := true })
  | .run style arguments, p => do
      let (directory, path) := if style.isInside then
          let (directory, path) := seenInside m
          (some directory, path)
        else (none, m.path)
      if style.atOnce then
        let isSame := fun (w : Waiting) => w.arguments == arguments && w.directory == directory
        match p.waiting.find? isSame with
        | some w =>
            return (true, false, { p with
              waiting := { w with paths := path :: w.paths } :: p.waiting.filter fun w => !isSame w })
        | none =>
            let isLeft := fun (w : Waiting) => style.isInside && w.arguments == arguments
            let status ← runWaiting launch (p.waiting.filter isLeft)
            return (true, false, { p with
              status := max p.status status,
              waiting := ⟨arguments, directory, [path]⟩ :: p.waiting.filter fun w => !isLeft w })
      else
        let mayRun ← if style.asks then consents (arguments.headD []) m.path else pure true
        if !mayRun then return (false, false, p)
        else
          let filled := arguments.map fun t => Text.replacePart hole path t
          return (← runCommand launch directory (!style.asks) filled, false, p)
  | .not t, p => do
      let (holds, skips, p) ← ask launch m t p
      return (!holds, skips, p)
  | .and a b, p => do
      let (holds, skips, p) ← ask launch m a p
      if !holds || p.isOver then return (false, skips, p)
      else
        let (holds, skips', p) ← ask launch m b p
        return (holds, skips || skips', p)
  | .or a b, p => do
      let (holds, skips, p) ← ask launch m a p
      if holds || p.isOver then return (holds, skips, p)
      else
        let (holds, skips', p) ← ask launch m b p
        return (holds, skips || skips', p)
  | .both a b, p => do
      let (_, skips, p) ← ask launch m a p
      if p.isOver then return (false, skips, p)
      else
        let (holds, skips', p) ← ask launch m b p
        return (holds, skips || skips', p)
  | t, p => return (answer (← Job.tree) (← present) m t, false, p)

/-- What a path leads to, given whether links are followed there. -/
def meet? (tree : FileTree) (follows : Bool) (start path : Text) (depth : Nat) : Except FileError Met := do
  let own ← Entry.find tree false path
  match own.node, Entry.find tree true path with
  | .link _, .ok goal =>
      return if follows then ⟨start, path, depth, own.location, goal, some own⟩
        else ⟨start, path, depth, own.location, own, some goal⟩
  | _, _ => return ⟨start, path, depth, own.location, own, none⟩

/-- Walks through paths of a depth, with so many steps at most. The list names the directories
above. -/
def walk (launch : Launch) (style : FindStyle) (test : Test) :
    Nat → Nat → List (Location × Text) → List (Text × Text) → Progress → Job Progress
  | 0, _, _, _, p => return p
  | _, _, _, [], p => return p
  | fuel + 1, depth, above, (start, path) :: rest, p => do
      if p.isOver then return p
      else
        let follows := style.links = .all || (style.links = .named && depth = 0)
        match meet? (← Job.tree) follows start path depth with
        | .error e =>
            Job.complain ["find".toList, cited path, reason e]
            walk launch style test fuel depth above rest { p with status := 1 }
        | .ok m =>
            match m.entry.isDirectory, above.find? fun (location, _) => location == m.entry.location with
            | true, some (_, other) =>
                complain "find" ("File system loop detected; ".toList ++ cited path ++
                  " is part of the same file system loop as ".toList ++ cited other ++ ['.'])
                walk launch style test fuel depth above rest { p with status := 1 }
            | _, _ =>
                let asks := fun (p : Progress) =>
                  if depth < style.least || p.isOver then pure (false, p)
                  else do
                    let (_, skips, p) ← ask launch m test p
                    pure (skips, p)
                let below := fun (p : Progress) => do
                  if m.entry.isDirectory && style.most.all (depth < ·) then
                    let names := ((← Job.tree).names m.entry.location).map Octets.ofText
                    walk launch style test fuel (depth + 1) ((m.entry.location, path) :: above)
                      (names.map fun name => (start, inside path name)) p
                  else return p
                let p ← if style.isDepthFirst then do
                    let p ← below p
                    pure (← asks p).2
                  else do
                    let (skips, p) ← asks p
                    if skips || p.isOver then pure p else below p
                walk launch style test fuel depth above rest p

end SwiftExistential.Utility.Find

/-! ## Searching directories

The paths come first among the arguments, and the tests begin with the first argument that looks
like one. A path that leads nowhere is reported, and the walk goes on with the next. -/

namespace SwiftExistential.Utility

open Process

namespace Find

def traceWords : List String := ["exec", "opt", "rates", "search", "stat", "time", "tree", "all", "help"]

/-- What the first arguments say about links, and the arguments behind them. -/
def readLinks : LinkRule → List Text → Job (Option (LinkRule × List Text))
  | links, argument :: rest =>
      let failed := fun (message : Text) => do
        complain "find" message
        pure none
      match argument with
      | ['-', 'L'] => readLinks .all rest
      | ['-', 'P'] => readLinks .none rest
      | ['-', 'H'] => readLinks .named rest
      | ['-', '-'] => return some (links, rest)
      | ['-', 'D'] =>
          match rest with
          | [] => do
              discard (misuse { name := "find", letters := "" } "Missing argument after the -D option.".toList)
              return none
          | words :: rest => do
              (Text.splitOn ',' words).forM fun word =>
                if traceWords.contains (String.ofList word) then pure ()
                else complain "find" ("Ignoring unrecognised debug flag ".toList ++ cited word)
              readLinks links rest
      | '-' :: 'O' :: level =>
          if level.isEmpty then failed "The -O option must be immediately followed by a decimal integer".toList
          else if !level.all Char.isDigit then failed "Please specify a decimal number immediately after -O".toList
          else readLinks links rest
      | argument => return some (links, argument :: rest)
  | links, [] => return some (links, [])

def startsTests (t : Text) : Bool := (t.head? = some '-' && t.length > 1) || t = ['('] || t = ['!']

/-- The paths from which a search begins, of a file in which each ends with a null. -/
def namedStarts (tokens : List Text) (starts : List Text) : Job (Option (List Text × List Text)) := do
  match tokens.findIdx? (· = "-files0-from".toList) with
  | none => return some (starts, tokens)
  | some i =>
      match tokens[i + 1]? with
      | none => return some (starts, tokens)
      | some path =>
          let others := tokens.take i ++ tokens.drop (i + 2)
          match starts with
          | start :: _ =>
              complain "find" ("extra operand ".toList ++ cited start)
              complain "find" "file operands cannot be combined with -files0-from".toList
              return none
          | [] =>
              match ← Job.readSource path with
              | .ok content => return some (splitRecords '\x00' [] [] content, others)
              | .error e =>
                  complain "find" ("cannot open ".toList ++ cited path ++ " for reading: ".toList ++ reason e)
                  return none

end Find

open Find in
def find : Utility := fun launch arguments => do
  match ← readLinks .none arguments with
  | none => return 1
  | some (links, rest) =>
      let starts := rest.takeWhile fun t => !startsTests t
      let hasNames := (rest.drop starts.length).contains "-files0-from".toList
      match ← namedStarts (rest.drop starts.length) starts with
      | none => return 1
      | some (starts, tests) =>
          let source : Source :=
            { rest := tests, tokens := [], style := ⟨0, none, false, links⟩, dialect := .editor,
              countsFromMidnight := false, warns := false, lastTest := none, lastName := none,
              isDepthAsked := false }
          let failed := fun (message : Text) => do
            complain "find" message
            pure 1
          match ← ((readTokens (tests.length + 1)).run source).run with
          | .error message => failed message
          | .ok (_, source) =>
              match testOf source.tokens.reverse with
              | .error message => failed message
              | .ok test =>
                  let style := source.style
                  if test.prunes && style.isDepthFirst && !source.isDepthAsked then
                    failed ("The -delete action automatically turns on -depth, but -prune does nothing when " ++
                      "-depth is in effect.  If you want to carry on anyway, just explicitly use the -depth " ++
                      "option.").toList
                  else
                    let test := if test.acts then test else .and test (.print none '\n')
                    let fuel := (← Job.tree).entries.size * 4 + starts.length + 100
                    let starts := if starts.isEmpty && !hasNames then [['.']] else starts
                    let progress ← walk launch style test fuel 0 [] (starts.map fun t => (t, t)) ⟨0, [], false⟩
                    let status ← runWaiting launch progress.waiting.reverse
                    return max progress.status status

end SwiftExistential.Utility
