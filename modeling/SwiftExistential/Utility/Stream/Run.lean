import SwiftExistential.Utility.Stream.State

/-!
# The stream editor

`sed` edits lines. Each line goes through all commands of the script. What is left of it is printed
at the end, unless that is not wanted. A second text can be kept from line to line.

A command says where the work goes on behind it: with a command, with the next line, or not at all.
So the run is a loop over places in the script, and the commands in braces need no recursion.
-/

set_option autoImplicit false

namespace SwiftExistential.Utility.Stream

open Process

/-- How the work goes on behind a command. -/
inductive Next where
  | at' (index : Nat)
  /-- The cycle ends; the text is printed. -/
  | cycle
  /-- The cycle ends, and nothing is printed. -/
  | dropped
  /-- The cycle begins again with what is left of the text. -/
  | again
  /-- The work ends; the text is printed if the flag says so. -/
  | quit (status : Nat) (prints : Bool)

/-! ## Selections

Whether a range of lines has begun is kept for each command. The end of a range is first looked for
on the line behind its start, unless it is a number. -/

def remembered (wanted : Wanted) : Work (Expression × Expression.Manner) := do
  match wanted <|> (← get).lastWanted with
  | none => giveUp 1 "-e expression #1, char 0: no previous regular expression".toList
  | some found =>
      modify fun s => { s with lastWanted := some found }
      return found

def isAt (setting : Setting) : Address → Work Bool
  | .line n => do return (← get).input.line == n
  | .last => isAtEnd setting
  | .every first step => do
      let line := (← get).input.line
      return if step = 0 then line == first else line ≥ first && (line - first) % step == 0
  | .fits wanted => do
      let (e, m) ← remembered wanted
      return (Expression.find? m e none (← get).space.text).isSome

def setRange (index : Nat) (state : RangeState) : Work Unit :=
  modify fun s => { s with ranges := (index, state) :: s.ranges.filter fun (i, _) => i != index }

/-- The line up to which a range goes that starts at a line, if it is known. -/
def lastLine? (line : Nat) : RangeEnd → Option Nat
  | .later n => some (line + n)
  | .multiple 0 => some line
  | .multiple n => some ((line / n + 1) * n)
  | .address (.line n) => some n
  | .address _ => none

/-- Opens a range at the current line. Returns whether the line belongs to it. -/
def openRange (index : Nat) (first : Address) (last : RangeEnd) : Work Bool := do
  let line := (← get).input.line
  match lastLine? line last with
  | some n =>
      if n ≤ line then
        setRange index .closed
        match first with
        | .line m => return line ≤ n || line == m
        | _ => return true
      else
        setRange index (.upTo n)
        return true
  | none =>
      setRange index .upToFit
      return true

/-- Whether a line belongs to a range that may have begun. -/
def isInRange (setting : Setting) (index : Nat) (first : Address) (last : RangeEnd) : Work Bool := do
  let line := (← get).input.line
  let atEnd := do
    match last with
    | .address a => if ← isAt setting a then setRange index .closed
    | _ => pure ()
    return true
  match (← get).ranges.lookup index, first with
  | some (.upTo n), _ =>
      if n ≤ line then setRange index .closed
      return line ≤ n
  | some .upToFit, _ => atEnd
  | none, .line 0 =>
      if line = 1 then
        setRange index .upToFit
        atEnd
      else return false
  | some .closed, .line _ => return false
  | none, .line n => if n ≤ line then openRange index first last else return false
  | _, _ => if ← isAt setting first then openRange index first last else return false

def isSelected (setting : Setting) (index : Nat) (c : Command) : Work Bool := do
  let answer ← match c.selection with
    | .all => pure true
    | .one a => isAt setting a
    | .range first last => isInRange setting index first last
  return answer != c.isNegated

/-! ## Replacing -/

/-- What is done to letters while a replacement is written. -/
structure CaseState where
  lasting : Case
  next : Option Case

def inCase : Case → Char → Char
  | .upper, c => c.toUpper
  | .lower, c => c.toLower
  | .asIs, c => c

def writeInCase (state : CaseState) (t : Text) : Text × CaseState :=
  match state.next, t with
  | some c, first :: rest => (inCase c first :: rest.map (inCase state.lasting), { state with next := none })
  | _, t => (t.map (inCase state.lasting), state)

def writePieces (f : Expression.Fit) : CaseState → List Piece → Text
  | _, [] => []
  | state, piece :: rest =>
      match piece with
      | .case c => writePieces f ⟨c, none⟩ rest
      | .nextCase c => writePieces f { state with next := some c } rest
      | .text t =>
          let (shown, state) := writeInCase state t
          shown ++ writePieces f state rest
      | .group n =>
          let (shown, state) := writeInCase state (f.group n)
          shown ++ writePieces f state rest

/-- Replaces fits, behind so many of them. The flag says whether a fit has just ended. Returns the
new text and whether something was replaced. -/
def replaceFrom (r : Substitution) (m : Expression.Manner) (e : Expression) :
    Nat → Nat → Bool → Option Char → Text → Text × Bool
  | 0, _, _, _, t => (t, false)
  | fuel + 1, count, justEnded, before, t =>
      match Expression.find? m e before t with
      | none => (t, false)
      | some f =>
          if f.taken.isEmpty && f.skipped.isEmpty && justEnded then
            match t with
            | [] => ([], false)
            | c :: rest =>
                let (others, isReplaced) := replaceFrom r m e fuel count false (some c) rest
                (c :: others, isReplaced)
          else
            let isHit := count + 1 ≥ r.number
            let shown := f.skipped ++ (if isHit then writePieces f ⟨.asIs, none⟩ r.pieces else f.taken)
            if isHit && !r.isGlobal then (shown ++ f.rest, true)
            else if f.taken.isEmpty then
              match f.rest with
              | [] => (shown, isHit)
              | c :: rest =>
                  let (others, isReplaced) := replaceFrom r m e fuel (count + 1) false (some c) rest
                  (shown ++ c :: others, isHit || isReplaced)
            else
              let (others, isReplaced) := replaceFrom r m e fuel (count + 1) true f.before f.rest
              (shown ++ others, isHit || isReplaced)

def onText (change : Text → Text) : Work Unit :=
  modify fun s => { s with space := { s.space with text := change s.space.text } }

/-- Puts what a command prints in the place of the text. -/
def runText (setting : Setting) : Work Unit := do
  let t ← outputOf setting (← get).space.text
  onText fun _ => if t.getLast? = some setting.ending then t.dropLast else t

def substitute (setting : Setting) (r : Substitution) : Work Unit := do
  let (e, m) ← remembered r.wanted
  let s ← get
  let m := { m with isMultiline := m.isMultiline && setting.ending == '\n' }
  let (t, isReplaced) := replaceFrom r m e (2 * s.space.text.length + 2) 0 false none s.space.text
  if isReplaced then
    set { s with space := { s.space with text := t }, isReplaced := true }
    if r.printsCommand then emit setting t s.space.hasEnd
    if r.runs then runText setting
    let s ← get
    if r.prints then emit setting s.space.text s.space.hasEnd
    match r.file with
    | some path => emitTo setting path s.space.text s.space.hasEnd
    | none => pure ()

/-! ## Commands -/

def shownOctet (c : Char) : Text :=
  match c with
  | '\\' => ['\\', '\\']
  | '\n' => ['\\', 'n']
  | c => if isPrintable c then [c] else escapedOctet c

/-- Shows a text without doubt, in lines of a width, unless it is zero. -/
def unambiguous (ending : Char) (width : Nat) (t : Text) : Text := go [] 0 (t.map shownOctet)
where
  /-- Goes on in a line of so many octets. -/
  go (out : Text) (column : Nat) : List Text → Text
    | [] => out.reverse ++ ['$', ending]
    | piece :: rest =>
        if width > 0 && column + piece.length > width - 1 then
          go (piece.reverse ++ [ending, '\\'] ++ out) piece.length rest
        else go (piece.reverse ++ out) (column + piece.length) rest

/-- Does what a command of one letter says. -/
def doLetter (setting : Setting) (next : Nat) (c : Char) : Work Next := do
  let s ← get
  let on := fun (s : State) => do
    set s
    pure (Next.at' next)
  match c with
  | '=' =>
      emitRaw setting (shownNat s.input.line ++ [setting.ending])
      return .at' next
  | 'd' => return .dropped
  | 'D' =>
      if s.space.text.contains setting.ending then
        onText fun t => (t.dropWhile (· != setting.ending)).drop 1
        return .again
      else return .dropped
  | 'g' => on { s with space := s.hold }
  | 'G' => on { s with space := ⟨s.space.text ++ setting.ending :: s.hold.text, s.hold.hasEnd⟩ }
  | 'h' => on { s with hold := s.space }
  | 'H' => on { s with hold := ⟨s.hold.text ++ setting.ending :: s.space.text, s.space.hasEnd⟩ }
  | 'x' => on { s with space := s.hold, hold := s.space }
  | 'p' =>
      emit setting s.space.text s.space.hasEnd
      return .at' next
  | 'P' =>
      emit setting (s.space.text.takeWhile (· != setting.ending)) true
      return .at' next
  | 'z' => on { s with space := { s.space with text := [] } }
  | 'F' =>
      emitRaw setting (s.input.name ++ [setting.ending])
      return .at' next
  | 'n' =>
      let isEnd ← isAtEnd setting
      unless setting.isSilent do emit setting s.space.text s.space.hasEnd
      if isEnd then return .dropped
      else match ← nextLine? setting with
        | some (t, hasEnd) =>
            modify fun s => { s with space := ⟨t, hasEnd⟩ }
            return .at' next
        | none => return .dropped
  | 'N' =>
      if ← isAtEnd setting then
        unless setting.isSilent do emit setting s.space.text s.space.hasEnd
        return .dropped
      else match ← nextLine? setting with
        | some (t, hasEnd) =>
            modify fun s => { s with space := ⟨s.space.text ++ setting.ending :: t, hasEnd⟩ }
            return .at' next
        | none => return .dropped
  | _ => return .at' next

def doCommand (setting : Setting) (index : Nat) (c : Command) : Work Next := do
  let done := Next.at' (index + 1)
  let jump := fun (label : Text) =>
    if label.isEmpty then Next.cycle
    else .at' ((labelPlace? setting.commands label).getD setting.commands.size)
  let wait := fun (q : Queued) => do
    modify fun (s : State) => { s with queue := q :: s.queue }
    pure done
  match c.action with
  | .open' _ | .close | .label _ => return done
  | .substitute r =>
      substitute setting r
      return done
  | .transliterate table =>
      onText fun t => t.map fun c => (table.lookup c).getD c
      return done
  | .append t => wait (.text (withEnding t))
  | .insert t =>
      emitRaw setting (withEnding t)
      return done
  | .change t =>
      let isOpen := match (← get).ranges.lookup index with
        | none | some .closed => false
        | some _ => !c.isNegated
      unless isOpen do emitRaw setting (withEnding t)
      return .dropped
  | .branch label => return jump label
  | .branchIf label =>
      let isReplaced := (← get).isReplaced
      modify fun s => { s with isReplaced := false }
      return if isReplaced then jump label else done
  | .branchUnless label =>
      let isReplaced := (← get).isReplaced
      modify fun s => { s with isReplaced := false }
      return if isReplaced then done else jump label
  | .readFile path => wait (.file path)
  | .readLine path =>
      match ← nextOf setting path with
      | some t => wait (.text t)
      | none => return done
  | .run command =>
      if command.isEmpty then runText setting
      else
        let t ← outputOf setting command
        emitRaw setting t
      return done
  | .list width =>
      emitRaw setting (unambiguous setting.ending (width.getD setting.width) (← get).space.text)
      return done
  | .writeFile path =>
      let space := (← get).space
      emitTo setting path space.text space.hasEnd
      return done
  | .writeFirst path =>
      emitTo setting path ((← get).space.text.takeWhile (· != setting.ending)) true
      return done
  | .quit status => return .quit status true
  | .quitSilently status => return .quit status false
  | .letter c => doLetter setting (index + 1) c
where
  /-- A text whose last end is the one of lines. -/
  withEnding (t : Text) : Text :=
    if t.getLast? = some '\n' then t.dropLast ++ [setting.ending] else t

/-- Where a command leads that is not for the current line. -/
def behindCommand (index : Nat) (c : Command) : Nat :=
  match c.action with
  | .open' stop => stop + 1
  | _ => index + 1

/-- Runs commands from a place on, with so many steps at most. -/
def runFrom (setting : Setting) : Nat → Nat → Work Next
  | 0, _ => return .cycle
  | fuel + 1, index => do
      match setting.commands[index]? with
      | none => return .cycle
      | some c =>
          if ← isSelected setting index c then
            match ← doCommand setting index c with
            | .at' next => runFrom setting fuel next
            | result => return result
          else runFrom setting fuel (behindCommand index c)

def maxSteps : Nat := 10000000

/-- Runs cycles, with so many of them at most. The flag says whether a line is to be read first.
Returns the status. -/
def runCycles (setting : Setting) : Nat → Bool → Work Nat
  | 0, _ => return 0
  | fuel + 1, reads => do
      let isThere ← if reads then
          match ← nextLine? setting with
          | some (t, hasEnd) =>
              modify fun s => { s with space := ⟨t, hasEnd⟩ }
              pure true
          | none => pure false
        else pure true
      if !isThere then return 0
      else
        let printed := do
          unless setting.isSilent do
            let space := (← get).space
            emit setting space.text space.hasEnd
        match ← runFrom setting maxSteps 0 with
        | .at' _ | .cycle =>
            printed
            runCycles setting fuel true
        | .dropped => runCycles setting fuel true
        | .again =>
            emitQueue setting
            runCycles setting fuel false
        | .quit status prints =>
            if prints then
              printed
              emitQueue setting
            return status

/-- **Edits files.** Returns the status. -/
def edit (setting : Setting) (files : List Text) : Job Nat := do
  let start : State :=
    { space := ⟨[], true⟩, hold := ⟨[], true⟩, input := ⟨none, files, ['-'], 0, false, 0⟩, main := .none,
      inPlace := .none, owed := [], queue := [], isReplaced := false, ranges := [], lastWanted := none,
      readers := [] }
  let work := do
    let status ← runCycles setting 1000000000 true
    closeFile setting
    return status
  let (result, s) ← work.run.run start
  Job.put s.main.text
  match result with
  | .error status => return status
  | .ok status => return if s.input.status != 0 then s.input.status else status

/-! ## The program

Files that the script writes to are emptied before the first line is read. -/

def writtenPaths (commands : Array Command) : List Text :=
  commands.toList.filterMap fun c => match c.action with
    | .writeFile path | .writeFirst path => some path
    | .substitute r => r.file
    | _ => none

/-- Empties files before they are written to. Returns the first that cannot be written. -/
def emptyFiles : List Text → Job (Option (Text × FileError))
  | [] => return none
  | path :: rest => do
      if path = "/dev/stdout".toList || path = "/dev/stderr".toList then emptyFiles rest
      else match ← Job.writeFile path false [] with
        | .ok _ => emptyFiles rest
        | .error e => return some (path, e)

def options : Specification :=
  { name := "sed", letters := "bsnrEzue:f:l:i::",
    words := [("quiet", 'n', .none), ("silent", 'n', .none), ("expression", 'e', .one),
      ("file", 'f', .one), ("in-place", 'i', .optional), ("regexp-extended", 'E', .none),
      ("separate", 's', .none), ("unbuffered", 'u', .none), ("posix", 'p', .none), ("debug", '\x01', .none),
      ("follow-symlinks", '\x02', .none), ("line-length", 'l', .one), ("null-data", 'z', .none),
      ("zero-terminated", 'z', .none), ("sandbox", '\x03', .none), ("help", 'h', .none),
      ("version", 'v', .none)] }

def usage : Job Nat := do
  Job.write 2 (← Job.saying 1 usageText)
  return 1

def scriptParts : List (Char × Text) → Job (Except Nat (List Part))
  | [] => return .ok []
  | (c, t) :: rest => do
      match c with
      | 'e' => return (← scriptParts rest).map (⟨none, t⟩ :: ·)
      | 'f' =>
          match ← Job.readSource t with
          | .ok content =>
              let text := if content.getLast? = some '\n' then content.dropLast else content
              return (← scriptParts rest).map (⟨some t, text⟩ :: ·)
          | .error e =>
              Job.complain ["sed".toList, "couldn't open file ".toList ++ t, reason e]
              return .error 4
      | _ => scriptParts rest

/-- Whether the script begins with the mark that nothing is printed by itself. -/
def startsSilent (parts : List Part) : Bool :=
  match parts with
  | part :: _ => part.text = ['#', 'n'] || ['#', 'n', '\n'].isPrefixOf part.text
  | [] => false

def sed : Utility := fun launch arguments => do
  match readFrom options (arguments.length + 1) arguments with
  | .error mistake =>
      complain "sed" mistake.message
      usage
  | .ok g =>
      if g.has 'h' then
        Job.put ((← Job.saying 1 usageText) ++ (← Job.saying 2 []))
        return 0
      else if g.has 'v' then
        Job.putVersion "sed 4.9".toList
        return 0
      else match ← scriptParts g.options with
      | .error status => return status
      | .ok parts =>
          let isGiven := g.has 'e' || g.has 'f'
          if !isGiven && g.operands.isEmpty then usage
          else
            let parts := if isGiven then parts else [⟨none, g.operands.headD []⟩]
            let files := if isGiven then g.operands else g.operands.tail
            match readScript (g.has 'E' || g.has 'r') (g.has '\x03') parts with
            | .error refusal =>
                complain "sed" refusal.message
                return refusal.status
            | .ok commands =>
                match ← emptyFiles (writtenPaths commands) with
                | some (path, e) =>
                    Job.complain ["sed".toList, "couldn't open file ".toList ++ path, reason e]
                    return 4
                | none =>
                    let suffix := g.value? 'i'
                    if suffix.isSome && files.isEmpty then
                      complain "sed" "no input files".toList
                      return 4
                    else
                      edit
                        { launch := launch, commands := commands, isSilent := g.has 'n' || startsSilent parts,
                          ending := if g.has 'z' then '\x00' else '\n',
                          isSeparate := g.has 's' || suffix.isSome, suffix := suffix,
                          width := ((g.value? 'l').map (Number.value 10)).getD 70 }
                        (if files.isEmpty then [['-']] else files)

end SwiftExistential.Utility.Stream
