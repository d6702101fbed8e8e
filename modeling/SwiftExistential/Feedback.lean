import SwiftExistential.BuildSystem
import SwiftExistential.Config
import SwiftExistential.Guard
import SwiftExistential.HeaderRepair
import SwiftExistential.Invocation
import SwiftExistential.SourceFile

/-!
# The feedback loop

Build, read the diagnostics, fix what they ask for, and build again, for a limited number of rounds.
When the build cannot be run, the captured invocations are compiled one by one instead. A round
whose output reports a missing precompiled header repairs the header and fixes nothing.

The state of the project is recorded once, before the first file is touched. A file is touched only
if the guard admits it, and a file of a dependency is made writable first. What cannot be read or
written is passed over, and the next build will report it again.
-/

set_option autoImplicit false

namespace SwiftExistential.Feedback

/-- How a verification ended. -/
inductive Outcome where
  /-- Nothing is left to fix, after so many rounds with fixups. -/
  | converged (rounds : Nat)
  /-- There are errors that nothing can be done about. -/
  | unresolved (errors : List Text)
  /-- No round is left; the last one asked for so many fixups. -/
  | budgetExhausted (rounds pending : Nat)
deriving DecidableEq, Repr

def Outcome.isSuccess : Outcome → Bool
  | converged _ => true
  | _ => false

/-- What does not change during a verification. -/
structure Settings where
  guard : Guard
  /-- The number of rounds, at least one. -/
  rounds : Nat
  /-- How often one invocation is tried, at least once. -/
  compileRetries : Nat
  stripFlags : List Text

def Settings.ofConfig (guard : Guard) (config : Config) : Settings :=
  ⟨guard, max 1 config.rounds, max 1 config.compileRetries, config.stripFlags⟩

/-- What changes during a verification. -/
structure State (σ : Type) where
  build : σ
  tree : FileTree
  registry : Registry
  /-- Whether the state of the project was recorded. -/
  checkpointed : Bool
  /-- How many fixups were asked for. -/
  fixups : Nat
  /-- The manifests of patched dependencies. -/
  manifests : List Text

/-- The state before the first round. -/
def State.start {σ : Type} (build : σ) (tree : FileTree) (registry : Registry) : State σ :=
  ⟨build, tree, registry, false, 0, []⟩

variable {σ : Type}

/-- Takes the results of a step of the build system. -/
def State.after (s : State σ) (build : σ) (tree : FileTree) : State σ :=
  { s with build := build, tree := tree }

/-! ## Reading diagnostics

What is found adds up over the outputs of a round; the registry and the tree are handed on. -/

/-- The diagnostics of one output: the fixups they ask for and the lines that were not understood.
-/
structure Findings where
  fixups : List Fixup
  unrecognized : List Text
deriving DecidableEq, Repr

/-- Puts findings behind others. -/
def Findings.append (a b : Findings) : Findings :=
  ⟨a.fixups ++ b.fixups, a.unrecognized ++ b.unrecognized⟩

/-- Reads an output. A missing header is repaired if that is possible, and then there are no
findings. -/
def readOutput (s : State σ) (lines : List Text) : Option Findings × State σ :=
  match Diagnostic.parse s.registry lines with
  | (.completed fixups unrecognized, registry) =>
      (some ⟨fixups, unrecognized⟩, { s with registry := registry })
  | (.aborted header, registry) =>
      -- Whether or not the header can be repaired, nothing else of the output counts.
      let tree := match HeaderRepair.repair s.tree header with
        | .ok (_, tree) => tree
        | .error _ => s.tree
      (none, { s with registry := registry, tree := tree })

/-! ## The fallback -/

/-- Compiles one file, again after each repair of a header, at most so many times. A command that
cannot be run ends the attempts. -/
def compileFile (b : BuildSystem σ) (command : Text) : Nat → State σ → Findings × State σ
  | 0, s => (⟨[], []⟩, s)
  | n + 1, s =>
      match b.compile command s.build s.tree with
      -- Nothing is known of the file then, and nothing is reported.
      | (.error _, build, tree) => (⟨[], []⟩, s.after build tree)
      | (.ok output, build, tree) =>
          match readOutput (s.after build tree) output.lines with
          | (some findings, s') => (findings, s')
          | (none, s') => compileFile b command n s'

def compileAll (b : BuildSystem σ) (settings : Settings) :
    List Text → State σ → Findings × State σ
  | [], s => (⟨[], []⟩, s)
  | invocation :: rest, s =>
      let command := Invocation.sanitize settings.stripFlags invocation
      let (first, s') := compileFile b command settings.compileRetries s
      let (others, s'') := compileAll b settings rest s'
      (first.append others, s'')

/-! ## Patching

The files are taken in the order of their paths, each with all of its fixups. Two paths with the
same components are one file, under the path that was named first. -/

def samePath (a b : Text) : Bool := Path.components a == Path.components b

/-- The files that fixups name, in the order of their paths, each once. -/
def filesOf (fixups : List Fixup) : List Text :=
  let named :=
    fixups.foldl (fun acc f => if acc.any (samePath f.file) then acc else acc ++ [f.file]) []
  -- Of paths with the same components only the first one is left.
  named.mergeSort Path.le

/-- Records the state of the project, unless that was done. A failure is passed over. -/
def checkpointOnce (b : BuildSystem σ) (s : State σ) : State σ :=
  if s.checkpointed then s
  else
    let (_, build, tree) := b.checkpoint s.build s.tree
    { s with build := build, tree := tree, checkpointed := true }

/-- Prepares a file of a dependency: it is made writable, and its package's manifest is noted. -/
def prepareOwner (path : Text) (owner : FileOwner) (s : State σ) : State σ :=
  match owner.manifest? with
  | none => s
  | some manifest =>
      let tree := match makeWritable s.tree path with
        | .ok tree => tree
        | .error _ => s.tree
      let manifests :=
        if s.manifests.any (samePath manifest) then s.manifests else s.manifests ++ [manifest]
      { s with tree := tree, manifests := manifests }

/-- The text of a file after its fixups, with annotated optionals in parentheses. -/
def fixText (registry : Registry) (fixups : List Fixup) (content : Text) : Text :=
  (Cleanup.fixOptionals registry (Fixup.applyAll content fixups).1).1

/-- Reads a file, fixes it and writes it back. A file that cannot be read or written is passed
over. -/
def fixFile (path : Text) (fixups : List Fixup) (s : State σ) : State σ :=
  match SourceFile.read s.tree path with
  | .error _ => s
  | .ok source =>
      let fixed := source.setContent (fixText s.registry fixups source.content)
      match fixed.commit s.tree with
      | .error _ => s
      | .ok (tree, _) => { s with tree := tree }

def patchFile (b : BuildSystem σ) (settings : Settings) (fixups : List Fixup) (s : State σ)
    (file : Text) : State σ :=
  match settings.guard.validate s.tree file with
  | .error _ => s
  | .ok (location, owner) =>
      let path := FileTree.render location
      fixFile path (fixups.filter fun f => samePath file f.file)
        (prepareOwner path owner (checkpointOnce b s))

/-- Patches the files that fixups name. -/
def patchAll (b : BuildSystem σ) (settings : Settings) (fixups : List Fixup) (s : State σ) :
    State σ :=
  let s' := (filesOf fixups).foldl (patchFile b settings fixups) s
  { s' with fixups := s'.fixups + fixups.length }

/-! ## Rounds

A round ends the verification or asks for another one. The budget is at least one round, whatever
was configured. -/

/-- How a round ended. -/
inductive RoundResult where
  | finished (outcome : Outcome)
  /-- Another round is needed; this one asked for so many fixups. -/
  | again (pending : Nat)
deriving DecidableEq, Repr

def settle (b : BuildSystem σ) (settings : Settings) (round : Nat) (findings : Findings)
    (s : State σ) : RoundResult × State σ :=
  if findings.fixups.isEmpty then
    let errors := Text.sortDistinct findings.unrecognized
    -- This round asked for nothing, so it is not counted.
    (.finished (if errors.isEmpty then .converged (round - 1) else .unresolved errors), s)
  else (.again findings.fixups.length, patchAll b settings findings.fixups s)

/-- **One round**: the build, or the single invocations if it cannot be run, and what follows from
the diagnostics. -/
def runRound (b : BuildSystem σ) (settings : Settings) (round : Nat) (s : State σ) :
    RoundResult × State σ :=
  match b.build s.build s.tree with
  | (.ok output, build, tree) =>
      match readOutput (s.after build tree) output.lines with
      | (some findings, s') => settle b settings round findings s'
      | (none, s') => (.again 0, s')
  | (.error e, build, tree) =>
      let s' := s.after build tree
      let invocations := b.invocations s'.build
      if invocations.isEmpty then (.finished (.unresolved [e.message.toList]), s')
      else
        let (findings, s'') := compileAll b settings invocations s'
        settle b settings round findings s''

/-- Runs rounds, the first of which has the given number, while some are left. -/
def runRounds (b : BuildSystem σ) (settings : Settings) : Nat → Nat → State σ → Outcome × State σ
  | 0, round, s => (.budgetExhausted (round - 1) 0, s)
  | left + 1, round, s =>
      match runRound b settings round s with
      | (.finished outcome, s') => (outcome, s')
      | (.again pending, s') =>
          -- What the last round asked for has been written, but no build has seen it.
          if left = 0 then (.budgetExhausted round pending, s')
          else runRounds b settings left (round + 1) s'

/-- What a verification reports. -/
structure Report where
  outcome : Outcome
  /-- The fixups asked for in all rounds. -/
  fixups : Nat
  /-- The manifests of patched dependencies, in the order of their paths. -/
  dependencyManifests : List Text
deriving DecidableEq, Repr

/-- **Verifies a project.** -/
def run (b : BuildSystem σ) (settings : Settings) (s : State σ) : Report × State σ :=
  let (outcome, last) := runRounds b settings settings.rounds 1 s
  (⟨outcome, last.fixups, last.manifests.mergeSort Path.le⟩, last)

end SwiftExistential.Feedback
