import SwiftExistential.CommandLine.Arguments
import SwiftExistential.Feedback
import SwiftExistential.LineDiff
import SwiftExistential.Migration
import SwiftExistential.Toolchain

/-!
# The command line

A run of the program on a file tree: the project is resolved, its configuration and protocols are
read, its sources are migrated, and with a toolchain the result is verified. What is printed, the
exit code and the new tree are the result.

The run is an action with a state: the tree, and what has been printed so far. A failure ends the
action and keeps both, so what was changed before stays changed. The environment is handed in, and
nothing else of the world is seen.
-/

set_option autoImplicit false

namespace SwiftExistential.CommandLine

def programName : String := "existential-patcher"

def programVersion : String := "0.1.0"

def helpText : String :=
  "Migrate Swift sources to explicit any/some protocol annotations\n\n" ++
  "Usage: existential-patcher [OPTIONS] <PROJECT> [TOOLCHAIN]\n\n" ++
  "Arguments:\n" ++
  "  <PROJECT>    Package.swift, an .xcodeproj, or a directory containing Package.swift\n" ++
  "  [TOOLCHAIN]  Xcode.app or toolchain root; enables build verification\n\n" ++
  "Options:\n" ++
  "  -c, --config <CONFIG>  Configuration file (default: existential-patcher.toml in the project)\n" ++
  "  -s, --sites <SITES>    JSON dump of syntax sites (overrides the configured one)\n" ++
  "  -d, --diff             Show unified diff of rewritten files\n" ++
  "      --skip-build       Skip the clean verbose build that captures per-file invocations\n" ++
  "  -h, --help             Print help\n" ++
  "  -V, --version          Print version\n"

/-! ## Failures

A failure has the failure that caused it, and so on; the message is made of all of them. -/

/-- Why a run ends early. -/
inductive Failure where
  | config (e : Config.Error)
  | sources (e : Sources.Error)
  | guard (e : GuardError)
  | capture (e : RunnerError)
  | sites (e : SiteMap.Error)

/-- The wording of a failure, followed by the wording of each of its causes. -/
def Failure.chain : Failure → List String
  | config e =>
      e.message :: match e with
        | .unreadable _ cause => [cause.message]
        | .malformed _ => []
        | .invalid _ issues => [Config.Error.issueText issues]
  | sources e => [e.message, e.walkMessage, e.cause.message]
  | guard e =>
      e.message :: match e with
        | .unresolved cause => [cause.message]
        | _ => []
  | capture e =>
      "capturing compiler invocations" :: e.message :: match e with
        | .spawn _ cause => [cause.message]
        | _ => []
  | sites e =>
      e.message :: match e with
        | .unreadable _ cause => [cause.message]
        | .malformed _ => []

def Failure.message (f : Failure) : String := ": ".intercalate f.chain

/-! ## Actions -/

/-- The file tree and what was printed. -/
structure Session where
  tree : FileTree
  out : Text
  err : Text

abbrev Action := ExceptT Failure (StateM Session)

def say (line : String) : Action Unit :=
  modify fun s => { s with out := s.out ++ line.toList ++ ['\n'] }

def complain (line : String) : Action Unit :=
  modify fun s => { s with err := s.err ++ line.toList ++ ['\n'] }

def sayText (t : Text) : Action Unit := modify fun s => { s with out := s.out ++ t }

/-- Takes a result, or ends with what went wrong. -/
def orFail {ε α : Type} (wrap : ε → Failure) : Except ε α → Action α
  | .ok a => pure a
  | .error e => throw (wrap e)

/-! ## Reports

The summary counts what was done. Differences are shown for the changes that a migration has
recorded, and it records them only if they are asked for. -/

def showChange (change : FileChange) : Action Unit := do
  let path := String.ofList change.path
  say ("\n--- " ++ path ++ " (original)")
  say ("+++ " ++ path ++ " (patched)")
  sayText (LineDiff.render change.before change.after)

def showSummary (stats : MigrationStats) : Action Unit := do
  say ""
  say "Summary:"
  say ("  " ++ toString stats.filesScanned ++ " files scanned")
  say ("  " ++ toString stats.filesChanged ++ " files changed")
  say ("  " ++ toString stats.sites ++ " sites classified")
  say ("  " ++ toString stats.substitutions ++ " substitutions")
  if stats.skipped > 0 then say ("  " ++ toString stats.skipped ++ " skipped")

/-- The exit code of a run that did not succeed. -/
def failureCode : Nat := 1

/-- Prints how the verification ended. Returns the exit code. -/
def showVerification (report : Feedback.Report) : Action Nat := do
  for manifest in report.dependencyManifests do
    say ("⚠ Patched dependency, verify separately: " ++ String.ofList manifest)
  match report.outcome with
  | .converged rounds =>
      say ("✓ Project built successfully (" ++ toString report.fixups ++ " fixups over " ++
        toString rounds ++ " rounds)")
      return 0
  | .unresolved errors =>
      for error in errors do
        complain ("  " ++ String.ofList error)
      complain ("✗ " ++ toString errors.length ++ " errors remain, correct manually")
      return failureCode
  | .budgetExhausted rounds pending =>
      complain ("✗ Gave up after " ++ toString rounds ++ " rounds; " ++ toString pending ++
        " errors remain, correct manually")
      return failureCode

/-! ## The run -/

/-- The sites to migrate: those of the arguments, or else those of the configuration. -/
def loadSites (arguments : Arguments) (project : Project) (config : Config) : Action SiteMap := do
  let configured := config.sites.map (Path.join project.root)
  match arguments.sites.or configured with
  | some path => orFail .sites (SiteMap.load (← get).tree path project.root)
  | none =>
      complain "Warning: no syntax sites given, only diagnostics will run"
      return .empty

def migrate (arguments : Arguments) (project : Project) (config : Config) (registry : Registry) :
    Action Unit := do
  let sites ← loadSites arguments project config
  let migration : Migration :=
    ⟨sites, registry, config.policy, config.cleanupOptions, arguments.showDiff⟩
  let (tree, report) ← orFail .sources (migration.run (← get).tree project.root)
  modify fun s => { s with tree := tree }
  report.changes.forM showChange
  showSummary report.stats

def captureInvocations (toolchain : Toolchain) : Action (List Text) := do
  say "Capturing compiler invocations..."
  let (result, captured, tree) := toolchain.capture [] (← get).tree
  modify fun s => { s with tree := tree }
  let _ ← orFail .capture result
  return captured

/-- Verifies the migrated project. Returns the exit code. -/
def verify (toolchain : Toolchain) (guard : Guard) (config : Config) (registry : Registry)
    (captured : List Text) : Action Nat := do
  say ""
  say "Verifying with ExistentialAny enabled..."
  let (report, last) := Feedback.run toolchain.system (.ofConfig guard config)
    (.start captured (← get).tree registry)
  modify fun s => { s with tree := last.tree }
  showVerification report

def homeVariable : Text := "HOME".toList

/-- **Runs on a project.** Returns the exit code. -/
def runProject (environment : List (Text × Text)) (arguments : Arguments) (project : Project) :
    Action Nat := do
  say ("Project: " ++ String.ofList project.name ++ " (" ++ String.ofList project.path ++ ")")
  let tree := (← get).tree
  let config ← orFail .config (match arguments.config with
    | some path => Config.load tree path
    | none => Config.loadForProject tree project.root)
  let discovered ← orFail .sources (Sources.discover tree project.root)
  let registry := (discovered.merge config.known).finalize config.denylist
  let guard ← orFail .guard
    (Guard.make tree (environment.lookup homeVariable) project.root arguments.toolchain)
  match arguments.toolchain with
  | none =>
      migrate arguments project config registry
      return 0
  | some directory =>
      let toolchain : Toolchain := ⟨project, directory, environment⟩
      let captured ← if arguments.skipBuild then pure [] else captureInvocations toolchain
      migrate arguments project config registry
      verify toolchain guard config registry captured

/-- What a run came to. -/
structure Result where
  exitCode : Nat
  out : Text
  err : Text
  tree : FileTree

/-- Runs what the arguments ask for, once they are read. -/
def runRequest (environment : List (Text × Text)) (tree : FileTree) : Request → Result
  | .version => ⟨0, (programName ++ " " ++ programVersion ++ "\n").toList, [], tree⟩
  | .help => ⟨0, helpText.toList, [], tree⟩
  | .migrate arguments =>
      match Project.resolve tree arguments.project with
      | .error e => ⟨failureCode, [], ("✗ " ++ e.message ++ "\n").toList, tree⟩
      | .ok project =>
          match (runProject environment arguments project).run.run ⟨tree, [], []⟩ with
          | (.ok code, s) => ⟨code, s.out, s.err, s.tree⟩
          | (.error failure, s) =>
              let report := "✗ Error: " ++ failure.message ++
                "\nIf this looks like a bug, please file a report including the output above.\n"
              ⟨failureCode, s.out, s.err ++ report.toList, s.tree⟩

/-- The exit code for arguments that are refused. -/
def usageCode : Nat := 2

/-- **Runs the program** with an environment and arguments on a file tree. -/
def run (environment : List (Text × Text)) (arguments : List Text) (tree : FileTree) : Result :=
  match parse arguments with
  | .error e => ⟨usageCode, [], ("error: " ++ e.message ++ "\n").toList, tree⟩
  | .ok request => runRequest environment tree request

end SwiftExistential.CommandLine
