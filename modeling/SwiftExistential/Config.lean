import SwiftExistential.Cleanup
import SwiftExistential.FileTree.Basic
import SwiftExistential.Toml.Document
import SwiftExistential.Unicode.Alphanumeric

/-!
# Configuration

The settings of a project, read from a TOML document. Every setting has a default and unknown keys
are ignored. A document that reads well is still refused if its settings make no sense; all
complaints are listed.

There are three kinds of failures: the file cannot be read, the text is no document with values of
the kinds that the keys ask for, or the settings make no sense. A setting that is left out is no
failure. The settings are found in a file with a fixed name in the directory of the project, and a
project without this file has the defaults.
-/

set_option autoImplicit false

namespace SwiftExistential

/-- The settings of a project. -/
structure Config where
  /-- The dump of the sites to patch. -/
  sites : Option Text
  /-- Concrete classes, which take no keyword. -/
  classes : List Text
  /-- Known protocols with their origins, in the order of the names. -/
  known : List (Text × Text)
  /-- Names that are never protocols. -/
  denylist : List Text
  /-- How many builds may be tried. -/
  rounds : Nat
  /-- How often the pass over `@objc` and `case` lines is repeated. -/
  adhocRounds : Nat
  /-- How often one file is compiled when the build cannot be run. -/
  compileRetries : Nat
  /-- Flags that are removed from captured compiler calls. -/
  stripFlags : List Text
  /-- Protocols whose returns stay `any`. -/
  keepAnyReturns : List Text
deriving DecidableEq, Repr

namespace Config

/-- The settings of a project without a configuration. -/
def default : Config where
  sites := none
  classes := []
  known := []
  denylist := []
  rounds := 10
  adhocRounds := 5
  compileRetries := 3
  stripFlags := []
  keepAnyReturns := ["Encoder".toList, "Decoder".toList, "Disposable".toList]

def cleanupOptions (config : Config) : Cleanup.Options :=
  ⟨config.keepAnyReturns, max 1 config.adhocRounds⟩

/-- The choice of keywords under these settings. -/
def policy (config : Config) : Policy := .ofClasses config.classes

/-! ## Reading

Values are read by kinds, so a key has one line here, with its kind and its place in the settings.
-/

/-- The name that a moment in time has where it is read as a table: the one key of the table. -/
def momentKey : Text := "$__toml_private_datetime".toList

/-- The fields of a group of settings, which is a table or a list of the fields in order. A moment
in time is a table without any of the fields. -/
def fields? (names : List Text) : Toml.Value → Option (List (Option Toml.Value))
  | .moment _ => some (names.map fun _ => none)
  | .table _ entries => some (names.map (Toml.Entries.get? entries))
  | .list items => some ((List.range names.length).map (items[·]?))
  | .headedList items => some ((List.range names.length).map (items.reverse[·]?))
  | _ => none

/-- The fields of a group of settings that may be missing. -/
def groupFields? (names : List Text) (group : Option Toml.Value) :
    Option (List (Option Toml.Value)) :=
  match group with
  | none => some (names.map fun _ => none)
  | some v => fields? names v

def text? : Toml.Value → Option Text
  | .text t => some t
  | _ => none

def texts? : Toml.Value → Option (List Text)
  | .list items => items.mapM text?
  | _ => none

def count? : Toml.Value → Option Nat
  | .integer n => if 0 ≤ n then some n.toNat else none
  | _ => none

def namedText? (entry : Text × Toml.Value) : Option (Text × Text) :=
  (text? entry.2).map fun t => (entry.1, t)

/-- A table from names to texts, in the order of the names. -/
def textTable? : Toml.Value → Option (List (Text × Text))
  | .table _ entries =>
      (entries.mapM namedText?).map fun pairs => (Std.TreeMap.ofList pairs).toList
  | .moment written => some [(momentKey, written)]
  | _ => none

/-- The value of a setting, or its default if it is missing. -/
def setting? {α : Type} (read : Toml.Value → Option α) (fallback : α) (field : Option Toml.Value) :
    Option α :=
  match field with
  | none => some fallback
  | some v => read v

def ofEntries? (entries : Toml.Entries) : Option Config := do
  let sites ← setting? (fun v => (text? v).map some) none (entries.get? "sites".toList)
  let classes ← setting? texts? [] (entries.get? "classes".toList)
  let protocols ← groupFields? ["known".toList, "denylist".toList]
    (entries.get? "protocols".toList)
  let known ← setting? textTable? [] (protocols[0]?.join)
  let denylist ← setting? texts? [] (protocols[1]?.join)
  let budget ← groupFields?
    ["rounds".toList, "adhoc_rounds".toList, "compile_retries".toList]
    (entries.get? "budget".toList)
  let rounds ← setting? count? default.rounds (budget[0]?.join)
  let adhocRounds ← setting? count? default.adhocRounds (budget[1]?.join)
  let compileRetries ← setting? count? default.compileRetries (budget[2]?.join)
  let build ← groupFields? ["strip_flags".toList] (entries.get? "build".toList)
  let stripFlags ← setting? texts? [] (build[0]?.join)
  let policy ← groupFields? ["keep_any_returns".toList] (entries.get? "policy".toList)
  let keepAnyReturns ← setting? texts? default.keepAnyReturns (policy[0]?.join)
  return ⟨sites, classes, known, denylist, rounds, adhocRounds, compileRetries, stripFlags,
    keepAnyReturns⟩

/-! ## Complaints

Budgets come first, then what is no name, then what is empty. Each complaint names the setting that
it is about. -/

/-- A setting that makes no sense. -/
inductive Issue where
  | zeroBudget (field : String)
  | notIdentifier (field : String) (value : Text)
  | emptyOrigin (protocol : Text)
  | emptyFlag
deriving DecidableEq, Repr

def Issue.message : Issue → String
  | zeroBudget field => "'" ++ field ++ "' must be at least 1"
  | notIdentifier field value =>
      "'" ++ field ++ "' entry '" ++ String.ofList value ++ "' is not an identifier"
  | emptyOrigin protocol =>
      "known protocol '" ++ String.ofList protocol ++ "' has an empty origin"
  | emptyFlag => "'build.strip_flags' contains an empty flag"

/-- Whether the text is a name: a letter or underscore, then letters, numbers and underscores. -/
def isIdentifier : Text → Bool
  | [] => false
  | c :: rest =>
      (Unicode.isAlphabetic c || c == '_') &&
        rest.all fun d => Unicode.isAlphanumeric d || d == '_'

def zeroBudget (field : String) (n : Nat) : List Issue := if n = 0 then [.zeroBudget field] else []

/-- The complaints about the names in a setting. -/
def badNames (field : String) (names : List Text) : List Issue :=
  (names.filter (!isIdentifier ·)).map (.notIdentifier field)

/-- **Everything that makes no sense**, in the order it is reported. -/
def issues (c : Config) : List Issue :=
  zeroBudget "budget.rounds" c.rounds ++
  zeroBudget "budget.adhoc_rounds" c.adhocRounds ++
  zeroBudget "budget.compile_retries" c.compileRetries ++
  badNames "protocols.known" (c.known.map (·.1)) ++
  badNames "protocols.denylist" c.denylist ++
  badNames "classes" c.classes ++
  badNames "policy.keep_any_returns" c.keepAnyReturns ++
  (c.known.filter fun e => (Text.trim e.2).isEmpty).map (fun e => .emptyOrigin e.1) ++
  (if c.stripFlags.any fun f => (Text.trim f).isEmpty then [.emptyFlag] else [])

/-- Why a configuration cannot be used. -/
inductive Error where
  /-- The file cannot be read. -/
  | unreadable (path : Text) (cause : FileError)
  /-- The text is no document with these settings. -/
  | malformed (path : Option Text)
  | invalid (path : Option Text) (issues : List Issue)
deriving DecidableEq, Repr

namespace Error

def issueText (issues : List Issue) : String := "\n".intercalate (issues.map Issue.message)

/-- The wording of the failure. What is wrong with a malformed document is not told. -/
def message : Error → String
  | unreadable path cause =>
      "failed to read config from " ++ String.ofList path ++ ": " ++ cause.message
  | malformed (some path) => "failed to parse config TOML (" ++ String.ofList path ++ ")"
  | malformed none => "failed to parse config TOML"
  | invalid (some path) issues =>
      "invalid config (" ++ String.ofList path ++ "): " ++ issueText issues
  | invalid none issues => "invalid config: " ++ issueText issues

def withPath (path : Text) : Error → Error
  | malformed none => malformed (some path)
  | invalid none issues => invalid (some path) issues
  | e => e

end Error

/-- **Reads a configuration.** -/
def parse (t : Text) : Except Error Config :=
  match (Toml.parse? t).bind ofEntries? with
  | none => .error (.malformed none)
  | some config =>
      if config.issues.isEmpty then .ok config else .error (.invalid none config.issues)

/-! ## Files -/

def load (tree : FileTree) (path : Text) : Except Error Config :=
  match tree.readText path with
  | .error cause => .error (.unreadable path cause)
  | .ok content => (parse content).mapError (Error.withPath path)

/-- The file that a project's configuration is looked up in. -/
def fileName : Text := "existential-patcher.toml".toList

/-- The configuration of the project at a root. Without a file it is the default. -/
def loadForProject (tree : FileTree) (root : Text) : Except Error Config :=
  let path := Path.join root fileName
  if tree.isFile path then load tree path else .ok default

end Config

end SwiftExistential
