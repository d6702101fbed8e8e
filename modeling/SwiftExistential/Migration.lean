import SwiftExistential.Cleanup
import SwiftExistential.SiteMap
import SwiftExistential.SourceFile
import SwiftExistential.Sources

/-!
# Migrating a project

Every source of the project with sites that name a known protocol is patched, cleaned up and written
back. Which files are sources is settled by the walk over the project, and without a known protocol
nothing is done.

The sources are listed first and then taken in turn. A file is written only if its text has changed.
The report counts the files that were looked at and those that were changed, the sites, and the
changes in changed files; a file with sites that cannot be read or written is counted as skipped and
does not end the migration.
-/

set_option autoImplicit false

namespace SwiftExistential

/-- What a migration did. -/
structure MigrationStats where
  filesScanned : Nat
  filesChanged : Nat
  /-- Sites whose type names a known protocol. -/
  sites : Nat
  /-- Keywords inserted and substitutions made in the changed files. -/
  substitutions : Nat
  /-- Files that could not be read or written. -/
  skipped : Nat
deriving DecidableEq, Repr

/-- The text of a changed file, before and after. -/
structure FileChange where
  path : Text
  before : Text
  after : Text
deriving DecidableEq, Repr

structure MigrationReport where
  stats : MigrationStats
  /-- The changed files, if they are to be recorded. -/
  changes : List FileChange
deriving DecidableEq, Repr

/-- What a migration works with. -/
structure Migration where
  sites : SiteMap
  registry : Registry
  policy : Policy
  options : Cleanup.Options
  /-- Whether the texts of changed files are kept in the report. -/
  recordChanges : Bool

namespace Migration

/-- The new text of a file, and the number of changes. -/
def migrateText (m : Migration) (patches : List SitePatch) (content : Text) : Text × Nat :=
  let (patched, inserted) := SitePatch.applyAll content patches
  let (cleaned, substituted) := Cleanup.run m.registry m.policy m.options patched
  (cleaned, inserted + substituted)

/-- The state of a migration. -/
structure Progress where
  tree : FileTree
  report : MigrationReport

def Progress.count (p : Progress) (f : MigrationStats → MigrationStats) : Progress :=
  { p with report := { p.report with stats := f p.report.stats } }

def migrateFile (m : Migration) (p : Progress) (path : Text) : Progress :=
  let p := p.count fun s => { s with filesScanned := s.filesScanned + 1 }
  let patches := Site.patches m.registry m.policy (m.sites.sites path)
  if patches.isEmpty then p
  else
    let p := p.count fun s => { s with sites := s.sites + patches.length }
    -- The sites of a file count even if the file is skipped.
    let skip := p.count fun s => { s with skipped := s.skipped + 1 }
    match SourceFile.read p.tree path with
    | .error _ => skip
    | .ok source =>
        let (patched, changes) := m.migrateText patches source.content
        let source := source.setContent patched
        if !source.isModified then p
        else
          match source.commit p.tree with
          | .error _ => skip
          | .ok (tree, _) =>
              let counted := p.count fun s =>
                { s with
                  filesChanged := s.filesChanged + 1, substitutions := s.substitutions + changes }
              let recorded := if m.recordChanges
                then [⟨path, source.loaded, source.content⟩] else []
              ⟨tree, { counted.report with changes := counted.report.changes ++ recorded }⟩

/-- The report before anything was done. -/
def emptyReport : MigrationReport := ⟨⟨0, 0, 0, 0, 0⟩, []⟩

/-- **Migrates the sources below a root.** Without a known protocol nothing is done. -/
def run (m : Migration) (tree : FileTree) (root : Text) :
    Except Sources.Error (FileTree × MigrationReport) :=
  if m.registry.isEmpty then .ok (tree, emptyReport)
  else
    (Sources.list tree .projectOnly root).map fun files =>
      let p := files.foldl m.migrateFile ⟨tree, emptyReport⟩
      (p.tree, p.report)

end Migration

end SwiftExistential
