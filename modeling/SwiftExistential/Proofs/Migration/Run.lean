import Mathlib.Algebra.GroupWithZero.Nat
import SwiftExistential.Migration
import SwiftExistential.Proofs.FileTree.Reach
import SwiftExistential.Proofs.Guard.Admission
import SwiftExistential.Proofs.Sources.Listing

/-!
# What a migration changes

A file is rewritten if it has a site whose type names a known protocol, can be read as a text, and
the rewritten text is another one (`rewrite?`). What one step of a migration does is read off this,
from the tree in which the migration began: `IsAfter` says what holds after some files, and
`IsAfter.migrateFile` that one more file keeps it.

A migration goes through the listed sources one after the other. They are different files, so what
one step finds is what was there in the beginning (`isAfter_foldl`), and all that happens is told by
the tree before: each source has the bytes of its rewriting, everything else is as it was, and the
report counts the same rewritings (`run_spec`).

Checkouts of packages are only left alone where the walk over the sources does not come: in hidden
directories, and outside of the root. A checkout in a directory that the walk enters is migrated
like the project (`run_checkoutTree`).
-/

set_option autoImplicit false

namespace SwiftExistential.Migration

open FileTree (LeadsTo SameShape encode decode? locationOf)
open Sources (IsPlaceOf)

variable {m : Migration} {tree : FileTree} {file : Text} {location : Location}

/-! ## The rewriting of a file

The rewriting is a function of the bytes of a file and its sites. It says nothing of paths, and it
is none if nothing has to be written. -/

def patchesOf (m : Migration) (file : Text) : List SitePatch :=
  Site.patches m.registry m.policy (m.sites.sites file)

/-- Whether the type of a site in the file names a known protocol. -/
def touches (m : Migration) (file : Text) : Bool :=
  (m.sites.sites file).any fun site =>
    m.registry.pattern?.any fun protocol => site.typeText.any protocol.occursIn

/-- **How a file is rewritten**, if it is: its text is patched at the sites and cleaned up. The
number counts the keywords inserted and the substitutions made. -/
def rewrite? (m : Migration) (tree : FileTree) (file : Text) : Option (FileChange × Nat) :=
  if m.touches file then
    match tree.readText file with
    | .error _ => none
    | .ok before =>
        let patched := SitePatch.applyAll before (m.patchesOf file)
        let cleaned := Cleanup.run m.registry m.policy m.options patched.1
        if cleaned.1 = before then none
        else some (⟨file, before, cleaned.1⟩, patched.2 + cleaned.2)
  else none

/-- Whether a file has sites but is no text. -/
def skips (m : Migration) (tree : FileTree) (file : Text) : Bool :=
  m.touches file && decide (tree.readText file = .error .notText)

/-- **The report over some files.** -/
def reportOf (m : Migration) (tree : FileTree) (files : List Text) : MigrationReport :=
  let rewrites := files.filterMap (m.rewrite? tree)
  { stats :=
      { filesScanned := files.length
        filesChanged := rewrites.length
        sites := (files.map fun file => (m.patchesOf file).length).sum
        substitutions := (rewrites.map Prod.snd).sum
        skipped := files.countP (m.skips tree) }
    changes := if m.recordChanges then rewrites.map Prod.fst else [] }

/-- The bytes of a file after a migration. -/
def bytesAfter (m : Migration) (tree : FileTree) (file : Text) (bytes : ByteArray) : ByteArray :=
  match m.rewrite? tree file with
  | some (change, _) => encode change.after
  | none => bytes

/-- **There are patches if and only if the type of a site names a known protocol.** -/
theorem patchesOf_isEmpty (m : Migration) (file : Text) :
    (m.patchesOf file).isEmpty = !m.touches file := by
  rw [patchesOf, touches, Site.patches]
  cases hp : m.registry.pattern? with
  | none => simp
  | some protocol =>
      simp only [Option.any_some]
      induction m.sites.sites file with
      | nil => rfl
      | cons site sites ih =>
          rw [List.filterMap_cons, List.any_cons, Bool.not_or, ← ih, Site.patch?]
          cases site.typeText with
          | none => rfl
          | some typeText =>
              rw [Option.bind_some, Option.any_some, Pattern.occursIn]
              cases protocol.findIn? typeText <;> rfl

theorem touches_eq_false (h : m.registry.isEmpty = true) (file : Text) :
    m.touches file = false := by
  have hnone : m.registry.pattern? = none := if_pos h
  rw [touches, hnone]
  simp

theorem rewrite?_of_text (h : m.touches file = true) {before : Text}
    (hread : tree.readText file = .ok before) :
    m.rewrite? tree file =
      if (m.migrateText (m.patchesOf file) before).1 = before then none
      else some (⟨file, before, (m.migrateText (m.patchesOf file) before).1⟩,
        (m.migrateText (m.patchesOf file) before).2) := by
  rw [rewrite?, if_pos h, hread]
  rfl

theorem ne_of_rewrite? {change : FileChange} {count : Nat}
    (h : m.rewrite? tree file = some (change, count)) :
    ∃ before, tree.readText file = .ok before ∧ change.after ≠ before := by
  by_cases htouches : m.touches file = true
  · cases hread : tree.readText file with
    | error cause =>
        rw [rewrite?, if_pos htouches, hread] at h
        cases h
    | ok before =>
        rw [rewrite?_of_text htouches hread] at h
        split at h
        · cases h
        · rename_i hne
          cases h
          exact ⟨before, rfl, hne⟩
  · rw [rewrite?, if_neg htouches] at h
    cases h

/-! ## Reports

Reports are added up over the files. The report over files depends on the tree only through the
bytes of these files. -/

def addReport (a b : MigrationReport) : MigrationReport :=
  { stats :=
      { filesScanned := a.stats.filesScanned + b.stats.filesScanned
        filesChanged := a.stats.filesChanged + b.stats.filesChanged
        sites := a.stats.sites + b.stats.sites
        substitutions := a.stats.substitutions + b.stats.substitutions
        skipped := a.stats.skipped + b.stats.skipped }
    changes := a.changes ++ b.changes }

/-- The report over files in two groups is that over the one and that over the other. -/
theorem reportOf_append (m : Migration) (tree : FileTree) (files more : List Text) :
    m.reportOf tree (files ++ more) = addReport (m.reportOf tree files) (m.reportOf tree more) := by
  simp only [reportOf, addReport, List.filterMap_append, List.length_append, List.map_append,
    List.sum_append, List.countP_append]
  cases m.recordChanges <;> rfl

theorem rewrite?_congr {tree' : FileTree} (h : tree'.readText file = tree.readText file) :
    m.rewrite? tree' file = m.rewrite? tree file := by
  rw [rewrite?, rewrite?, h]

theorem reportOf_singleton_congr {tree' : FileTree} (h : tree'.readText file = tree.readText file) :
    m.reportOf tree' [file] = m.reportOf tree [file] := by
  have hskips : m.skips tree' file = m.skips tree file := by rw [skips, skips, h]
  simp only [reportOf, List.filterMap_cons, List.filterMap_nil, List.countP_cons, List.countP_nil,
    rewrite?_congr h, hskips]

/-! ## One step

Whatever a step meets, it goes on with the next file: a file without sites is passed over, and one
that is no text is counted as skipped. -/

/-- **What a step does to the tree**: the file changes if it is rewritten. -/
def treeAfter (m : Migration) (tree : FileTree) (file : Text) (location : Location) (mode : Nat) :
    FileTree :=
  match m.rewrite? tree file with
  | some (change, _) => tree.putNew location (encode change.after) mode
  | none => tree

@[simp] theorem count_tree (p : Progress) (f : MigrationStats → MigrationStats) :
    (p.count f).tree = p.tree := rfl

/-- Writing back is nothing if the text is the one that was read, and else a file in place of the
old one. -/
theorem commit_ofText {content : Text} {bytes : ByteArray} {mode : Nat}
    (hleads : LeadsTo tree file location) (hget : tree.get? location = some (.file bytes mode))
    {before : Text} (hne : content ≠ before) :
    ((SourceFile.ofText file before).setContent content).commit tree =
      .ok (tree.putNew location (encode content) mode, true) := by
  have hmodified : ((SourceFile.ofText file before).setContent content).isModified = true :=
    bne_iff_ne.mpr hne
  have hreplaced : tree.replaceFile file content =
      .ok (tree.putNew location (encode content) mode) := hleads.replaceFile_eq hget
  rw [SourceFile.commit, if_pos hmodified]
  exact congrArg _ hreplaced

section Step

variable {p : Progress} {bytes : ByteArray} {mode : Nat}

theorem migrateFile_of_not_touches (h : m.touches file = false) :
    m.migrateFile p file =
      ⟨m.treeAfter p.tree file location mode, addReport p.report (m.reportOf p.tree [file])⟩ := by
  have hempty : (m.patchesOf file).isEmpty = true := by rw [patchesOf_isEmpty, h]; rfl
  have hnil : m.patchesOf file = [] := List.isEmpty_iff.mp hempty
  rw [patchesOf] at hempty
  simp only [migrateFile, hempty, if_true]
  simp [treeAfter, reportOf, addReport, rewrite?, skips, h, Progress.count, hnil]

theorem migrateFile_of_not_text (h : m.touches file = true)
    (hread : p.tree.readText file = .error .notText) :
    m.migrateFile p file =
      ⟨m.treeAfter p.tree file location mode, addReport p.report (m.reportOf p.tree [file])⟩ := by
  have hempty : (m.patchesOf file).isEmpty = false := by rw [patchesOf_isEmpty, h]; rfl
  rw [patchesOf] at hempty
  simp only [migrateFile, hempty, Bool.false_eq_true, if_false, SourceFile.read, count_tree, hread]
  simp [treeAfter, reportOf, addReport, rewrite?, skips, h, hread, Progress.count, patchesOf]

theorem migrateFile_of_text (h : m.touches file = true) {before : Text}
    (hread : p.tree.readText file = .ok before) (hleads : LeadsTo p.tree file location)
    (hget : p.tree.get? location = some (.file bytes mode)) :
    m.migrateFile p file =
      ⟨m.treeAfter p.tree file location mode, addReport p.report (m.reportOf p.tree [file])⟩ := by
  have hempty : (m.patchesOf file).isEmpty = false := by rw [patchesOf_isEmpty, h]; rfl
  rw [patchesOf] at hempty
  have hskips : m.skips p.tree file = false := by simp [skips, hread]
  rw [migrateFile]
  simp only [hempty, Bool.false_eq_true, if_false, SourceFile.read, count_tree, hread]
  -- An unchanged text is not committed; a changed one is written, because the file could be read.
  by_cases hsame : (m.migrateText (m.patchesOf file) before).1 = before
  · have hnone : m.rewrite? p.tree file = none := by rw [rewrite?_of_text h hread, if_pos hsame]
    have hunmodified : ((SourceFile.ofText file before).setContent
        (m.migrateText (m.patchesOf file) before).1).isModified = false := by
      rw [hsame]
      exact bne_self_eq_false before
    rw [patchesOf] at hunmodified
    simp only [SourceFile.ofText] at hunmodified ⊢
    simp [hunmodified, treeAfter, hnone, reportOf, addReport, hskips, Progress.count, patchesOf]
  · have hsome : m.rewrite? p.tree file =
        some (⟨file, before, (m.migrateText (m.patchesOf file) before).1⟩,
          (m.migrateText (m.patchesOf file) before).2) := by
      rw [rewrite?_of_text h hread, if_neg hsame]
    have hmodified : ((SourceFile.ofText file before).setContent
        (m.migrateText (m.patchesOf file) before).1).isModified = true := bne_iff_ne.mpr hsame
    have hcommit := commit_ofText hleads hget hsame
    rw [patchesOf] at hmodified hcommit
    simp only [SourceFile.ofText, SourceFile.setContent] at hmodified hcommit ⊢
    simp [hmodified, hcommit, treeAfter, hsome, reportOf, addReport, hskips, Progress.count,
      patchesOf]

/-- **One step**, if the path leads to a file. -/
theorem migrateFile_eq (hleads : LeadsTo p.tree file location)
    (hget : p.tree.get? location = some (.file bytes mode)) :
    m.migrateFile p file =
      ⟨m.treeAfter p.tree file location mode, addReport p.report (m.reportOf p.tree [file])⟩ := by
  have hread := hleads.readText_eq hget
  by_cases h : m.touches file = true
  · cases hdecoded : decode? bytes with
    | none =>
        rw [hdecoded] at hread
        exact migrateFile_of_not_text h hread
    | some before =>
        rw [hdecoded] at hread
        exact migrateFile_of_text h hread hleads hget
  · exact migrateFile_of_not_touches (Bool.not_eq_true _ ▸ h)

end Step

section Files

variable {files : List Text}

/-! ## After some files -/

/-- **What holds after some files**, seen from the tree in which the migration began. -/
structure IsAfter (m : Migration) (tree : FileTree) (files : List Text) (p : Progress) : Prop where
  report : p.report = m.reportOf tree files
  shape : SameShape tree p.tree
  changed : ∀ file ∈ files, ∀ location bytes mode, LeadsTo tree file location →
    tree.get? location = some (.file bytes mode) →
      p.tree.get? location = some (.file (m.bytesAfter tree file bytes) mode)
  kept : ∀ location, (∀ file ∈ files, ¬ LeadsTo tree file location) →
    p.tree.get? location = tree.get? location

theorem isAfter_nil (m : Migration) (tree : FileTree) :
    IsAfter m tree [] ⟨tree, emptyReport⟩ := by
  refine ⟨?_, .refl tree, by simp, fun _ _ => rfl⟩
  rw [reportOf]
  cases m.recordChanges <;> rfl

theorem get?_treeAfter (m : Migration) (file : Text) {bytes : ByteArray} {mode : Nat}
    (hget : tree.get? location = some (.file bytes mode)) (other : Location) :
    (m.treeAfter tree file location mode).get? other =
      if location = other then some (.file (m.bytesAfter tree file bytes) mode)
      else tree.get? other := by
  have hne : location ≠ [] := by
    rintro rfl
    cases hget
  rw [treeAfter, bytesAfter]
  cases m.rewrite? tree file with
  | none =>
      simp only
      split
      · rename_i heq
        rw [← heq, hget]
      · rfl
  | some rewritten => exact FileTree.get?_putNew tree other _ _ hne

/-- **One more file.** It is another one than those before, so it is as it was in the beginning. -/
theorem IsAfter.migrateFile {p : Progress} (h : IsAfter m tree files p)
    (hleads : LeadsTo tree file location) (hfresh : ∀ other ∈ files, ¬ LeadsTo tree other location) :
    IsAfter m tree (files ++ [file]) (m.migrateFile p file) := by
  obtain ⟨bytes, mode, hget⟩ := hleads.exists_file
  have hsame : p.tree.get? location = some (.file bytes mode) := (h.kept location hfresh).trans hget
  have hleads' := hleads.of_sameShape h.shape
  have hread : p.tree.readText file = tree.readText file := by
    rw [hleads'.readText_eq hsame, hleads.readText_eq hget]
  have hbytes : m.bytesAfter p.tree file bytes = m.bytesAfter tree file bytes := by
    rw [bytesAfter, bytesAfter, rewrite?_congr hread]
  rw [migrateFile_eq hleads' hsame]
  have hafter := get?_treeAfter m file hsame
  rw [hbytes] at hafter
  constructor
  · rw [h.report, reportOf_singleton_congr hread, ← reportOf_append]
  · refine ⟨?_, fun other => ?_⟩
    · rw [treeAfter]
      cases m.rewrite? p.tree file <;> exact h.shape.current
    · rw [hafter other]
      split
      · rename_i heq
        exact .inr ⟨⟨bytes, mode, heq ▸ hget⟩, _, _, rfl⟩
      · exact h.shape.get? other
  · refine List.forall_mem_append.mpr ⟨fun other hother place bytes' mode' hplace hfound => ?_, ?_⟩
    · -- an earlier file is elsewhere
      have hne : location ≠ place := fun heq => hfresh other hother (heq ▸ hplace)
      rw [hafter, if_neg hne, h.changed other hother place bytes' mode' hplace hfound]
    · intro other hother place bytes' mode' hplace hfound
      obtain rfl := List.mem_singleton.mp hother
      obtain rfl := hleads.unique hplace
      obtain ⟨rfl, rfl⟩ := Node.file.inj (Option.some.inj (hget.symm.trans hfound))
      rw [hafter, if_pos rfl]
  · intro place hplace
    obtain ⟨hbefore, hfile⟩ := List.forall_mem_append.mp hplace
    have hne : location ≠ place := fun heq =>
      hfile file (List.mem_singleton_self file) (heq ▸ hleads)
    rw [hafter, if_neg hne, h.kept place hbefore]

/-- **All files in turn**, if they are different ones. -/
theorem isAfter_foldl (hleads : ∀ file ∈ files, ∃ location, LeadsTo tree file location)
    (hdifferent : files.Pairwise fun file file' =>
      ∀ location, LeadsTo tree file location → ¬ LeadsTo tree file' location) :
    IsAfter m tree files (files.foldl m.migrateFile ⟨tree, emptyReport⟩) := by
  induction files using List.reverseRecOn with
  | nil => exact isAfter_nil m tree
  | append_singleton files file ih =>
      obtain ⟨hbefore, hfile⟩ := List.forall_mem_append.mp hleads
      obtain ⟨hpairwise, -, hfresh⟩ := List.pairwise_append.mp hdifferent
      obtain ⟨location, hlocation⟩ := hfile file (List.mem_singleton_self file)
      rw [List.foldl_append]
      refine (ih hbefore hpairwise).migrateFile hlocation fun other hother hleads => ?_
      exact hfresh other hother file (List.mem_singleton_self file) location hleads hlocation

/-! ## A whole migration -/

/-- The file to which a path leads, if its bytes can be read and it is listed. -/
theorem leadsTo_of_readBytes {scope : SourceScope} {root : Text} (hplain : tree.HasPlainNames)
    (hfiles : Sources.list tree scope root = .ok files) (hfile : file ∈ files)
    (hread : ∃ bytes, tree.readBytes file = .ok bytes) :
    ∃ location, LeadsTo tree file location ∧ IsPlaceOf tree scope root file location := by
  obtain ⟨bytes, hbytes⟩ := hread
  rw [FileTree.readBytes] at hbytes
  cases hfind : tree.find file with
  | error cause => rw [hfind] at hbytes; cases hbytes
  | ok found => exact ⟨found.1, Sources.leadsTo_of_mem_list hplain hfiles hfile hfind⟩

/-- A file is rewritten if and only if its bytes are other ones afterwards. -/
theorem isSome_rewrite?_iff {bytes : ByteArray} {mode : Nat} (hleads : LeadsTo tree file location)
    (hget : tree.get? location = some (.file bytes mode)) :
    (m.rewrite? tree file).isSome = true ↔ m.bytesAfter tree file bytes ≠ bytes := by
  rw [bytesAfter]
  cases hrewrite : m.rewrite? tree file with
  | none => simp
  | some rewritten =>
      obtain ⟨change, count⟩ := rewritten
      refine iff_of_true rfl fun hsame => ?_
      -- the old bytes are those of the old text, and the new text is another one
      obtain ⟨before, hread, hne⟩ := ne_of_rewrite? hrewrite
      rw [hleads.readText_eq hget, ← hsame] at hread
      simp only [FileTree.decode?_encode, Except.ok.injEq] at hread
      exact hne hread

/-- **What a migration spares.** Some places keep what stood there if and only if no file at one of
them is rewritten: a place that no file leads to is kept anyway, and a rewritten file has other
bytes than before. -/
theorem keeps_iff {tree' : FileTree} (P : Location → Prop)
    (hleads : ∀ file ∈ files, ∃ location, LeadsTo tree file location)
    (hchanged : ∀ file ∈ files, ∀ location bytes mode, LeadsTo tree file location →
      tree.get? location = some (.file bytes mode) →
        tree'.get? location = some (.file (m.bytesAfter tree file bytes) mode))
    (hkept : ∀ location, (∀ file ∈ files, ¬ LeadsTo tree file location) →
      tree'.get? location = tree.get? location) :
    (∀ location, P location → tree'.get? location = tree.get? location) ↔
      ∀ file ∈ files, ∀ location node, tree.find file = .ok (location, node) →
        P location → m.rewrite? tree file = none := by
  constructor
  · intro hspared file hfile location node hfind hplace
    obtain ⟨place, hleads⟩ := hleads file hfile
    obtain ⟨bytes, mode, hget⟩ := hleads.exists_file
    rw [hleads.find_eq hget] at hfind
    obtain rfl : place = location := congrArg Prod.fst (Except.ok.inj hfind)
    have hafter := hchanged file hfile place bytes mode hleads hget
    rw [hspared place hplace, hget] at hafter
    have hsame : bytes = m.bytesAfter tree file bytes :=
      (Node.file.inj (Option.some.inj hafter)).1
    by_contra hne
    exact (isSome_rewrite?_iff hleads hget).mp (Option.isSome_iff_ne_none.mpr hne) hsame.symm
  · intro hnone location hplace
    by_cases hother : ∀ file ∈ files, ¬ LeadsTo tree file location
    · exact hkept location hother
    · obtain ⟨file, hfile, hleads⟩ : ∃ file ∈ files, LeadsTo tree file location := by
        simpa using hother
      obtain ⟨bytes, mode, hget⟩ := hleads.exists_file
      rw [hchanged file hfile location bytes mode hleads hget, hget, bytesAfter,
        hnone file hfile location _ (hleads.find_eq hget) hplace]

/-- With a known protocol, all listed files are migrated in turn. -/
theorem run_of_list {root : Text} (hknown : m.registry.isEmpty = false)
    (hfiles : Sources.list tree .projectOnly root = .ok files) :
    m.run tree root =
      .ok ((files.foldl m.migrateFile ⟨tree, emptyReport⟩).tree,
        (files.foldl m.migrateFile ⟨tree, emptyReport⟩).report) := by
  rw [run, if_neg (Bool.eq_false_iff.mp hknown), hfiles]
  rfl

theorem exists_run {root : Text} (hplain : tree.HasPlainNames)
    (hfiles : Sources.list tree .projectOnly root = .ok files)
    (hleads : ∀ file ∈ files, ∃ location, LeadsTo tree file location) :
    ∃ tree', m.run tree root =
        .ok (tree', m.reportOf tree (if m.registry.isEmpty then [] else files)) ∧
      (∀ file ∈ files, ∀ location bytes mode, LeadsTo tree file location →
        tree.get? location = some (.file bytes mode) →
          tree'.get? location = some (.file (m.bytesAfter tree file bytes) mode)) ∧
      ∀ location, (∀ file ∈ files, ¬ LeadsTo tree file location) →
        tree'.get? location = tree.get? location := by
  by_cases hempty : m.registry.isEmpty = true
  · refine ⟨tree, ?_, fun file _ location bytes mode _ hget => ?_, fun _ _ => rfl⟩
    · rw [run, if_pos hempty, if_pos hempty, ← (isAfter_nil m tree).report]
    · have hnone : m.rewrite? tree file = none := by
        rw [rewrite?, touches_eq_false hempty, if_neg Bool.false_ne_true]
      rw [bytesAfter, hnone, hget]
  · have hdifferent : files.Pairwise fun file file' =>
        ∀ location, LeadsTo tree file location → ¬ LeadsTo tree file' location :=
      (Sources.nodup_list hplain hfiles).imp_of_mem fun hfile hfile' hne location h h' =>
        hne (Sources.eq_of_leadsTo hplain hfiles hfile hfile' h h')
    have hafter := isAfter_foldl (m := m) hleads hdifferent
    refine ⟨_, ?_, hafter.changed, hafter.kept⟩
    rw [if_neg hempty, ← hafter.report]
    exact run_of_list (Bool.eq_false_iff.mpr hempty) hfiles

/-- **What a migration changes.** -/
theorem run_spec (m : Migration) (tree : FileTree) (root : Text) (files : List Text)
    (hplain : tree.HasPlainNames) (hfiles : Sources.list tree .projectOnly root = .ok files)
    (hread : ∀ file ∈ files, ∃ bytes, tree.readBytes file = .ok bytes) :
    ∃ tree', m.run tree root =
        .ok (tree', m.reportOf tree (if m.registry.isEmpty then [] else files)) ∧
      (∀ file ∈ files, ∃ location bytes mode,
        tree.find file = .ok (location, .file bytes mode) ∧
        IsPlaceOf tree .projectOnly root file location ∧
        tree'.get? location = some (.file (m.bytesAfter tree file bytes) mode) ∧
        ((m.rewrite? tree file).isSome = true ↔ m.bytesAfter tree file bytes ≠ bytes)) ∧
      (∀ location, (∀ file ∈ files, ∀ node, tree.find file ≠ .ok (location, node)) →
        tree'.get? location = tree.get? location) ∧
      (files.Pairwise fun a b => compare (Path.components a) (Path.components b) = .lt) ∧
      ((∀ location, InCheckout location → tree'.get? location = tree.get? location) ↔
        ∀ file ∈ files, ∀ location node, tree.find file = .ok (location, node) →
          InCheckout location → m.rewrite? tree file = none) := by
  -- Every listed file can be read, so it leads to a file, and to one that the walk has met.
  have hplaces : ∀ file ∈ files, ∃ location, LeadsTo tree file location ∧
      IsPlaceOf tree .projectOnly root file location := fun file hfile =>
    leadsTo_of_readBytes hplain hfiles hfile (hread file hfile)
  have hleads : ∀ file ∈ files, ∃ location, LeadsTo tree file location :=
    fun file hfile => (hplaces file hfile).imp fun _ => And.left
  have hsorted := Sources.pairwise_list hplain hfiles
  obtain ⟨tree', hrun, hchanged, hkept⟩ := exists_run (m := m) hplain hfiles hleads
  refine ⟨tree', hrun, fun file hfile => ?_, fun location hother => ?_, hsorted,
    keeps_iff InCheckout hleads hchanged hkept⟩
  · obtain ⟨location, hleads, hplace⟩ := hplaces file hfile
    obtain ⟨bytes, mode, hget⟩ := hleads.exists_file
    exact ⟨location, bytes, mode, hleads.find_eq hget, hplace,
      hchanged file hfile location bytes mode hleads hget, isSome_rewrite?_iff hleads hget⟩
  · refine hkept location fun file hfile hleads => ?_
    obtain ⟨bytes, mode, hfind⟩ := hleads.find
    exact hother file hfile _ hfind

end Files

/-! ## Checkouts among the sources

Two projects show both sides: one with a source and a hidden checkout, and one with a checkout in a
directory that the walk enters. -/

def declarationText : Text := "protocol Worker \x7b\x7d\n".toList

def useText : Text := "let w: Worker\n".toList

/-- A migration that knows the protocol and its use in one file. -/
def useMigration (path : Text) : Migration where
  sites := ⟨[(Path.components path,
    [⟨0, "source.lang.swift.decl.var.local".toList, some "Worker".toList⟩])]⟩
  registry := Registry.empty.insert "Worker".toList (.file "Worker.swift".toList)
  policy := .ofClasses []
  options := ⟨[], 1⟩
  recordChanges := true

/-- A project that uses its protocol in a file of its own, with a package in a hidden directory. -/
def plainTree : FileTree := .ofEntries [
  (locationOf "proj/.build/checkouts/Dep/F.swift", .file (encode useText) 0o644),
  (locationOf "proj/Use.swift", .file (encode useText) 0o644),
  (locationOf "proj/Worker.swift", .file (encode declarationText) 0o644)]

/-- The file is rewritten, and the package is as it was. -/
theorem run_spec_of_plainTree :
    plainTree.HasPlainNames ∧
    Sources.list plainTree .projectOnly "/proj".toList =
      .ok ["/proj/Use.swift".toList, "/proj/Worker.swift".toList] ∧
    ∃ tree' report, (useMigration "/proj/Use.swift".toList).run plainTree "/proj".toList =
        .ok (tree', report) ∧
      report = ⟨⟨2, 1, 1, 1, 0⟩,
        [⟨"/proj/Use.swift".toList, useText, "let w: any Worker\n".toList⟩]⟩ ∧
      tree'.get? (locationOf "proj/Use.swift") =
        some (.file (encode "let w: any Worker\n".toList) 0o644) ∧
      tree'.get? (locationOf "proj/.build/checkouts/Dep/F.swift") =
        plainTree.get? (locationOf "proj/.build/checkouts/Dep/F.swift") := by
  -- The fixed tree is evaluated in small closed facts: the walk, the look-ups and the texts. The
  -- general theorem puts them together.
  obtain ⟨hplain, hroot, hbelow, hsorted, hpaths⟩ : plainTree.HasPlainNames ∧
      plainTree.find "/proj".toList = .ok (["proj".toList], .directory) ∧
      Sources.below plainTree .projectOnly (Sources.depthBound plainTree) ["proj".toList] =
        [["Use.swift".toList], ["Worker.swift".toList]] ∧
      [["Use.swift".toList], ["Worker.swift".toList]].Pairwise (fun a b => (compare a b).isLE) ∧
      [["Use.swift".toList], ["Worker.swift".toList]].map (Sources.pathOf "/proj".toList) =
        ["/proj/Use.swift".toList, "/proj/Worker.swift".toList] := by
    unfold plainTree useText declarationText locationOf
    repeat rewrite [String.toList_ofList]
    decide +kernel
  obtain ⟨huse, hworker, hother⟩ : plainTree.find "/proj/Use.swift".toList =
        .ok (locationOf "proj/Use.swift", .file (encode useText) 0o644) ∧
      plainTree.readBytes "/proj/Worker.swift".toList = .ok (encode declarationText) ∧
      ∀ file ∈ ["/proj/Use.swift".toList, "/proj/Worker.swift".toList],
        (plainTree.find file).map Prod.fst ≠
          .ok (locationOf "proj/.build/checkouts/Dep/F.swift") := by
    unfold plainTree useText declarationText locationOf
    repeat rewrite [String.toList_ofList]
    decide +kernel
  obtain ⟨hreport, hafter⟩ :
      (useMigration "/proj/Use.swift".toList).reportOf plainTree
          ["/proj/Use.swift".toList, "/proj/Worker.swift".toList] =
        ⟨⟨2, 1, 1, 1, 0⟩,
          [⟨"/proj/Use.swift".toList, useText, "let w: any Worker\n".toList⟩]⟩ ∧
      (useMigration "/proj/Use.swift".toList).bytesAfter plainTree "/proj/Use.swift".toList
          (encode useText) = encode "let w: any Worker\n".toList := by
    unfold plainTree useMigration useText declarationText locationOf
    repeat rewrite [String.toList_ofList]
    decide +kernel
  have hfiles : Sources.list plainTree .projectOnly "/proj".toList =
      .ok ["/proj/Use.swift".toList, "/proj/Worker.swift".toList] :=
    hpaths ▸ Sources.list_of_directory hroot hbelow hsorted
  have hread : ∀ file ∈ ["/proj/Use.swift".toList, "/proj/Worker.swift".toList],
      ∃ bytes, plainTree.readBytes file = .ok bytes :=
    List.forall_mem_cons.mpr ⟨⟨encode useText, by rw [FileTree.readBytes, huse]⟩,
      List.forall_mem_singleton.mpr ⟨encode declarationText, hworker⟩⟩
  obtain ⟨tree', hrun, hchanged, hkept, -⟩ :=
    run_spec (useMigration "/proj/Use.swift".toList) plainTree "/proj".toList _ hplain hfiles hread
  refine ⟨hplain, hfiles, tree', _, hrun, hreport, ?_, ?_⟩
  · obtain ⟨location, bytes, mode, hplace, -, hget, -⟩ := hchanged _ List.mem_cons_self
    rw [huse] at hplace
    cases hplace
    rw [hget, hafter]
  · exact hkept _ fun file hfile node hplace => hother file hfile (by rw [hplace]; rfl)

/-- A project that uses its protocol in the checkout of a package, in a directory that is not
hidden. -/
def checkoutTree : FileTree := .ofEntries [
  (locationOf "proj/SourcePackages/checkouts/Dep/F.swift", .file (encode useText) 0o644),
  (locationOf "proj/Worker.swift", .file (encode declarationText) 0o644)]

/-- **A checkout below the root is rewritten** like the sources of the project. -/
theorem run_checkoutTree :
    InCheckout (locationOf "proj/SourcePackages/checkouts/Dep/F.swift") ∧
    checkoutTree.get? (locationOf "proj/SourcePackages/checkouts/Dep/F.swift") =
      some (.file (encode useText) 0o644) ∧
    ∃ tree' report,
      (useMigration "/proj/SourcePackages/checkouts/Dep/F.swift".toList).run checkoutTree
        "/proj".toList = .ok (tree', report) ∧
      report.stats = ⟨2, 1, 1, 1, 0⟩ ∧
      tree'.get? (locationOf "proj/SourcePackages/checkouts/Dep/F.swift") =
        some (.file (encode "let w: any Worker\n".toList) 0o644) ∧
      encode "let w: any Worker\n".toList ≠ encode useText := by
  obtain ⟨hroot, hbelow, hsorted, hpaths⟩ :
      checkoutTree.find "/proj".toList = .ok (["proj".toList], .directory) ∧
      Sources.below checkoutTree .projectOnly (Sources.depthBound checkoutTree) ["proj".toList] =
        [["SourcePackages".toList, "checkouts".toList, "Dep".toList, "F.swift".toList],
          ["Worker.swift".toList]] ∧
      [["SourcePackages".toList, "checkouts".toList, "Dep".toList, "F.swift".toList],
        ["Worker.swift".toList]].Pairwise (fun a b => (compare a b).isLE) ∧
      [["SourcePackages".toList, "checkouts".toList, "Dep".toList, "F.swift".toList],
          ["Worker.swift".toList]].map (Sources.pathOf "/proj".toList) =
        ["/proj/SourcePackages/checkouts/Dep/F.swift".toList, "/proj/Worker.swift".toList] := by
    unfold checkoutTree useText declarationText locationOf
    repeat rewrite [String.toList_ofList]
    decide +kernel
  obtain ⟨hplace, hholder⟩ :
      locationOf "proj/SourcePackages/checkouts/Dep/F.swift" =
        ["proj".toList] ++ "SourcePackages".toList :: "checkouts".toList :: "Dep".toList ::
          ["F.swift".toList] ∧ "SourcePackages".toList ∈ checkoutParents := by
    unfold locationOf
    repeat rewrite [String.toList_ofList]
    decide +kernel
  -- The look-ups are evaluated one at a time; `run_of_list` makes the run out of the listing.
  have hfiles : Sources.list checkoutTree .projectOnly "/proj".toList =
      .ok ["/proj/SourcePackages/checkouts/Dep/F.swift".toList, "/proj/Worker.swift".toList] :=
    hpaths ▸ Sources.list_of_directory hroot hbelow hsorted
  have hget : checkoutTree.get? (locationOf "proj/SourcePackages/checkouts/Dep/F.swift") =
      some (.file (encode useText) 0o644) := by
    unfold checkoutTree useText declarationText locationOf
    repeat rewrite [String.toList_ofList]
    decide +kernel
  refine ⟨⟨_, _, _, _, hplace, hholder⟩, hget, _, _, run_of_list rfl hfiles, ?_⟩
  unfold checkoutTree useMigration useText declarationText locationOf
  repeat rewrite [String.toList_ofList]
  decide +kernel

end SwiftExistential.Migration
