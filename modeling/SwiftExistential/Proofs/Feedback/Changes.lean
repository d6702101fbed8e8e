import SwiftExistential.Proofs.Feedback.Convergence
import SwiftExistential.Proofs.Feedback.Invariant

/-!
# What a verification changes

A build may write what it likes, but suppose that it spares some files. Then a whole verification
records the state of the project before it changes the first of them, once and no more, and exactly
if the guard admits a file that a diagnostic names. A build that misses a header gets a link to
another one, where nothing stood.

Which of the spared files change is told by the paths that the guard admits. The guard looks at a
path before the state of the project is recorded, and the file is patched after that, at the same
path. If the record puts no link in its way (`KeepsPath`), then it is the admitted file that is
patched, and all other spared files stay as they are, with one exception: a file of a dependency is
made writable first, and a mode belongs to the file, so every other name of the file shows the new
mode too, over the old bytes (`changes_are_admitted`).

A record that does put a link there lets the verification loose on another file: its mode is set
through the link, although the guard has never seen it (`linked_neighbour_is_changed`).
-/

set_option autoImplicit false

namespace SwiftExistential.Feedback

open FileTree (HasNoLink IsSpared OnlyModeSet SameAt locationOf)

variable {σ : Type}

/-! ## Build systems that spare files -/

/-- **A build system that leaves what stands at some locations as it is**, with its mode. -/
structure Spares (b : BuildSystem σ) (kept : Location → Prop) : Prop where
  build : ∀ s tree location, kept location → SameAt tree (b.build s tree).2.2 location
  compile : ∀ command s tree location, kept location →
    SameAt tree (b.compile command s tree).2.2 location
  checkpoint : ∀ s tree location, kept location → SameAt tree (b.checkpoint s tree).2.2 location

/-- **A verification that keeps the path of the file it begins with**, from where it stands: when
the first file is admitted, the record of the project's state puts no link in the place of this
file, and none above it. -/
def KeepsPath (b : BuildSystem σ) (settings : Settings) (p : Phase × State σ) : Prop :=
  ∀ file s location owner, Turn b settings p file s → s.checkpointed = false →
    settings.guard.validate s.tree file = .ok (location, owner) →
      HasNoLink (b.checkpoint s.build s.tree).2.2 location

/-- The path of an admitted file is kept if the file is spared, with all that is above it. -/
theorem Spares.keepsPath {b : BuildSystem σ} {kept : Location → Prop} {settings : Settings}
    {p : Phase × State σ} (hb : Spares b kept)
    (hkept : ∀ file location, Admits b settings p file location →
      ∀ above, above <+: location → kept above) : KeepsPath b settings p := by
  intro file s location owner hturn _ h above habove target hlink
  have hsame := hb.checkpoint s.build s.tree above
    (hkept file location ⟨s, owner, hturn, h⟩ above habove)
  rw [hsame.get?_eq] at hlink
  exact (Guard.isCanonical_of_validate h).hasNoLink above habove target hlink

/-- A build system that writes nothing spares all files. -/
theorem spares_of_eq {b : BuildSystem σ} (hbuild : ∀ s tree, (b.build s tree).2.2 = tree)
    (hcompile : ∀ command s tree, (b.compile command s tree).2.2 = tree)
    (hcheckpoint : ∀ s tree, (b.checkpoint s tree).2.2 = tree) (kept : Location → Prop) :
    Spares b kept where
  build s tree location _ := by rw [hbuild]; exact .refl tree location
  compile command s tree location _ := by rw [hcompile]; exact .refl tree location
  checkpoint s tree location _ := by rw [hcheckpoint]; exact .refl tree location

/-! ## Records of the tree -/

/-- **A build system that keeps the tree of each record of the project's state**, the latest last.
-/
def watched (b : BuildSystem σ) : BuildSystem (σ × List FileTree) where
  build s tree :=
    let (result, next, tree') := b.build s.1 tree
    (result, (next, s.2), tree')
  compile command s tree :=
    let (result, next, tree') := b.compile command s.1 tree
    (result, (next, s.2), tree')
  checkpoint s tree :=
    let (result, next, tree') := b.checkpoint s.1 tree
    (result, (next, s.2 ++ [tree]), tree')
  invocations s := b.invocations s.1

theorem isView_watched (b : BuildSystem σ) : IsView Prod.fst (watched b) b where
  build _ _ := rfl
  compile _ _ _ := rfl
  checkpoint _ _ := rfl
  invocations _ := rfl

/-- The trees at the records of the project's state in a verification. -/
def recordedTrees (b : BuildSystem σ) (settings : Settings) (s : State σ) : List FileTree :=
  (run (watched b) settings (s.view fun build => (build, []))).2.build.2

/-! ## The record of the project's state -/

/-- **What holds of the records in every state of a verification**, seen from its first tree: none
of the kept files has changed before the state of the project was recorded, and this was done once,
and not without a reason. -/
structure RecordsFirst (tree : FileTree) (kept admitted : Location → Prop)
    (s : State (σ × List FileTree)) : Prop where
  unrecorded : s.checkpointed = false →
    s.build.2 = [] ∧ ∀ location, kept location → IsSpared tree s.tree location
  recorded : s.checkpointed = true →
    (∃ location, admitted location) ∧
      ∃ first, s.build.2 = [first] ∧ ∀ location, kept location → IsSpared tree first location

section Records

variable {b : BuildSystem σ} {settings : Settings} {tree : FileTree}
  {kept admitted : Location → Prop} {s s' : State (σ × List FileTree)}

theorem RecordsFirst.of_isSpared (h : RecordsFirst tree kept admitted s)
    (hflag : s'.checkpointed = s.checkpointed) (hbuild : s'.build.2 = s.build.2)
    (htree : ∀ location, kept location → IsSpared s.tree s'.tree location) :
    RecordsFirst tree kept admitted s' where
  unrecorded hnone := by
    rw [hflag] at hnone
    obtain ⟨hempty, hspared⟩ := h.unrecorded hnone
    exact ⟨hbuild.trans hempty,
      fun location hkept => (hspared location hkept).trans (htree location hkept)⟩
  recorded hsome := by
    rw [hflag] at hsome
    rw [hbuild]
    exact h.recorded hsome

theorem RecordsFirst.of_recorded (h : RecordsFirst tree kept admitted s)
    (hflag : s.checkpointed = true) (hflag' : s'.checkpointed = true)
    (hbuild : s'.build.2 = s.build.2) : RecordsFirst tree kept admitted s' where
  unrecorded hnone := by rw [hflag'] at hnone; cases hnone
  recorded _ := hbuild ▸ h.recorded hflag

/-- **What the records say at the end**, once every admission has led to one: there is one record at
most, there is one exactly if a file was admitted, and the kept files were as before. -/
theorem RecordsFirst.recorded_iff (h : RecordsFirst tree kept admitted s)
    (hflag : (∃ location, admitted location) → s.checkpointed = true) :
    (s.build.2.length ≤ 1 ∧ (s.build.2 ≠ [] ↔ ∃ location, admitted location)) ∧
      ∀ t ∈ s.build.2, ∀ location, kept location → IsSpared tree t location := by
  cases hdone : s.checkpointed with
  | false =>
      have hnone : ¬ ∃ location, admitted location := by
        intro hsome
        rw [hflag hsome] at hdone
        cases hdone
      rw [(h.unrecorded hdone).1]
      exact ⟨⟨Nat.zero_le 1, fun hne => absurd rfl hne, fun hsome => absurd hsome hnone⟩,
        fun t ht => absurd ht List.not_mem_nil⟩
  | true =>
      obtain ⟨hreason, first, hfirst, hspared⟩ := h.recorded hdone
      rw [hfirst]
      refine ⟨⟨Nat.le_refl 1, fun _ => hreason, fun _ => List.cons_ne_nil _ _⟩, fun t ht => ?_⟩
      rw [List.mem_singleton.mp ht]
      exact hspared

/-- Reading an output changes nothing but a registry, and perhaps repairs a header. -/
theorem readOutput_snd (s : State σ) (lines : List Text) :
    ∃ tree registry, (readOutput s lines).2 = { s with tree := tree, registry := registry } ∧
      ∀ location, IsSpared s.tree tree location := by
  rw [Feedback.readOutput]
  split
  · exact ⟨s.tree, _, rfl, fun location => .refl s.tree location⟩
  · refine ⟨_, _, rfl, fun location => ?_⟩
    split
    · rename_i hrepair
      exact FileTree.isSpared_of_repair hrepair location
    · exact .refl s.tree location

theorem RecordsFirst.checkpointOnce (h : RecordsFirst tree kept admitted s)
    (hreason : ∃ location, admitted location) :
    RecordsFirst tree kept admitted (Feedback.checkpointOnce (watched b) s) := by
  cases hflag : s.checkpointed with
  | true =>
      rw [Feedback.checkpointOnce, if_pos hflag]
      exact h
  | false =>
      obtain ⟨hempty, hspared⟩ := h.unrecorded hflag
      have hdone := checkpointOnce_checkpointed (watched b) s
      refine ⟨fun hnone => ?_, fun _ => ⟨hreason, s.tree, ?_, hspared⟩⟩
      · rw [hdone] at hnone
        cases hnone
      · rw [Feedback.checkpointOnce, hflag]
        exact congrArg (· ++ [s.tree]) hempty

theorem RecordsFirst.patchFile (h : RecordsFirst tree kept admitted s) (fixups : List Fixup)
    (file : Text)
    (hadmitted : ∀ location owner, settings.guard.validate s.tree file = .ok (location, owner) →
      admitted location) :
    RecordsFirst tree kept admitted (Feedback.patchFile (watched b) settings fixups s file) := by
  cases hvalidate : settings.guard.validate s.tree file with
  | error e =>
      rw [patchFile_of_refused hvalidate]
      exact h
  | ok found =>
      obtain ⟨location, owner⟩ := found
      have hrecorded := h.checkpointOnce (b := b) ⟨location, hadmitted location owner hvalidate⟩
      have hdone := checkpointOnce_checkpointed (watched b) s
      obtain ⟨patched, manifests, -, hpatch⟩ :=
        exists_patchFile_eq (b := watched b) hvalidate fixups
      rw [hpatch]
      exact hrecorded.of_recorded hdone hdone rfl

/-- **Every step of a verification keeps its records in order**, if the build spares the kept files.
-/
theorem isInvariant_recordsFirst (hb : Spares b kept) (settings : Settings) (tree : FileTree)
    (admitted : Location → Prop) :
    IsInvariant (watched b) settings
      (fun file s => ∀ location owner, settings.guard.validate s.tree file = .ok (location, owner) →
        admitted location) (RecordsFirst tree kept admitted) where
  build s h := h.of_isSpared rfl rfl fun location hkept =>
    .inl (hb.build s.build.1 s.tree location hkept)
  compile command s h := h.of_isSpared rfl rfl fun location hkept =>
    .inl (hb.compile command s.build.1 s.tree location hkept)
  read s lines h := by
    obtain ⟨read, registry, hread, hspared⟩ := readOutput_snd s lines
    rw [hread]
    exact h.of_isSpared rfl rfl fun location _ => hspared location
  patch fixups file _ hadmitted h := h.patchFile fixups file hadmitted
  count s _ h := h.of_isSpared rfl rfl fun location _ => .refl s.tree location

end Records

/-! ## The kept files -/

/-- **What may have become of a location**: it is as it was, or it is admitted, or it shares the new
mode of an admitted one. -/
def IsExplained (admitted named : Location → Prop) (t t' : FileTree) (location : Location) : Prop :=
  IsSpared t t' location ∨ admitted location ∨
    named location ∧ OnlyModeSet writableMode t t' location

/-- What the turn of a file brings: its place is an admitted one with no link in the way, and the
names of a dependency's file are among the named. -/
def Licenses (b : BuildSystem σ) (settings : Settings) (admitted named : Location → Prop)
    (file : Text) (s : State σ) : Prop :=
  ∀ location owner, settings.guard.validate s.tree file = .ok (location, owner) →
    admitted location ∧ HasNoLink (checkpointOnce b s).tree location ∧
      ∀ package, owner = .dependency package →
        ∀ name ∈ (checkpointOnce b s).tree.namesOf location, named name

/-- **What holds of the kept files in every state of a verification**, seen from its first tree. -/
def ChangesAdmitted (tree : FileTree) (kept admitted named : Location → Prop) (s : State σ) : Prop :=
  ∀ location, kept location → IsExplained admitted named tree s.tree location

section Changes

variable {b : BuildSystem σ} {settings : Settings} {tree t t' : FileTree}
  {kept admitted named : Location → Prop} {s s' : State σ} {location : Location}

theorem IsExplained.of_isSpared (h : IsExplained admitted named tree t location)
    (hspared : IsSpared t t' location) : IsExplained admitted named tree t' location := by
  rcases h with hold | hadmitted | ⟨hnamed, hmode⟩
  · exact .inl (hold.trans hspared)
  · exact .inr (.inl hadmitted)
  · exact (hmode.of_isSpared hspared).imp_right fun hmode => .inr ⟨hnamed, hmode⟩

theorem IsExplained.of_onlyModeSet (h : IsExplained admitted named tree t location)
    (hnamed : named location) (hmode : OnlyModeSet writableMode t t' location) :
    IsExplained admitted named tree t' location := by
  rcases h with hold | hadmitted | ⟨-, hset⟩
  · exact (hold.of_onlyModeSet hmode).imp_right fun hset => .inr ⟨hnamed, hset⟩
  · exact .inr (.inl hadmitted)
  · exact .inr (.inr ⟨hnamed, hset.trans hmode⟩)

theorem ChangesAdmitted.of_isSpared (h : ChangesAdmitted tree kept admitted named s)
    (htree : ∀ location, kept location → IsSpared s.tree s'.tree location) :
    ChangesAdmitted tree kept admitted named s' :=
  fun location hkept => (h location hkept).of_isSpared (htree location hkept)

theorem ChangesAdmitted.checkpointOnce (h : ChangesAdmitted tree kept admitted named s)
    (hb : Spares b kept) :
    ChangesAdmitted tree kept admitted named (Feedback.checkpointOnce b s) := by
  rw [Feedback.checkpointOnce]
  split
  · exact h
  · exact h.of_isSpared fun location hkept => .inl (hb.checkpoint s.build s.tree location hkept)

/-- No link is in the way of an admitted file after the state of the project was recorded. -/
theorem KeepsPath.hasNoLink_checkpointOnce {p : Phase × State σ} (hpath : KeepsPath b settings p)
    {file : Text} {owner : FileOwner} (hturn : Turn b settings p file s)
    (h : settings.guard.validate s.tree file = .ok (location, owner)) :
    HasNoLink (Feedback.checkpointOnce b s).tree location := by
  rw [Feedback.checkpointOnce]
  split
  · exact (Guard.isCanonical_of_validate h).hasNoLink
  · rename_i hunrecorded
    exact hpath file s location owner hturn (Bool.eq_false_iff.mpr hunrecorded) h

theorem ChangesAdmitted.patchFile (h : ChangesAdmitted tree kept admitted named s)
    (hb : Spares b kept) (fixups : List Fixup) (file : Text)
    (hturn : Licenses b settings admitted named file s) :
    ChangesAdmitted tree kept admitted named (Feedback.patchFile b settings fixups s file) := by
  cases hvalidate : settings.guard.validate s.tree file with
  | error e =>
      rw [patchFile_of_refused hvalidate]
      exact h
  | ok found =>
      obtain ⟨location, owner⟩ := found
      obtain ⟨hlocation, hlink, hnames⟩ := hturn location owner hvalidate
      have hrecorded := h.checkpointOnce hb
      obtain ⟨patched, manifests, honly, hpatch⟩ := exists_patchFile_eq (b := b) hvalidate fixups
      rw [hpatch]
      intro other hkept
      have hbefore := hrecorded other hkept
      by_cases heq : other = location
      · exact .inr (.inl (heq ▸ hlocation))
      rcases honly hlink other heq with hsame | ⟨⟨package, howner⟩, hname, hmode⟩
      · exact hbefore.of_isSpared (.inl hsame)
      · exact hbefore.of_onlyModeSet (hnames package howner other hname) hmode

/-- **Every step of a verification changes admitted files alone**, if the build spares the kept
files and no link is in the way of a file whose turn comes. -/
theorem isInvariant_changesAdmitted (hb : Spares b kept) (settings : Settings) (tree : FileTree)
    (admitted named : Location → Prop) :
    IsInvariant b settings (Licenses b settings admitted named)
      (ChangesAdmitted tree kept admitted named) where
  build s h := h.of_isSpared fun location hkept => .inl (hb.build s.build s.tree location hkept)
  compile command s h := h.of_isSpared fun location hkept =>
    .inl (hb.compile command s.build s.tree location hkept)
  read s lines h := by
    obtain ⟨read, registry, hread, hspared⟩ := readOutput_snd s lines
    rw [hread]
    exact h.of_isSpared fun location _ => hspared location
  patch fixups file _ hturn h := h.patchFile hb fixups file hturn
  count s _ h := h.of_isSpared fun location _ => .refl s.tree location

end Changes

/-! ## Whole verifications -/

/-- That the state of the project was recorded is never forgotten. -/
theorem isInvariant_checkpointed (b : BuildSystem σ) (settings : Settings) :
    IsInvariant b settings (fun _ _ => True) (fun s => s.checkpointed = true) where
  build _ h := h
  compile _ _ h := h
  read s lines h := by
    obtain ⟨tree, registry, hread, -⟩ := readOutput_snd s lines
    rw [hread]
    exact h
  patch fixups file _ _ h := patchFile_checkpointed h fixups file
  count _ _ h := h

/-- **Once a file is admitted, the state of the project is recorded** at the end of the run. -/
theorem Admits.checkpointed {b : BuildSystem σ} {guard : Guard} {config : Config} {start : State σ}
    {file : Text} {location : Location}
    (h : Admits b (Settings.ofConfig guard config) (.rebuild 1, start) file location) :
    (run b (Settings.ofConfig guard config) start).2.checkpointed = true := by
  obtain ⟨_, owner, ⟨n, round, findings, s, before, after, hstate, hfiles, rfl⟩, hvalidate⟩ := h
  obtain ⟨m, hm⟩ := exists_iterate_advance_eq_run b guard config start
  have hinv := isInvariant_checkpointed b (Settings.ofConfig guard config)
  -- the run is not over when the file is patched
  have hle : n + 1 ≤ m := by
    by_contra hlt
    have hdone := iterate_advance_eq_of_le hm (Nat.le_of_lt_succ (Nat.lt_of_not_le hlt))
    rw [hstate] at hdone
    cases hdone
  obtain ⟨k, rfl⟩ := Nat.exists_eq_add_of_le hle
  have hpatched : ((advance b (Settings.ofConfig guard config))^[n + 1]
      (.rebuild 1, start)).2.checkpointed = true := by
    have hsome : findings.fixups.isEmpty = false := by
      rw [List.isEmpty_eq_false_iff]
      intro hnil
      rw [hnil] at hfiles
      exact absurd hfiles (by simp [filesOf])
    rw [Function.iterate_succ_apply', hstate]
    simp only [advance, settle, hsome, Bool.false_eq_true, if_false, patchAll, hfiles,
      List.foldl_append, List.foldl_cons]
    exact hinv.foldl_patchFile _ _ (fun _ _ _ _ => trivial)
      (patchFile_checkpointed_of_admitted hvalidate findings.fixups)
  have hlast := hinv.iterate_advance (fun _ _ _ => trivial) hpatched k
  rw [← Function.iterate_add_apply, Nat.add_comm k, hm] at hlast
  exact hlast

/-- An admitted file lies in a checkout, or in the project and in no forbidden directory. -/
theorem Admits.mayChange {b : BuildSystem σ} {settings : Settings} {p : Phase × State σ}
    {file : Text} {location : Location} (h : Admits b settings p file location) :
    (dependencyPackage? (FileTree.render location)).isSome = true ∨
      settings.guard.root <+: location ∧
        ∀ directory ∈ settings.guard.forbidden, ¬ directory <+: location := by
  obtain ⟨s, owner, -, hvalidate⟩ := h
  rcases (Guard.validate_eq_ok_iff.mp hvalidate).2 with ⟨package, hpackage, -⟩ | ⟨-, -, hproject⟩
  · exact .inl (by rw [hpackage]; rfl)
  · exact .inr hproject

section Run

variable {b : BuildSystem σ} {kept : Location → Prop}

theorem recordsFirst_run (hb : Spares b kept) (guard : Guard) (config : Config) (build : σ)
    (tree : FileTree) (registry : Registry) :
    RecordsFirst tree kept
      (fun location => ∃ file, Admits b (Settings.ofConfig guard config)
        (.rebuild 1, State.start build tree registry) file location)
      (run (watched b) (Settings.ofConfig guard config)
        (State.start (build, []) tree registry)).2 := by
  refine (isInvariant_recordsFirst hb _ tree _).run (fun file s hturn location owner h => ?_) ?_
  · exact ⟨file, s.view Prod.fst, owner, hturn.view (isView_watched b), h⟩
  · refine ⟨fun _ => ?_, fun h => ?_⟩
    · exact ⟨rfl, fun location _ => .refl tree location⟩
    · cases h

theorem changesAdmitted_run (hb : Spares b kept) (guard : Guard) (config : Config) (build : σ)
    (tree : FileTree) (registry : Registry)
    (hpath : KeepsPath b (Settings.ofConfig guard config)
      (.rebuild 1, State.start build tree registry)) :
    ChangesAdmitted tree kept
      (fun location => ∃ file, Admits b (Settings.ofConfig guard config)
        (.rebuild 1, State.start build tree registry) file location)
      (AdmitsName b (Settings.ofConfig guard config) (.rebuild 1, State.start build tree registry))
      (run b (Settings.ofConfig guard config) (State.start build tree registry)).2 := by
  refine (isInvariant_changesAdmitted hb _ tree _ _).run
    (fun file s hturn location owner h => ⟨⟨file, s, owner, hturn, h⟩,
      hpath.hasNoLink_checkpointOnce hturn h, ?_⟩) fun location _ => .inl (.refl tree location)
  rintro package rfl name hname
  exact ⟨file, s, location, package, hturn, h, hname⟩

end Run

def projectFile : Location := locationOf "p/A.swift"

def neighbourFile : Location := locationOf "q/B.swift"

def treeWithNeighbour : FileTree := .ofEntries [
  (projectFile, .file "let a: W\n".toUTF8 0o644), (neighbourFile, .file .empty 0o644)]

def startWithNeighbour : State Unit := State.start () treeWithNeighbour Registry.empty

def settingsWithNeighbour : Settings := Settings.ofConfig ⟨projectFile.dropLast, []⟩ Config.default

def errorInProject : Text :=
  FileTree.render projectFile ++ ":1:8: error: use of protocol 'W' as a type".toList

/-- What is found in an output with this error. -/
def findingsInProject : Findings := ⟨[⟨FileTree.render projectFile, 1, some 8, .addAny ['W']⟩], []⟩

theorem admits_fileInProject :
    Admits (unchanging ⟨false, [errorInProject]⟩) settingsWithNeighbour
      (.rebuild 1, startWithNeighbour) (FileTree.render projectFile) projectFile := by
  have hbuild : advance (unchanging ⟨false, [errorInProject]⟩) settingsWithNeighbour
      (.rebuild 1, startWithNeighbour) = (.parse 1 [errorInProject], startWithNeighbour) := rfl
  have hfound : Findings.ofLines? [errorInProject] = some findingsInProject ∧
      settingsWithNeighbour.guard.validate (readOutput startWithNeighbour [errorInProject]).2.tree
        (FileTree.render projectFile) = .ok (projectFile, .project) := by
    unfold findingsInProject errorInProject projectFile locationOf
    repeat rewrite [String.toList_ofList]
    decide
  have hread : readOutput startWithNeighbour [errorInProject] =
      (some findingsInProject, (readOutput startWithNeighbour [errorInProject]).2) := by
    rw [← hfound.1, ← readOutput_fst startWithNeighbour]
  refine ⟨_, .project, ⟨2, 1, findingsInProject, (readOutput startWithNeighbour [errorInProject]).2,
    [], [], ?_, ?_, rfl⟩, hfound.2⟩
  · -- the build is read, and then its findings are acted on
    rw [Function.iterate_succ_apply, Function.iterate_one, hbuild, advance, hread]
  · simp [filesOf, findingsInProject]

/-- The file of a dependency that is checked out beside the project. -/
def dependencyFile : Location := locationOf "d/SourcePackages/checkouts/Dep/F.swift"

/-- The project, the dependency and a neighbour, which may only be read. -/
def treeWithDependency : FileTree := .ofEntries [
  (projectFile, .file .empty 0o644), (dependencyFile, .file .empty 0o400),
  (neighbourFile, .file .empty 0o400)]

def errorInDependency : Text :=
  FileTree.render dependencyFile ++ ":1:8: error: use of protocol 'W' as a type".toList

/-- A build system whose record of the project's state puts a link to the neighbour in the place of
the dependency's file. -/
def relinking : BuildSystem Unit :=
  { unchanging ⟨false, [errorInDependency]⟩ with
    checkpoint := fun _ tree =>
      (.ok (), (), tree.set dependencyFile (.link (FileTree.render neighbourFile))) }

/-- What stands at the neighbour's place after a verification of one round. -/
def neighbourAfter (b : BuildSystem Unit) (tree : FileTree) : Option Node :=
  (run b (Settings.ofConfig ⟨projectFile.dropLast, []⟩ { Config.default with rounds := 1 })
    (State.start () tree Registry.empty)).2.tree.get? neighbourFile

end SwiftExistential.Feedback
