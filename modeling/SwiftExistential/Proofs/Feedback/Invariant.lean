import SwiftExistential.Proofs.Feedback.Machine
import SwiftExistential.Proofs.FileTree.Frame
import SwiftExistential.Proofs.Guard.Admission
import SwiftExistential.Proofs.SourceFile.Session

/-!
# Invariants of a verification

What a verification does to its state it does in steps of a few kinds: a call of the build system,
the reading of an output, the patching of a file. A property of states that each of them preserves
(`IsInvariant`) holds of every state of a run (`IsInvariant.iterate_advance`) and of its last state
(`IsInvariant.run`). Patching is asked to preserve the property only when the turn of a file comes
(`Turn`), and `Admits` tells which files are admitted then in a whole run.

A file that the guard refuses is left alone (`patchFile_of_refused`). One that it admits is changed
at the canonical location that the guard names, after the state of the project was recorded, and
nothing else is (`exists_patchFile_eq`): the path of this location still leads there, as long as the
record puts no link in its way. A file of a dependency is made writable before, and so is every
other name of it.

The state of the project is recorded when the first file is admitted, and never again.
-/

set_option autoImplicit false

namespace SwiftExistential.Feedback

variable {σ τ : Type}

/-! ## Admitted files

The guard is asked again for each file, and what it answers depends on the tree as it is then. So
admission is a matter of a state in a run, and not of the file alone. -/

/-- **The turn of a file to be patched** comes in some round of a verification, from where it
stands: the state in which it comes. -/
def Turn (b : BuildSystem σ) (settings : Settings) (p : Phase × State σ) (file : Text)
    (s : State σ) : Prop :=
  ∃ n round findings first before after,
    (advance b settings)^[n] p = (.patch round findings, first) ∧
      filesOf findings.fixups = before ++ file :: after ∧
      s = before.foldl (patchFile b settings findings.fixups) first

/-- **A file that is admitted** when its turn has come: its location. -/
def Admits (b : BuildSystem σ) (settings : Settings) (p : Phase × State σ) (file : Text)
    (location : Location) : Prop :=
  ∃ s owner, Turn b settings p file s ∧
    settings.guard.validate s.tree file = .ok (location, owner)

/-- **A name of an admitted file of a dependency**, at the moment when the file is made writable. -/
def AdmitsName (b : BuildSystem σ) (settings : Settings) (p : Phase × State σ)
    (name : Location) : Prop :=
  ∃ file s location package, Turn b settings p file s ∧
    settings.guard.validate s.tree file = .ok (location, .dependency package) ∧
    name ∈ (checkpointOnce b s).tree.namesOf location

theorem Turn.view {f : σ → τ} {b : BuildSystem σ} {seen : BuildSystem τ} {settings : Settings}
    {p : Phase × State σ} {file : Text} {s : State σ} (h : Turn b settings p file s)
    (hview : IsView f b seen) :
    Turn seen settings (Prod.map id (State.view f) p) file (s.view f) := by
  obtain ⟨n, round, findings, first, before, after, hstate, hfiles, rfl⟩ := h
  refine ⟨n, round, findings, first.view f, before, after, ?_, hfiles, ?_⟩
  · rw [hview.iterate_advance, hstate]
    rfl
  · rw [hview.foldl_patchFile]

/-! ## Invariants

The induction over attempts, invocations, files and transitions is done here, once for all
properties. -/

/-- **A property that every step preserves**, if files are patched only in such states. -/
structure IsInvariant (b : BuildSystem σ) (settings : Settings) (turn : Text → State σ → Prop)
    (P : State σ → Prop) : Prop where
  build : ∀ s, P s →
    P (s.after (b.build s.build s.tree).2.1 (b.build s.build s.tree).2.2)
  compile : ∀ command s, P s →
    P (s.after (b.compile command s.build s.tree).2.1 (b.compile command s.build s.tree).2.2)
  read : ∀ s lines, P s → P (readOutput s lines).2
  patch : ∀ fixups file s, turn file s → P s → P (patchFile b settings fixups s file)
  count : ∀ s fixups, P s → P { s with fixups := fixups }

namespace IsInvariant

variable {b : BuildSystem σ} {settings : Settings} {turn : Text → State σ → Prop}
  {P : State σ → Prop}

theorem compileFile (h : IsInvariant b settings turn P) (command : Text) (n : Nat)
    {s : State σ} (hs : P s) : P (Feedback.compileFile b command n s).2 := by
  induction n generalizing s with
  | zero => exact hs
  | succ n ih =>
      have hcompiled := h.compile command s hs
      rcases hb : b.compile command s.build s.tree with ⟨result, next, tree⟩
      rw [hb] at hcompiled
      cases result with
      | error e =>
          simp only [Feedback.compileFile, hb]
          exact hcompiled
      | ok output =>
          have hread := h.read (s.after next tree) output.lines hcompiled
          simp only [Feedback.compileFile, hb]
          split
          · rename_i findings s' heq
            rw [heq] at hread
            exact hread
          · rename_i s' heq
            rw [heq] at hread
            exact ih hread

theorem compileAll (h : IsInvariant b settings turn P) (invocations : List Text)
    {s : State σ} (hs : P s) : P (Feedback.compileAll b settings invocations s).2 := by
  induction invocations generalizing s with
  | nil => exact hs
  | cons invocation rest ih => exact ih (h.compileFile _ _ hs)

theorem foldl_patchFile (h : IsInvariant b settings turn P) (fixups : List Fixup)
    (files : List Text) {s : State σ}
    (hturn : ∀ before file after, files = before ++ file :: after →
      turn file (before.foldl (patchFile b settings fixups) s))
    (hs : P s) : P (files.foldl (patchFile b settings fixups) s) := by
  induction files generalizing s with
  | nil => exact hs
  | cons file rest ih =>
      refine ih (fun before other after hrest => ?_) (h.patch fixups file s ?_ hs)
      · exact hturn (file :: before) other after (by rw [hrest]; rfl)
      · exact hturn [] file rest rfl

/-- **One transition** preserves an invariant. -/
theorem advance (h : IsInvariant b settings turn P) {phase : Phase} {s : State σ}
    (hturn : ∀ round findings, phase = .patch round findings →
      ∀ before file after, filesOf findings.fixups = before ++ file :: after →
        turn file (before.foldl (patchFile b settings findings.fixups) s))
    (hs : P s) : P (Feedback.advance b settings (phase, s)).2 := by
  -- One field of the invariant for each thing that a phase can do.
  cases phase with
  | rebuild round =>
      have hbuilt := h.build s hs
      rcases hb : b.build s.build s.tree with ⟨result, next, tree⟩
      rw [hb] at hbuilt
      simp only [Feedback.advance, hb]
      cases result <;> exact hbuilt
  | fallback round reason =>
      simp only [Feedback.advance]
      split
      · exact hs
      · exact h.compileAll _ hs
  | parse round lines =>
      have hread := h.read s lines hs
      rcases hr : readOutput s lines with ⟨found, s'⟩
      rw [hr] at hread
      simp only [Feedback.advance, hr]
      cases found <;> exact hread
  | patch round findings =>
      simp only [Feedback.advance, settle, patchAll]
      split
      · exact hs
      · exact h.count _ _ (h.foldl_patchFile _ _ (hturn round findings rfl) hs)
  | done outcome => exact hs

/-- **An invariant holds throughout a verification.** -/
theorem iterate_advance (h : IsInvariant b settings turn P) {p : Phase × State σ}
    (hturn : ∀ file s, Turn b settings p file s → turn file s)
    (hp : P p.2) (n : Nat) : P ((Feedback.advance b settings)^[n] p).2 := by
  induction n with
  | zero => exact hp
  | succ n ih =>
      rw [Function.iterate_succ_apply']
      rcases hstate : (Feedback.advance b settings)^[n] p with ⟨phase, s⟩
      rw [hstate] at ih
      refine h.advance ?_ ih
      rintro round findings rfl before file after hfiles
      exact hturn file _ ⟨n, round, findings, s, before, after, hstate, hfiles, rfl⟩

theorem run {guard : Guard} {config : Config}
    (h : IsInvariant b (Settings.ofConfig guard config) turn P) {start : State σ}
    (hturn : ∀ file s,
      Turn b (Settings.ofConfig guard config) (.rebuild 1, start) file s → turn file s)
    (hstart : P start) : P (Feedback.run b (Settings.ofConfig guard config) start).2 := by
  obtain ⟨n, hn⟩ := exists_iterate_advance_eq_run b guard config start
  have hlast := h.iterate_advance hturn hstart n
  rwa [hn] at hlast

end IsInvariant

/-! ## Changes of an admitted file

Three things happen to the tree, one after the other: the record of the project's state, the new
mode for a file of a dependency, and the new text. -/

open FileTree (HasNoLink IsPlain OnlyAt OnlyModeSet SameAt)

variable {b : BuildSystem σ} {settings : Settings} {location : Location} {owner : FileOwner}
  {t t' t'' : FileTree}

/-- **Trees that differ at an admitted file at most**, and in the modes of its other names if it
belongs to a dependency. -/
def ChangesOnly (location : Location) (owner : FileOwner) (t t' : FileTree) : Prop :=
  ∀ other, other ≠ location → SameAt t t' other ∨
    (∃ package, owner = .dependency package) ∧ other ∈ t.namesOf location ∧
      OnlyModeSet writableMode t t' other

theorem ChangesOnly.trans_onlyAt (h : ChangesOnly location owner t t')
    (h' : OnlyAt location t' t'') : ChangesOnly location owner t t'' := by
  intro other hother
  have hsame := h' other hother
  refine (h other hother).imp (·.trans hsame) ?_
  rintro ⟨howner, hname, hmode⟩
  exact ⟨howner, hname, hsame.get?_eq.trans hmode⟩

theorem exists_prepareOwner_eq (owner : FileOwner) (s : State σ)
    (hplain : ∀ name ∈ location, IsPlain name) :
    ∃ tree manifests, (HasNoLink s.tree location →
        ChangesOnly location owner s.tree tree ∧ HasNoLink tree location) ∧
      prepareOwner (FileTree.render location) owner s =
        { s with tree := tree, manifests := manifests } := by
  have hnothing (hlink : HasNoLink s.tree location) :
      ChangesOnly location owner s.tree s.tree ∧ HasNoLink s.tree location :=
    ⟨fun other _ => .inl (.refl s.tree other), hlink⟩
  cases owner with
  | project => exact ⟨s.tree, s.manifests, hnothing, rfl⟩
  | dependency package =>
      simp only [prepareOwner, FileOwner.manifest?]
      cases hwritable : makeWritable s.tree (FileTree.render location) with
      | error e => exact ⟨s.tree, _, hnothing, rfl⟩
      | ok tree =>
          refine ⟨tree, _, fun hlink => ?_, rfl⟩
          obtain rfl := FileTree.setMode_render hplain hlink hwritable
          refine ⟨fun other _ => ?_, hlink.setModeAt _⟩
          by_cases hname : other ∈ s.tree.namesOf location
          · refine .inr ⟨⟨package, rfl⟩, hname, ?_⟩
            rw [OnlyModeSet, FileTree.get?_setModeAt, if_pos hname]
          · exact .inl (FileTree.sameAt_setModeAt hname)

theorem exists_fixFile_eq (fixups : List Fixup) (s : State σ)
    (hplain : ∀ name ∈ location, IsPlain name) :
    ∃ tree, (HasNoLink s.tree location → OnlyAt location s.tree tree) ∧
      fixFile (FileTree.render location) fixups s = { s with tree := tree } := by
  cases hread : SourceFile.read s.tree (FileTree.render location) with
  | error e => exact ⟨s.tree, fun _ => .refl location s.tree, by simp only [fixFile, hread]⟩
  | ok source =>
      obtain ⟨text, -, rfl⟩ := SourceFile.read_eq_ok_iff.mp hread
      simp only [fixFile, hread]
      split
      · exact ⟨s.tree, fun _ => .refl location s.tree, rfl⟩
      · rename_i tree wrote hcommit
        refine ⟨tree, fun hlink => ?_, rfl⟩
        rcases SourceFile.commit_eq_ok_iff.mp hcommit with ⟨-, rfl, -⟩ | ⟨-, hreplaced, -⟩
        · exact .refl location s.tree
        · exact FileTree.onlyAt_replaceFile hplain hlink hreplaced

theorem patchFile_of_refused {s : State σ} {file : Text} {e : GuardError}
    (h : settings.guard.validate s.tree file = .error e) (fixups : List Fixup) :
    patchFile b settings fixups s file = s := by
  simp only [patchFile, h]

/-- **A file that the guard admits is changed after the state of the project was recorded**, and
nothing else is, but the modes of its other names. -/
theorem exists_patchFile_eq {s : State σ} {file : Text}
    (h : settings.guard.validate s.tree file = .ok (location, owner)) (fixups : List Fixup) :
    ∃ tree manifests,
      (HasNoLink (checkpointOnce b s).tree location →
        ChangesOnly location owner (checkpointOnce b s).tree tree) ∧
      patchFile b settings fixups s file =
        { checkpointOnce b s with tree := tree, manifests := manifests } := by
  have hplain := (Guard.isCanonical_of_validate h).isPlain
  obtain ⟨tree, manifests, hprepared, hprepare⟩ :=
    exists_prepareOwner_eq owner (checkpointOnce b s) hplain
  obtain ⟨fixed, hfixed, hfix⟩ := exists_fixFile_eq (fixups.filter fun f => samePath file f.file)
    { checkpointOnce b s with tree := tree, manifests := manifests } hplain
  refine ⟨fixed, manifests, fun hlink => ?_, ?_⟩
  · -- the file is still found at its path when it was made writable
    obtain ⟨honly, hstill⟩ := hprepared hlink
    exact honly.trans_onlyAt (hfixed hstill)
  · simp only [patchFile, h, hprepare, hfix]

/-! ## The record of the project's state -/

theorem checkpointOnce_checkpointed (b : BuildSystem σ) (s : State σ) :
    (checkpointOnce b s).checkpointed = true := by
  rw [checkpointOnce]
  split
  · assumption
  · rfl

/-- Once a file was admitted, the state of the project was recorded. -/
theorem patchFile_checkpointed_of_admitted {s : State σ} {file : Text}
    (h : settings.guard.validate s.tree file = .ok (location, owner)) (fixups : List Fixup) :
    (patchFile b settings fixups s file).checkpointed = true := by
  obtain ⟨tree, manifests, -, hpatch⟩ := exists_patchFile_eq h fixups
  rw [hpatch]
  exact checkpointOnce_checkpointed b s

theorem patchFile_checkpointed {s : State σ} (h : s.checkpointed = true) (fixups : List Fixup)
    (file : Text) : (patchFile b settings fixups s file).checkpointed = true := by
  cases hvalidate : settings.guard.validate s.tree file with
  | error e => rw [patchFile_of_refused hvalidate, h]
  | ok admitted => exact patchFile_checkpointed_of_admitted hvalidate fixups

end SwiftExistential.Feedback
