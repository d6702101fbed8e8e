import Mathlib.Logic.Function.Iterate
import SwiftExistential.Feedback

/-!
# The verification as a state machine

A verification goes through five phases: it builds, falls back on single invocations, reads an
output, patches files, or is done. `advance` makes one transition, without a bound of any kind. The
program is a loop over a number of rounds instead, and the two agree: `exists_iterate_advance` says
that the machine comes to its end, after at most three transitions a round, and that it ends as
`runRounds` does; there it stays (`iterate_advance_eq_of_le`).

A verification sees of a build system its results, its invocations and the file tree, and nothing of
its state. So a build system may keep a record of whatever it likes in its state: if another one
sees a part of this state and does the same (`IsView`), a verification under the one is seen as a
verification under the other, transition by transition (`IsView.advance`) and as a whole
(`IsView.run`). This is how records of calls and of trees are kept without a change to the
verification.
-/

set_option autoImplicit false

namespace SwiftExistential.Feedback

variable {σ : Type}

/-- Where a verification stands. -/
inductive Phase where
  | rebuild (round : Nat)
  | fallback (round : Nat) (reason : Text)
  | parse (round : Nat) (lines : List Text)
  | patch (round : Nat) (findings : Findings)
  | done (outcome : Outcome)

/-- The phase after a round that asks for another one. -/
def nextRound (settings : Settings) (round pending : Nat) : Phase :=
  if settings.rounds ≤ round then .done (.budgetExhausted round pending) else .rebuild (round + 1)

def afterRound (settings : Settings) (round : Nat) : RoundResult → Phase
  | .finished outcome => .done outcome
  | .again pending => nextRound settings round pending

/-- **One transition.** -/
def advance (b : BuildSystem σ) (settings : Settings) : Phase × State σ → Phase × State σ
  | (.rebuild round, s) =>
      match b.build s.build s.tree with
      | (.ok output, build, tree) => (.parse round output.lines, s.after build tree)
      | (.error e, build, tree) => (.fallback round e.message.toList, s.after build tree)
  | (.fallback round reason, s) =>
      let invocations := b.invocations s.build
      if invocations.isEmpty then (.done (.unresolved [reason]), s)
      else
        let (findings, s') := compileAll b settings invocations s
        (.patch round findings, s')
  | (.parse round lines, s) =>
      match readOutput s lines with
      | (some findings, s') => (.patch round findings, s')
      | (none, s') => (nextRound settings round 0, s')
  | (.patch round findings, s) =>
      let (result, s') := settle b settings round findings s
      (afterRound settings round result, s')
  | (.done outcome, s) => (.done outcome, s)

theorem iterate_advance_round (b : BuildSystem σ) (settings : Settings) (round : Nat)
    (s : State σ) :
    ∃ n ≤ 3, (advance b settings)^[n] (.rebuild round, s) =
      (afterRound settings round (runRound b settings round s).1,
        (runRound b settings round s).2) := by
  obtain ⟨result, next, tree, hb⟩ : ∃ result next tree,
      b.build s.build s.tree = (result, next, tree) := ⟨_, _, _, rfl⟩
  cases result with
  | ok output =>
      rcases hread : readOutput (s.after next tree) output.lines with ⟨found, s'⟩
      -- building and reading, and patching unless a header was missing
      cases found with
      | some findings =>
          refine ⟨3, Nat.le_refl 3, ?_⟩
          simp only [Function.iterate_succ, Function.iterate_zero, Function.comp_apply, id_eq,
            advance, hb, hread, runRound]
      | none =>
          refine ⟨2, by omega, ?_⟩
          simp only [Function.iterate_succ, Function.iterate_zero, Function.comp_apply, id_eq,
            advance, hb, hread, runRound, afterRound]
  | error e =>
      -- building and falling back, and patching if there was something to compile
      cases hinv : (b.invocations (s.after next tree).build).isEmpty with
      | true =>
          refine ⟨2, by omega, ?_⟩
          simp only [Function.iterate_succ, Function.iterate_zero, Function.comp_apply, id_eq,
            advance, hb, hinv, runRound, afterRound, if_true]
      | false =>
          refine ⟨3, Nat.le_refl 3, ?_⟩
          simp only [Function.iterate_succ, Function.iterate_zero, Function.comp_apply, id_eq,
            advance, hb, hinv, runRound, Bool.false_eq_true, if_false]

/-- **The machine comes to its end**, and ends as the rounds that are left do. -/
theorem exists_iterate_advance (b : BuildSystem σ) (settings : Settings) (left round : Nat)
    (s : State σ) (h : round + left = settings.rounds) :
    ∃ n ≤ 3 * (left + 1), (advance b settings)^[n] (.rebuild round, s) =
      (.done (runRounds b settings (left + 1) round s).1,
        (runRounds b settings (left + 1) round s).2) := by
  induction left generalizing round s with
  | zero =>
      obtain ⟨n, hn, hrun⟩ := iterate_advance_round b settings round s
      refine ⟨n, hn, hrun.trans ?_⟩
      -- the last round: asking for another one exhausts the budget
      have hlast : settings.rounds ≤ round := by omega
      rw [runRounds]
      rcases runRound b settings round s with ⟨result, s'⟩
      cases result with
      | finished outcome => rfl
      | again pending => simp only [afterRound, nextRound, if_pos hlast, if_true]
  | succ left ih =>
      obtain ⟨n, hn, hrun⟩ := iterate_advance_round b settings round s
      have hmore : ¬ settings.rounds ≤ round := by omega
      have hleft : left + 1 ≠ 0 := Nat.succ_ne_zero left
      rcases hround : runRound b settings round s with ⟨result, s'⟩
      rw [hround] at hrun
      rw [runRounds, hround]
      cases result with
      | finished outcome => exact ⟨n, by omega, hrun⟩
      | again pending =>
          obtain ⟨n', hn', hrun'⟩ := ih (round + 1) s' (by omega)
          have hnext : afterRound settings round (.again pending) = .rebuild (round + 1) := by
            simp only [afterRound, nextRound, if_neg hmore]
          refine ⟨n' + n, by omega, ?_⟩
          simp only [if_neg hleft]
          rw [Function.iterate_add_apply, hrun, hnext, hrun']

/-! ## The end of the machine -/

theorem iterate_advance_done (b : BuildSystem σ) (settings : Settings) (outcome : Outcome)
    (s : State σ) (n : Nat) : (advance b settings)^[n] (.done outcome, s) = (.done outcome, s) :=
  Function.iterate_fixed rfl n

/-- A machine that is done once is done in the same way ever after. -/
theorem iterate_advance_eq_of_le {b : BuildSystem σ} {settings : Settings} {p : Phase × State σ}
    {outcome : Outcome} {s : State σ} {n m : Nat}
    (hdone : (advance b settings)^[n] p = (.done outcome, s)) (hle : n ≤ m) :
    (advance b settings)^[m] p = (.done outcome, s) := by
  obtain ⟨k, rfl⟩ := Nat.exists_eq_add_of_le hle
  rw [Nat.add_comm, Function.iterate_add_apply, hdone, iterate_advance_done]

theorem exists_iterate_advance_eq_run (b : BuildSystem σ) (guard : Guard) (config : Config)
    (s : State σ) :
    ∃ n, (advance b (Settings.ofConfig guard config))^[n] (.rebuild 1, s) =
      (.done (run b (Settings.ofConfig guard config) s).1.outcome,
        (run b (Settings.ofConfig guard config) s).2) := by
  obtain ⟨left, hleft⟩ : ∃ left, max 1 config.rounds = left + 1 :=
    ⟨max 1 config.rounds - 1, by omega⟩
  have hrounds : (Settings.ofConfig guard config).rounds = left + 1 := hleft
  obtain ⟨n, -, hend⟩ :=
    exists_iterate_advance b (Settings.ofConfig guard config) left 1 s (by omega)
  refine ⟨n, ?_⟩
  simpa only [run, hrounds] using hend

/-! ## Views

Each part of a round takes the state and returns one, so for each part it is said that the view of
the result is the result of the view. -/

variable {τ : Type}

/-- A build system that does what another one does, and sees a part of its state. -/
structure IsView (f : σ → τ) (b : BuildSystem σ) (seen : BuildSystem τ) : Prop where
  build : ∀ s tree, seen.build (f s) tree = Prod.map id (Prod.map f id) (b.build s tree)
  compile : ∀ command s tree,
    seen.compile command (f s) tree = Prod.map id (Prod.map f id) (b.compile command s tree)
  checkpoint : ∀ s tree,
    seen.checkpoint (f s) tree = Prod.map id (Prod.map f id) (b.checkpoint s tree)
  invocations : ∀ s, seen.invocations (f s) = b.invocations s

def State.view (f : σ → τ) (s : State σ) : State τ :=
  ⟨f s.build, s.tree, s.registry, s.checkpointed, s.fixups, s.manifests⟩

variable {f : σ → τ} {b : BuildSystem σ} {seen : BuildSystem τ}

theorem readOutput_view (s : State σ) (lines : List Text) :
    readOutput (s.view f) lines = Prod.map id (State.view f) (readOutput s lines) := by
  simp only [readOutput, State.view]
  generalize Diagnostic.parse s.registry lines = parsed
  obtain ⟨outcome, registry⟩ := parsed
  cases outcome <;> rfl

theorem prepareOwner_view (path : Text) (owner : FileOwner) (s : State σ) :
    prepareOwner path owner (s.view f) = (prepareOwner path owner s).view f := by
  simp only [prepareOwner, State.view]
  cases owner.manifest? <;> rfl

theorem fixFile_view (path : Text) (fixups : List Fixup) (s : State σ) :
    fixFile path fixups (s.view f) = (fixFile path fixups s).view f := by
  simp only [fixFile, State.view]
  cases SourceFile.read s.tree path with
  | error e => rfl
  | ok source =>
      simp only
      split <;> rfl

namespace IsView

theorem compileFile (h : IsView f b seen) (command : Text) (n : Nat) (s : State σ) :
    Feedback.compileFile seen command n (s.view f) =
      Prod.map id (State.view f) (Feedback.compileFile b command n s) := by
  induction n generalizing s with
  | zero => rfl
  | succ n ih =>
      have hcompile := h.compile command s.build s.tree
      have hbuild : (s.view f).build = f s.build := rfl
      have htree : (s.view f).tree = s.tree := rfl
      rcases hb : b.compile command s.build s.tree with ⟨result, next, tree⟩
      rw [hb] at hcompile
      simp only [Feedback.compileFile, hbuild, htree, hcompile, hb, Prod.map_apply, id_eq]
      cases result with
      | error e => rfl
      | ok output =>
          have hafter : (s.view f).after (f next) tree = (s.after next tree).view f := rfl
          simp only [hafter, readOutput_view]
          rcases readOutput (s.after next tree) output.lines with ⟨found, s'⟩
          cases found with
          | some findings => rfl
          | none => exact ih s'

theorem compileAll (h : IsView f b seen) (settings : Settings) (invocations : List Text)
    (s : State σ) :
    Feedback.compileAll seen settings invocations (s.view f) =
      Prod.map id (State.view f) (Feedback.compileAll b settings invocations s) := by
  induction invocations generalizing s with
  | nil => rfl
  | cons invocation rest ih =>
      simp only [Feedback.compileAll, h.compileFile, Prod.map_fst, Prod.map_snd, id_eq, ih,
        Prod.map_apply]

theorem checkpointOnce (h : IsView f b seen) (s : State σ) :
    Feedback.checkpointOnce seen (s.view f) = (Feedback.checkpointOnce b s).view f := by
  have hcheckpoint := h.checkpoint s.build s.tree
  have hbuild : (s.view f).build = f s.build := rfl
  have htree : (s.view f).tree = s.tree := rfl
  have hflag : (s.view f).checkpointed = s.checkpointed := rfl
  simp only [Feedback.checkpointOnce, hbuild, htree, hflag, hcheckpoint]
  cases s.checkpointed <;> rfl

theorem patchFile (h : IsView f b seen) (settings : Settings) (fixups : List Fixup) (s : State σ)
    (file : Text) :
    Feedback.patchFile seen settings fixups (s.view f) file =
      (Feedback.patchFile b settings fixups s file).view f := by
  have htree : (s.view f).tree = s.tree := rfl
  simp only [Feedback.patchFile, htree]
  cases settings.guard.validate s.tree file with
  | error e => rfl
  | ok admitted => simp only [h.checkpointOnce, prepareOwner_view, fixFile_view]

theorem foldl_patchFile (h : IsView f b seen) (settings : Settings) (fixups : List Fixup)
    (files : List Text) (s : State σ) :
    files.foldl (Feedback.patchFile seen settings fixups) (s.view f) =
      (files.foldl (Feedback.patchFile b settings fixups) s).view f := by
  induction files generalizing s with
  | nil => rfl
  | cons file rest ih => rw [List.foldl_cons, h.patchFile, ih, List.foldl_cons]

theorem settle (h : IsView f b seen) (settings : Settings) (round : Nat) (findings : Findings)
    (s : State σ) :
    Feedback.settle seen settings round findings (s.view f) =
      Prod.map id (State.view f) (Feedback.settle b settings round findings s) := by
  simp only [Feedback.settle, patchAll, h.foldl_patchFile]
  split <;> rfl

/-! ## Whole runs -/

/-- **One transition** is seen as one. -/
theorem advance (h : IsView f b seen) (settings : Settings) (p : Phase × State σ) :
    Feedback.advance seen settings (Prod.map id (State.view f) p) =
      Prod.map id (State.view f) (Feedback.advance b settings p) := by
  obtain ⟨phase, s⟩ := p
  have hbuild : (s.view f).build = f s.build := rfl
  have htree : (s.view f).tree = s.tree := rfl
  cases phase with
  | rebuild round =>
      simp only [Prod.map_apply, id_eq, Feedback.advance, hbuild, htree, h.build]
      rcases b.build s.build s.tree with ⟨result, next, tree⟩
      cases result <;> rfl
  | fallback round reason =>
      simp only [Prod.map_apply, id_eq, Feedback.advance, hbuild, h.invocations, h.compileAll]
      split <;> rfl
  | parse round lines =>
      simp only [Prod.map_apply, id_eq, Feedback.advance, readOutput_view]
      rcases readOutput s lines with ⟨found, s'⟩
      cases found <;> rfl
  | patch round findings =>
      simp only [Prod.map_apply, id_eq, Feedback.advance, h.settle, Prod.map_fst, Prod.map_snd]
  | done outcome => rfl

theorem iterate_advance (h : IsView f b seen) (settings : Settings) (n : Nat)
    (p : Phase × State σ) :
    (Feedback.advance seen settings)^[n] (Prod.map id (State.view f) p) =
      Prod.map id (State.view f) ((Feedback.advance b settings)^[n] p) :=
  (Function.Semiconj.iterate_right (fun q => (h.advance settings q).symm) n p).symm

end IsView

/-- **A run is seen as a run**: it ends in the same way, and its last state is seen as the last
state. -/
theorem IsView.run (h : IsView f b seen) (guard : Guard) (config : Config) (s : State σ) :
    Feedback.run seen (Settings.ofConfig guard config) (s.view f) =
      Prod.map id (State.view f) (Feedback.run b (Settings.ofConfig guard config) s) := by
  obtain ⟨n, hn⟩ := exists_iterate_advance_eq_run b guard config s
  obtain ⟨m, hm⟩ := exists_iterate_advance_eq_run seen guard config (s.view f)
  have hseen := h.iterate_advance (Settings.ofConfig guard config) n (.rebuild 1, s)
  rw [hn] at hseen
  -- both machines are done after so many transitions as the longer run takes
  have hsame := (iterate_advance_eq_of_le hm (Nat.le_max_left m n)).symm.trans
    (iterate_advance_eq_of_le hseen (Nat.le_max_right m n))
  simp only [Prod.mk.injEq, Phase.done.injEq] at hsame
  obtain ⟨houtcome, hlast⟩ := hsame
  have hreport : ∀ {ρ : Type} (c : BuildSystem ρ) (s : State ρ),
      (Feedback.run c (Settings.ofConfig guard config) s).1 =
        ⟨(Feedback.run c (Settings.ofConfig guard config) s).1.outcome,
          (Feedback.run c (Settings.ofConfig guard config) s).2.fixups,
          (Feedback.run c (Settings.ofConfig guard config) s).2.manifests.mergeSort Path.le⟩ :=
    fun _ _ => rfl
  refine Prod.ext ?_ hlast
  rw [hreport seen, houtcome, hlast]
  rfl

end SwiftExistential.Feedback
