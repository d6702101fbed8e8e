import SwiftExistential.Proofs.Diagnostic.Parsing
import SwiftExistential.Proofs.Feedback.Machine

/-!
# The calls of a verification

A build system is known only by its calls and their results. `recorded b` is the build system `b`
that writes a record of its calls, and nothing else changes: for each part of a round this file says
that the part does the same under `recorded b` as under `b`, and which calls it adds to the record.

What a part finds is then read off those calls alone (`findingsOf`), without the state of the
verification. So all that is said about whole verifications in the following files is said about
lists of calls. A call holds the result that the build system gave, and a build also holds the
invocations that were captured at its end.
-/

set_option autoImplicit false

namespace SwiftExistential.Feedback

variable {σ : Type}

/-! ## Recorded calls -/

/-- A call of a build system, with its result. -/
inductive Call where
  /-- A build, with the invocations that were captured at its end. -/
  | build (result : Except RunnerError BuildOutput) (captured : List Text)
  | compile (command : Text) (result : Except RunnerError BuildOutput)
  | checkpoint (result : Except RunnerError Unit)

namespace Call

def isBuild : Call → Bool
  | build _ _ => true
  | _ => false

def isCheckpoint : Call → Bool
  | checkpoint _ => true
  | _ => false

theorem isBuild_of_isCheckpoint {c : Call} (h : c.isCheckpoint = true) : c.isBuild = false := by
  cases c with
  | build => cases h
  | compile => cases h
  | checkpoint => rfl

end Call

/-- **A build system that records its calls**, the latest last. -/
def recorded (b : BuildSystem σ) : BuildSystem (σ × List Call) where
  build s tree :=
    let (result, next, tree') := b.build s.1 tree
    (result, (next, s.2 ++ [.build result (b.invocations next)]), tree')
  compile command s tree :=
    let (result, next, tree') := b.compile command s.1 tree
    (result, (next, s.2 ++ [.compile command result]), tree')
  checkpoint s tree :=
    let (result, next, tree') := b.checkpoint s.1 tree
    (result, (next, s.2 ++ [.checkpoint result]), tree')
  invocations s := b.invocations s.1

/-- The state with a record of calls. -/
def State.withLog (s : State σ) (log : List Call) : State (σ × List Call) :=
  ⟨(s.build, log), s.tree, s.registry, s.checkpointed, s.fixups, s.manifests⟩

/-! ## What calls find

The lines of an output are all that a call finds. A call that could not be run has found nothing,
and neither has one whose output was cut short. -/

/-- What an output says. One that reports a missing header says nothing else. -/
def Findings.ofLines? (lines : List Text) : Option Findings :=
  match lines.findSome? Diagnostic.missingHeader? with
  | some _ => none
  | none => some ⟨Diagnostic.fixupsOf lines, Diagnostic.unrecognizedOf lines⟩

/-- Whether the output of a call was cut short by a missing header. -/
def Call.isAborted : Call → Bool
  | build (.ok output) _ => (Findings.ofLines? output.lines).isNone
  | compile _ (.ok output) => (Findings.ofLines? output.lines).isNone
  | _ => false

/-- What a call finds: what its output says, if there is one. -/
def Call.findings : Call → Findings
  | build (.ok output) _ => (Findings.ofLines? output.lines).getD ⟨[], []⟩
  | compile _ (.ok output) => (Findings.ofLines? output.lines).getD ⟨[], []⟩
  | _ => ⟨[], []⟩

def findingsOf (calls : List Call) : Findings :=
  ⟨calls.flatMap (·.findings.fixups), calls.flatMap (·.findings.unrecognized)⟩

@[simp] theorem findingsOf_append (a b : List Call) :
    findingsOf (a ++ b) = (findingsOf a).append (findingsOf b) := by
  simp [findingsOf, Findings.append]

@[simp] theorem findingsOf_singleton (c : Call) : findingsOf [c] = c.findings := by
  simp [findingsOf]

@[simp] theorem Findings.append_nothing (f : Findings) : f.append ⟨[], []⟩ = f := by
  simp [Findings.append]

@[simp] theorem Findings.nothing_append (f : Findings) : Findings.append ⟨[], []⟩ f = f := by
  simp [Findings.append]

theorem findingsOf_checkpoints {calls : List Call} (h : ∀ c ∈ calls, c.isCheckpoint = true) :
    findingsOf calls = ⟨[], []⟩ := by
  induction calls with
  | nil => rfl
  | cons c rest ih =>
      have hc : c.findings = ⟨[], []⟩ := by
        have := h c List.mem_cons_self
        cases c with
        | build => cases this
        | compile => cases this
        | checkpoint => rfl
      rw [← List.singleton_append, findingsOf_append, findingsOf_singleton, hc,
        ih fun c hc => h c (List.mem_cons_of_mem _ hc), Findings.append_nothing]

/-! ## Reading an output

Reading changes the registry and may repair a header; what it finds depends on the lines only. -/

theorem readOutput_fst (s : State σ) (lines : List Text) :
    (readOutput s lines).1 = Findings.ofLines? lines := by
  -- the registry that the parse hands on is forgotten: the outcome does not depend on it
  have h := Diagnostic.parse_fst s.registry lines
  simp only [readOutput, Findings.ofLines?]
  cases hm : lines.findSome? Diagnostic.missingHeader? with
  | some header =>
      rw [hm] at h
      generalize Diagnostic.parse s.registry lines = parsed at h
      obtain ⟨outcome, registry⟩ := parsed
      subst h
      rfl
  | none =>
      rw [hm] at h
      generalize Diagnostic.parse s.registry lines = parsed at h
      obtain ⟨outcome, registry⟩ := parsed
      subst h
      rfl

theorem readOutput_withLog (s : State σ) (log : List Call) (lines : List Text) :
    readOutput (s.withLog log) lines =
      ((readOutput s lines).1, (readOutput s lines).2.withLog log) :=
  readOutput_view (f := (·, log)) s lines

theorem readOutput_fixups (s : State σ) (lines : List Text) :
    (readOutput s lines).2.fixups = s.fixups := by
  simp only [readOutput]
  generalize Diagnostic.parse s.registry lines = parsed
  obtain ⟨outcome, registry⟩ := parsed
  cases outcome <;> rfl

/-! ## Compiling single files

An attempt whose output was cut short is made again, since a header may have been repaired
meanwhile, as long as attempts are left. -/

/-- **The attempts at one invocation**, at most so many: each but the last was cut short by a
missing header, and the last one could not be run, or was read, or was cut short like the others
when no attempt was left. -/
inductive Attempts (command : Text) : Nat → List Call → Prop where
  | none : Attempts command 0 []
  | failed (n : Nat) (e : RunnerError) : Attempts command (n + 1) [.compile command (.error e)]
  | read (n : Nat) (output : BuildOutput) (h : (Findings.ofLines? output.lines).isSome = true) :
      Attempts command (n + 1) [.compile command (.ok output)]
  | again (n : Nat) (output : BuildOutput) (rest : List Call)
      (h : Findings.ofLines? output.lines = .none) (tail : Attempts command n rest) :
      Attempts command (n + 1) (.compile command (.ok output) :: rest)

theorem Attempts.length_le {command : Text} {n : Nat} {calls : List Call}
    (h : Attempts command n calls) : calls.length ≤ n := by
  induction h with
  | none => exact Nat.le_refl 0
  | failed n e => exact Nat.succ_le_succ (Nat.zero_le n)
  | read n output h => exact Nat.succ_le_succ (Nat.zero_le n)
  | again n output rest h tail ih => exact Nat.succ_le_succ ih

/-- Whoever may attempt something does. -/
theorem Attempts.length_pos {command : Text} {n : Nat} {calls : List Call}
    (h : Attempts command n calls) (hn : 0 < n) : 0 < calls.length := by
  cases h with
  | none => exact absurd hn (Nat.lt_irrefl 0)
  | failed n e => exact Nat.succ_pos _
  | read n output h => exact Nat.succ_pos _
  | again n output rest h tail => exact Nat.succ_pos _

theorem Attempts.eq_compile {command : Text} {n : Nat} {calls : List Call}
    (h : Attempts command n calls) : ∀ c ∈ calls, ∃ result, c = .compile command result := by
  induction h with
  | none => intro c hc; cases hc
  | failed n e => intro c hc; exact ⟨_, List.mem_singleton.mp hc⟩
  | read n output h => intro c hc; exact ⟨_, List.mem_singleton.mp hc⟩
  | again n output rest h tail ih =>
      intro c hc
      rcases List.mem_cons.mp hc with rfl | hc
      · exact ⟨_, rfl⟩
      · exact ih c hc

theorem compileFile_recorded (b : BuildSystem σ) (command : Text) (n : Nat) (s : State σ)
    (log : List Call) :
    ∃ calls, Attempts command n calls ∧
      (compileFile b command n s).1 = findingsOf calls ∧
      (compileFile b command n s).2.fixups = s.fixups ∧
      compileFile (recorded b) command n (s.withLog log) =
        ((compileFile b command n s).1,
          (compileFile b command n s).2.withLog (log ++ calls)) := by
  -- the log is general, so that the attempts that are left may find the first one in it
  induction n generalizing s log with
  | zero => exact ⟨[], .none, rfl, rfl, by rw [List.append_nil]; rfl⟩
  | succ n ih =>
      obtain ⟨result, next, tree, hb⟩ : ∃ result next tree,
          b.compile command s.build s.tree = (result, next, tree) := ⟨_, _, _, rfl⟩
      have hr : (recorded b).compile command (s.withLog log).build (s.withLog log).tree =
          (result, (next, log ++ [.compile command result]), tree) := by
        simp only [recorded, State.withLog, hb]
      cases result with
      | error e =>
          refine ⟨[.compile command (.error e)], .failed n e, ?_, ?_, ?_⟩
          · simp only [compileFile, hb]; rfl
          · simp only [compileFile, hb]; rfl
          · simp only [compileFile, hb, hr]; rfl
      | ok output =>
          have hafter : (s.withLog log).after (next, log ++ [.compile command (.ok output)]) tree =
              (s.after next tree).withLog (log ++ [.compile command (.ok output)]) := rfl
          have hsame := readOutput_withLog (s.after next tree)
            (log ++ [.compile command (.ok output)]) output.lines
          have hfound := readOutput_fst (s.after next tree) output.lines
          have hkept := readOutput_fixups (s.after next tree) output.lines
          rcases hread : readOutput (s.after next tree) output.lines with ⟨found, s'⟩
          rw [hread] at hsame hfound hkept
          cases found with
          | some findings =>
              have hsome : Findings.ofLines? output.lines = some findings := hfound.symm
              refine ⟨[.compile command (.ok output)], .read n output ?_, ?_, ?_, ?_⟩
              · rw [hsome]; rfl
              · simp only [compileFile, hb, hread, findingsOf_singleton, Call.findings, hsome,
                  Option.getD_some]
              · simp only [compileFile, hb, hread]; exact hkept
              · simp only [compileFile, hb, hr, hread, hafter, hsame]
          | none =>
              -- a header was missing: the attempt found nothing, and another one is made
              have hnone : Findings.ofLines? output.lines = none := hfound.symm
              obtain ⟨calls, hcalls, hfindings, hfixups, hrun⟩ :=
                ih s' (log ++ [.compile command (.ok output)])
              refine ⟨.compile command (.ok output) :: calls, .again n output calls hnone hcalls,
                ?_, ?_, ?_⟩
              · rw [← List.singleton_append, findingsOf_append, findingsOf_singleton]
                simp only [compileFile, hb, hread, Call.findings, hnone, Option.getD_none,
                  Findings.nothing_append, hfindings]
              · simp only [compileFile, hb, hread, hfixups]; exact hkept
              · simp only [compileFile, hb, hr, hread, hafter, hsame, hrun, List.append_assoc,
                  List.singleton_append]

/-- The calls of a fallback: the attempts at each invocation, one after the other. -/
inductive Fallback (settings : Settings) : List Text → List (List Call) → Prop where
  | nil : Fallback settings [] []
  | cons {invocation : Text} {rest : List Text} {attempts : List Call} {others : List (List Call)}
      (head : Attempts (Invocation.sanitize settings.stripFlags invocation)
        settings.compileRetries attempts)
      (tail : Fallback settings rest others) :
      Fallback settings (invocation :: rest) (attempts :: others)

theorem compileAll_recorded (b : BuildSystem σ) (settings : Settings) (invocations : List Text)
    (s : State σ) (log : List Call) :
    ∃ blocks, Fallback settings invocations blocks ∧
      (compileAll b settings invocations s).1 = findingsOf blocks.flatten ∧
      (compileAll b settings invocations s).2.fixups = s.fixups ∧
      compileAll (recorded b) settings invocations (s.withLog log) =
        ((compileAll b settings invocations s).1,
          (compileAll b settings invocations s).2.withLog (log ++ blocks.flatten)) := by
  induction invocations generalizing s log with
  | nil => exact ⟨[], .nil, rfl, rfl, by rw [List.flatten_nil, List.append_nil]; rfl⟩
  | cons invocation rest ih =>
      obtain ⟨calls, hcalls, hfound, hfixups, hrun⟩ := compileFile_recorded b
        (Invocation.sanitize settings.stripFlags invocation) settings.compileRetries s log
      obtain ⟨blocks, hblocks, hfound', hfixups', hrun'⟩ :=
        ih (compileFile b (Invocation.sanitize settings.stripFlags invocation)
          settings.compileRetries s).2 (log ++ calls)
      refine ⟨calls :: blocks, .cons hcalls hblocks, ?_, ?_, ?_⟩
      · simp only [compileAll, hfound, hfound', List.flatten_cons, findingsOf_append]
      · simp only [compileAll, hfixups', hfixups]
      · simp only [compileAll, hrun, hrun', List.flatten_cons, List.append_assoc]

/-! ## Patching

Patching files makes one kind of call, the record of the project's state, and finds nothing. -/

theorem checkpointOnce_recorded (b : BuildSystem σ) (s : State σ) (log : List Call) :
    ∃ calls : List Call, (∀ c ∈ calls, c.isCheckpoint = true) ∧
      (checkpointOnce b s).fixups = s.fixups ∧
      checkpointOnce (recorded b) (s.withLog log) =
        (checkpointOnce b s).withLog (log ++ calls) := by
  cases hc : s.checkpointed with
  | true =>
      refine ⟨[], by simp, ?_, ?_⟩
      · simp only [checkpointOnce, hc, if_pos]
      · simp only [checkpointOnce, State.withLog, hc, if_pos, List.append_nil]
  | false =>
      obtain ⟨result, next, tree, hb⟩ : ∃ result next tree,
          b.checkpoint s.build s.tree = (result, next, tree) := ⟨_, _, _, rfl⟩
      refine ⟨[.checkpoint result], by simp [Call.isCheckpoint], ?_, ?_⟩
      · simp only [checkpointOnce, hc, Bool.false_eq_true, if_false]
      · simp only [checkpointOnce, State.withLog, recorded, hc, Bool.false_eq_true, if_false, hb]

theorem prepareOwner_withLog (path : Text) (owner : FileOwner) (s : State σ) (log : List Call) :
    prepareOwner path owner (s.withLog log) = (prepareOwner path owner s).withLog log :=
  prepareOwner_view (f := (·, log)) path owner s

theorem fixFile_withLog (path : Text) (fixups : List Fixup) (s : State σ) (log : List Call) :
    fixFile path fixups (s.withLog log) = (fixFile path fixups s).withLog log :=
  fixFile_view (f := (·, log)) path fixups s

theorem prepareOwner_fixups (path : Text) (owner : FileOwner) (s : State σ) :
    (prepareOwner path owner s).fixups = s.fixups := by
  simp only [prepareOwner]
  cases owner.manifest? <;> rfl

theorem fixFile_fixups (path : Text) (fixups : List Fixup) (s : State σ) :
    (fixFile path fixups s).fixups = s.fixups := by
  simp only [fixFile]
  cases SourceFile.read s.tree path with
  | error e => rfl
  | ok source =>
      simp only
      split <;> rfl

theorem patchFile_recorded (b : BuildSystem σ) (settings : Settings) (fixups : List Fixup)
    (s : State σ) (file : Text) (log : List Call) :
    ∃ calls : List Call, (∀ c ∈ calls, c.isCheckpoint = true) ∧
      (patchFile b settings fixups s file).fixups = s.fixups ∧
      patchFile (recorded b) settings fixups (s.withLog log) file =
        (patchFile b settings fixups s file).withLog (log ++ calls) := by
  have htree : (s.withLog log).tree = s.tree := rfl
  cases hv : settings.guard.validate s.tree file with
  | error e =>
      -- a file that is not admitted is left alone, without a call
      refine ⟨[], by simp, ?_, ?_⟩
      · simp only [patchFile, hv]
      · simp only [patchFile, htree, hv, List.append_nil]
  | ok admitted =>
      obtain ⟨location, owner⟩ := admitted
      obtain ⟨calls, hcalls, hfixups, hrun⟩ := checkpointOnce_recorded b s log
      refine ⟨calls, hcalls, ?_, ?_⟩
      · simp only [patchFile, hv, fixFile_fixups, prepareOwner_fixups, hfixups]
      · simp only [patchFile, htree, hv, hrun, prepareOwner_withLog, fixFile_withLog]

theorem foldl_patchFile_recorded (b : BuildSystem σ) (settings : Settings) (fixups : List Fixup)
    (files : List Text) (s : State σ) (log : List Call) :
    ∃ calls : List Call, (∀ c ∈ calls, c.isCheckpoint = true) ∧
      (files.foldl (patchFile b settings fixups) s).fixups = s.fixups ∧
      files.foldl (patchFile (recorded b) settings fixups) (s.withLog log) =
        (files.foldl (patchFile b settings fixups) s).withLog (log ++ calls) := by
  induction files generalizing s log with
  | nil => exact ⟨[], by simp, rfl, by rw [List.append_nil]; rfl⟩
  | cons file rest ih =>
      obtain ⟨calls, hcalls, hfixups, hrun⟩ := patchFile_recorded b settings fixups s file log
      obtain ⟨others, hothers, hfixups', hrun'⟩ :=
        ih (patchFile b settings fixups s file) (log ++ calls)
      refine ⟨calls ++ others, ?_, ?_, ?_⟩
      · intro c hc
        rcases List.mem_append.mp hc with hc | hc
        · exact hcalls c hc
        · exact hothers c hc
      · rw [List.foldl_cons, hfixups', hfixups]
      · rw [List.foldl_cons, hrun, hrun', List.foldl_cons, List.append_assoc]

/-- Patching only records the state of the project, and counts the fixups asked for. -/
theorem patchAll_recorded (b : BuildSystem σ) (settings : Settings) (fixups : List Fixup)
    (s : State σ) (log : List Call) :
    ∃ calls : List Call, (∀ c ∈ calls, c.isCheckpoint = true) ∧
      (patchAll b settings fixups s).fixups = s.fixups + fixups.length ∧
      patchAll (recorded b) settings fixups (s.withLog log) =
        (patchAll b settings fixups s).withLog (log ++ calls) := by
  obtain ⟨calls, hcalls, hfixups, hrun⟩ :=
    foldl_patchFile_recorded b settings fixups (filesOf fixups) s log
  refine ⟨calls, hcalls, ?_, ?_⟩
  · simp only [patchAll, hfixups]
  · simp only [patchAll, hrun]; rfl

end SwiftExistential.Feedback
