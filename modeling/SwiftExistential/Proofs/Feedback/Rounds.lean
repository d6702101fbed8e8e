import Mathlib.Algebra.GroupWithZero.Nat
import Mathlib.Data.List.SplitBy
import SwiftExistential.Proofs.Feedback.Calls
import SwiftExistential.Proofs.Text.Sorted

/-!
# Rounds

The calls of a verification fall into rounds, each of which begins with a build (`roundsOf`). How a
round ends is read off its calls (`verdict`), and so is what it adds to the number of fixups. A
whole run is a `Trail`: every round but the last asks for another one, and the last one either ends
the verification or finds the budget used up.

The rounds are found again in the record of all calls, since a build stands at the start of each and
nowhere else. So nothing has to be written down beside the calls, and a statement about rounds is
one about a list of calls.
-/

set_option autoImplicit false

namespace SwiftExistential.Feedback

variable {σ : Type}

/-! ## One round

What a round asks for is settled by what it found: fixups lead to another round, lines that were not
understood end the verification, and so does nothing at all. -/

/-- **The calls of one round**: a build that could be run, or one that could not with the attempts
at all captured invocations, and then only records of the project's state. -/
inductive RoundCalls (settings : Settings) : List Call → Prop where
  | built (output : BuildOutput) (captured : List Text) (records : List Call)
      (hrecords : ∀ c ∈ records, c.isCheckpoint = true) :
      RoundCalls settings (.build (.ok output) captured :: records)
  | fallen (e : RunnerError) (captured : List Text) (blocks : List (List Call))
      (records : List Call) (hblocks : Fallback settings captured blocks)
      (hrecords : ∀ c ∈ records, c.isCheckpoint = true) :
      RoundCalls settings (.build (.error e) captured :: (blocks.flatten ++ records))

/-- How a round with some findings ends. -/
def settled (round : Nat) (findings : Findings) : RoundResult :=
  if findings.fixups.isEmpty then
    let errors := Text.sortDistinct findings.unrecognized
    .finished (if errors.isEmpty then .converged (round - 1) else .unresolved errors)
  else .again findings.fixups.length

/-- Whether the build of a round was cut short by a missing header. -/
def wasAborted (calls : List Call) : Bool := calls.head?.any Call.isAborted

/-- **How a round ends**, read off its calls. -/
def verdict (round : Nat) (calls : List Call) : RoundResult :=
  match calls.head? with
  | some (.build (.error e) []) => .finished (.unresolved [e.message.toList])
  | _ => if wasAborted calls then .again 0 else settled round (findingsOf calls)

/-- The number of fixups that a round asks for. -/
def patchCount (calls : List Call) : Nat := (findingsOf calls).fixups.length

theorem settle_fst (b : BuildSystem σ) (settings : Settings) (round : Nat) (findings : Findings)
    (s : State σ) : (settle b settings round findings s).1 = settled round findings := by
  simp only [settle, settled]
  split <;> rfl

theorem settle_recorded (b : BuildSystem σ) (settings : Settings) (round : Nat)
    (findings : Findings) (s : State σ) (log : List Call) :
    ∃ records : List Call, (∀ c ∈ records, c.isCheckpoint = true) ∧
      (settle b settings round findings s).2.fixups = s.fixups + findings.fixups.length ∧
      settle (recorded b) settings round findings (s.withLog log) =
        (settled round findings,
          (settle b settings round findings s).2.withLog (log ++ records)) := by
  cases hf : findings.fixups.isEmpty with
  | true =>
      refine ⟨[], by simp, ?_, ?_⟩
      · rw [List.isEmpty_iff.mp hf]
        simp only [settle, List.isEmpty_iff.mp hf, List.isEmpty_nil, if_pos, List.length_nil,
          Nat.add_zero]
      · simp only [settle, settled, hf, if_pos, List.append_nil]
  | false =>
      obtain ⟨records, hrecords, hfixups, hrun⟩ :=
        patchAll_recorded b settings findings.fixups s log
      refine ⟨records, hrecords, ?_, ?_⟩
      · simp only [settle, hf, Bool.false_eq_true, if_false, hfixups]
      · simp only [settle, settled, hf, Bool.false_eq_true, if_false, hrun]

/-- The calls of a build that could be run and of the records after it find what the build's output
says. -/
theorem findingsOf_built {output : BuildOutput} {captured : List Text} {records : List Call}
    (h : ∀ c ∈ records, c.isCheckpoint = true) :
    findingsOf (.build (.ok output) captured :: records) =
      (Findings.ofLines? output.lines).getD ⟨[], []⟩ := by
  rw [← List.singleton_append, findingsOf_append, findingsOf_singleton, findingsOf_checkpoints h,
    Findings.append_nothing]
  rfl

/-- A round that fell back finds what the attempts found. -/
theorem findingsOf_fallen {e : RunnerError} {captured : List Text} {blocks : List (List Call)}
    {records : List Call} (h : ∀ c ∈ records, c.isCheckpoint = true) :
    findingsOf (.build (.error e) captured :: (blocks.flatten ++ records)) =
      findingsOf blocks.flatten := by
  rw [← List.singleton_append, findingsOf_append, findingsOf_append, findingsOf_singleton,
    findingsOf_checkpoints h, Findings.append_nothing]
  exact Findings.nothing_append _

/-- A round that asks for another one asks for as many fixups as it found. -/
theorem verdict_eq_again {settings : Settings} {round pending : Nat} {calls : List Call}
    (hcalls : RoundCalls settings calls) (h : verdict round calls = .again pending) :
    pending = patchCount calls ∧ (wasAborted calls = true → pending = 0) := by
  rw [verdict] at h
  split at h
  · cases h
  · split at h
    · rename_i hab
      cases h
      refine ⟨?_, fun _ => rfl⟩
      cases hcalls with
      | built output captured records hrecords =>
          -- what was cut short found nothing, and nothing is pending
          rw [patchCount, findingsOf_built hrecords]
          rw [wasAborted, List.head?_cons, Option.any_some, Call.isAborted,
            Option.isNone_iff_eq_none] at hab
          rw [hab]
          rfl
      | fallen e captured blocks records hblocks hrecords => cases hab
    · rename_i hab
      refine ⟨?_, fun h => absurd h hab⟩
      rw [settled] at h
      split at h
      · cases h
      · cases h
        rfl

/-- Findings that end the verification hold no fixup. -/
theorem settled_eq_finished {round : Nat} {findings : Findings} {outcome : Outcome}
    (h : settled round findings = .finished outcome) :
    (findings = ⟨[], []⟩ ∧ outcome = .converged (round - 1)) ∨
      (findings.unrecognized ≠ [] ∧
        outcome = .unresolved (Text.sortDistinct findings.unrecognized)) := by
  obtain ⟨fixups, unrecognized⟩ := findings
  rw [settled] at h
  split at h
  · rename_i hf
    obtain rfl : fixups = [] := List.isEmpty_iff.mp hf
    cases hu : (Text.sortDistinct unrecognized).isEmpty with
    | true =>
        obtain rfl := (Text.sortDistinct_eq_nil_iff _).mp (List.isEmpty_iff.mp hu)
        simp only [hu, if_true, RoundResult.finished.injEq] at h
        exact .inl ⟨rfl, h.symm⟩
    | false =>
        have hne : unrecognized ≠ [] := by
          rintro rfl
          rw [(Text.sortDistinct_eq_nil_iff []).mpr rfl] at hu
          cases hu
        simp only [hu, Bool.false_eq_true, if_false, RoundResult.finished.injEq] at h
        exact .inr ⟨hne, h.symm⟩
  · cases h

/-- **The three ways a round ends the verification**: the build left nothing to compile, or nothing
was found, or only lines that were not understood. -/
theorem verdict_eq_finished {round : Nat} {calls : List Call} {outcome : Outcome}
    (h : verdict round calls = .finished outcome) :
    (∃ e, calls.head? = some (.build (.error e) []) ∧ outcome = .unresolved [e.message.toList]) ∨
      (wasAborted calls = false ∧ findingsOf calls = ⟨[], []⟩ ∧ outcome = .converged (round - 1)) ∨
      (findingsOf calls).unrecognized ≠ [] ∧
        outcome = .unresolved (Text.sortDistinct (findingsOf calls).unrecognized) := by
  rw [verdict] at h
  split at h
  · rename_i e he
    cases h
    exact .inl ⟨e, he, rfl⟩
  · split at h
    · cases h
    · rename_i hab
      rcases settled_eq_finished h with ⟨hnothing, houtcome⟩ | herrors
      · exact .inr (.inl ⟨Bool.eq_false_iff.mpr hab, hnothing, houtcome⟩)
      · exact .inr (.inr herrors)

/-- A round that finds nothing at all ends the verification with success. -/
theorem settled_nothing (round : Nat) :
    settled round ⟨[], []⟩ = .finished (.converged (round - 1)) := by
  have hnil : Text.sortDistinct [] = [] := (Text.sortDistinct_eq_nil_iff []).mpr rfl
  simp only [settled, hnil, List.isEmpty_nil, if_true]

/-! ### The three ways through a round

The build was run and read, or it was run and cut short, or it could not be run; in the last case
there may be nothing to fall back on. Each way makes its own calls, and each of them is recorded. -/

theorem runRound_built {b : BuildSystem σ} {settings : Settings} {round : Nat} {s s' : State σ}
    {output : BuildOutput} {next : σ} {tree : FileTree} {findings : Findings}
    (hb : b.build s.build s.tree = (.ok output, next, tree))
    (hread : readOutput (s.after next tree) output.lines = (some findings, s')) :
    runRound b settings round s = settle b settings round findings s' := by
  simp only [runRound, hb, hread]

theorem runRound_aborted {b : BuildSystem σ} {settings : Settings} {round : Nat} {s s' : State σ}
    {output : BuildOutput} {next : σ} {tree : FileTree}
    (hb : b.build s.build s.tree = (.ok output, next, tree))
    (hread : readOutput (s.after next tree) output.lines = (none, s')) :
    runRound b settings round s = (.again 0, s') := by
  simp only [runRound, hb, hread]

theorem runRound_without_invocations {b : BuildSystem σ} {settings : Settings} {round : Nat}
    {s : State σ} {e : RunnerError} {next : σ} {tree : FileTree}
    (hb : b.build s.build s.tree = (.error e, next, tree)) (hinv : b.invocations next = []) :
    runRound b settings round s =
      (.finished (.unresolved [e.message.toList]), s.after next tree) := by
  simp only [runRound, hb, State.after, hinv, List.isEmpty_nil, if_true]

theorem runRound_fallen {b : BuildSystem σ} {s : State σ} {e : RunnerError} {next : σ}
    {tree : FileTree} {invocation : Text} {rest : List Text}
    (hb : b.build s.build s.tree = (.error e, next, tree))
    (hinv : b.invocations next = invocation :: rest) (settings : Settings) (round : Nat) :
    runRound b settings round s =
      settle b settings round (compileAll b settings (invocation :: rest) (s.after next tree)).1
        (compileAll b settings (invocation :: rest) (s.after next tree)).2 := by
  simp only [runRound, hb, State.after, hinv, List.isEmpty_cons, Bool.false_eq_true, if_false]

/-- What one round does under a recording build system: it makes the calls of a round, ends as they
tell, counts the fixups they find, and is otherwise the same round. -/
def Records (b : BuildSystem σ) (settings : Settings) (round : Nat) (s : State σ) (log : List Call)
    (calls : List Call) : Prop :=
  RoundCalls settings calls ∧
    (runRound b settings round s).1 = verdict round calls ∧
    (runRound b settings round s).2.fixups = s.fixups + patchCount calls ∧
    runRound (recorded b) settings round (s.withLog log) =
      (verdict round calls, (runRound b settings round s).2.withLog (log ++ calls))

theorem recorded_build {b : BuildSystem σ} {s : State σ} {next : σ} {tree : FileTree}
    {result : Except RunnerError BuildOutput} {captured : List Text} (log : List Call)
    (hb : b.build s.build s.tree = (result, next, tree)) (hinv : b.invocations next = captured) :
    (recorded b).build (s.withLog log).build (s.withLog log).tree =
      (result, (next, log ++ [.build result captured]), tree) := by
  simp only [recorded, State.withLog, hb, hinv]

theorem records_built {b : BuildSystem σ} (settings : Settings) (round : Nat) {s : State σ}
    (log : List Call) {output : BuildOutput} {next : σ} {tree : FileTree} {captured : List Text}
    (hb : b.build s.build s.tree = (.ok output, next, tree))
    (hinv : b.invocations next = captured) :
    ∃ calls, Records b settings round s log calls := by
  have hfound := readOutput_fst (s.after next tree) output.lines
  have hkept := readOutput_fixups (s.after next tree) output.lines
  have hsame := readOutput_withLog (s.after next tree) (log ++ [.build (.ok output) captured])
    output.lines
  have hlog := recorded_build log hb hinv
  rcases hread : readOutput (s.after next tree) output.lines with ⟨found, s'⟩
  rw [hread] at hfound hkept hsame
  have hsteady : s'.fixups = s.fixups := hkept
  cases found with
  | some findings =>
      have hsome : Findings.ofLines? output.lines = some findings := hfound.symm
      obtain ⟨records, hrecords, hfixups, hrun⟩ := settle_recorded b settings round findings s'
        (log ++ [.build (.ok output) captured])
      have hcalls : findingsOf (.build (.ok output) captured :: records) = findings := by
        rw [findingsOf_built hrecords, hsome, Option.getD_some]
      have hverdict : verdict round (.build (.ok output) captured :: records) =
          settled round findings := by
        simp only [verdict, wasAborted, List.head?_cons, Option.any_some, Call.isAborted, hsome,
          Option.isNone_some, Bool.false_eq_true, if_false, hcalls]
      refine ⟨_, .built output captured records hrecords, ?_, ?_, ?_⟩
      · rw [runRound_built hb hread, hverdict, settle_fst]
      · rw [runRound_built hb hread, patchCount, hcalls, ← hsteady]
        exact hfixups
      · rw [runRound_built hlog hsame, hverdict, runRound_built hb hread]
        simpa only [List.append_assoc, List.singleton_append] using hrun
  | none =>
      -- the round is cut short, and makes no call but the build
      have hnone : Findings.ofLines? output.lines = none := hfound.symm
      have hcalls : findingsOf [.build (.ok output) captured] = ⟨[], []⟩ := by
        rw [findingsOf_built (by simp), hnone, Option.getD_none]
      have hverdict : verdict round [.build (.ok output) captured] = .again 0 := by
        simp only [verdict, wasAborted, List.head?_cons, Option.any_some, Call.isAborted, hnone,
          Option.isNone_none, if_true]
      refine ⟨_, .built output captured [] (by simp), ?_, ?_, ?_⟩
      · rw [runRound_aborted hb hread, hverdict]
      · rw [runRound_aborted hb hread, patchCount, hcalls, ← hsteady]
        rfl
      · rw [runRound_aborted hlog hsame, hverdict, runRound_aborted hb hread]

theorem records_without_invocations {b : BuildSystem σ} (settings : Settings) (round : Nat)
    {s : State σ} (log : List Call) {e : RunnerError} {next : σ} {tree : FileTree}
    (hb : b.build s.build s.tree = (.error e, next, tree)) (hinv : b.invocations next = []) :
    Records b settings round s log [.build (.error e) []] := by
  refine ⟨.fallen e [] [] [] .nil (by simp), ?_, ?_, ?_⟩
  · rw [runRound_without_invocations hb hinv]; rfl
  · rw [runRound_without_invocations hb hinv]; rfl
  · rw [runRound_without_invocations (recorded_build log hb hinv) hinv,
      runRound_without_invocations hb hinv]
    rfl

theorem records_fallen {b : BuildSystem σ} (settings : Settings) (round : Nat) {s : State σ}
    (log : List Call) {e : RunnerError} {next : σ} {tree : FileTree} {invocation : Text}
    {rest : List Text} (hb : b.build s.build s.tree = (.error e, next, tree))
    (hinv : b.invocations next = invocation :: rest) :
    ∃ calls, Records b settings round s log calls := by
  obtain ⟨blocks, hblocks, hfound, hkept, hall⟩ := compileAll_recorded b settings
    (invocation :: rest) (s.after next tree) (log ++ [.build (.error e) (invocation :: rest)])
  -- The same round is run twice, as it is and on a build that keeps a record. They agree step by
  -- step, and the record shows what the round has found.
  have hafter : (s.withLog log).after (next, log ++ [.build (.error e) (invocation :: rest)]) tree =
      (s.after next tree).withLog (log ++ [.build (.error e) (invocation :: rest)]) := rfl
  have hplain := runRound_fallen hb hinv settings round
  have hlogged := runRound_fallen (recorded_build log hb hinv) hinv settings round
  rw [hafter, hall] at hlogged
  rcases hcompiled : compileAll b settings (invocation :: rest) (s.after next tree)
    with ⟨findings, s'⟩
  rw [hcompiled] at hfound hkept hplain hlogged
  have hsteady : s'.fixups = s.fixups := hkept
  obtain ⟨records, hrecords, hfixups, hrun⟩ := settle_recorded b settings round findings s'
    (log ++ [.build (.error e) (invocation :: rest)] ++ blocks.flatten)
  have hcalls : findingsOf (.build (.error e) (invocation :: rest) ::
      (blocks.flatten ++ records)) = findings := by
    rw [findingsOf_fallen hrecords]
    exact hfound.symm
  -- The verdict is read off the record alone.
  have hverdict : verdict round (.build (.error e) (invocation :: rest) ::
      (blocks.flatten ++ records)) = settled round findings := by
    simp only [verdict, wasAborted, List.head?_cons, Option.any_some, Call.isAborted,
      Bool.false_eq_true, if_false, hcalls]
  refine ⟨_, .fallen e (invocation :: rest) blocks records hblocks hrecords, ?_, ?_, ?_⟩
  · rw [hplain, settle_fst, hverdict]
  · rw [hplain, patchCount, hcalls, ← hsteady]
    exact hfixups
  · rw [hlogged, hverdict, hplain]
    simpa only [List.append_assoc, List.cons_append, List.nil_append] using hrun

/-- **Every round is recorded**, whichever way it goes. -/
theorem runRound_recorded (b : BuildSystem σ) (settings : Settings) (round : Nat) (s : State σ)
    (log : List Call) : ∃ calls, Records b settings round s log calls := by
  obtain ⟨result, next, tree, hb⟩ : ∃ result next tree,
      b.build s.build s.tree = (result, next, tree) := ⟨_, _, _, rfl⟩
  cases result with
  | ok output => exact records_built settings round log hb rfl
  | error e =>
      cases hinv : b.invocations next with
      | nil => exact ⟨_, records_without_invocations settings round log hb hinv⟩
      | cons invocation rest => exact records_fallen settings round log hb hinv

/-! ## Whole runs

By induction on the rounds that are left, with the number of the first one free. -/

/-- **The rounds of a whole run**, given how many rounds are left and the number of the first
one. -/
inductive Trail (settings : Settings) : Nat → Nat → List (List Call) → Outcome → Prop where
  | finished {left round : Nat} {calls : List Call} {outcome : Outcome}
      (hcalls : RoundCalls settings calls) (hend : verdict round calls = .finished outcome) :
      Trail settings (left + 1) round [calls] outcome
  | exhausted {round pending : Nat} {calls : List Call}
      (hcalls : RoundCalls settings calls) (hend : verdict round calls = .again pending) :
      Trail settings 1 round [calls] (.budgetExhausted round pending)
  | again {left round pending : Nat} {calls : List Call} {rest : List (List Call)}
      {outcome : Outcome} (hcalls : RoundCalls settings calls)
      (hend : verdict round calls = .again pending)
      (tail : Trail settings (left + 1) (round + 1) rest outcome) :
      Trail settings (left + 2) round (calls :: rest) outcome

/-- **What a whole run does** under a recording build system. -/
theorem runRounds_recorded (b : BuildSystem σ) (settings : Settings) (left round : Nat)
    (s : State σ) (log : List Call) :
    ∃ rounds, Trail settings (left + 1) round rounds (runRounds b settings (left + 1) round s).1 ∧
      (runRounds b settings (left + 1) round s).2.fixups =
        s.fixups + (rounds.map patchCount).sum ∧
      runRounds (recorded b) settings (left + 1) round (s.withLog log) =
        ((runRounds b settings (left + 1) round s).1,
          (runRounds b settings (left + 1) round s).2.withLog (log ++ rounds.flatten)) := by
  -- one round more or less is one constructor of the trail more or less
  induction left generalizing round s log with
  | zero =>
      obtain ⟨calls, hcalls, hend, hfixups, hrun⟩ := runRound_recorded b settings round s log
      rcases hround : runRound b settings round s with ⟨result, s'⟩
      rw [hround] at hend hfixups hrun
      have hend : verdict round calls = result := hend.symm
      refine ⟨[calls], ?_⟩
      cases result with
      | finished outcome =>
          refine ⟨?_, ?_, ?_⟩
          · simpa only [runRounds, hround] using Trail.finished hcalls hend
          · simpa [runRounds, hround] using hfixups
          · simp only [runRounds, hround, hrun, hend, List.flatten_cons, List.flatten_nil,
              List.append_nil]
      | again pending =>
          refine ⟨?_, ?_, ?_⟩
          · simpa only [runRounds, hround, if_true] using Trail.exhausted hcalls hend
          · simpa [runRounds, hround] using hfixups
          · simp only [runRounds, hround, hrun, hend, if_true, List.flatten_cons,
              List.flatten_nil, List.append_nil]
  | succ left ih =>
      obtain ⟨calls, hcalls, hend, hfixups, hrun⟩ := runRound_recorded b settings round s log
      rcases hround : runRound b settings round s with ⟨result, s'⟩
      rw [hround] at hend hfixups hrun
      have hend : verdict round calls = result := hend.symm
      have hleft : left + 1 ≠ 0 := Nat.succ_ne_zero left
      rw [runRounds, runRounds, hround, hrun, hend]
      cases result with
      | finished outcome =>
          refine ⟨[calls], Trail.finished hcalls hend, ?_, ?_⟩
          · simpa using hfixups
          · simp only [List.flatten_cons, List.flatten_nil, List.append_nil]
      | again pending =>
          obtain ⟨rounds, htrail, hfixups', hrun'⟩ := ih (round + 1) s' (log ++ calls)
          simp only [if_neg hleft]
          refine ⟨calls :: rounds, Trail.again hcalls hend htrail, ?_, ?_⟩
          · rw [hfixups', hfixups, List.map_cons, List.sum_cons, Nat.add_assoc]
          · rw [hrun', List.flatten_cons, List.append_assoc]

theorem Trail.roundCalls {settings : Settings} {left round : Nat} {rounds : List (List Call)}
    {outcome : Outcome} (h : Trail settings left round rounds outcome) :
    ∀ calls ∈ rounds, RoundCalls settings calls := by
  induction h with
  | finished hcalls hend =>
      intro calls hmem
      rw [List.mem_singleton.mp hmem]
      exact hcalls
  | exhausted hcalls hend =>
      intro calls hmem
      rw [List.mem_singleton.mp hmem]
      exact hcalls
  | again hcalls hend tail ih =>
      intro calls hmem
      rcases List.mem_cons.mp hmem with rfl | hmem
      · exact hcalls
      · exact ih calls hmem

/-- **How a run ends**: its last round ends the verification, or asks for another one that the
budget does not admit. -/
theorem Trail.last {settings : Settings} {left round : Nat} {rounds : List (List Call)}
    {outcome : Outcome} (h : Trail settings left round rounds outcome) :
    ∃ init last, rounds = init ++ [last] ∧ rounds.length ≤ left ∧
      (verdict (round + init.length) last = .finished outcome ∨
        ∃ pending, verdict (round + init.length) last = .again pending ∧
          outcome = .budgetExhausted (round + init.length) pending ∧ rounds.length = left) := by
  induction h with
  | finished hcalls hend => exact ⟨[], _, rfl, Nat.succ_le_succ (Nat.zero_le _), .inl hend⟩
  | exhausted hcalls hend => exact ⟨[], _, rfl, Nat.le_refl 1, .inr ⟨_, hend, rfl, rfl⟩⟩
  | @again left round pending calls rest outcome hcalls hend tail ih =>
      obtain ⟨init, last, rfl, hlen, hlast⟩ := ih
      have hround : round + (calls :: init).length = round + 1 + init.length := by
        rw [List.length_cons]; omega
      refine ⟨calls :: init, last, rfl, Nat.succ_le_succ hlen, ?_⟩
      rw [hround]
      rcases hlast with hlast | ⟨pending, hlast, houtcome, hleft⟩
      · exact .inl hlast
      · exact .inr ⟨pending, hlast, houtcome, by rw [List.length_cons, hleft]⟩

/-! ## Finding the rounds in a record -/

/-- The rounds of a record of calls: a new one begins with each build. -/
def roundsOf (calls : List Call) : List (List Call) := calls.splitBy fun _ next => !next.isBuild

/-- The number of builds in a record of calls. -/
def buildCount (calls : List Call) : Nat := calls.countP Call.isBuild

theorem Fallback.isBuild_eq_false {settings : Settings} {invocations : List Text}
    {blocks : List (List Call)} (h : Fallback settings invocations blocks) :
    ∀ c ∈ blocks.flatten, c.isBuild = false := by
  induction h with
  | nil => intro c hc; cases hc
  | cons head tail ih =>
      intro c hc
      rw [List.flatten_cons] at hc
      rcases List.mem_append.mp hc with hc | hc
      · obtain ⟨result, rfl⟩ := head.eq_compile c hc
        rfl
      · exact ih c hc

theorem RoundCalls.exists_cons {settings : Settings} {calls : List Call}
    (h : RoundCalls settings calls) :
    ∃ result captured rest, calls = .build result captured :: rest ∧
      ∀ c ∈ rest, c.isBuild = false := by
  cases h with
  | built output captured records hrecords =>
      exact ⟨_, _, _, rfl, fun c hc => Call.isBuild_of_isCheckpoint (hrecords c hc)⟩
  | fallen e captured blocks records hblocks hrecords =>
      refine ⟨_, _, _, rfl, fun c hc => ?_⟩
      rcases List.mem_append.mp hc with hc | hc
      · exact hblocks.isBuild_eq_false c hc
      · exact Call.isBuild_of_isCheckpoint (hrecords c hc)

theorem isChain_of_no_build {first : Call} {rest : List Call}
    (h : ∀ c ∈ rest, c.isBuild = false) :
    (first :: rest).IsChain fun _ next => (!next.isBuild) = true := by
  induction rest generalizing first with
  | nil => exact .singleton _
  | cons c rest ih =>
      refine .cons_cons ?_ (ih fun c hc => h c (List.mem_cons_of_mem _ hc))
      rw [h c List.mem_cons_self]
      rfl

/-- Splitting a record before each build gives back its rounds. -/
theorem roundsOf_flatten {settings : Settings} {rounds : List (List Call)}
    (h : ∀ calls ∈ rounds, RoundCalls settings calls) : roundsOf rounds.flatten = rounds := by
  induction rounds with
  | nil => rfl
  | cons calls rest ih =>
      have hrest := ih fun calls hc => h calls (List.mem_cons_of_mem _ hc)
      obtain ⟨result, captured, others, hcalls, hothers⟩ := (h calls List.mem_cons_self).exists_cons
      have hone : roundsOf calls = [calls] := by
        rw [hcalls]
        exact List.splitBy_of_isChain (List.cons_ne_nil _ _) (isChain_of_no_build hothers)
      rw [List.flatten_cons, roundsOf, List.splitBy_append, ← roundsOf, ← roundsOf, hone, hrest]
      · rfl
      · -- the cut before the next round is a cut before its build
        intro x _ y hy
        cases rest with
        | nil => cases hy
        | cons next rest =>
            obtain ⟨result', captured', others', hnext, -⟩ :=
              (h next (List.mem_cons_of_mem _ List.mem_cons_self)).exists_cons
            rw [hnext] at hy
            cases hy
            rfl

theorem buildCount_flatten {settings : Settings} {rounds : List (List Call)}
    (h : ∀ calls ∈ rounds, RoundCalls settings calls) :
    buildCount rounds.flatten = rounds.length := by
  induction rounds with
  | nil => rfl
  | cons calls rest ih =>
      obtain ⟨result, captured, others, rfl, hothers⟩ := (h calls List.mem_cons_self).exists_cons
      have hnone : others.countP Call.isBuild = 0 := by
        rw [List.countP_eq_zero]
        intro c hc
        rw [hothers c hc]
        exact Bool.false_ne_true
      have hrest := ih fun calls hc => h calls (List.mem_cons_of_mem _ hc)
      rw [buildCount] at hrest ⊢
      rw [List.flatten_cons, List.countP_append, hrest, List.countP_cons, hnone, List.length_cons]
      simp only [Call.isBuild, if_true]
      omega

end SwiftExistential.Feedback
