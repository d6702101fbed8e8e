import SwiftExistential.Proofs.Feedback.Convergence

/-!
# When a fallback succeeds

A round whose build could not be run compiles the captured invocations one by one, and each of them
leaves the round in one of two ways: an output of it was read to the end, or it was given up,
because the compiler could not be run or because every attempt was cut short by a missing header.
Giving up leaves no finding behind.

So a verification that ends with such a round succeeds exactly if the outputs that were read say
nothing, and the success speaks for all files only if no invocation was given up
(`fallback_is_genuine_iff`). With a compiler that cannot be run, nothing is compiled, nothing is
found, and a success is reported (`missing_compiler_is_reported_as_success`). A round without
invocations is the exception: it ends the verification with the error of the build.
-/

set_option autoImplicit false

namespace SwiftExistential.Feedback

variable {σ : Type}

deriving instance DecidableEq for Call

/-! ## Invocations that were checked

Both ways to leave the round are said of the calls alone, and they exclude each other. -/

/-- Whether a call compiled a file and its output was read to the end. -/
def Call.isChecked : Call → Bool
  | compile _ (.ok output) => (Findings.ofLines? output.lines).isSome
  | _ => false

/-- Whether a call compiled nothing, because the compiler could not be run. -/
def Call.isNotRun : Call → Bool
  | compile _ (.error _) => true
  | _ => false

/-- Some attempt at an invocation was read to the end. -/
def IsChecked (attempts : List Call) : Prop := ∃ c ∈ attempts, c.isChecked = true

/-- An invocation was given up: the last attempt could not be run, or all attempts that there may be
were cut short. -/
def IsGivenUp (retries : Nat) (attempts : List Call) : Prop :=
  (∃ last, attempts.getLast? = some last ∧ last.isNotRun = true) ∨
    attempts.length = retries ∧ ∀ c ∈ attempts, c.isAborted = true

theorem Call.isNotRun_of_isAborted {c : Call} (h : c.isAborted = true) : c.isNotRun = false := by
  cases c with
  | build result captured => rfl
  | checkpoint result => rfl
  | compile command result =>
      cases result with
      | ok output => rfl
      | error e => cases h

theorem Call.isChecked_of_isAborted {c : Call} (h : c.isAborted = true) : c.isChecked = false := by
  cases c with
  | build result captured => rfl
  | checkpoint result => rfl
  | compile command result =>
      cases result with
      | error e => rfl
      | ok output =>
          rw [isAborted] at h
          rw [isChecked, ← Option.not_isNone, h, Bool.not_true]

/-- An attempt that was cut short leaves it to the later ones whether the invocation is given up. -/
theorem isGivenUp_cons {c : Call} (h : c.isAborted = true) (n : Nat) (rest : List Call) :
    IsGivenUp (n + 1) (c :: rest) ↔ IsGivenUp n rest := by
  have hlast : (∃ last, (c :: rest).getLast? = some last ∧ last.isNotRun = true) ↔
      ∃ last, rest.getLast? = some last ∧ last.isNotRun = true := by
    rw [List.getLast?_cons]
    cases rest.getLast? with
    | none => simp [Call.isNotRun_of_isAborted h]
    | some last => simp
  simp only [IsGivenUp, hlast, List.length_cons, Nat.add_right_cancel_iff, List.forall_mem_cons, h,
    true_and]

/-- **An invocation is checked if and only if it is not given up.** -/
theorem Attempts.isChecked_iff {command : Text} {n : Nat} {attempts : List Call}
    (h : Attempts command n attempts) : IsChecked attempts ↔ ¬ IsGivenUp n attempts := by
  induction h with
  | none => simp [IsChecked, IsGivenUp]
  | failed n e => simp [IsChecked, IsGivenUp, Call.isChecked, Call.isNotRun]
  | read n output h =>
      -- the output was read, so it was run and not cut short
      have hread : (Call.compile command (.ok output)).isAborted = false := by
        rw [Call.isAborted, ← Option.not_isSome, h, Bool.not_true]
      simp [IsChecked, IsGivenUp, Call.isChecked, Call.isNotRun, h, hread]
  | again n output rest h tail ih =>
      have haborted : (Call.compile command (.ok output)).isAborted = true := by
        rw [Call.isAborted, h, Option.isNone_none]
      rw [isGivenUp_cons haborted, ← ih]
      simp [IsChecked, Call.isChecked_of_isAborted haborted]

/-! ## Rounds that fell back

The calls of the round are cut into a block for each invocation, in order, as for the bounds on
attempts. -/

/-- The captured invocations and the further calls of the last round, if its build could not be
run. -/
def lastFallback? (calls : List Call) : Option (List Text × List Call) :=
  match (roundsOf calls).getLast? with
  | some (.build (.error _) captured :: rest) => some (captured, rest)
  | _ => none

/-- The attempts of a fallback, one block for each captured invocation, with what becomes of the
invocation. -/
def FallsBackOn (config : Config) (captured : List Text) (calls : List Call)
    (blocks : List (List Call)) : Prop :=
  (∃ records, calls = blocks.flatten ++ records ∧ ∀ c ∈ records, c.isCheckpoint = true) ∧
    List.Forall₂ (IsAttempt config) captured blocks ∧
    ∀ block ∈ blocks, IsChecked block ↔ ¬ IsGivenUp (max 1 config.compileRetries) block

theorem Fallback.isChecked_iff {settings : Settings} {captured : List Text}
    {blocks : List (List Call)} (h : Fallback settings captured blocks) :
    ∀ block ∈ blocks, IsChecked block ↔ ¬ IsGivenUp settings.compileRetries block := by
  induction h with
  | nil => intro block hblock; cases hblock
  | cons head tail ih =>
      intro block hblock
      rcases List.mem_cons.mp hblock with rfl | hblock
      · exact head.isChecked_iff
      · exact ih block hblock

theorem findingsOf_eq_nothing_iff (calls : List Call) :
    findingsOf calls = ⟨[], []⟩ ↔ ∀ c ∈ calls, c.findings = ⟨[], []⟩ := by
  have hnothing : ∀ f : Findings, f = ⟨[], []⟩ ↔ f.fixups = [] ∧ f.unrecognized = [] := by
    rintro ⟨fixups, unrecognized⟩
    rw [Findings.mk.injEq]
  simp only [hnothing, findingsOf, List.flatMap_eq_nil_iff]
  exact ⟨fun h c hc => ⟨h.1 c hc, h.2 c hc⟩,
    fun h => ⟨fun c hc => (h c hc).1, fun c hc => (h c hc).2⟩⟩

/-- A round that fell back ends the verification with success if and only if there was something to
compile and nothing was found. -/
theorem verdict_fallen_eq_converged_iff (round : Nat) (e : RunnerError) (captured : List Text)
    (rest : List Call) :
    (∃ rounds, verdict round (.build (.error e) captured :: rest) = .finished (.converged rounds)) ↔
      captured ≠ [] ∧ ∀ c ∈ rest, c.findings = ⟨[], []⟩ := by
  have hfound : findingsOf (.build (.error e) captured :: rest) = findingsOf rest := by
    rw [← List.singleton_append, findingsOf_append, findingsOf_singleton]
    exact Findings.nothing_append _
  rw [← findingsOf_eq_nothing_iff, ← hfound]
  cases captured with
  | nil => simp [verdict]
  | cons invocation others =>
      constructor
      · rintro ⟨rounds, hverdict⟩
        exact ⟨List.cons_ne_nil _ _, (converged_of_verdict hverdict).2.2⟩
      · rintro ⟨-, hnothing⟩
        refine ⟨round - 1, ?_⟩
        simp only [verdict, wasAborted, List.head?_cons, Option.any_some, Call.isAborted,
          Bool.false_eq_true, if_false, hnothing, settled_nothing]

/-- **When the success of a fallback can be believed.** A verification that ends with a round whose
build could not be run succeeds if and only if there was something to compile and nothing was found;
so its success, if it reports one, rests on an output of every file that was read to the end if and
only if no invocation was given up or something was found. -/
theorem fallback_is_genuine_iff (b : BuildSystem σ) (guard : Guard) (config : Config) (build : σ)
    (tree : FileTree) (registry : Registry) (captured : List Text) (calls : List Call)
    (hlast : lastFallback? (callsOf b (Settings.ofConfig guard config)
      (State.start build tree registry)) = some (captured, calls)) :
    let outcome := (run b (Settings.ofConfig guard config)
      (State.start build tree registry)).1.outcome
    (outcome.isSuccess = true ↔ captured ≠ [] ∧ ∀ c ∈ calls, c.findings = ⟨[], []⟩) ∧
      ∃ blocks, FallsBackOn config captured calls blocks ∧
        ((outcome.isSuccess = true → ∀ block ∈ blocks, IsChecked block) ↔
          (∀ block ∈ blocks, ¬ IsGivenUp (max 1 config.compileRetries) block) ∨
            ∃ c ∈ calls, c.findings ≠ ⟨[], []⟩) := by
  intro outcome
  obtain ⟨rounds, htrail, -, hrun⟩ :=
    run_recorded b guard config (State.start build tree registry) rfl
  have hcalls : callsOf b (Settings.ofConfig guard config) (State.start build tree registry) =
      rounds.flatten := by
    rw [callsOf, hrun]
    rfl
  obtain ⟨init, last, hgetLast, hmem, hsuccess⟩ := htrail.isSuccess_iff_verdict
  rw [hcalls, lastFallback?, roundsOf_flatten htrail.roundCalls, hgetLast] at hlast
  cases hmem with
  | built output captured' records hrecords => cases hlast
  | fallen e captured' blocks records hblocks hrecords =>
      cases hlast
      rw [verdict_fallen_eq_converged_iff] at hsuccess
      have hchecked := hblocks.isChecked_iff
      refine ⟨hsuccess, blocks, ⟨⟨records, rfl, hrecords⟩, hblocks.forall₂, hchecked⟩, ?_⟩
      have hall : (∀ block ∈ blocks, IsChecked block) ↔
          ∀ block ∈ blocks, ¬ IsGivenUp (max 1 config.compileRetries) block :=
        forall₂_congr hchecked
      rw [← hall]
      constructor
      · intro h
        by_cases hfound : ∀ c ∈ blocks.flatten ++ records, c.findings = ⟨[], []⟩
        · -- nothing was found: either the verification succeeds or there was nothing to compile
          refine .inl fun block hblock => h (hsuccess.mpr ⟨?_, hfound⟩) block hblock
          rintro rfl
          cases hblocks
          cases hblock
        · push Not at hfound
          exact .inr hfound
      · rintro (h | ⟨c, hc, hfound⟩) hsucceeds
        · exact h
        · exact absurd ((hsuccess.mp hsucceeds).2 c hc) hfound

/-! ## Compilers that never change -/

/-- A build system whose build cannot be run, and whose compiler always has one result. -/
def withoutBuild (result : Except RunnerError BuildOutput) : BuildSystem Unit where
  build _ tree := (.error (.notRunnable "xcodebuild".toList 127), (), tree)
  compile _ _ tree := (result, (), tree)
  checkpoint _ tree := (.ok (), (), tree)
  invocations _ := ["swiftc -c -primary-file Foo.swift".toList]

/-- The command that the captured invocation becomes. -/
def plainCommand : Text :=
  Invocation.sanitize Config.default.stripFlags "swiftc -c -primary-file Foo.swift".toList

/-- A compiler that has nothing to say is rightly reported as a success. -/
theorem fallback_is_genuine_of_silent_compiler :
    lastFallback? (callsOf (withoutBuild (.ok ⟨true, []⟩)) (Settings.ofConfig ⟨[], []⟩ Config.default)
        emptyStart) =
      some (["swiftc -c -primary-file Foo.swift".toList], [.compile plainCommand (.ok ⟨true, []⟩)]) ∧
    (run (withoutBuild (.ok ⟨true, []⟩)) (Settings.ofConfig ⟨[], []⟩ Config.default)
        emptyStart).1.outcome.isSuccess = true := by
  have hlast : lastFallback? (callsOf (withoutBuild (.ok ⟨true, []⟩))
      (Settings.ofConfig ⟨[], []⟩ Config.default) emptyStart) =
        some (["swiftc -c -primary-file Foo.swift".toList],
          [.compile plainCommand (.ok ⟨true, []⟩)]) := by
    rfl
  refine ⟨hlast, ?_⟩
  have h := fallback_is_genuine_iff (withoutBuild (.ok ⟨true, []⟩)) ⟨[], []⟩ Config.default ()
    { entries := ∅, current := [] } Registry.empty _ _ hlast
  refine h.1.mpr ⟨List.cons_ne_nil _ _, fun c hc => ?_⟩
  rw [List.mem_singleton.mp hc]
  decide

/-- A compiler that cannot be run is reported as a success: nothing was compiled, and nothing was
found. -/
theorem missing_compiler_is_reported_as_success :
    lastFallback? (callsOf (withoutBuild (.error (.notRunnable "swiftc".toList 127)))
        (Settings.ofConfig ⟨[], []⟩ Config.default) emptyStart) =
      some (["swiftc -c -primary-file Foo.swift".toList],
        [.compile plainCommand (.error (.notRunnable "swiftc".toList 127))]) ∧
    (run (withoutBuild (.error (.notRunnable "swiftc".toList 127)))
        (Settings.ofConfig ⟨[], []⟩ Config.default) emptyStart).1.outcome = .converged 0 := by
  exact ⟨by rfl, by decide +kernel⟩

end SwiftExistential.Feedback
