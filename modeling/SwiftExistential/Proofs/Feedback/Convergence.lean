import SwiftExistential.Proofs.Feedback.Machine
import SwiftExistential.Proofs.Feedback.Rounds

/-!
# Reports and when they can be believed

What a report has to do with the calls of the run it is about: how many builds there were, what the
last round found, and how often single files were compiled (`Report.Fits`). Every verification ends,
and its report fits its calls (`run_fits`). No assumption is made about the build system; in
particular it may fail whenever it likes.

A round whose build could be run is judged by the lines of the output alone. So a verification that
ends with such a round succeeds exactly if no line of the last output reports a missing header or
names the place of an error, and whether the build itself succeeded plays no part
(`success_is_genuine_iff`): a build that fails without such a line, as when the linker ends it, is
reported as a success (`failed_link_is_reported_as_success`).
-/

set_option autoImplicit false

namespace SwiftExistential

namespace Feedback

variable {σ : Type}

/-! ## Attempts at single files

The bounds come from the settings: whatever number is configured, one attempt is made at least. -/

/-- A block of calls that compiles one invocation, once at least, and at most so often as the
settings say. -/
def IsAttempt (config : Config) (invocation : Text) (block : List Call) : Prop :=
  0 < block.length ∧ block.length ≤ max 1 config.compileRetries ∧
    ∀ c ∈ block, ∃ result, c = .compile (Invocation.sanitize config.stripFlags invocation) result

/-- The calls of a round after a build that could not be run: the attempts at each of the captured
invocations, and then only records of the project's state. -/
def FallsBack (config : Config) (captured : List Text) (calls : List Call) : Prop :=
  ∃ blocks records, calls = blocks.flatten ++ records ∧
    List.Forall₂ (IsAttempt config) captured blocks ∧ ∀ c ∈ records, c.isCheckpoint = true

theorem Fallback.forall₂ {guard : Guard} {config : Config} {invocations : List Text}
    {blocks : List (List Call)}
    (h : Fallback (Settings.ofConfig guard config) invocations blocks) :
    List.Forall₂ (IsAttempt config) invocations blocks := by
  -- the settings allow for one attempt at least
  have hretries : 0 < (Settings.ofConfig guard config).compileRetries := Nat.le_max_left 1 _
  induction h with
  | nil => exact .nil
  | cons head tail ih =>
      exact .cons ⟨head.length_pos hretries, head.length_le, head.eq_compile⟩ ih

theorem RoundCalls.fallsBack {guard : Guard} {config : Config} {e : RunnerError}
    {captured : List Text} {calls : List Call}
    (h : RoundCalls (Settings.ofConfig guard config) (.build (.error e) captured :: calls)) :
    FallsBack config captured calls := by
  cases h with
  | fallen e captured blocks records hblocks hrecords =>
      exact ⟨blocks, records, rfl, hblocks.forall₂, hrecords⟩

/-! ## Reports

The clauses of `Report.Fits` are about all calls together. A round is found in them by the build
that it begins with. -/

/-- **A report that fits the calls of its run.** -/
structure Report.Fits (config : Config) (calls : List Call) (report : Report) : Prop where
  builds_le : buildCount calls ≤ max 1 config.rounds
  fixups_eq : report.fixups = ((roundsOf calls).map patchCount).sum
  /-- A verification converges in a round that was not cut short and found nothing. -/
  converged : ∀ rounds, report.outcome = .converged rounds →
    rounds < max 1 config.rounds ∧ buildCount calls = rounds + 1 ∧
      ∃ last, (roundsOf calls).getLast? = some last ∧ wasAborted last = false ∧
        findingsOf last = ⟨[], []⟩
  /-- What is pending is what the last of all rounds asked for. -/
  exhausted : ∀ rounds pending, report.outcome = .budgetExhausted rounds pending →
    rounds = max 1 config.rounds ∧ buildCount calls = rounds ∧
      ∃ last, (roundsOf calls).getLast? = some last ∧ pending = patchCount last ∧
        (wasAborted last = true → pending = 0)
  /-- The errors are those of the last round, or the one of a build that left no invocations. -/
  unresolved : ∀ errors, report.outcome = .unresolved errors →
    errors ≠ [] ∧ errors.Pairwise (fun a b => compare a b = .lt) ∧
      ∃ last, (roundsOf calls).getLast? = some last ∧
        ((∃ e, last.head? = some (.build (.error e) []) ∧ errors = [e.message.toList]) ∨
          ∀ x, x ∈ errors ↔ x ∈ (findingsOf last).unrecognized)
  attempts : ∀ e captured rest, .build (.error e) captured :: rest ∈ roundsOf calls →
    FallsBack config captured rest

variable {guard : Guard} {config : Config} {round : Nat} {last : List Call}

/-- The errors of a round are the outcome if it ends the verification with errors. -/
theorem unresolved_of_verdict {errors : List Text}
    (h : verdict round last = .finished (.unresolved errors)) :
    errors ≠ [] ∧ errors.Pairwise (fun a b => compare a b = .lt) ∧
      ((∃ e, last.head? = some (.build (.error e) []) ∧ errors = [e.message.toList]) ∨
        ∀ x, x ∈ errors ↔ x ∈ (findingsOf last).unrecognized) := by
  rcases verdict_eq_finished h with ⟨e, hhead, he⟩ | ⟨-, -, he⟩ | ⟨hne, he⟩
  · cases he
    exact ⟨List.cons_ne_nil _ _, List.pairwise_singleton _ _, .inl ⟨e, hhead, rfl⟩⟩
  · cases he
  · cases he
    exact ⟨fun hnil => hne ((Text.sortDistinct_eq_nil_iff _).mp hnil),
      Text.pairwise_sortDistinct _, .inr fun x => Text.mem_sortDistinct x _⟩

theorem converged_of_verdict {rounds : Nat}
    (h : verdict round last = .finished (.converged rounds)) :
    rounds = round - 1 ∧ wasAborted last = false ∧ findingsOf last = ⟨[], []⟩ := by
  rcases verdict_eq_finished h with ⟨e, -, he⟩ | ⟨hab, hnothing, he⟩ | ⟨-, he⟩
  · cases he
  · cases he
    exact ⟨rfl, hab, hnothing⟩
  · cases he

/-- A round never ends the verification for want of rounds. -/
theorem verdict_ne_exhausted (rounds pending : Nat) :
    verdict round last ≠ .finished (.budgetExhausted rounds pending) := by
  intro h
  rcases verdict_eq_finished h with ⟨e, -, he⟩ | ⟨-, -, he⟩ | ⟨-, he⟩
  -- a budget that is exhausted is no outcome of a round
  · cases he
  · cases he
  · cases he

/-- The report of a whole run fits the rounds it went through. -/
theorem Trail.fits {rounds : List (List Call)} {report : Report}
    (h : Trail (Settings.ofConfig guard config) (max 1 config.rounds) 1 rounds report.outcome)
    (hfixups : report.fixups = (rounds.map patchCount).sum) :
    report.Fits config rounds.flatten := by
  have hcount := buildCount_flatten h.roundCalls
  have hsplit := roundsOf_flatten h.roundCalls
  obtain ⟨init, last, hrounds, hle, hend⟩ := h.last
  have hlast : rounds.getLast? = some last := by rw [hrounds, List.getLast?_concat]
  have hlength : rounds.length = init.length + 1 := by
    rw [hrounds, List.length_append, List.length_singleton]
  have hmem : RoundCalls (Settings.ofConfig guard config) last :=
    h.roundCalls last (List.mem_of_getLast? hlast)
  constructor
  case builds_le => rw [hcount]; exact hle
  case fixups_eq => rw [hsplit]; exact hfixups
  case attempts =>
      intro e captured rest hround
      rw [hsplit] at hround
      exact (h.roundCalls _ hround).fallsBack
  case converged =>
      intro r houtcome
      rw [hsplit, hcount]
      rcases hend with hfinished | ⟨pending, -, hexhausted, -⟩
      · rw [houtcome] at hfinished
        -- the last round has the number of all rounds, counted from one
        obtain ⟨hr, hab, hfound⟩ := converged_of_verdict hfinished
        exact ⟨by omega, by omega, last, hlast, hab, hfound⟩
      · rw [houtcome] at hexhausted
        cases hexhausted
  case exhausted =>
      intro r pending houtcome
      rw [hsplit, hcount]
      rcases hend with hfinished | ⟨pending', hagain, hexhausted, hall⟩
      · rw [houtcome] at hfinished
        exact absurd hfinished (verdict_ne_exhausted r pending)
      · rw [houtcome] at hexhausted
        cases hexhausted
        obtain ⟨hpending, haborted⟩ := verdict_eq_again hmem hagain
        exact ⟨by omega, by omega, last, hlast, hpending, haborted⟩
  case unresolved =>
      intro errors houtcome
      rw [hsplit]
      rcases hend with hfinished | ⟨pending, -, hexhausted, -⟩
      · rw [houtcome] at hfinished
        obtain ⟨hne, hsorted, hfound⟩ := unresolved_of_verdict hfinished
        exact ⟨hne, hsorted, last, hlast, hfound⟩
      · rw [houtcome] at hexhausted
        cases hexhausted

/-- **What a whole verification does**: its calls fall into rounds that end as its outcome tells. -/
theorem run_recorded (b : BuildSystem σ) (guard : Guard) (config : Config) (s : State σ)
    (hs : s.fixups = 0) :
    ∃ rounds, Trail (Settings.ofConfig guard config) (max 1 config.rounds) 1 rounds
        (run b (Settings.ofConfig guard config) s).1.outcome ∧
      (run b (Settings.ofConfig guard config) s).1.fixups = (rounds.map patchCount).sum ∧
      run (recorded b) (Settings.ofConfig guard config) (s.withLog []) =
        ((run b (Settings.ofConfig guard config) s).1,
          (run b (Settings.ofConfig guard config) s).2.withLog rounds.flatten) := by
  obtain ⟨left, hleft⟩ : ∃ left, max 1 config.rounds = left + 1 :=
    ⟨max 1 config.rounds - 1, by omega⟩
  obtain ⟨rounds, htrail, hfixups, hrun⟩ :=
    runRounds_recorded b (Settings.ofConfig guard config) left 1 s []
  have hrounds : (Settings.ofConfig guard config).rounds = left + 1 := hleft
  refine ⟨rounds, ?_, ?_, ?_⟩
  · rw [hleft]
    simpa only [run, hrounds] using htrail
  · simpa only [run, hrounds, hs, Nat.zero_add] using hfixups
  · simp only [run, hrounds, hrun]
    rfl

/-- **Every verification ends, and its report fits its calls.** The machine without a bound reaches
the reported outcome, and a record of the calls changes nothing but itself. -/
theorem run_fits (b : BuildSystem σ) (guard : Guard) (config : Config) (build : σ)
    (tree : FileTree) (registry : Registry) :
    let settings := Settings.ofConfig guard config
    let start := State.start build tree registry
    (∃ n ≤ 3 * max 1 config.rounds, (advance b settings)^[n] (.rebuild 1, start) =
        (.done (run b settings start).1.outcome, (run b settings start).2)) ∧
      ∃ calls, run (recorded b) settings (start.withLog []) =
          ((run b settings start).1, (run b settings start).2.withLog calls) ∧
        (run b settings start).1.Fits config calls := by
  intro settings start
  refine ⟨?_, ?_⟩
  · obtain ⟨left, hleft⟩ : ∃ left, max 1 config.rounds = left + 1 :=
      ⟨max 1 config.rounds - 1, by omega⟩
    have hrounds : settings.rounds = left + 1 := hleft
    obtain ⟨n, hn, hend⟩ := exists_iterate_advance b settings left 1 start (by omega)
    refine ⟨n, by omega, ?_⟩
    simpa only [run, hrounds] using hend
  · obtain ⟨rounds, htrail, hfixups, hrun⟩ := run_recorded b guard config start rfl
    exact ⟨rounds.flatten, hrun, htrail.fits hfixups⟩

end Feedback

/-! ## Lines that say nothing -/

namespace Diagnostic

/-- Whether a line reports a missing header or names the place of an error. -/
def isReport (line : Text) : Bool := (missingHeader? line).isSome || (errorLine? line).isSome

theorem read_eq_silent_iff (line : Text) : read line = .silent ↔ isReport line = false := by
  rw [isReport, Bool.or_eq_false_iff, Option.isSome_eq_false_iff, Option.isSome_eq_false_iff,
    Option.isNone_iff_eq_none, Option.isNone_iff_eq_none]
  constructor
  · intro h
    cases hm : missingHeader? line with
    | some header => rw [read_of_missingHeader? hm] at h; cases h
    | none =>
        refine ⟨rfl, ?_⟩
        cases he : errorLine? line with
        | none => rfl
        | some e =>
            simp only [read, hm, he] at h
            split at h <;> cases h
  · rintro ⟨hm, he⟩
    simp only [read, hm, he]

end Diagnostic

namespace Feedback

variable {σ : Type}

/-- An output has findings, or is cut short, if and only if one of its lines is a report. -/
theorem ofLines?_eq_nothing_iff (lines : List Text) :
    Findings.ofLines? lines = some ⟨[], []⟩ ↔ ∀ line ∈ lines, Diagnostic.isReport line = false := by
  have hsilent := Diagnostic.all_silent_iff lines
  simp only [Diagnostic.read_eq_silent_iff] at hsilent
  rw [hsilent, Findings.ofLines?]
  cases lines.findSome? Diagnostic.missingHeader? with
  | some header => simp
  | none => simp

/-! ## The last round

Whether a run succeeds is told by how its last round ends; a round before it has asked for another
one. -/

def callsOf (b : BuildSystem σ) (settings : Settings) (s : State σ) : List Call :=
  (run (recorded b) settings (s.withLog [])).2.build.2

/-- The output of the build that the last round begins with, if that build could be run. -/
def lastOutput? (calls : List Call) : Option BuildOutput :=
  match (roundsOf calls).getLast? with
  | some (.build (.ok output) _ :: _) => some output
  | _ => none

/-- A round whose build could be run ends the verification with success if and only if the build's
output has no report. -/
theorem verdict_built_eq_converged_iff (round : Nat) {output : BuildOutput} {captured : List Text}
    {records : List Call} (h : ∀ c ∈ records, c.isCheckpoint = true) :
    (∃ rounds, verdict round (.build (.ok output) captured :: records) =
        .finished (.converged rounds)) ↔
      ∀ line ∈ output.lines, Diagnostic.isReport line = false := by
  have haborted : wasAborted (.build (.ok output) captured :: records) =
      (Findings.ofLines? output.lines).isNone := rfl
  have hfound : findingsOf (.build (.ok output) captured :: records) =
      (Findings.ofLines? output.lines).getD ⟨[], []⟩ := findingsOf_built h
  rw [← ofLines?_eq_nothing_iff]
  constructor
  · rintro ⟨rounds, hverdict⟩
    obtain ⟨-, hab, hnothing⟩ := converged_of_verdict hverdict
    rw [haborted, Option.isNone_eq_false_iff, Option.isSome_iff_exists] at hab
    obtain ⟨findings, hfindings⟩ := hab
    rw [hfound, hfindings, Option.getD_some] at hnothing
    rw [hfindings, hnothing]
  · intro hnothing
    refine ⟨round - 1, ?_⟩
    simp only [verdict, List.head?_cons, haborted, hfound, hnothing, Option.isNone_some,
      Bool.false_eq_true, if_false, Option.getD_some, settled_nothing]

/-- A verification succeeds if and only if its last round ends it with success. -/
theorem Trail.isSuccess_iff_verdict {settings : Settings} {left round : Nat}
    {rounds : List (List Call)} {outcome : Outcome}
    (h : Trail settings left round rounds outcome) :
    ∃ init last, rounds.getLast? = some last ∧ RoundCalls settings last ∧
      (outcome.isSuccess = true ↔ ∃ converged, verdict (round + init) last =
        .finished (.converged converged)) := by
  obtain ⟨init, last, hrounds, -, hend⟩ := h.last
  have hgetLast : rounds.getLast? = some last := by rw [hrounds, List.getLast?_concat]
  refine ⟨init.length, last, hgetLast, h.roundCalls last (List.mem_of_getLast? hgetLast), ?_⟩
  -- the last round either ends the verification as its verdict tells or asks for another one
  constructor
  · intro hsuccess
    rcases hend with hfinished | ⟨pending, -, rfl, -⟩
    · cases outcome with
      | converged rounds => exact ⟨rounds, hfinished⟩
      | unresolved errors => cases hsuccess
      | budgetExhausted rounds pending => cases hsuccess
    · cases hsuccess
  · rintro ⟨converged, hverdict⟩
    rcases hend with hfinished | ⟨pending, hagain, _⟩
    · rw [hverdict] at hfinished
      cases hfinished
      rfl
    · rw [hverdict] at hagain
      cases hagain

/-- **A verification whose last build could be run succeeds if and only if that build's output has
no report.** -/
theorem Trail.isSuccess_iff {settings : Settings} {left round : Nat} {rounds : List (List Call)}
    {outcome : Outcome} {output : BuildOutput} (h : Trail settings left round rounds outcome)
    (hlast : lastOutput? rounds.flatten = some output) :
    outcome.isSuccess = true ↔ ∀ line ∈ output.lines, Diagnostic.isReport line = false := by
  obtain ⟨init, last, hgetLast, hmem, hsuccess⟩ := h.isSuccess_iff_verdict
  rw [lastOutput?, roundsOf_flatten h.roundCalls, hgetLast] at hlast
  cases hmem with
  | fallen e captured blocks records hblocks hrecords => cases hlast
  | built output' captured records hrecords =>
      cases hlast
      rw [hsuccess, verdict_built_eq_converged_iff (round + init) hrecords]

/-- **When success can be believed**: a verification that ends with a build that could be run is
right to report success, or reports none, if and only if the build succeeded or a line of its output
is a report. -/
theorem success_is_genuine_iff (b : BuildSystem σ) (guard : Guard) (config : Config) (build : σ)
    (tree : FileTree) (registry : Registry) (output : BuildOutput)
    (hlast : lastOutput? (callsOf b (Settings.ofConfig guard config)
      (State.start build tree registry)) = some output) :
    let outcome := (run b (Settings.ofConfig guard config)
      (State.start build tree registry)).1.outcome
    (outcome.isSuccess = true ↔ ∀ line ∈ output.lines, Diagnostic.isReport line = false) ∧
      ((outcome.isSuccess = true → output.success = true) ↔
        output.success = true ∨ ∃ line ∈ output.lines, Diagnostic.isReport line = true) := by
  intro outcome
  obtain ⟨rounds, htrail, -, hrun⟩ :=
    run_recorded b guard config (State.start build tree registry) rfl
  have hcalls : callsOf b (Settings.ofConfig guard config) (State.start build tree registry) =
      rounds.flatten := by
    rw [callsOf, hrun]
    rfl
  rw [hcalls] at hlast
  have hsuccess : outcome.isSuccess = true ↔
      ∀ line ∈ output.lines, Diagnostic.isReport line = false := htrail.isSuccess_iff hlast
  refine ⟨hsuccess, ?_⟩
  rw [hsuccess]
  constructor
  · intro h
    by_cases hreport : ∃ line ∈ output.lines, Diagnostic.isReport line = true
    · exact .inr hreport
    · -- without a report the run converges, so the build must have succeeded
      refine .inl (h fun line hline => ?_)
      exact Bool.eq_false_iff.mpr fun hr => hreport ⟨line, hline, hr⟩
  · rintro (h | ⟨line, hline, hr⟩) hnone
    · exact h
    · rw [hnone line hline] at hr
      cases hr

/-! ## Builds that never change -/

/-- A build system without captured invocations whose builds all have one output. -/
def unchanging (output : BuildOutput) : BuildSystem Unit where
  build _ tree := (.ok output, (), tree)
  compile _ _ tree := (.ok output, (), tree)
  checkpoint _ tree := (.ok (), (), tree)
  invocations _ := []

/-- The start of a verification of a project without files. -/
def emptyStart : State Unit := State.start () { entries := ∅, current := [] } Registry.empty

/-- A build that succeeds is rightly reported as a success. -/
theorem success_is_genuine_of_complete_build :
    lastOutput? (callsOf (unchanging ⟨true, ["Build complete!".toList]⟩)
        (Settings.ofConfig ⟨[], []⟩ Config.default) emptyStart) =
      some ⟨true, ["Build complete!".toList]⟩ ∧
    (run (unchanging ⟨true, ["Build complete!".toList]⟩)
        (Settings.ofConfig ⟨[], []⟩ Config.default) emptyStart).1.outcome.isSuccess = true := by
  have hlast : lastOutput? (callsOf (unchanging ⟨true, ["Build complete!".toList]⟩)
      (Settings.ofConfig ⟨[], []⟩ Config.default) emptyStart) =
        some ⟨true, ["Build complete!".toList]⟩ := by rfl
  refine ⟨hlast, ?_⟩
  have h := success_is_genuine_iff (unchanging ⟨true, ["Build complete!".toList]⟩) ⟨[], []⟩
    Config.default () { entries := ∅, current := [] } Registry.empty _ hlast
  exact h.1.mpr (by decide +kernel)

/-- A build that the linker ends is reported as a success: the linker names no place. -/
theorem failed_link_is_reported_as_success :
    lastOutput? (callsOf (unchanging ⟨false, ["ld: symbol(s) not found".toList]⟩)
        (Settings.ofConfig ⟨[], []⟩ Config.default) emptyStart) =
      some ⟨false, ["ld: symbol(s) not found".toList]⟩ ∧
    (run (unchanging ⟨false, ["ld: symbol(s) not found".toList]⟩)
        (Settings.ofConfig ⟨[], []⟩ Config.default) emptyStart).1.outcome = .converged 0 := by
  exact ⟨by rfl, by decide +kernel⟩

end Feedback

end SwiftExistential
