import SwiftExistential.Proofs.Shell.Tokens

/-!
# Scripts of plans

A plan is what a caller of the shell wants: calls of programs, and which of them depend on which.
`shown` writes it as a script, with quoted programs and arguments and with parentheses where plans
stand in plans.

Reading goes the way back: `ReadsAs` is what holds of a text that stands before a delimiter, it
holds of calls and of groups, and so by induction on the plan the reader finds the command that the
plan stands for (`run_readListFrom_plan`). `run_readLine_script` is the same for the whole script of
a plan, with the redirection that puts its messages with its output.

The reader is the one that runs all scripts; nothing of it is left out here. A script that is put
together from plans stays clear of most of it, and the lemmas say of what.
-/

set_option autoImplicit false

namespace SwiftExistential.Shell

namespace Reader

variable {aliases : List (Text × Text)} {line : Nat} {r t : Text} {token : Token} {wants : Wants}
variable (commands : Reader Command) (nested : Goal → Reader Command)

/-! ## Simple commands

A call is a row of words up to a delimiter. No word of it is a keyword, an alias or an assignment,
since each begins with a quote or is plain. -/

theorem ends_shownArguments (arguments : List Argument) (hr : Ends r) :
    Ends (shownArguments arguments ++ r) := by
  cases arguments with
  | nil => exact hr
  | cons a rest => exact ends_space

theorem shownArguments_cons (a : Argument) (rest : List Argument) (t : Text) :
    shownArguments (a :: rest) ++ t = ' ' :: a.shown ++ (shownArguments rest ++ t) := by
  rw [shownArguments, List.flatMap_cons, List.append_assoc]
  rfl

theorem count_shownArguments_cons (a : Argument) (rest : List Argument) :
    (shownArguments (a :: rest)).count '\n' =
      a.shown.count '\n' + (shownArguments rest).count '\n' := by
  rw [shownArguments, List.flatMap_cons, List.count_append, List.count_cons_of_ne (by decide)]
  rfl

/-- The arguments up to a delimiter become words of the command that is being read. -/
theorem run_readSimple_arguments (d : Delimiter) (arguments : List Argument) {l fuel : Nat}
    {s : Simple}
    (hwords : s.words ≠ []) (hfuel : arguments.length < fuel) :
    (readSimple commands nested line fuel s).run
        (.plain aliases l (shownArguments arguments ++ (d.shown ++ r))) =
      .ok (.simple line s.assignments.reverse (s.words.reverse ++ arguments.map Argument.word)
          s.redirections.reverse)
        (.holding d.token aliases (l + (shownArguments arguments).count '\n') (d.left ++ r)) := by
  have hempty : s.words.isEmpty = false := by simpa using hwords
  -- The reader takes one argument for each unit of fuel, and the delimiter with the last one.
  induction arguments generalizing l fuel s with
  | nil =>
      obtain ⟨fuel, rfl⟩ : ∃ n, fuel = n + 1 := ⟨fuel - 1, by simp at hfuel; omega⟩
      have hnone : shownArguments [] = [] := rfl
      unfold readSimple
      rw [hnone, List.nil_append, run_bind (run_readToken_delimiter commands d), List.map_nil,
        List.append_nil, List.count_nil, Nat.add_zero]
      rcases d with (_ | _ | _) | _ <;> rfl
  | cons a rest ih =>
      obtain ⟨fuel, rfl⟩ : ∃ n, fuel = n + 1 := ⟨fuel - 1, by simp at hfuel; omega⟩
      have hends : Ends (shownArguments rest ++ (d.shown ++ r)) :=
        ends_shownArguments rest (ends_delimiter d)
      have hassigned : ¬ (s.words.isEmpty && a.word.assignment?.isSome) = true := by simp [hempty]
      have hrest : rest.length < fuel := Nat.lt_of_succ_lt_succ hfuel
      unfold readSimple
      rw [shownArguments_cons, run_bind (run_readToken_argument commands a hends rfl hempty)]
      dsimp only
      rw [if_neg hassigned, ih (List.cons_ne_nil _ _) hrest rfl, count_shownArguments_cons, Nat.add_assoc,
        List.reverse_cons, List.append_assoc]
      rfl

theorem passes_quotedWord (t : Text) : Passes wants (.word (quotedWord t)) :=
  Or.inl (plain?_quotedWord t)

theorem run_readSimple_call (d : Delimiter) (program : Text) (arguments : List Argument)
    {l fuel : Nat}
    (hfuel : arguments.length + 1 < fuel) :
    (readSimple commands nested line fuel ⟨[], [], []⟩).run
        (.holding (.word (quotedWord program)) aliases l (shownArguments arguments ++ (d.shown ++ r))) =
      .ok (.simple line [] (callWords program arguments) [])
        (.holding d.token aliases (l + (shownArguments arguments).count '\n') (d.left ++ r)) := by
  obtain ⟨fuel, rfl⟩ : ∃ n, fuel = n + 1 := ⟨fuel - 1, by omega⟩
  -- the program is in quotes, and so it is no assignment
  unfold readSimple
  rw [run_bind (run_readToken_holding commands (passes_quotedWord program))]
  dsimp only
  rw [assignment?_quotedWord]
  exact run_readSimple_arguments commands nested d arguments (List.cons_ne_nil _ _) (by omega)

/-! ## Commands -/

/-- A token that a command starts with: a word in quotes, or the parenthesis of a group. -/
inductive StartsCommand : Token → Prop where
  | word (t : Text) : StartsCommand (.word (quotedWord t))
  | opening : StartsCommand .opening

theorem StartsCommand.passes (h : StartsCommand token) : Passes wants token := by
  cases h with
  | word t => exact passes_quotedWord t
  | opening => trivial

theorem length_le_shownArguments (arguments : List Argument) :
    arguments.length ≤ (shownArguments arguments).length := by
  induction arguments with
  | nil => exact Nat.zero_le _
  | cons a rest ih =>
      rw [shownArguments, List.flatMap_cons, List.length_append, List.length_cons, List.length_cons]
      rw [shownArguments] at ih
      omega

theorem run_readCommand_call (d : Delimiter) (program : Text) (arguments : List Argument) :
    (readCommand commands nested wants).run
        (.holding (.word (quotedWord program)) aliases line (shownArguments arguments ++ (d.shown ++ r))) =
      .ok (.simple line [] (callWords program arguments) [])
        (.holding d.token aliases (line + (shownArguments arguments).count '\n') (d.left ++ r)) := by
  have hfuel :
      arguments.length + 1 < 2 * (shownArguments arguments ++ (d.shown ++ r)).length + 8 := by
    have hle := length_le_shownArguments arguments
    rw [List.length_append]
    omega
  unfold readCommand
  rw [run_bind (run_readToken_holding commands (passes_quotedWord program))]
  exact run_readSimple_call commands nested d program arguments hfuel

theorem run_readRedirections_delimiter (d : Delimiter) {fuel : Nat} :
    (readRedirections commands (fuel + 1) wants).run (.plain aliases line (d.shown ++ r)) =
      .ok [] (.holding d.token aliases line (d.left ++ r)) := by
  unfold readRedirections
  rw [run_bind (run_readToken_delimiter commands d)]
  rcases d with (_ | _ | _) | _ <;> rfl

theorem run_withRedirections_delimiter (d : Delimiter) {l : Nat} (body : Command) :
    (withRedirections commands line body).run (.plain aliases l (d.shown ++ r)) =
      .ok body (.holding d.token aliases l (d.left ++ r)) := by
  unfold withRedirections
  rw [run_bind run_rest, run_bind (run_readRedirections_delimiter commands d)]
  rfl

theorem run_readCommand_group {body : Command} {l : Nat}
    (hbody : (nested (.list .block)).run (.plain aliases line t) =
      .ok body (.holding .closing aliases l r)) :
    (readCommand commands nested wants).run (.holding .opening aliases line t) =
      (withRedirections commands line (.subshell line body [])).run (.plain aliases l r) := by
  have hopening : Passes wants .opening := trivial
  have hclosing : Passes .plain .closing := trivial
  have hline : (Source.plain aliases line t).line = line := rfl
  unfold readCommand
  rw [run_bind (run_readToken_holding commands hopening), run_bind (EStateM.run_get _)]
  dsimp only
  rw [hline, run_bind hbody, run_bind (run_readToken_holding commands hclosing)]

theorem run_readPipeline {body : Command} {s : Source} {next : Token} {l : Nat}
    (hstart : StartsCommand token) (hnext : Passes .plain next) (hpipe : next ≠ .pipe)
    (htoken : (readToken commands wants).run s = .ok token (.plain aliases line t))
    (hcommand : (readCommand commands nested .plain).run (.holding token aliases line t) =
      .ok body (.holding next aliases l r)) :
    (readPipeline commands nested wants).run s = .ok body (.holding next aliases l r) := by
  have hrest : rest.run (.holding next aliases l r) = .ok r (.holding next aliases l r) := rfl
  have hpiped : (readPiped commands nested (r.length + 1)).run (.holding next aliases l r) =
      .ok [] (.holding next aliases l r) := by
    unfold readPiped
    rw [run_bind (run_readToken_holding commands hnext)]
    cases next with
    | pipe => exact absurd rfl hpipe
    | _ => rfl
  unfold readPipeline
  rw [run_bind htoken]
  cases hstart
  all_goals
    dsimp only
    rw [if_pos Bool.not_false, run_bind run_pushBack, if_neg Bool.false_ne_true, run_bind hcommand,
      run_bind hrest, run_bind hpiped]
    rfl

/-- Nothing is joined at a token that joins nothing. -/
theorem run_readAndOr_stop {next : Token} (hnext : Passes .plain next) (hand : next ≠ .andThen)
    (hor : next ≠ .orElse) (fuel : Nat) (before : Command) :
    (readAndOr commands nested fuel before).run (.holding next aliases line t) =
      .ok before (.holding next aliases line t) := by
  cases fuel with
  | zero => rfl
  | succ fuel =>
      unfold readAndOr
      rw [run_bind (run_readToken_holding commands hnext)]
      cases next with
      | andThen => exact absurd rfl hand
      | orElse => exact absurd rfl hor
      | _ => rfl

/-- How a list goes on behind its commands so far, at the token that stands there. -/
def goOn (kind : ListKind) (fuel : Nat) (all : Command) (aliases : List (Text × Text)) (line : Nat)
    (t : Text) : Token → EStateM.Result Mistake Source (Option Command)
  | .semicolon => (readListFrom commands nested kind fuel (some all)).run (.plain aliases line t)
  | .endOfFile =>
      (readListFrom commands nested kind fuel (some all)).run (.holding .endOfFile aliases line t)
  | token => .ok (some all) (.holding token aliases line t)

theorem run_readListFrom_command {kind : ListKind} {fuel : Nat} {s s' : Source}
    {first next : Command}
    {before : Option Command} {last : Token} {l : Nat} (hstart : StartsCommand token)
    (hlast : last = .semicolon ∨ last = .endOfFile ∨ (last = .closing ∧ kind = .block))
    (htoken : (readToken commands ⟨kind != .line, true, true⟩).run s = .ok token (.plain aliases line t))
    (hfirst : (readPipeline commands nested .plain).run (.holding token aliases line t) = .ok first s')
    (hnext : (readAndOr commands nested (s'.rest.length + 1) first).run s' =
      .ok next (.holding last aliases l r)) :
    (readListFrom commands nested kind (fuel + 1) before).run s =
      goOn commands nested kind fuel (behind before next) aliases l r last := by
  have hrest : rest.run s' = .ok s'.rest s' := rfl
  have hends : token.endsList = false := by cases hstart <;> rfl
  have hpasses : Passes .plain last := by
    obtain rfl | rfl | ⟨rfl, -⟩ := hlast <;> trivial
  unfold readListFrom
  rw [run_bind htoken]
  cases hstart
  all_goals
    dsimp only
    rw [run_bind run_pushBack, hends, Bool.false_and, if_neg Bool.false_ne_true, run_bind hfirst,
      run_bind hrest, run_bind hnext, run_bind (run_readToken_holding commands hpasses)]
    obtain rfl | rfl | ⟨rfl, rfl⟩ := hlast <;> rfl

/-! ## Commands before a delimiter

The reader of lists, of chains and of pipelines are nested, and each hands what it does not know to
the one inside. `ReadsAs` goes through all of them at once. -/

/-- A text that is read as a command before every delimiter, from its first token on. -/
def ReadsAs (aliases : List (Text × Text)) (line : Nat) (text : Text) (c : Command) : Prop :=
  ∀ (d : Delimiter) (r : Text), ∃ token l t,
    StartsCommand token ∧ IsTight (text ++ (d.shown ++ r)) ∧
    (readRaw commands .bare).run (.plain aliases line (text ++ (d.shown ++ r))) =
      .ok token (.plain aliases l t) ∧
    (readCommand commands nested .plain).run (.holding token aliases l t) =
      .ok c (.holding d.token aliases (line + text.count '\n') (d.left ++ r))

theorem readsAs_call (program : Text) (arguments : List Argument) :
    ReadsAs commands nested aliases line (quote program ++ shownArguments arguments)
      (.simple (line + program.count '\n') [] (callWords program arguments) []) := by
  intro d r
  have hends := ends_shownArguments arguments (ends_delimiter (r := r) d)
  have htight := isTight_shown (.quotation program) (shownArguments arguments ++ (d.shown ++ r))
  have hraw : (readRaw commands .bare).run
      (.plain aliases line (quote program ++ (shownArguments arguments ++ (d.shown ++ r)))) =
      .ok (.word (quotedWord program))
        (.plain aliases (line + (quote program).count '\n') (shownArguments arguments ++ (d.shown ++ r))) :=
    run_readRaw_argument commands (.quotation program) hends
  rw [count_quote] at hraw
  rw [List.count_append, count_quote, ← Nat.add_assoc, List.append_assoc]
  exact ⟨_, _, _, .word program, htight, hraw,
    run_readCommand_call commands nested d program arguments⟩

theorem readsAs_group {body : Command} {text : Text}
    (hbody : ∀ r, (nested (.list .block)).run (.plain aliases line (text ++ ')' :: r)) =
      .ok body (.holding .closing aliases (line + text.count '\n') r)) :
    ReadsAs commands nested aliases line ('(' :: text ++ [')']) (.subshell line body []) := by
  intro d r
  have htight : IsTight ('(' :: (text ++ ')' :: (d.shown ++ r))) := by rintro c ⟨⟩; decide
  have hraw :
      (readRaw commands .bare).run (.plain aliases line ('(' :: (text ++ ')' :: (d.shown ++ r)))) =
      .ok .opening (.plain aliases line (text ++ ')' :: (d.shown ++ r))) :=
    run_readRaw_operator commands htight rfl rfl .bare
  have hcount : ('(' :: text ++ [')']).count '\n' = text.count '\n' := by simp
  have happend :
      '(' :: text ++ [')'] ++ (d.shown ++ r) = '(' :: (text ++ ')' :: (d.shown ++ r)) := by simp
  rw [hcount, happend]
  refine ⟨_, _, _, .opening, htight, hraw, ?_⟩
  exact (run_readCommand_group commands nested (hbody (d.shown ++ r))).trans
    (run_withRedirections_delimiter commands d _)

variable {commands nested}

theorem ReadsAs.run_readAndOr {text : Text} {c : Command} {how : Connector}
    (h : ReadsAs commands nested aliases line text c) (hhow : how ≠ .sequence) (before : Command)
    (fuel : Nat) (r : Text) :
    (readAndOr commands nested (fuel + 1) before).run
        (.holding how.token aliases line (' ' :: (text ++ ')' :: r))) =
      .ok (how.command before c) (.holding .closing aliases (line + text.count '\n') r) := by
  obtain ⟨token, l, t, hstart, htight, hraw, hcommand⟩ := h .closing r
  have hclosing : Passes .plain .closing := trivial
  have hjoin : Passes .plain how.token := passes_delimiter (.before how)
  have hpipeline : (readPipeline commands nested .laterCommand).run
      (.plain aliases line (' ' :: (text ++ ')' :: r))) =
      .ok c (.holding .closing aliases (line + text.count '\n') r) :=
    run_readPipeline commands nested hstart hclosing nofun
      (run_readToken_space commands htight hstart.passes hraw) hcommand
  unfold readAndOr
  rw [run_bind (run_readToken_holding commands hjoin)]
  cases how with
  | sequence => exact absurd rfl hhow
  | _ => exact (run_bind hpipeline).trans (run_readAndOr_stop commands nested hclosing nofun nofun _ _)

theorem ReadsAs.run_readListFrom {text lead : Text} {c next : Command} {last : Token} {l fuel : Nat}
    {t' : Text} {before : Option Command} (h : ReadsAs commands nested aliases line text c)
    (hlead : lead = [] ∨ lead = [' ']) (d : Delimiter) (r : Text)
    (hlast : last = .semicolon ∨ last = .closing)
    (hnext : (readAndOr commands nested ((d.left ++ r).length + 1) c).run
        (.holding d.token aliases (line + text.count '\n') (d.left ++ r)) =
      .ok next (.holding last aliases l t')) :
    (readListFrom commands nested .block (fuel + 1) before).run
        (.plain aliases line (lead ++ (text ++ (d.shown ++ r)))) =
      goOn commands nested .block fuel (behind before next) aliases l t' last := by
  obtain ⟨token, l, t, hstart, htight, hraw, hcommand⟩ := h d r
  have htoken : (readToken commands ⟨true, true, true⟩).run
      (.plain aliases line (lead ++ (text ++ (d.shown ++ r)))) = .ok token (.plain aliases l t) := by
    obtain rfl | rfl := hlead
    · exact run_readToken commands hstart.passes hraw
    · exact run_readToken_space commands htight hstart.passes hraw
  have hheld : (readToken commands .plain).run (.holding token aliases l t) =
      .ok token (.plain aliases l t) := run_readToken_holding commands hstart.passes
  have hpipe : d.token ≠ .pipe := by rcases d with (_ | _ | _) | _ <;> nofun
  have hpipeline :=
    run_readPipeline commands nested hstart (passes_delimiter d) hpipe hheld hcommand
  exact run_readListFrom_command commands nested hstart (hlast.imp_right fun h => Or.inr ⟨h, rfl⟩)
    htoken hpipeline hnext

end Reader

/-! ## Plans

The depth of parentheses bounds how deep the readers are nested. -/

/-- What is to run: a program with its arguments, or one plan and another. -/
inductive Plan where
  | call (program : Text) (arguments : List Argument)
  | join (how : Connector) (first second : Plan)

namespace Plan

/-- A plan inside of another one stands in parentheses, unless it is a single call. -/
def grouped : Plan → Text → Text
  | call .., t => t
  | join .., t => '(' :: t ++ [')']

def shown : Plan → Text
  | call program arguments => quote program ++ shownArguments arguments
  | join how first second => first.grouped first.shown ++ how.shown ++ second.grouped second.shown

/-- The command of a plan inside of another one. -/
def part (line : Nat) : Plan → Command → Command
  | call .., c => c
  | join .., c => .subshell line c []

/-- The command that a plan stands for, from a line on. -/
def command : Plan → Nat → Command
  | call program arguments, line =>
      .simple (line + program.count '\n') [] (callWords program arguments) []
  | join how first second, line =>
      let line' := line + (first.grouped first.shown).count '\n'
      how.command (first.part line (first.command line)) (second.part line' (second.command line'))

/-- How deep the parts of a plan stand in each other. -/
def depth : Plan → Nat
  | call .. => 1
  | join _ first second => max first.depth second.depth + 1

/-- The script of a plan: it runs in a shell of its own, with its messages among its output. -/
def script (p : Plan) : Text := '(' :: p.shown ++ ") 2>&1".toList

def scriptCommand (p : Plan) : Command := .subshell 1 (p.command 1) [.duplicate 2 [.plain ['1']]]

end Plan

namespace Reader

variable {aliases : List (Text × Text)} {line : Nat} {r t : Text}

theorem readsAs_grouped {commands : Reader Command} {nested : Goal → Reader Command} (p : Plan)
    (hbody : ∀ r, (nested (.list .block)).run (.plain aliases line (p.shown ++ ')' :: r)) =
      .ok (p.command line) (.holding .closing aliases (line + p.shown.count '\n') r)) :
    ReadsAs commands nested aliases line (p.grouped p.shown) (p.part line (p.command line)) := by
  cases p with
  | call program arguments => exact readsAs_call commands nested program arguments
  | join how first second => exact readsAs_group commands nested hbody

theorem run_readAt_list {depth : Nat} {c : Command} {s : Source}
    (h : ∀ fuel, (readListFrom (readAt depth (.list .open')) (readAt depth) .block (fuel + 2) none).run
      (.plain aliases line t) = .ok (some c) s) :
    (readAt (depth + 1) (.list .block)).run (.plain aliases line t) = .ok c s := by
  unfold readAt
  dsimp only
  rw [run_bind run_rest, run_bind (h (2 * t.length + 6))]
  rfl

/-- **A plan is read as the list of its commands**, up to the parenthesis behind it. -/
theorem run_readListFrom_plan (p : Plan) {depth : Nat} (h : p.depth ≤ depth)
    (commands : Reader Command)
    (fuel : Nat) :
    (readListFrom commands (readAt depth) .block (fuel + 2) none).run
        (.plain aliases line (p.shown ++ ')' :: r)) =
      .ok (some (p.command line)) (.holding .closing aliases (line + p.shown.count '\n') r) := by
  have hclosing : Passes .plain .closing := trivial
  have hsemicolon : Passes .plain .semicolon := trivial
  induction p generalizing depth line r commands fuel with
  | call program arguments =>
      exact (readsAs_call commands (readAt depth) program arguments).run_readListFrom (Or.inl rfl) .closing r
        (Or.inr rfl) (run_readAndOr_stop commands _ hclosing nofun nofun _ _)
  | join how first second ihfirst ihsecond =>
      -- a part that stands in parentheses is read one level deeper
      obtain ⟨n, rfl⟩ : ∃ n, depth = n + 1 := ⟨depth - 1, by rw [Plan.depth] at h; omega⟩
      have hdepth : first.depth ≤ n ∧ second.depth ≤ n := by
        rw [Plan.depth] at h
        omega
      have hfirst : ReadsAs commands (readAt (n + 1)) aliases line (first.grouped first.shown)
          (first.part line (first.command line)) :=
        readsAs_grouped first fun r => run_readAt_list fun fuel => ihfirst hdepth.1 _ fuel
      have hsecond : ∀ l, ReadsAs commands (readAt (n + 1)) aliases l (second.grouped second.shown)
          (second.part l (second.command l)) := fun l =>
        readsAs_grouped second fun r => run_readAt_list fun fuel => ihsecond hdepth.2 _ fuel
      have htext : (Plan.join how first second).shown ++ ')' :: r =
          [] ++ (first.grouped first.shown ++ ((Delimiter.before how).shown ++
            (second.grouped second.shown ++ ')' :: r))) := by
        simp [Plan.shown, Delimiter.shown]
      have hcount : line + (Plan.join how first second).shown.count '\n' =
          line + (first.grouped first.shown).count '\n' + (second.grouped second.shown).count '\n' := by
        have hnone : how.shown.count '\n' = 0 := by cases how <;> decide
        simp [Plan.shown, hnone, Nat.add_assoc]
      rw [htext, hcount]
      by_cases hhow : how = .sequence
      · subst hhow
        exact (hfirst.run_readListFrom (Or.inl rfl) (.before .sequence) _ (Or.inl rfl)
          (run_readAndOr_stop commands _ hsemicolon nofun nofun _ _)).trans
          ((hsecond _).run_readListFrom (Or.inr rfl) .closing r (Or.inr rfl)
            (run_readAndOr_stop commands _ hclosing nofun nofun _ _))
      · exact hfirst.run_readListFrom (Or.inl rfl) (.before how) _ (Or.inr rfl)
          ((hsecond _).run_readAndOr hhow _ _ r)

/-! ## Scripts -/

theorem run_withRedirections_merged (commands : Reader Command) (body : Command) {l : Nat} :
    (withRedirections commands line (.subshell line body [])).run (.plain aliases l " 2>&1".toList) =
      .ok (.subshell line body [.duplicate 2 [.plain ['1']]]) (.holding .endOfFile aliases l []) :=
  rfl

/-- **The script of a plan** is read as one command, and nothing is left behind it. -/
theorem run_readLine_script (p : Plan) (h : p.depth < maxNesting) :
    readLine.run (.plain aliases 1 p.script) =
      .ok (some (p.scriptCommand, true)) (.holding .endOfFile aliases (1 + p.shown.count '\n') []) := by
  obtain ⟨n, hn⟩ : ∃ n, maxNesting = n + 1 := ⟨maxNesting - 1, rfl⟩
  have hdepth : p.depth ≤ n := by omega
  have hbody : (readAt maxNesting (.list .block)).run
      (.plain aliases 1 (p.shown ++ ')' :: " 2>&1".toList)) =
      .ok (p.command 1) (.holding .closing aliases (1 + p.shown.count '\n') " 2>&1".toList) := by
    rw [hn]
    exact run_readAt_list fun fuel => run_readListFrom_plan p hdepth _ fuel
  have hopening : ∀ wants, Passes wants .opening := fun _ => trivial
  have hend : ∀ wants, Passes wants .endOfFile := fun _ => trivial
  have htight : IsTight p.script := by rintro c ⟨⟩; decide
  unfold readLine
  -- from here on, it does not matter how deep the readers of what nests can go
  generalize readAt maxNesting (.list .open') = commands
  generalize readAt maxNesting = nested at hbody ⊢
  have htoken : (readToken commands ⟨false, true, true⟩).run (.plain aliases 1 p.script) =
      .ok .opening (.plain aliases 1 (p.shown ++ ')' :: " 2>&1".toList)) :=
    run_readToken commands (hopening _) (run_readRaw_operator commands htight rfl rfl _)
  have hcommand : (readCommand commands nested .plain).run
      (.holding .opening aliases 1 (p.shown ++ ')' :: " 2>&1".toList)) =
      .ok p.scriptCommand (.holding .endOfFile aliases (1 + p.shown.count '\n') []) :=
    (run_readCommand_group commands nested hbody).trans (run_withRedirections_merged _ _)
  have hpipeline := run_readPipeline commands nested .opening (hend .plain) nofun
    (run_readToken_holding commands (hopening .plain)) hcommand
  have hlist : (readListFrom commands nested .line (2 * p.script.length + 8) none).run
      (.plain aliases 1 p.script) =
      goOn commands nested .line (2 * p.script.length + 7) p.scriptCommand aliases
        (1 + p.shown.count '\n') [] .endOfFile :=
    run_readListFrom_command commands nested .opening (Or.inr (Or.inl rfl)) htoken hpipeline
      (run_readAndOr_stop commands nested (hend .plain) nofun nofun _ _)
  have hlast : goOn commands nested .line (2 * p.script.length + 7) p.scriptCommand aliases
      (1 + p.shown.count '\n') [] .endOfFile =
      .ok (some p.scriptCommand) (.holding .endOfFile aliases (1 + p.shown.count '\n') []) := by
    unfold goOn readListFrom
    rw [run_bind (run_readToken_holding commands (hend _))]
    rfl
  have hstart : (modify (fun s => { s with pushed := none }) : Reader Unit).run
      (.plain aliases 1 p.script) = .ok ⟨⟩ (.plain aliases 1 p.script) := rfl
  rw [run_bind hstart, run_bind run_rest, run_bind (hlist.trans hlast)]
  rfl

end Reader

end SwiftExistential.Shell
