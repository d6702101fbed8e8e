import SwiftExistential.Proofs.Cleanup.NormalForm

/-!
# What the passes give and take

The passes put keywords into a text, turn them into one another and take them out again. So a run
may give a text back as it was and still report changes. The question is when this happens.

Weigh a text by its keywords, `some` for more than `any`: then two passes alone make it heavier, the
one that annotates casts and the one that promotes returns, and every change of another pass makes
it lighter. A run that gives a text back as it was has changed nothing on the way, unless it
annotated a cast or promoted a return (`count_run_of_eq`). The cast is then to a type with a keyword
as its qualifier; the return is on a plain line that the prefix test does not see. Both happen:
`run_exposedReturn` has such a return.
-/

set_option autoImplicit false

namespace SwiftExistential.Cleanup

open Pattern Text
open Cursor (Reads)
open SitePatch (IsName)

/-! ## The weight of a text

The weight is added up character by character. A keyword weighs 1, and `some` by `d` more; an
opening parenthesis takes `d` away, and blanks weigh nothing. -/

/-- What a character weighs: `any` weighs 1 by its `y`, and `some` weighs `d` more by its `s`. An
opening parenthesis takes that off again, so an optional is lighter in parentheses. -/
def charWeight (d : ℕ) (c : Char) : ℤ :=
  if c = 'y' then 1 else if c = 's' then 1 + d else if c = '(' then -d else 0

/-- **The weight of a text.** -/
def weight (d : ℕ) : Text → ℤ
  | [] => 0
  | c :: t => charWeight d c + weight d t

section Weight

variable {d : ℕ}

@[simp] theorem weight_append (x y : Text) : weight d (x ++ y) = weight d x + weight d y := by
  induction x with
  | nil => rw [List.nil_append, weight, Int.zero_add]
  | cons c x ih => rw [List.cons_append, weight, weight, ih, Int.add_assoc]

theorem weight_any : weight d "any".toList = 1 := by
  simp [weight, charWeight]

theorem weight_some : weight d "some".toList = 1 + d := by
  simp [weight, charWeight]

theorem le_weight_keyword (k : Keyword) : 1 ≤ weight d k.word := by
  cases k with
  | any => exact weight_any.ge
  | some =>
      have hsome : weight d Keyword.some.word = 1 + d := weight_some
      omega

theorem weight_blanks {x : Text} (h : ∀ c ∈ x, Unicode.isBlank c = true) : weight d x = 0 := by
  induction x with
  | nil => rfl
  | cons c x ih =>
      obtain ⟨hc, hx⟩ := List.forall_mem_cons.mp h
      have hother : c ≠ 'y' ∧ c ≠ 's' ∧ c ≠ '(' := by
        refine ⟨?_, ?_, ?_⟩ <;> rintro rfl <;> exact absurd hc (by decide)
      have hnothing : charWeight d c = 0 := by
        rw [charWeight, if_neg hother.1, if_neg hother.2.1, if_neg hother.2.2]
      rw [weight, hnothing, ih hx, Int.add_zero]

/-! ## What a pass gains

A bound for one change is one for the whole pass, with the number of its changes. -/

/-- **A pass gains at most `g` with each change.** -/
def Gains (d : ℕ) (g : ℤ) (pass : Text → Text × Nat) : Prop :=
  ∀ t, weight d (pass t).1 ≤ weight d t + g * (pass t).2

/-- What the matches of a text gain is gained by the text. -/
theorem weight_splice_le {g : ℤ} {p : Pattern} {new : Match → Text} {c : Cursor} {ms : List Match}
    (h : Successive p c ms)
    (hnew : ∀ m ∈ ms, new m ≠ m.text → weight d (new m) ≤ weight d m.text + g) :
    weight d (splice new c ms) ≤
      weight d c.after + g * (ms.countP fun m => new m != m.text : ℕ) := by
  induction h with
  | nil c => simp [splice]
  | @cons c x m ms start head tail ih =>
      obtain ⟨z, hread⟩ := head.exists_reads
      have hrest := ih fun m hm => hnew m (List.mem_cons_of_mem _ hm)
      have hfirst := hnew m List.mem_cons_self
      have htext : m.text = z := hread.textTo_eq
      rw [splice, start.textTo_eq, start.after, hread.after, List.countP_cons]
      simp only [weight_append, ← htext]
      by_cases hsame : new m = m.text
      · simp only [hsame, bne_self_eq_false, Bool.false_eq_true, if_false, Nat.add_zero]
        omega
      · have hfirst := hfirst hsame
        rw [if_pos (bne_iff_ne.mpr hsame), Int.natCast_add, Int.mul_add]
        omega

theorem gains_substitute {g : ℤ} {p : Pattern} {new : Match → Option Text}
    (h : ∀ m, p.matchAt? m.start = some m → ∀ y, new m = some y →
      weight d y ≤ weight d m.text + g) : Gains d g (p.substitute new) := by
  intro t
  refine weight_splice_le (matchesFrom_successive p (.start t)) fun m hm hother => ?_
  rw [Pattern.replacement] at hother ⊢
  cases hy : new m with
  | none => exact absurd (by rw [hy, Option.getD_none]) hother
  | some y => exact h m (matchAt?_of_mem_matchesFrom hm) y hy

theorem Gains.repeatPass {g : ℤ} {pass : Text → Text × Nat} (h : Gains d g pass) (n : Nat) :
    Gains d g (repeatPass pass n) := by
  induction n with
  | zero => intro t; simp [Cleanup.repeatPass]
  | succ n ih =>
      intro t
      have hpass := h t
      rw [Cleanup.repeatPass]
      rcases hrun : pass t with ⟨t', count⟩
      rw [hrun] at hpass
      have hrest := ih t'
      simp only at hpass ⊢
      split
      · rename_i hzero
        rwa [hzero] at hpass
      · show weight d (Cleanup.repeatPass pass n t').1 ≤
          weight d t + g * (count + (Cleanup.repeatPass pass n t').2 : ℕ)
        rw [Int.natCast_add, Int.mul_add]
        omega

/-! ## The gain of each pass

A pass that drops a keyword loses what the keyword weighs, and one that turns `some` into `any`
loses `d`. -/

variable {protocol : Pattern}

theorem gains_revertForbiddenSome (protocol : Pattern) :
    Gains d (-d) (revertForbiddenSome protocol) := by
  refine gains_substitute fun m hm y hy => ?_
  cases hy
  obtain ⟨a, b, x, z, hsome, htype, hrest, -, -, -, hone, htwo⟩ :=
    reads_of_forbiddenSome (matchAt?_eq_some hm).2
  have hold : weight d "some ".toList = 1 + d := by simp [weight, charWeight]
  have hnew : weight d "any ".toList = 1 := by simp [weight, charWeight]
  rw [hone, htwo, Match.text, (hsome.trans (htype.trans hrest)).textTo_eq]
  simp only [weight_append, hold, hnew]
  omega

theorem gains_stripConstraints : Gains d (-1) stripConstraints := by
  refine gains_substitute fun m hm y hy => ?_
  cases hy
  obtain ⟨x, k, hread, -, -, hone⟩ := reads_of_constraintKeyword (matchAt?_eq_some hm).2
  have hk := le_weight_keyword (d := d) k
  have hcolon : weight d ": ".toList = weight d ":".toList := by simp [weight, charWeight]
  have hblank : charWeight d ' ' = 0 := by simp [charWeight]
  rw [hone, Match.text, hread.textTo_eq]
  simp only [weight_append, weight, hcolon, hblank]
  omega

theorem gains_annotateCasts (policy : Policy) (hprotocol : protocol.hasGroup = false) :
    Gains d 1 (annotateCasts policy protocol) := by
  refine gains_substitute fun m hm y hy => ?_
  split at hy
  · cases hy
    obtain ⟨a, b, c, hcast⟩ := exists_castReading hprotocol hm
    obtain ⟨x, z, w, hoperator, -⟩ := hcast.operator
    obtain ⟨v, htype⟩ := hcast.exists_reads_type
    rw [hcast.operatorText, hcast.typeText, hoperator.textTo_eq, htype.textTo_eq, Match.text,
      (hoperator.trans htype).textTo_eq]
    have hnew : weight d "any ".toList = 1 := by simp [weight, charWeight]
    simp only [weight_append, hnew]
    omega
  · cases hy

theorem gains_promoteReturns (keep : List Text) (hprotocol : protocol.hasGroup = false) :
    Gains d d (promoteReturns keep protocol) := by
  refine gains_substitute fun m hm y hy => ?_
  split at hy
  · cases hy
    obtain ⟨a, b, x, harrow, hname, hbrace, -, hone⟩ :=
      reads_of_anyReturn hprotocol (matchAt?_eq_some hm).2
    have hold : weight d "-> any ".toList = 1 := by simp [weight, charWeight]
    have hnew : weight d "-> some ".toList = 1 + d := by simp [weight, charWeight]
    rw [hone, Match.text, (harrow.trans (hname.trans hbrace)).textTo_eq]
    simp only [weight_append, hold, hnew]
    omega
  · cases hy

theorem gains_revertPlainLines : Gains d (-d) revertPlainLines := by
  refine gains_substitute fun m hm y hy => ?_
  cases hy
  obtain ⟨a, x, hline, hsome, -⟩ := reads_of_someOnPlainLine (matchAt?_eq_some hm).2
  rw [text_someOnPlainLine hline hsome, Match.text, (hline.trans hsome).textTo_eq]
  simp only [weight_append, weight_any, weight_some]
  omega

theorem gains_parenthesise (protocol : Pattern) : Gains d (-d) (parenthesise protocol) := by
  refine gains_substitute fun m hm y hy => ?_
  cases hy
  obtain ⟨k, ws, x, mark, a, b, hkeyword, htype, hmark, -, hws, -, -, hone, htwo⟩ :=
    reads_of_bareOptional (matchAt?_eq_some hm).2
  have hk := le_weight_keyword (d := d) k
  rw [hone, htwo, Match.text, (hkeyword.trans (htype.trans hmark)).textTo_eq]
  have hopen : weight d "(any ".toList = -d + 1 := by simp [weight, charWeight]
  have hclose : weight d ")".toList = 0 := by simp [weight, charWeight]
  simp only [weight_append, weight_blanks hws.2]
  omega

theorem weight_mergedKeyword (first second : Keyword) :
    weight d (mergedKeyword first.word second.word).word + 1 ≤
      weight d first.word + weight d second.word := by
  have hfirst := le_weight_keyword (d := d) first
  have hsecond := le_weight_keyword (d := d) second
  cases hk : mergedKeyword first.word second.word with
  | any =>
      have hany : weight d Keyword.any.word = 1 := weight_any
      omega
  | some =>
      obtain rfl := mergedKeyword_eq_some hk
      omega

theorem gains_collapseOnce : Gains d (-1) collapseOnce := by
  refine gains_substitute fun m hm y hy => ?_
  cases hy
  obtain ⟨first, second, x, hread, -, -, ⟨-, hspaces⟩, hone, htwo⟩ :=
    reads_of_doubledKeyword (matchAt?_eq_some hm).2
  have hblank : ∀ c ∈ x, Unicode.isBlank c = true := by
    intro c hc
    rw [hspaces c hc]
    decide
  have hmerged := weight_mergedKeyword (d := d) first second
  rw [hone, htwo, Match.text, hread.textTo_eq]
  simp only [weight_append, weight_blanks hblank]
  omega

/-! ## The gain of the passes in turn

The weights with `d = 0` and with `d = 1` give two balances over the seven passes, and a text that
has not changed weighs what it did. -/

/-- How often each of the passes changes a text that they run over in turn. -/
def changes : List (Text → Text × Nat) → Text → List Nat
  | [], _ => []
  | pass :: passes, t => (pass t).2 :: changes passes (pass t).1

/-- The passes behind others add to what was counted before. -/
theorem foldl_passes (passes : List (Text → Text × Nat)) (t : Text) (n : Nat) :
    passes.foldl (fun state pass => ((pass state.1).1, state.2 + (pass state.1).2)) (t, n) =
      ((runPasses passes t).1, n + (runPasses passes t).2) := by
  induction passes generalizing t n with
  | nil => rfl
  | cons pass passes ih =>
      have hzero : runPasses (pass :: passes) t = _ := ih (pass t).1 (0 + (pass t).2)
      rw [List.foldl_cons, ih, hzero]
      simp only [Nat.zero_add, Nat.add_assoc]

theorem runPasses_cons (pass : Text → Text × Nat) (passes : List (Text → Text × Nat)) (t : Text) :
    runPasses (pass :: passes) t =
      ((runPasses passes (pass t).1).1, (pass t).2 + (runPasses passes (pass t).1).2) := by
  have hfold : runPasses (pass :: passes) t = _ := foldl_passes passes (pass t).1 (0 + (pass t).2)
  rw [hfold, Nat.zero_add]

theorem count_runPasses (passes : List (Text → Text × Nat)) (t : Text) :
    (runPasses passes t).2 = (changes passes t).sum := by
  induction passes generalizing t with
  | nil => rfl
  | cons pass passes ih => rw [runPasses_cons, changes, List.sum_cons, ih]

/-- What passes gain that change a text that often, each as much with a change as listed. -/
def gained : List ℤ → List Nat → ℤ
  | g :: gs, n :: ns => g * n + gained gs ns
  | _, _ => 0

/-- **The passes gain what each of them does.** -/
theorem weight_runPasses_le {gs : List ℤ} {passes : List (Text → Text × Nat)}
    (h : List.Forall₂ (Gains d) gs passes) (t : Text) :
    weight d (runPasses passes t).1 ≤ weight d t + gained gs (changes passes t) := by
  induction h generalizing t with
  | nil => exact (Int.add_zero _).ge
  | @cons g pass gs passes hpass _ ih =>
      have hfirst := hpass t
      have hrest := ih (pass t).1
      rw [runPasses_cons, changes, gained]
      show weight d (runPasses passes (pass t).1).1 ≤ _
      omega

theorem gains_passes (policy : Policy) (options : Options) (hprotocol : protocol.hasGroup = false) :
    List.Forall₂ (Gains d) [-d, -1, 1, d, -d, -d, -1] (passes policy options protocol) :=
  .cons (gains_revertForbiddenSome protocol) <| .cons gains_stripConstraints <|
    .cons (gains_annotateCasts policy hprotocol) <|
    .cons (gains_promoteReturns options.keepAnyReturns hprotocol) <|
    .cons (gains_revertPlainLines.repeatPass options.adhocRounds) <|
    .cons (gains_parenthesise protocol) <| .cons (fun t => gains_collapseOnce.repeatPass _ t) .nil

end Weight

/-- The changes of the passes, where those of the second to the fourth are told by the texts that
reach these. -/
theorem exists_changes_eq (policy : Policy) (options : Options) (protocol : Pattern) (t : Text) :
    ∃ n₁ n₅ n₆ n₇, changes (passes policy options protocol) t =
      [n₁, (stripConstraints (revertForbiddenSome protocol t).1).2,
        (annotateCasts policy protocol (runPasses ((passes policy options protocol).take 2) t).1).2,
        (promoteReturns options.keepAnyReturns protocol
          (runPasses ((passes policy options protocol).take 3) t).1).2, n₅, n₆, n₇] :=
  ⟨_, _, _, _, rfl⟩

/-- **What a run over an unchanged text takes back**: the passes that take keywords out drop no more
than were put into casts, and all passes but those over casts and returns together change no more
than these two. -/
theorem changes_of_eq {policy : Policy} {options : Options} {protocol : Pattern} {t : Text}
    (hprotocol : protocol.hasGroup = false)
    (h : (runPasses (passes policy options protocol) t).1 = t) {n₁ n₂ n₃ n₄ n₅ n₆ n₇ : ℕ}
    (hchanges : changes (passes policy options protocol) t = [n₁, n₂, n₃, n₄, n₅, n₆, n₇]) :
    n₂ + n₇ ≤ n₃ ∧ n₁ + n₂ + n₅ + n₆ + n₇ ≤ n₃ + n₄ := by
  have hkeywords := weight_runPasses_le (gains_passes (d := 0) policy options hprotocol) t
  have hsome := weight_runPasses_le (gains_passes (d := 1) policy options hprotocol) t
  rw [h, hchanges] at hkeywords hsome
  simp only [gained] at hkeywords hsome
  omega

/-! ## Passes that change nothing -/

theorem count_substitute_eq_zero_iff {p : Pattern} {new : Match → Option Text} {t : Text} :
    (p.substitute new t).2 = 0 ↔
      ∀ m ∈ p.matchesFrom (.start t), Pattern.replacement new m = m.text := by
  rw [substitute, List.countP_eq_zero]
  simp only [bne_iff_ne, ne_eq, not_not]

theorem splice_text {p : Pattern} {new : Match → Text} {c : Cursor} {ms : List Match}
    (h : Successive p c ms) (hnew : ∀ m ∈ ms, new m = m.text) : splice new c ms = c.after := by
  induction h with
  | nil c => rfl
  | @cons c x m ms start head tail ih =>
      obtain ⟨z, hread⟩ := head.exists_reads
      have htext : m.text = z := hread.textTo_eq
      rw [splice, start.textTo_eq, hnew m List.mem_cons_self, htext,
        ih fun m hm => hnew m (List.mem_cons_of_mem _ hm), start.after, hread.after,
        List.append_assoc]

/-- A sweep that reports no change gives the text back. -/
theorem substitute_eq_self {p : Pattern} {new : Match → Option Text} {t : Text}
    (h : (p.substitute new t).2 = 0) : (p.substitute new t).1 = t :=
  splice_text (matchesFrom_successive p (.start t)) (count_substitute_eq_zero_iff.mp h)

def QualifiedKeyword (Q : List Text) : Prop := ∃ (k : Keyword) (R : List Text), Q = k.word :: ['.'] :: R

instance : DecidablePred QualifiedKeyword
  | [] => isFalse fun ⟨_, _, hQ⟩ => by cases hQ
  | [_] => isFalse fun ⟨_, _, hQ⟩ => by cases hQ
  | w :: d :: R => decidable_of_iff (IsKeyword w ∧ d = ['.'])
      ⟨fun ⟨⟨k, hk⟩, hd⟩ => ⟨k, R, by rw [hk, hd]⟩, fun ⟨k, _, hQ⟩ =>
        ⟨⟨k, (List.cons.inj hQ).1⟩, (List.cons.inj (List.cons.inj hQ).2).1⟩⟩

theorem bracketed_qualifiedKeyword : Bracketed QualifiedKeyword where
  stops := by
    rintro Y Z hne ⟨k, R, hQ⟩ M
    match Y, hne, hQ with
    | [y], _, hQ => exact absurd (List.cons.inj (List.cons.inj hQ).2).1 (by decide)
    | y :: z :: Y, _, hQ =>
        obtain ⟨hkeyword, hQ⟩ := List.cons.inj hQ
        obtain ⟨hdot, -⟩ := List.cons.inj hQ
        exact ⟨k, Y ++ ['<'] :: M, by rw [hkeyword, hdot]; rfl⟩
  bracket := by
    rintro B ⟨k, R, hQ⟩
    have hword := (List.cons.inj hQ).1
    cases k <;> exact absurd hword (by decide)
  parameter := by
    rintro w B - ⟨k, R, hQ⟩
    exact absurd (List.cons.inj (List.cons.inj hQ).2).1 (by decide)
  colon := by
    rintro B ⟨k, R, hQ⟩
    have hword := (List.cons.inj hQ).1
    cases k <;> exact absurd hword (by decide)

theorem not_lacks_qualifiedKeyword (u v : Text) (k : Keyword) (hu : endsWord u = false) :
    ¬ Lacks QualifiedKeyword (u ++ (k.word ++ '.' :: v)) := by
  intro h
  have hdot : Unicode.isWord '.' = false := by decide
  have hbreak : startsWord ('.' :: v) = false := hdot
  refine lacks_iff.mp h u _ rfl (.inl hu) ⟨k, parts v, ?_⟩
  rw [parts_name_append (isName_word k) hbreak, parts_cons hdot]

variable {names : List Text} {policy : Policy} {options : Options} {t : Text}

/-- In a text in normal form the first pass changes only types with a keyword among their
qualifiers. -/
theorem count_revertForbiddenSome {protocol : Pattern} (h : NormalForm policy protocol t)
    (ht : Lacks QualifiedKeyword t) : (revertForbiddenSome protocol t).2 = 0 := by
  refine count_substitute_eq_zero_iff.mpr fun m hm => ?_
  have hmatch := (matchAt?_eq_some (matchAt?_of_mem_matchesFrom hm)).2
  obtain ⟨x, hx⟩ := (matchesFrom_successive _ _).exists_reads m hm
  obtain ⟨k, u, v, htype, hu⟩ := h.forbiddenSome m ⟨x, hx⟩ hmatch
  obtain ⟨a, b, y, z, hsome, hread, -, -, -, -, hone, -⟩ := reads_of_forbiddenSome hmatch
  rw [hone] at htype
  have hend : endsWord (x ++ ("some ".toList ++ u)) = false := by
    rw [endsWord_append_of_ne_nil _ (by simp)]
    rcases eq_or_ne u [] with rfl | hne
    · rfl
    · rw [endsWord_append_of_ne_nil _ hne, hu]
  refine absurd ?_ (not_lacks_qualifiedKeyword (x ++ ("some ".toList ++ u)) (v ++ b.after) k hend)
  have htext : t = x ++ ("some ".toList ++ u) ++ (k.word ++ '.' :: (v ++ b.after)) := by
    have hstart : t = x ++ ("some ".toList ++ (y ++ b.after)) := by
      rw [← hread.after, ← hsome.after]
      exact hx.after
    rw [hstart, htype]
    simp
  rwa [← htext]

/-- A text that lacks casts without a keyword is left as it is by the pass over casts, but for types
with a keyword as their qualifier. -/
theorem count_annotateCasts (hnames : ProtocolNames names) (hne : names ≠ [])
    (hcast : Lacks (BareCast policy names) t) (ht : Lacks QualifiedKeyword t) :
    (annotateCasts policy (Registry.wholeName names) t).2 = 0 := by
  refine count_substitute_eq_zero_iff.mpr fun m hm => ?_
  have hmatch := matchAt?_of_mem_matchesFrom hm
  obtain ⟨x, hx⟩ := (matchesFrom_successive _ _).exists_reads m hm
  rcases cast_cases hnames hne hcast hx hmatch with hleft | ⟨k, v, htype⟩
  · rw [Pattern.replacement, hleft]
    rfl
  obtain ⟨a, b, c, hcast⟩ := exists_castReading (hasGroup_wholeName names) hmatch
  obtain ⟨y, z, w, hoperator, -, -, hw⟩ := hcast.operator
  obtain ⟨r, hr⟩ := hcast.exists_reads_type
  rw [hcast.typeText, hr.textTo_eq] at htype
  refine absurd ?_ (not_lacks_qualifiedKeyword (x ++ (y ++ (z ++ w))) (v ++ m.stop.after) k ?_)
  · have htext : t = x ++ (y ++ (z ++ w)) ++ (k.word ++ '.' :: (v ++ m.stop.after)) := by
      have hstart : t = x ++ (y ++ (z ++ w) ++ (r ++ m.stop.after)) := by
        rw [← hr.after, ← hoperator.after]
        exact hx.after
      rw [hstart, htype]
      simp
    rwa [← htext]
  · exact endsWord_operator x hw

theorem count_promoteReturns_eq_zero_iff (keep : List Text) {protocol : Pattern}
    (hprotocol : protocol.hasGroup = false) :
    (promoteReturns keep protocol t).2 = 0 ↔
      ((anyReturn protocol).matchesFrom (.start t)).any (returnTakesSome keep) = false := by
  rw [promoteReturns, count_substitute_eq_zero_iff, List.any_eq_false]
  refine forall₂_congr fun m hm => ?_
  obtain ⟨a, b, x, harrow, hname, hbrace, -, hone⟩ :=
    reads_of_anyReturn hprotocol (matchAt?_eq_some (matchAt?_of_mem_matchesFrom hm)).2
  have htext : m.text = _ := (harrow.trans (hname.trans hbrace)).textTo_eq
  rw [Pattern.replacement]
  by_cases htakes : returnTakesSome keep m = true
  · rw [if_pos htakes, Option.getD_some, htext, hone]
    simp [htakes]
  · rw [if_neg htakes]
    simp [htakes]

/-! ## Runs over unchanged texts

If no pass has changed anything, each of them was given the text of the start. So what is said about
the pass over returns can be said about that text. -/

/-- How many casts a run annotates. -/
def castsAnnotated (registry : Registry) (policy : Policy) (options : Options) (t : Text) : Nat :=
  match registry.pattern? with
  | none => 0
  | some protocol =>
      (annotateCasts policy protocol (runPasses ((passes policy options protocol).take 2) t).1).2

/-- How many returns a run promotes. -/
def returnsPromoted (registry : Registry) (policy : Policy) (options : Options) (t : Text) : Nat :=
  match registry.pattern? with
  | none => 0
  | some protocol =>
      (promoteReturns options.keepAnyReturns protocol
        (runPasses ((passes policy options protocol).take 3) t).1).2

/-- Whether a text has a return that can be written with `some`. -/
def hasReturnTakingSome (registry : Registry) (keep : List Text) (t : Text) : Bool :=
  registry.pattern?.any fun protocol =>
    ((anyReturn protocol).matchesFrom (.start t)).any (returnTakesSome keep)

/-- A run over an unchanged text reports no change if and only if it annotated no cast and promoted
no return. -/
theorem count_run_eq_zero_iff (registry : Registry) (h : (run registry policy options t).1 = t) :
    (run registry policy options t).2 = 0 ↔
      castsAnnotated registry policy options t = 0 ∧
        returnsPromoted registry policy options t = 0 := by
  by_cases hempty : registry.isEmpty = true
  · have hnone : registry.pattern? = none := if_pos hempty
    simp only [run, castsAnnotated, returnsPromoted, hnone, and_self]
  have hsome : registry.pattern? = some (Registry.wholeName registry.names) := if_neg hempty
  simp only [run, castsAnnotated, returnsPromoted, hsome] at h ⊢
  set protocol := Registry.wholeName registry.names
  obtain ⟨n₁, n₅, n₆, n₇, hchanges⟩ := exists_changes_eq policy options protocol t
  obtain ⟨-, hbalance⟩ := changes_of_eq (hasGroup_wholeName _) h hchanges
  rw [count_runPasses, hchanges]
  simp only [List.sum_cons, List.sum_nil]
  omega

/-- Of a text that a run gives back, the first three passes change nothing, if no keyword has a dot
behind it. -/
theorem runPasses_take_of_eq (hnames : ProtocolNames names) (hne : names ≠ [])
    (h : (runPasses (passes policy options (Registry.wholeName names)) t).1 = t)
    (ht : Lacks QualifiedKeyword t) :
    (annotateCasts policy (Registry.wholeName names)
        (runPasses ((passes policy options (Registry.wholeName names)).take 2) t).1).2 = 0 ∧
      (runPasses ((passes policy options (Registry.wholeName names)).take 3) t).1 = t := by
  set protocol := Registry.wholeName names
  have hnormal := normalForm_passes hnames hne policy options t
  have hcast := lacks_bareCast_passes hnames hne policy options t
  rw [h] at hnormal hcast
  have h₁ := count_revertForbiddenSome hnormal ht
  have ht₁ : (revertForbiddenSome protocol t).1 = t := substitute_eq_self h₁
  -- what is left of the constraints has no cast that takes the keyword
  set t₂ := (stripConstraints t).1
  have h₃ : (annotateCasts policy protocol t₂).2 = 0 :=
    count_annotateCasts hnames hne ((bracketed_bareCast hnames policy).stripConstraints hcast)
      (bracketed_qualifiedKeyword.stripConstraints ht)
  have htwo : (runPasses ((passes policy options protocol).take 2) t).1 = t₂ := by
    show (stripConstraints (revertForbiddenSome protocol t).1).1 = t₂
    rw [ht₁]
  have hthree : (runPasses ((passes policy options protocol).take 3) t).1 =
      (annotateCasts policy protocol (runPasses ((passes policy options protocol).take 2) t).1).1 :=
    rfl
  obtain ⟨n₁, n₅, n₆, n₇, hchanges⟩ := exists_changes_eq policy options protocol t
  rw [ht₁, htwo, h₃] at hchanges
  -- so no constraint lost its keyword: nothing would have brought it back
  obtain ⟨hkeywords, -⟩ := changes_of_eq (hasGroup_wholeName names) h hchanges
  have h₂ : (stripConstraints t).2 = 0 := by omega
  have ht₂ : t₂ = t := substitute_eq_self h₂
  rw [hthree, htwo]
  exact ⟨h₃, (substitute_eq_self h₃).trans ht₂⟩

/-- **A run that gives a text back as it was** reports no change if and only if it annotated no cast
and promoted no return on the way. Where no keyword has a dot behind it, no cast is annotated, and
this is so if and only if the text has no return that the prefix test lets through. -/
theorem count_run_of_eq (registry : Registry) (policy : Policy) (options : Options) (t : Text)
    (h : (run registry policy options t).1 = t) :
    ((run registry policy options t).2 = 0 ↔
      castsAnnotated registry policy options t = 0 ∧
        returnsPromoted registry policy options t = 0) ∧
    ((∀ n ∈ registry.names,
        IsName n ∧ n ∉ ["any".toList, "some".toList, "is".toList, "as".toList]) →
      Lacks QualifiedKeyword t →
      ((run registry policy options t).2 = 0 ↔
        hasReturnTakingSome registry options.keepAnyReturns t = false)) := by
  refine ⟨count_run_eq_zero_iff registry h, fun hnames ht => ?_⟩
  by_cases hempty : registry.isEmpty = true
  · have hnone : registry.pattern? = none := if_pos hempty
    simp [run, hasReturnTakingSome, hnone]
  have hsome : registry.pattern? = some (Registry.wholeName registry.names) := if_neg hempty
  have hrun : (runPasses (passes policy options (Registry.wholeName registry.names)) t).1 = t := by
    rwa [run, hsome] at h
  obtain ⟨hcasts, hthree⟩ := runPasses_take_of_eq (protocolNames_of_forall hnames)
    (names_ne_nil (Bool.eq_false_iff.mpr hempty)) hrun ht
  rw [count_run_eq_zero_iff registry h]
  simp only [castsAnnotated, returnsPromoted, hasReturnTakingSome, hsome, hcasts, hthree,
    Option.any_some, true_and]
  exact count_promoteReturns_eq_zero_iff _ (hasGroup_wholeName _)

/-- A return that is promoted already, and an exposed method that returns nothing. -/
def promotedReturn : Text := "@objc func f() \x7b\x7d\nfunc make() -> some Kit.Worker \x7b\n\x7d\n".toList

/-- A text in which nothing is to be promoted is given back without a change. -/
theorem count_run_of_promotedReturn :
    (run workerRegistry (.ofClasses []) ⟨[], 1⟩ promotedReturn).1 = promotedReturn ∧
      (∀ n ∈ workerRegistry.names,
        IsName n ∧ n ∉ ["any".toList, "some".toList, "is".toList, "as".toList]) ∧
      Lacks QualifiedKeyword promotedReturn ∧
      hasReturnTakingSome workerRegistry [] promotedReturn = false ∧
      (run workerRegistry (.ofClasses []) ⟨[], 1⟩ promotedReturn).2 = 0 := by
  obtain ⟨hsame, hlacks, hnone⟩ :
      (run workerRegistry (.ofClasses []) ⟨[], 1⟩ promotedReturn).1 = promotedReturn ∧
      Lacks QualifiedKeyword promotedReturn ∧
      hasReturnTakingSome workerRegistry [] promotedReturn = false := by
    unfold workerRegistry promotedReturn
    repeat rewrite [String.toList_ofList]
    decide +kernel
  have hcount := count_run_of_eq workerRegistry (.ofClasses []) ⟨[], 1⟩ promotedReturn hsame
  exact ⟨hsame, isName_of_mem_workerRegistry, hlacks, hnone,
    (hcount.2 isName_of_mem_workerRegistry hlacks).mpr hnone⟩

/-- An exposed method whose attribute is on the line before. -/
def exposedReturn : Text := "@objc\nfunc make() -> any Worker \x7b\n\x7d\n".toList

/-- **A return behind an attribute on the line before is promoted and turned straight back**: the
prefix test looks at one line, the pass over plain lines reads over its end. -/
theorem run_exposedReturn :
    (run workerRegistry (.ofClasses []) ⟨[], 1⟩ exposedReturn).1 = exposedReturn ∧
      (run workerRegistry (.ofClasses []) ⟨[], 1⟩ exposedReturn).2 = 2 ∧
      returnsPromoted workerRegistry (.ofClasses []) ⟨[], 1⟩ exposedReturn = 1 := by
  unfold workerRegistry exposedReturn
  repeat rewrite [String.toList_ofList]
  decide +kernel

end SwiftExistential.Cleanup
