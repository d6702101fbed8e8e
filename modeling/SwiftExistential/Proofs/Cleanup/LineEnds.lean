import SwiftExistential.Proofs.Cleanup.NormalForm

/-!
# Line ends in a cleaned text

All passes but one put every line end back that they read. The pass over optionals writes one space
for the blanks between a keyword and its type, so it loses the line ends among them. A cleanup keeps
the lines of a text if and only if no annotated optional is broken over two lines when this pass is
reached (`count_newline_run_iff`); it never adds a line.

The count of line ends is carried through a pass by one lemma: what a text gains and loses of a
character is what the replacements and the matches have of it (`count_splice`). For the pass over
optionals it must also be shown that a broken optional is matched at all, and not hidden by a match
that begins before it.
-/

set_option autoImplicit false

namespace SwiftExistential

open Text Unicode
open Cursor (Reads)

/-! ## Counting a character -/

namespace Pattern

/-- **What a text gains and loses of a character** is what the replacements and the matches have of
it. -/
theorem count_splice {p : Pattern} (new : Match → Text) {c : Cursor} {ms : List Match}
    (h : Successive p c ms) (x : Char) :
    (splice new c ms).count x + (ms.map fun m => m.text.count x).sum =
      c.after.count x + (ms.map fun m => (new m).count x).sum := by
  induction h with
  | nil c => rfl
  | @cons c y m ms start head tail ih =>
      obtain ⟨z, hread⟩ := head.exists_reads
      have hm : m.text = z := hread.textTo_eq
      rw [splice, start.textTo_eq, start.after, hread.after]
      simp only [List.count_append, List.map_cons, List.sum_cons, hm]
      omega

/-- A character that every replacement keeps stands in the new text as often as in the old one. -/
theorem count_substitute {p : Pattern} {new : Match → Option Text} {x : Char}
    (h : ∀ m, p.matchAt? m.start = some m → ∀ y, new m = some y → y.count x = m.text.count x)
    (t : Text) : (p.substitute new t).1.count x = t.count x := by
  have hsame : ((p.matchesFrom (.start t)).map fun m => (replacement new m).count x) =
      (p.matchesFrom (.start t)).map fun m => m.text.count x := by
    refine List.map_congr_left fun m hm => ?_
    rw [replacement]
    cases hy : new m with
    | none => rfl
    | some y => exact h m (matchAt?_of_mem_matchesFrom hm) y hy
  have hcount := count_splice (replacement new) (matchesFrom_successive p (.start t)) x
  rw [hsame] at hcount
  exact Nat.add_right_cancel hcount

end Pattern

namespace Cleanup

open Pattern
open SitePatch (IsName)

/-! ## Passes that keep the lines

Their replacements are made of the texts that the match has read, less a keyword or with one, and
keywords hold no line end. -/

section Kept

variable {protocol : Pattern} {m : Match}

theorem count_newline_keyword (k : Keyword) : k.word.count '\n' = 0 := by
  cases k <;> decide

theorem count_newline_revertForbiddenSome (protocol : Pattern) (t : Text) :
    (revertForbiddenSome protocol t).1.count '\n' = t.count '\n' := by
  refine count_substitute (fun m hm y hy => ?_) t
  cases hy
  obtain ⟨a, b, x, z, hsome, htype, hrest, -, -, -, hone, htwo⟩ :=
    reads_of_forbiddenSome (matchAt?_eq_some hm).2
  rw [hone, htwo, Match.text, (hsome.trans (htype.trans hrest)).textTo_eq]
  simp [List.count_append]

theorem count_newline_stripConstraints (t : Text) :
    (stripConstraints t).1.count '\n' = t.count '\n' := by
  refine count_substitute (fun m hm y hy => ?_) t
  cases hy
  obtain ⟨x, k, hread, -, -, hone⟩ := reads_of_constraintKeyword (matchAt?_eq_some hm).2
  have hk := count_newline_keyword k
  rw [hone, Match.text, hread.textTo_eq]
  simp [List.count_append, hk]

theorem count_newline_annotateCasts (policy : Policy) (hprotocol : protocol.hasGroup = false)
    (t : Text) : (annotateCasts policy protocol t).1.count '\n' = t.count '\n' := by
  refine count_substitute (fun m hm y hy => ?_) t
  split at hy
  · cases hy
    obtain ⟨a, b, c, hcast⟩ := exists_castReading hprotocol hm
    obtain ⟨x, z, w, hoperator, -⟩ := hcast.operator
    obtain ⟨v, htype⟩ := hcast.exists_reads_type
    rw [hcast.operatorText, hcast.typeText, hoperator.textTo_eq, htype.textTo_eq, Match.text,
      (hoperator.trans htype).textTo_eq]
    simp [List.count_append]
  · cases hy

theorem count_newline_promoteReturns (keep : List Text) (hprotocol : protocol.hasGroup = false)
    (t : Text) : (promoteReturns keep protocol t).1.count '\n' = t.count '\n' := by
  refine count_substitute (fun m hm y hy => ?_) t
  split at hy
  · cases hy
    obtain ⟨a, b, x, harrow, hname, hbrace, -, hone⟩ :=
      reads_of_anyReturn hprotocol (matchAt?_eq_some hm).2
    rw [hone, Match.text, (harrow.trans (hname.trans hbrace)).textTo_eq]
    simp [List.count_append]
  · cases hy

theorem count_newline_revertPlainLines (t : Text) :
    (revertPlainLines t).1.count '\n' = t.count '\n' := by
  refine count_substitute (fun m hm y hy => ?_) t
  cases hy
  obtain ⟨a, x, hline, hsome, -⟩ := reads_of_someOnPlainLine (matchAt?_eq_some hm).2
  rw [text_someOnPlainLine hline hsome, Match.text, (hline.trans hsome).textTo_eq]
  simp [List.count_append]

theorem count_newline_collapseOnce (t : Text) :
    (collapseOnce t).1.count '\n' = t.count '\n' := by
  refine count_substitute (fun m hm y hy => ?_) t
  cases hy
  obtain ⟨first, second, x, hread, -, -, ⟨-, hspaces⟩, -⟩ :=
    reads_of_doubledKeyword (matchAt?_eq_some hm).2
  have hx : x.count '\n' = 0 := by
    refine List.count_eq_zero.mpr fun hmem => ?_
    exact absurd (hspaces '\n' hmem) (by decide)
  rw [Match.text, hread.textTo_eq]
  simp only [List.count_append, count_newline_keyword, hx]

theorem count_newline_repeatPass {pass : Text → Text × Nat}
    (h : ∀ t, (pass t).1.count '\n' = t.count '\n') (n : Nat) (t : Text) :
    (repeatPass pass n t).1.count '\n' = t.count '\n' := by
  induction n generalizing t with
  | zero => rfl
  | succ n ih =>
      have hpass := h t
      rw [repeatPass]
      rcases hrun : pass t with ⟨t', count⟩
      rw [hrun] at hpass
      simp only
      split
      · exact hpass
      · exact (ih t').trans hpass

end Kept

/-! ## Optionals over two lines

No match of the pattern begins inside another optional: a keyword with a blank behind it is read in
a match only at its start. -/

/-- Blanks with a line end among them. -/
def brokenBlanks : Pattern := inOrder [star (one .blank), char '\n', star (one .blank)]

def markedType (protocol : Pattern) : Pattern :=
  inOrder [group 1 (qualified protocol), group 2 (one (.oneOf ['?', '!']))]

/-- **An annotated optional over two lines**: a line ends between the keyword and the type. -/
def brokenOptional (protocol : Pattern) : Pattern :=
  inOrder [boundary, cluster eitherKeyword, brokenBlanks, markedType protocol]

section Broken

variable {protocol : Pattern} {names : List Text} {a b : Cursor} {m : Match}

theorem spans_brokenBlanks_iff :
    brokenBlanks.Spans a b ↔ ∃ x, IsBlanks x ∧ '\n' ∈ x ∧ Reads x a b := by
  constructor
  · rintro ⟨c, hbefore, d, hend, hbehind⟩
    obtain ⟨x, hx, hfirst⟩ := spans_star_one_iff.mp hbefore
    obtain ⟨y, hy, hrest⟩ := spans_star_one_iff.mp hbehind
    refine ⟨x ++ (['\n'] ++ y), ⟨by simp, ?_⟩, by simp, hfirst.trans (hend.trans hrest)⟩
    simp only [List.forall_mem_append, List.forall_mem_singleton]
    exact ⟨hx, by decide, hy⟩
  · rintro ⟨x, ⟨-, hx⟩, hmem, hread⟩
    obtain ⟨u, v, rfl⟩ := List.append_of_mem hmem
    obtain ⟨hu, hv⟩ := List.forall_mem_append.mp hx
    obtain ⟨c, hfirst, hrest⟩ := hread.exists_between
    obtain ⟨d, hend, hlast⟩ := Reads.exists_between (x := ['\n']) hrest
    exact ⟨c, spans_star_one_iff.mpr ⟨u, hu, hfirst⟩, d, hend, spans_star_one_iff.mpr
      ⟨v, (List.forall_mem_cons.mp hv).2, hlast⟩⟩

/-- What the patterns of annotated optionals match, whichever blanks they read. -/
theorem spans_optional_iff (between : Pattern) :
    (inOrder [boundary, cluster eitherKeyword, between, markedType protocol]).Spans a b ↔
      a.atBoundary = true ∧ ∃ (k : Keyword) (c d : Cursor), Reads k.word a c ∧ between.Spans c d ∧
        (markedType protocol).Spans d b := by
  have hne : [Keyword.any.word, Keyword.some.word] ≠ [] := List.cons_ne_nil _ _
  constructor
  · rintro ⟨a', ⟨rfl, hboundary⟩, c, hkeyword, d, hbetween, hmarked⟩
    obtain ⟨w, hw, hread⟩ := (spans_either_literal_iff hne).mp hkeyword
    obtain ⟨k, rfl⟩ : IsKeyword w :=
      isKeyword_iff.mpr (by simpa [Keyword.word_any, Keyword.word_some] using hw)
    exact ⟨hboundary, k, c, d, hread, hbetween, hmarked⟩
  · rintro ⟨hboundary, k, c, d, hread, hbetween, hmarked⟩
    exact ⟨a, ⟨rfl, hboundary⟩, c, (spans_either_literal_iff hne).mpr
      ⟨k.word, by cases k <;> simp, hread⟩, d, hbetween, hmarked⟩

theorem newline_not_mem_type {ok : Text → Prop} {qs : List Text} (hqs : Qualifiers ok qs) {P : Text}
    (hP : IsName P) {type : Text} (htype : type = [] ∨ type = ".Type".toList) :
    '\n' ∉ qs.flatten ++ (P ++ type) := by
  have hword {w : Text} (hw : IsName w) : '\n' ∉ w := fun hmem =>
    absurd (hw.2 '\n' hmem) (by decide)
  have hqualifiers : '\n' ∉ qs.flatten := by
    intro hmem
    obtain ⟨w, hw, hmem⟩ := List.mem_flatten.mp hmem
    rcases hqs.mem hw with rfl | ⟨hname, -⟩
    · exact absurd hmem (by decide)
    · exact hword hname hmem
  have hend : '\n' ∉ type := by rcases htype with rfl | rfl <;> decide
  simp [hqualifiers, hword hP, hend]

/-- **A type and a mark** are on one line and begin with a word. -/
theorem exists_reads_markedType (hnames : ∀ n ∈ names, IsName n) (hne : names ≠ [])
    (h : (markedType (Registry.wholeName names)).Spans a b) :
    ∃ y, Reads y a b ∧ '\n' ∉ y ∧ startsWord y = true := by
  obtain ⟨c, htype, mark, hmark, hread⟩ := h
  obtain ⟨qs, P, type, hqs, hP, hmetatype, htyped, -⟩ := exists_type_of_qualified hnames hne htype
  have hline := newline_not_mem_type hqs (hnames P hP) hmetatype
  have hother : '\n' ≠ mark := by
    rintro rfl
    exact absurd hmark (by decide)
  refine ⟨qs.flatten ++ (P ++ type) ++ [mark], htyped.trans hread, ?_, ?_⟩
  · rw [List.mem_append, List.mem_singleton]
    exact not_or.mpr ⟨hline, hother⟩
  · cases hqs with
    | nil => simp [startsWord_append_of_ne_nil (hnames P hP).1, (hnames P hP).startsWord]
    | cons hq _ _ => simp [startsWord_append_of_ne_nil hq.1, hq.startsWord]

/-- A keyword with a blank behind it begins neither at a part that is no word nor before one that is
no blank. -/
theorem suffix_of_keyword_cons {k : Keyword} {d w : Text} {B N : List Text}
    (hd : isBlankPart d = true) (h : k.word :: d :: B <:+ w :: N)
    (hw : ¬ IsName w ∨ N.head?.any isBlankPart = false) : k.word :: d :: B <:+ N := by
  rcases List.suffix_cons_iff.mp h with heq | h
  · obtain ⟨rfl, rfl⟩ := List.cons.inj heq
    rcases hw with hw | hw
    · exact absurd (isName_word k) hw
    · rw [List.head?_cons, Option.any_some, hd] at hw
      cases hw
  · exact h

/-- **An optional holds no other keyword with a blank behind it**: what begins with one begins
behind the mark. -/
theorem suffix_of_keyword {ws : Text} (hws : IsBlanks ws) {qs : List Text}
    (hqs : Qualifiers (fun _ => True) qs) {P type : Text}
    (htype : type = [] ∨ type = ".Type".toList) {mark : Char} (hmark : mark = '?' ∨ mark = '!')
    {k : Keyword} {d : Text} (hd : isBlankPart d = true) {B R : List Text}
    (h : k.word :: d :: B <:+
      ws.map (fun c => [c]) ++ (qs ++ P :: (parts type ++ [mark] :: R))) :
    k.word :: d :: B <:+ R := by
  have hmarkWord : ¬ IsName [mark] := by rcases hmark with rfl | rfl <;> decide
  have hmarkBlank : isBlankPart [mark] = false := by rcases hmark with rfl | rfl <;> decide
  -- No part of the type is a keyword with a blank behind it, so the keyword is passed through to
  -- what follows.
  have htyped : k.word :: d :: B <:+ qs ++ P :: (parts type ++ [mark] :: R) := by
    refine suffix_of_suffix_append h (isName_word k) fun w hw hname => ?_
    have hblank := isBlankPart_of_mem_map hws.2 w hw
    rw [isBlankPart_of_isName hname] at hblank
    cases hblank
  have hname : k.word :: d :: B <:+ P :: (parts type ++ [mark] :: R) := by
    rcases hqs.suffix htyped with ⟨w, B', heq⟩ | ⟨B', heq⟩ | h
    · obtain ⟨rfl, -⟩ := List.cons.inj (List.cons.inj heq).2
      exact absurd hd (by decide)
    · exact absurd (isName_word k) (by rw [(List.cons.inj heq).1]; decide)
    · exact h
  rcases parts_metatype htype with hparts | hparts
  · rw [hparts] at hname
    exact suffix_of_keyword_cons hd (suffix_of_keyword_cons hd hname (.inr hmarkBlank))
      (.inl hmarkWord)
  · rw [hparts] at hname
    have hdot := suffix_of_keyword_cons hd hname (.inr rfl)
    have hmetatype := suffix_of_keyword_cons hd hdot (.inl (by decide))
    exact suffix_of_keyword_cons hd (suffix_of_keyword_cons hd hmetatype (.inr hmarkBlank))
      (.inl hmarkWord)

theorem blanks_eq_of_keyword {k k' : Keyword} {ws ws' r r' : Text} (hws : IsBlanks ws)
    (hws' : IsBlanks ws') (hr : startsWord r = true) (hr' : startsWord r' = true)
    (h : k.word ++ (ws ++ r) = k'.word ++ (ws' ++ r')) : ws = ws' := by
  have hbreak {ws r : Text} (hws : IsBlanks ws) : (ws ++ r).head?.any isWord = false := by
    have hstart : startsWord (ws ++ r) = startsWord ws := startsWord_append_of_ne_nil hws.1 r
    exact hstart.trans (startsWord_blanks hws.2)
  have hword {r : Text} (hr : startsWord r = true) : r.head?.any isBlank = false := by
    cases r with
    | nil => rfl
    | cons c r =>
        refine Bool.eq_false_iff.mpr fun hblank => ?_
        have hc : isWord c = true := hr
        rw [isWord_eq_false_of_isBlank hblank] at hc
        cases hc
  obtain ⟨-, hrest⟩ := append_inj_of_forall h (isName_word k).2 (isName_word k').2 (hbreak hws)
    (hbreak hws')
  exact (append_inj_of_forall hrest hws.2 hws'.2 (hword hr) (hword hr')).1

/-- **A match over two lines** is a broken optional. -/
theorem spans_of_newline_mem (hnames : ∀ n ∈ names, IsName n) (hne : names ≠ [])
    (hm : IsMatch (bareOptional (Registry.wholeName names)) m) (hmem : '\n' ∈ m.text) :
    (brokenOptional (Registry.wholeName names)).Spans m.start m.stop := by
  obtain ⟨hboundary, k, c, d, hkeyword, hblanks, hmarked⟩ :=
    (spans_optional_iff blanks).mp hm.spans
  obtain ⟨x, hx, hread⟩ := spans_blanks_iff.mp hblanks
  obtain ⟨y, hy, hyline, -⟩ := exists_reads_markedType hnames hne hmarked
  refine (spans_optional_iff _).mpr ⟨hboundary, k, c, d, hkeyword,
    spans_brokenBlanks_iff.mpr ⟨x, hx, ?_, hread⟩, hmarked⟩
  have hk : '\n' ∉ k.word := List.count_eq_zero.mp (count_newline_keyword k)
  rw [Match.text, (hkeyword.trans (hread.trans hy)).textTo_eq] at hmem
  simpa [hk, hyline] using hmem

/-- **No other keyword with a blank behind it is read in a match**: one that begins in it is the
first word of it. -/
theorem eq_nil_of_keyword (hnames : ∀ n ∈ names, IsName n) (hne : names ≠ [])
    (hm : IsMatch (bareOptional (Registry.wholeName names)) m) {u z ws r : Text} {k : Keyword}
    (hu : Reads u m.start a) (hz : Reads z a m.stop) (hinside : z ≠ [])
    (hbefore : endsWord a.before.reverse = false) (hws : IsBlanks ws)
    (hafter : a.after = k.word ++ (ws ++ r)) : u = [] := by
  by_contra hune
  obtain ⟨k', ws', qs, P, type, mark, hws', hqs, hP, htype, hmark, hread, -⟩ :=
    exists_type_of_bareOptional hnames hne hm
  have hapart : Apart u a.after := by
    rw [hu.reverse_before, endsWord_append_of_ne_nil _ hune] at hbefore
    exact .inl hbefore
  obtain ⟨d, B, hd, hparts⟩ : ∃ d B, isBlankPart d = true ∧ parts a.after = k.word :: d :: B := by
    obtain ⟨c, cs, rfl⟩ := List.exists_cons_of_ne_nil hws.1
    have hbreak : startsWord (c :: cs ++ r) = false := by
      rw [startsWord_append_of_ne_nil hws.1, startsWord_blanks hws.2]
    refine ⟨[c], cs.map (fun c => [c]) ++ parts r, hws.2 c List.mem_cons_self, ?_⟩
    rw [hafter, parts_name_append (isName_word k) hbreak, parts_blanks hws.2]
    rfl
  have hmatched := parts_bareOptional hnames (k := k') hws' hqs hP htype hmark m.stop.after
  rw [← hread.after, hu.after, parts_append hapart] at hmatched
  -- the keyword is not the first part of the match, so it stands behind the match
  have hsuffix : parts a.after <:+
      ws'.map (fun c => [c]) ++ (qs ++ P :: (parts type ++ [mark] :: parts m.stop.after)) := by
    obtain ⟨w, W, hW⟩ : ∃ w W, parts u = w :: W := by
      refine List.exists_cons_of_ne_nil fun hnil => hune ?_
      rw [← flatten_parts u, hnil, List.flatten_nil]
    rw [hW, List.cons_append] at hmatched
    exact ⟨W, (List.cons.inj hmatched).2⟩
  rw [hparts] at hsuffix
  have hle := length_flatten_le (suffix_of_keyword hws' hqs htype hmark hd hsuffix)
  rw [← hparts, flatten_parts, hz.length_eq] at hle
  exact hinside (List.length_eq_zero_iff.mp (by omega))

/-- **A broken optional is matched**: the search over bare optionals does not skip it. -/
theorem exists_newline_mem (hnames : ∀ n ∈ names, IsName n) (hne : names ≠ []) {t x : Text}
    (hread : Reads x (.start t) a)
    (h : (brokenOptional (Registry.wholeName names)).Spans a b) :
    ∃ m ∈ (bareOptional (Registry.wholeName names)).matchesFrom (.start t), '\n' ∈ m.text := by
  obtain ⟨hboundary, k, c, d, hkeyword, hbroken, hmarked⟩ := (spans_optional_iff _).mp h
  obtain ⟨ws, hws, hline, hblanks⟩ := spans_brokenBlanks_iff.mp hbroken
  obtain ⟨y, hy, -, hstarts⟩ := exists_reads_markedType hnames hne hmarked
  -- A broken optional is a bare one, so a match reaches into it, and that match begins where it
  -- does: before the keyword there is no word that could belong to it.
  have hspans : (bareOptional (Registry.wholeName names)).Spans a b :=
    (spans_optional_iff _).mpr ⟨hboundary, k, c, d, hkeyword, spans_blanks_iff.mpr ⟨ws, hws, hblanks⟩,
      hmarked⟩
  obtain ⟨m, hm, ⟨u, hu⟩, z, hz, hover⟩ :=
    exists_mem_matchesFrom (neverEmpty_bareOptional _) hread hspans
  have hmatch := (matchAt?_eq_some (matchAt?_of_mem_matchesFrom hm)).2
  have hafter : a.after = k.word ++ (ws ++ (y ++ b.after)) := by
    rw [hkeyword.after, hblanks.after, hy.after]
  obtain rfl : u = [] := eq_nil_of_keyword hnames hne hmatch hu hover hz
    (hkeyword.endsWord_before hboundary (startsWord_keyword k)) hws hafter
  obtain rfl := hu.eq_of_nil
  obtain ⟨hboundary', k', c', d', hkeyword', hblanks', hmarked'⟩ :=
    (spans_optional_iff blanks).mp hmatch.spans
  obtain ⟨ws', hws', hread'⟩ := spans_blanks_iff.mp hblanks'
  obtain ⟨y', hy', -, hstarts'⟩ := exists_reads_markedType hnames hne hmarked'
  have hafter' : m.start.after = k'.word ++ (ws' ++ (y' ++ m.stop.after)) := by
    rw [hkeyword'.after, hread'.after, hy'.after]
  have hword {y r : Text} (hy : startsWord y = true) : startsWord (y ++ r) = true := by
    rwa [startsWord_append_of_ne_nil (ne_nil_of_startsWord hy)]
  obtain rfl : ws = ws' := blanks_eq_of_keyword hws hws' (hword hstarts)
    (hword hstarts') (hafter.symm.trans hafter')
  refine ⟨m, hm, ?_⟩
  rw [Match.text, (hkeyword'.trans (hread'.trans hy')).textTo_eq]
  simp [hline]

/-- A match is over two lines if and only if a broken optional is in the text. -/
theorem exists_newline_mem_iff (hnames : ∀ n ∈ names, IsName n) (hne : names ≠ []) (t : Text) :
    (∃ m ∈ (bareOptional (Registry.wholeName names)).matchesFrom (.start t), '\n' ∈ m.text) ↔
      (brokenOptional (Registry.wholeName names)).occursIn t = true := by
  constructor
  · rintro ⟨m, hm, hmem⟩
    have hmatch := (matchAt?_eq_some (matchAt?_of_mem_matchesFrom hm)).2
    obtain ⟨x, hx⟩ := (matchesFrom_successive _ _).exists_reads m hm
    exact occursIn_iff.mpr ⟨x, m.start, m.stop, hx, spans_of_newline_mem hnames hne hmatch hmem⟩
  · intro h
    obtain ⟨x, a, b, hread, hspans⟩ := occursIn_iff.mp h
    exact exists_newline_mem hnames hne hread hspans

theorem newline_not_mem_parenthesised (hnames : ∀ n ∈ names, IsName n) (hne : names ≠ [])
    (hm : IsMatch (bareOptional (Registry.wholeName names)) m) :
    '\n' ∉ "(any ".toList ++ m.groupText 1 ++ ")".toList ++ m.groupText 2 := by
  obtain ⟨k, ws, qs, P, type, mark, -, hqs, hP, htype, hmark, -, -, hone, htwo⟩ :=
    exists_type_of_bareOptional hnames hne hm
  have hline := newline_not_mem_type hqs (hnames P hP) htype
  have hother : '\n' ≠ mark := by rcases hmark with rfl | rfl <;> decide
  rw [hone, htwo]
  simp only [List.mem_append, not_or] at hline ⊢
  exact ⟨⟨⟨by decide, hline⟩, by decide⟩, by simpa using hother⟩

/-- **The pass over optionals** adds no line, and keeps all of them if and only if no optional is
broken over two lines. -/
theorem count_newline_parenthesise (hnames : ∀ n ∈ names, IsName n) (hne : names ≠ []) (t : Text) :
    (parenthesise (Registry.wholeName names) t).1.count '\n' ≤ t.count '\n' ∧
      ((parenthesise (Registry.wholeName names) t).1.count '\n' = t.count '\n' ↔
        (brokenOptional (Registry.wholeName names)).occursIn t = false) := by
  set p := bareOptional (Registry.wholeName names)
  set new := replacement fun m =>
    some ("(any ".toList ++ m.groupText 1 ++ ")".toList ++ m.groupText 2) with hnew
  -- What is written holds no line end, so the text loses those of its matches.
  have hwritten : ((p.matchesFrom (.start t)).map fun m => (new m).count '\n').sum = 0 := by
    refine List.sum_eq_zero_iff_forall_eq_nat.mpr fun n hn => ?_
    obtain ⟨m, hm, rfl⟩ := List.mem_map.mp hn
    exact List.count_eq_zero.mpr (newline_not_mem_parenthesised hnames hne
      (matchAt?_eq_some (matchAt?_of_mem_matchesFrom hm)).2)
  have hcount := count_splice new (matchesFrom_successive p (.start t)) '\n'
  rw [hwritten, Nat.add_zero] at hcount
  change (parenthesise _ t).1.count '\n' + _ = t.count '\n' at hcount
  refine ⟨by omega, ?_⟩
  have hbroken := exists_newline_mem_iff hnames hne t
  have hkept : (parenthesise (Registry.wholeName names) t).1.count '\n' = t.count '\n' ↔
      ((p.matchesFrom (.start t)).map fun m => m.text.count '\n').sum = 0 := by omega
  rw [hkept, List.sum_eq_zero_iff_forall_eq_nat, ← Bool.not_eq_true, ← hbroken]
  constructor
  · rintro hzero ⟨m, hm, hmem⟩
    exact List.count_eq_zero.mp (hzero _ (List.mem_map_of_mem hm)) hmem
  · intro hnone n hn
    obtain ⟨m, hm, rfl⟩ := List.mem_map.mp hn
    exact List.count_eq_zero.mpr fun hmem => hnone ⟨m, hm, hmem⟩

end Broken

/-! ## The lines of a cleaned text

The condition is about the text that the pass over optionals is given, not about the one that the
cleanup is given, since the passes before it may bring a keyword in front of a broken type. -/

/-- The text that the pass over optionals is given. -/
def beforeOptionals (registry : Registry) (policy : Policy) (options : Options) (t : Text) : Text :=
  match registry.pattern? with
  | none => t
  | some protocol => (runPasses ((passes policy options protocol).take 5) t).1

/-- Whether an optional of a known protocol is broken over two lines. -/
def hasBrokenOptional (registry : Registry) (t : Text) : Bool :=
  registry.pattern?.any fun protocol => (brokenOptional protocol).occursIn t

theorem count_newline_beforeOptionals (registry : Registry) (policy : Policy) (options : Options)
    (t : Text) : (beforeOptionals registry policy options t).count '\n' = t.count '\n' := by
  rw [beforeOptionals, Registry.pattern?]
  by_cases hempty : registry.isEmpty = true
  · rw [if_pos hempty]
  rw [if_neg hempty]
  set protocol := Registry.wholeName registry.names with hprotocol
  have hgroup : protocol.hasGroup = false := hasGroup_wholeName _
  set t₁ := (revertForbiddenSome protocol t).1
  set t₂ := (stripConstraints t₁).1
  set t₃ := (annotateCasts policy protocol t₂).1
  set t₄ := (promoteReturns options.keepAnyReturns protocol t₃).1
  calc (repeatPass revertPlainLines options.adhocRounds t₄).1.count '\n'
      = t₄.count '\n' := count_newline_repeatPass count_newline_revertPlainLines _ t₄
    _ = t₃.count '\n' := count_newline_promoteReturns _ hgroup t₃
    _ = t₂.count '\n' := count_newline_annotateCasts policy hgroup t₂
    _ = t₁.count '\n' := count_newline_stripConstraints t₁
    _ = t.count '\n' := count_newline_revertForbiddenSome protocol t

theorem count_newline_run (registry : Registry) (policy : Policy) (options : Options) (t : Text) :
    (run registry policy options t).1.count '\n' =
      (fixOptionals registry (beforeOptionals registry policy options t)).1.count '\n' := by
  rw [run, fixOptionals, beforeOptionals]
  cases registry.pattern? with
  | none => rfl
  | some protocol =>
      set t' := (runPasses ((passes policy options protocol).take 5) t).1
      have hlast : (runPasses (passes policy options protocol) t).1 =
          (collapseDoubled (parenthesise protocol t').1).1 := rfl
      simp only [hlast]
      exact count_newline_repeatPass count_newline_collapseOnce _ _

theorem count_newline_fixOptionals (registry : Registry) (hnames : ∀ n ∈ registry.names, IsName n)
    (t : Text) :
    (fixOptionals registry t).1.count '\n' ≤ t.count '\n' ∧
      ((fixOptionals registry t).1.count '\n' = t.count '\n' ↔
        hasBrokenOptional registry t = false) := by
  by_cases hempty : registry.isEmpty = true
  · have hnone : registry.pattern? = none := if_pos hempty
    rw [fixOptionals, hasBrokenOptional, hnone]
    exact ⟨Nat.le_refl _, ⟨fun _ => rfl, fun _ => rfl⟩⟩
  · have hsome : registry.pattern? = some (Registry.wholeName registry.names) := if_neg hempty
    have hnil : registry.names ≠ [] := names_ne_nil (Bool.eq_false_iff.mpr hempty)
    rw [fixOptionals, hasBrokenOptional, hsome]
    exact count_newline_parenthesise hnames hnil t

/-- **The lines of a cleaned text.** A cleanup and the pass over optionals add no line, and they
keep all lines if and only if no annotated optional is broken over two lines in the text that is
parenthesised. -/
theorem count_newline_run_iff (registry : Registry) (policy : Policy) (options : Options) (t : Text)
    (hnames : ∀ n ∈ registry.names, IsName n) :
    ((run registry policy options t).1.count '\n' ≤ t.count '\n' ∧
      ((run registry policy options t).1.count '\n' = t.count '\n' ↔
        hasBrokenOptional registry (beforeOptionals registry policy options t) = false)) ∧
    ((fixOptionals registry t).1.count '\n' ≤ t.count '\n' ∧
      ((fixOptionals registry t).1.count '\n' = t.count '\n' ↔
        hasBrokenOptional registry t = false)) := by
  refine ⟨?_, count_newline_fixOptionals registry hnames t⟩
  rw [count_newline_run, ← count_newline_beforeOptionals registry policy options t]
  exact count_newline_fixOptionals registry hnames _

example : (fixOptionals workerRegistry "let w: any  Worker?\n".toList).1.count '\n' = 1 := by
  unfold workerRegistry
  repeat rewrite [String.toList_ofList]
  decide +kernel

def nextLine : Text := "let w:\nany Worker?\n".toList

/-- A line that ends before the keyword is kept. -/
theorem count_newline_run_nextLine :
    (∀ n ∈ workerRegistry.names, IsName n) ∧
      hasBrokenOptional workerRegistry
        (beforeOptionals workerRegistry (.ofClasses []) ⟨[], 1⟩ nextLine) = false ∧
      (run workerRegistry (.ofClasses []) ⟨[], 1⟩ nextLine).1.count '\n' = nextLine.count '\n' := by
  have hnames : ∀ n ∈ workerRegistry.names, IsName n := fun n hn =>
    (isName_of_mem_workerRegistry n hn).1
  have hnone : hasBrokenOptional workerRegistry
      (beforeOptionals workerRegistry (.ofClasses []) ⟨[], 1⟩ nextLine) = false := by
    unfold workerRegistry nextLine
    repeat rewrite [String.toList_ofList]
    decide +kernel
  have hlines := count_newline_run_iff workerRegistry (.ofClasses []) ⟨[], 1⟩ nextLine hnames
  exact ⟨hnames, hnone, hlines.1.2.mpr hnone⟩

/-- An optional whose keyword is on the line before. -/
def brokenLine : Text := "let w: any\nWorker?\n".toList

/-- **A line that ends behind the keyword is joined with the next one**, also where nothing but the
parentheses is to be added. -/
theorem run_brokenLine :
    (∀ n ∈ workerRegistry.names, IsName n) ∧
      (run workerRegistry (.ofClasses []) ⟨[], 1⟩ brokenLine).1 =
        "let w: (any Worker)?\n".toList ∧
      (fixOptionals workerRegistry brokenLine).1 = "let w: (any Worker)?\n".toList ∧
      (run workerRegistry (.ofClasses []) ⟨[], 1⟩ brokenLine).1.count '\n' ≠
        brokenLine.count '\n' := by
  refine ⟨fun n hn => (isName_of_mem_workerRegistry n hn).1, ?_⟩
  unfold workerRegistry brokenLine
  repeat rewrite [String.toList_ofList]
  decide +kernel

end Cleanup

end SwiftExistential
