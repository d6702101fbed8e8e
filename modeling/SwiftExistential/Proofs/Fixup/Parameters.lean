import SwiftExistential.Diagnostic
import SwiftExistential.Proofs.Fixup.Reach
import SwiftExistential.Proofs.Pattern.Spans

/-!
# Parameters of an override

A diagnostic about an override asks for `any` instead of the `some` of a parameter. The pattern
reads over all that is no `)` from the start of the window on, so a match begins there or directly
behind a `)`, and what stands before the match is not what stands before the type of the parameter.

The guard against annotating a type twice looks at the text before the match. So a keyword or a dot
directly before the window blocks the fixup, although its target is in reach, unless a `)` stands
between (`applyAll_anyForParameter`). A blocked fixup leads to no progress: the same line is
diagnosed again in the next round.
-/

set_option autoImplicit false

namespace SwiftExistential

open Pattern Text
open Cursor (Reads)

variable {line : Text} {a b : Cursor} {m : Match} {fixup : Fixup} {p : Nat}

/-! ## What is looked for

The pattern begins with a run that is as long as possible, so of several `some` in one stretch
without a `)` the last one is taken. -/

namespace LineFix

/-- The keyword of a parameter, behind a run. -/
def parameterSome : Pattern := inOrder [char ' ', group 1 (literal "some".toList), char ' ']

theorem spans_parameterSome_iff : parameterSome.Spans a b ↔ Reads " some ".toList a b := by
  constructor
  · rintro ⟨c, hspace, d, hsome, hlast⟩
    exact (hspace.trans (spans_literal_iff.mp hsome)).trans hlast
  · intro h
    obtain ⟨d, hfirst, hlast⟩ := Reads.exists_between (x := " some".toList) (y := [' ']) h
    obtain ⟨c, hspace, hsome⟩ := Reads.exists_between (x := [' ']) (y := "some".toList) hfirst
    exact ⟨c, hspace, d, spans_literal_iff.mpr hsome, hlast⟩

/-- The pattern reads a run without `)` and the keyword behind it. -/
theorem spans_anyForParameter_iff :
    anyForParameter.pattern.Spans a b ↔
      ∃ x : Text, x ≠ [] ∧ ')' ∉ x ∧ Reads (x ++ " some ".toList) a b := by
  have hclass : ∀ c : Char, (CharClass.noneOf [')']).holds c = true ↔ c ≠ ')' := by
    intro c
    simp [CharClass.holds]
  constructor
  · rintro ⟨c, hrun, hsome⟩
    obtain ⟨d, x, hd, hx, hread⟩ := spans_plus_one_iff.mp hrun
    refine ⟨d :: x, List.cons_ne_nil _ _, ?_, hread.trans (Iff.mp spans_parameterSome_iff hsome)⟩
    intro hmem
    rcases List.mem_cons.mp hmem with rfl | hmem
    · exact (hclass _).mp hd rfl
    · exact (hclass _).mp (hx _ hmem) rfl
  · rintro ⟨x, hne, hx, hread⟩
    obtain ⟨c, hrun, hsome⟩ := hread.exists_between
    obtain ⟨d, x, rfl⟩ := List.exists_cons_of_ne_nil hne
    rw [List.mem_cons, not_or] at hx
    refine ⟨c, spans_plus_one_iff.mpr ⟨d, x, (hclass d).mpr (Ne.symm hx.1), ?_, hrun⟩,
      Iff.mpr spans_parameterSome_iff hsome⟩
    exact fun e he => (hclass e).mpr fun heq => hx.2 (heq ▸ he)

theorem neverEmpty_anyForParameter : NeverEmpty anyForParameter.pattern := by
  intro m hm
  obtain ⟨x, hx, -, hread⟩ := Iff.mp spans_anyForParameter_iff hm.spans
  exact ⟨_, List.append_ne_nil_of_left_ne_nil hx _, hread⟩

/-- Where a match stands in a line, and what the line becomes. -/
theorem places_of_anyForParameter {i : Nat} (h : IsMatch anyForParameter.pattern m)
    (hstart : m.start = (Cursor.start line).skip i) (hle : i ≤ line.length) :
    ∃ x : Text, x ≠ [] ∧ ')' ∉ x ∧
      Reads x ((Cursor.start line).skip i) ((Cursor.start line).skip (i + x.length)) ∧
      Reads " some ".toList ((Cursor.start line).skip (i + x.length))
        ((Cursor.start line).skip (i + x.length + 6)) ∧
      m.stop = (Cursor.start line).skip (i + x.length + 6) ∧
      m.textWith 1 "any".toList =
        line.take (i + x.length + 1) ++ ("any".toList ++ line.drop (i + x.length + 5)) := by
  obtain ⟨x, a, g, hne, hx, hgroup, hrun, hspace, hsome, hlast⟩ := reads_of_anyForParameter h
  rw [hstart] at hrun
  obtain rfl := hrun.eq_skip_add hle
  -- All cursors are counted from the start of the line, and the match ends inside it.
  have hinside : i + x.length ≤ line.length := by
    have hlen := (hrun.trans hspace).length_eq
    rw [Cursor.skip_start, List.length_drop, List.length_append] at hlen
    have hpos := List.length_pos_iff.mpr hne
    omega
  have hread : Reads " some ".toList ((Cursor.start line).skip (i + x.length)) m.stop :=
    (hspace.trans hsome).trans hlast
  have hstop : m.stop = (Cursor.start line).skip (i + x.length + 6) := hread.eq_skip_add hinside
  have hgstart : g.start = (Cursor.start line).skip (i + x.length + 1) :=
    hspace.eq_skip_add hinside
  have hgstop : g.stop = (Cursor.start line).skip (i + x.length + 5) :=
    (hspace.trans hsome).eq_skip_add hinside
  refine ⟨x, hne, hx, hrun, hstop ▸ hread, hstop, ?_⟩
  simp only [Match.textWith, hgroup, hgstart, hgstop, Cursor.skip_start, List.reverse_reverse,
    List.append_assoc]

theorem not_mem_of_reads {y z : Text} {c : Cursor} (h : anyForParameter.pattern.Spans a b)
    (hy : Reads y a c) (hz : Reads z c b) : ')' ∉ y := by
  obtain ⟨x, -, hx, hread⟩ := Iff.mp spans_anyForParameter_iff h
  have hxy : x ++ " some ".toList = y ++ z :=
    List.append_cancel_right (hread.after.symm.trans (hy.trans hz).after)
  have hnot : ')' ∉ x ++ " some ".toList := by
    rw [List.mem_append]
    exact not_or.mpr ⟨hx, by decide⟩
  rw [hxy] at hnot
  exact fun hmem => hnot (List.mem_append_left z hmem)

theorem stop_le_of_matchAt? (h : anyForParameter.pattern.matchAt? a = some m)
    (hspans : anyForParameter.pattern.Spans a b) : m.stop.after.length ≤ b.after.length := by
  rw [matchAt?_eq_head?, Option.map_eq_some_iff] at h
  obtain ⟨t, ht, rfl⟩ := h
  obtain ⟨u, -, hu, hlongest⟩ := head?_ways_seq_plus_one ht
  obtain ⟨c, hrun, hsome⟩ := hspans
  obtain ⟨v, hv, rfl⟩ := exists_mem_ways _ (.start a) c hrun
  obtain ⟨w, hw, -⟩ := exists_mem_ways _ v b hsome
  have hle := hlongest v hv (List.ne_nil_of_mem hw)
  have hfirst :=
    (Iff.mp spans_parameterSome_iff (spans_of_mem_ways _ (List.mem_of_head? hu))).length_eq
  have hsecond := (Iff.mp spans_parameterSome_iff hsome).length_eq
  change t.cursor.after.length ≤ b.after.length
  omega

end LineFix

/-! ## What is in reach -/

namespace Fixup

/-- **A `some` that is in reach**: it stands between blanks in the window, and a character of the
window that is no `)` comes directly before. The place is that of the first blank. -/
structure OpenSome (fixup : Fixup) (line : Text) (p : Nat) : Prop where
  inWindow : fixup.windowStart < p
  occurs : " some ".toList <+: line.drop p
  unclosed : (line.take p).getLast? ≠ some ')'

/-- The text of the window before a place. -/
def windowTo (fixup : Fixup) (line : Text) (p : Nat) : Text :=
  (line.drop fixup.windowStart).take (p - fixup.windowStart)

/-- **What blocks a fixup**: a keyword or a dot directly before the window, and no `)` between the
start of the window and anything in reach. -/
structure IsBlocked (fixup : Fixup) (line : Text) : Prop where
  taken : ∃ ending ∈ takenEnds, ending <:+ line.take fixup.windowStart
  unclosed : ∀ p, fixup.OpenSome line p → ')' ∉ fixup.windowTo line p

theorem OpenSome.reads_some (h : fixup.OpenSome line p) :
    Reads " some ".toList ((Cursor.start line).skip p) ((Cursor.start line).skip (p + 6)) := by
  have htake : " some ".toList = (line.drop p).take (p + 6 - p) := by
    rw [Nat.add_sub_cancel_left]
    exact List.prefix_iff_eq_take.mp h.occurs
  rw [htake]
  exact Cursor.reads_skip_skip (Nat.le_add_right p 6) line

theorem OpenSome.length_windowTo (h : fixup.OpenSome line p) :
    (fixup.windowTo line p).length = p - fixup.windowStart := by
  have hlen := h.occurs.length_le
  have hpos := h.inWindow
  rw [List.length_drop] at hlen
  simp at hlen
  rw [windowTo, List.length_take_of_le]
  rw [List.length_drop]
  omega

theorem OpenSome.windowTo_ne_nil (h : fixup.OpenSome line p) : fixup.windowTo line p ≠ [] := by
  rw [← List.length_pos_iff, h.length_windowTo]
  exact Nat.sub_pos_of_lt h.inWindow

theorem OpenSome.getLast?_windowTo (h : fixup.OpenSome line p) :
    (fixup.windowTo line p).getLast? ≠ some ')' := by
  have htake : line.take p = line.take fixup.windowStart ++ fixup.windowTo line p := by
    rw [windowTo, ← List.take_add, Nat.add_sub_cancel' (Nat.le_of_lt h.inWindow)]
  have hlast := h.unclosed
  rwa [htake, List.getLast?_append_of_ne_nil _ h.windowTo_ne_nil] at hlast

theorem OpenSome.reads_windowTo (h : fixup.OpenSome line p) :
    Reads (fixup.windowTo line p) ((Cursor.start line).skip fixup.windowStart)
      ((Cursor.start line).skip p) :=
  Cursor.reads_skip_skip (Nat.le_of_lt h.inWindow) line

theorem exists_openSome (h : m ∈ LineFix.anyForParameter.pattern.matchesFrom
      ((Cursor.start line).skip fixup.windowStart)) :
    ∃ p, fixup.OpenSome line p ∧ m.stop = (Cursor.start line).skip (p + 6) ∧
      m.textWith 1 "any".toList = line.take (p + 1) ++ ("any".toList ++ line.drop (p + 5)) := by
  have hchain := matchesFrom_successive LineFix.anyForParameter.pattern
    ((Cursor.start line).skip fixup.windowStart)
  obtain ⟨w, hw, hmatch⟩ := LineFix.neverEmpty_anyForParameter m (hchain.isMatch m h)
  obtain ⟨y, hy⟩ := hchain.exists_reads m h
  have hafter : m.start.after ≠ [] := by
    rw [hmatch.after]
    exact List.append_ne_nil_of_left_ne_nil hw _
  obtain ⟨i, hle, hlt, hstart⟩ := hy.exists_eq_skip hafter
  obtain ⟨x, hne, hx, hrun, hsome, hstop, hnew⟩ :=
    LineFix.places_of_anyForParameter (hchain.isMatch m h) hstart hlt.le
  have hpos := List.length_pos_iff.mpr hne
  refine ⟨i + x.length, ⟨by omega, ⟨m.stop.after, ?_⟩, fun hclosing => hx ?_⟩, hstop, hnew⟩
  · rw [hstop, ← hsome.after, Cursor.skip_start]
  · have hdrop : line.drop i = x ++ (Cursor.skip (i + x.length) (Cursor.start line)).after := by
      rw [← hrun.after, Cursor.skip_start]
    have htake : line.take (i + x.length) = line.take i ++ x := by
      rw [List.take_add, hdrop, List.take_left]
    rw [htake, List.getLast?_append_of_ne_nil _ hne] at hclosing
    exact List.mem_of_getLast? hclosing

/-! ## Where the matches begin

The runs of one match and the search for the next one go over the same characters; a match that
begins inside a run would have begun at its start. -/

theorem OpenSome.spans_of_unclosed (h : fixup.OpenSome line p)
    (hunclosed : ')' ∉ fixup.windowTo line p) :
    LineFix.anyForParameter.pattern.Spans ((Cursor.start line).skip fixup.windowStart)
      ((Cursor.start line).skip (p + 6)) :=
  Iff.mpr LineFix.spans_anyForParameter_iff
    ⟨_, h.windowTo_ne_nil, hunclosed, h.reads_windowTo.trans h.reads_some⟩

/-- Where a `)` stands between the start of the window and a `some` in reach, a match begins
directly behind a `)`. -/
theorem OpenSome.exists_match_of_closed (h : fixup.OpenSome line p)
    (hclosed : ')' ∈ fixup.windowTo line p) :
    ∃ m ∈ LineFix.anyForParameter.pattern.matchesFrom
        ((Cursor.start line).skip fixup.windowStart), m.start.before.head? = some ')' := by
  -- the run behind the last `)`
  obtain ⟨run, earlier, hsplit, hrun⟩ := List.eq_append_cons_of_mem (List.mem_reverse.mpr hclosed)
  have hwindow : fixup.windowTo line p = (earlier.reverse ++ [')']) ++ run.reverse := by
    rw [← List.reverse_reverse (fixup.windowTo line p), hsplit, List.reverse_append,
      List.reverse_cons]
  have hne : run.reverse ≠ [] := by
    intro hnil
    refine h.getLast?_windowTo ?_
    rw [hwindow, hnil, List.append_nil, List.getLast?_concat]
  have hread := h.reads_windowTo
  rw [hwindow] at hread
  obtain ⟨a, hbefore, hrest⟩ := hread.exists_between
  have hhead : a.before.head? = some ')' := by
    rw [hbefore.before, List.reverse_append]
    rfl
  have hspans : LineFix.anyForParameter.pattern.Spans a ((Cursor.start line).skip (p + 6)) :=
    Iff.mpr LineFix.spans_anyForParameter_iff
      ⟨run.reverse, hne, by rwa [List.mem_reverse], hrest.trans h.reads_some⟩
  obtain ⟨m, hm, hstart | ⟨y, d, z, hover, hy, hz⟩⟩ :=
    exists_match_at_or_over LineFix.neverEmpty_anyForParameter hbefore hspans
  · exact ⟨m, hm, hstart ▸ hhead⟩
  · -- no match reads over a `)`
    obtain rfl : ')' = d := Option.some.inj (hhead.symm.trans hover)
    have hmatch := (matchesFrom_successive _ _).isMatch m hm
    exact absurd (by simp) (LineFix.not_mem_of_reads hmatch.spans hy hz)

/-- **A run from the start of the window is as long as possible**: where no `)` stands between this
start and anything in reach, every match begins there. -/
theorem start_eq_of_unclosed
    (hunclosed : ∀ p, fixup.OpenSome line p → ')' ∉ fixup.windowTo line p)
    (hmem : m ∈ LineFix.anyForParameter.pattern.matchesFrom
      ((Cursor.start line).skip fixup.windowStart)) :
    m.start = (Cursor.start line).skip fixup.windowStart := by
  obtain ⟨p, hopen, hstop, -⟩ := exists_openSome hmem
  have hspans := hopen.spans_of_unclosed (hunclosed p hopen)
  obtain ⟨first, hfirst⟩ := exists_matchAt?_eq_some hspans
  have hchain := matchesFrom_successive LineFix.anyForParameter.pattern
    ((Cursor.start line).skip fixup.windowStart)
  obtain ⟨w, hw, hread⟩ := LineFix.neverEmpty_anyForParameter m (hchain.isMatch m hmem)
  obtain ⟨rest, hmatches⟩ := exists_matchesFrom_eq_cons (find?_of_matchAt? hfirst)
  rw [hmatches] at hchain hmem
  rcases List.mem_cons.mp hmem with rfl | hmem
  · exact (matchAt?_eq_some hfirst).1
  · -- a later match would go further than the first one
    exfalso
    cases hchain with
    | cons _ _ tail =>
        obtain ⟨y, hy⟩ := tail.exists_reads m hmem
        have hfar := LineFix.stop_le_of_matchAt? hfirst hspans
        have hwpos := List.length_pos_iff.mpr hw
        have hylen := hy.length_eq
        have hwlen := hread.length_eq
        rw [← hstop] at hfar
        omega

/-- **Something in reach is changed** exactly if it is not blocked. -/
theorem OpenSome.fits_iff (hfix : fixup.fix = .anyForParameter) (h : fixup.OpenSome line p) :
    fixup.fits line = true ↔ ¬ fixup.IsBlocked line := by
  rw [fits, target?, hfix, skipped_eq, List.find?_isSome]
  simp only [Bool.not_eq_true']
  constructor
  · rintro ⟨m, hm, hfree⟩ ⟨⟨ending, hending, htaken⟩, hunclosed⟩
    rw [start_eq_of_unclosed hunclosed hm, Cursor.skip_start] at hfree
    exact isTaken_eq_false_iff.mp hfree ending hending htaken
  · intro hblocked
    by_cases hunclosed : ∀ q, fixup.OpenSome line q → ')' ∉ fixup.windowTo line q
    · obtain ⟨m, hm, -⟩ := exists_mem_matchesFrom LineFix.neverEmpty_anyForParameter (Reads.refl _)
        (h.spans_of_unclosed (hunclosed p h))
      refine ⟨m, hm, ?_⟩
      rw [start_eq_of_unclosed hunclosed hm, Cursor.skip_start, isTaken_eq_false_iff]
      exact fun ending hending htaken => hblocked ⟨⟨ending, hending, htaken⟩, hunclosed⟩
    · push Not at hunclosed
      obtain ⟨q, hq, hclosed⟩ := hunclosed
      obtain ⟨m, hm, hhead⟩ := hq.exists_match_of_closed hclosed
      obtain ⟨before, hbefore⟩ := List.head?_eq_some_iff.mp hhead
      exact ⟨m, hm, by rw [hbefore]; rfl⟩

/-! ## In a text -/

/-- **A fixup for an override changes one `some` in reach** exactly if it is not blocked. A blocked
one changes nothing and is not counted, although there is a `some` in reach. -/
theorem applyAll_anyForParameter {content : Text} (hfix : fixup.fix = .anyForParameter)
    (hline : content.line? fixup.line = some line) (hreach : ∃ p, fixup.OpenSome line p) :
    ((∃ p, fixup.OpenSome line p ∧
        applyAll content [fixup] =
          (content.setLine fixup.line
            (line.take (p + 1) ++ ("any".toList ++ line.drop (p + 5))), 1)) ↔
      ¬ fixup.IsBlocked line) ∧
      (fixup.IsBlocked line → applyAll content [fixup] = (content, 0)) := by
  -- The line has an open `some`, so whether the fixup fits is up to the guard alone.
  obtain ⟨p, hp⟩ := hreach
  have hfits := hp.fits_iff hfix
  have hnothing : fixup.IsBlocked line → applyAll content [fixup] = (content, 0) := by
    intro hblocked
    rw [applyAll_singleton, hline]
    exact if_neg fun hfit => hfits.mp hfit hblocked
  refine ⟨⟨?_, ?_⟩, hnothing⟩
  · rintro ⟨q, -, happlied⟩ hblocked
    rw [hnothing hblocked] at happlied
    exact absurd (congrArg Prod.snd happlied) Nat.zero_ne_one
  · intro hfree
    obtain ⟨m, htarget⟩ := Option.isSome_iff_exists.mp (hfits.mpr hfree)
    have hmem : m ∈ LineFix.anyForParameter.pattern.matchesFrom
        ((Cursor.start line).skip fixup.windowStart) := by
      rw [target?, hfix, skipped_eq] at htarget
      exact List.mem_of_find?_eq_some htarget
    obtain ⟨q, hq, -, hnew⟩ := exists_openSome hmem
    have honLine : fixup.onLine line = m.textWith 1 "any".toList := by
      rw [onLine, htarget, hfix]
      rfl
    refine ⟨q, hq, ?_⟩
    rw [applyAll_singleton, hline]
    simp only [if_pos (hfits.mpr hfree), honLine, hnew]

/-- A diagnostic about an override at a column of the first line, and the fixup that it asks for. -/
def overrideMessage (column : Text) : Text :=
  "F.swift:1:".toList ++ column ++
    ": error: method does not override any method from its superclass".toList

def overrideFixup (column : Nat) : Fixup := ⟨"F.swift".toList, 1, some column, .anyForParameter⟩

def overrideLine : Text := "override func run(w: some Worker) {}".toList

/-- An override behind a variable with a type of its own. -/
def blockedLine : Text := "let f: any P = p;override func run(w: some Worker) {}".toList

theorem parse_overrideMessage :
    (Diagnostic.parse .empty [overrideMessage "15".toList]).1 = .completed [overrideFixup 15] [] ∧
      (Diagnostic.parse .empty [overrideMessage "32".toList]).1 = .completed [overrideFixup 32] [] := by
  unfold overrideMessage overrideFixup
  -- literals are cheap to evaluate once they are lists of characters
  repeat rewrite [String.toList_ofList]
  decide +kernel

/-- Nothing stands before the window, so the parameter gets its `any`. -/
theorem applyAll_anyForParameter_of_overrideLine :
    (Diagnostic.parse .empty [overrideMessage "15".toList]).1 =
        .completed [overrideFixup 15] [] ∧
      (overrideFixup 15).OpenSome overrideLine 20 ∧
      applyAll (overrideLine ++ ['\n']) [overrideFixup 15] =
        ("override func run(w: any Worker) {}\n".toList, 1) := by
  have hopen : (overrideFixup 15).OpenSome overrideLine 20 := ⟨by decide, by decide, by decide⟩
  have hfree : ¬ (overrideFixup 15).IsBlocked overrideLine := by
    rintro ⟨htaken, -⟩
    exact absurd htaken (by decide)
  have hline : (overrideLine ++ ['\n']).line? 1 = some overrideLine := by decide
  obtain ⟨p, hp, happlied⟩ := (applyAll_anyForParameter rfl hline ⟨20, hopen⟩).1.mpr hfree
  -- there is only one `some` in the line
  obtain ⟨honly, hpatched⟩ :
      (∀ q < overrideLine.length, " some ".toList <+: overrideLine.drop q → q = 20) ∧
        ((overrideLine ++ ['\n']).setLine 1 (overrideLine.take (20 + 1) ++ ("any".toList ++
          overrideLine.drop (20 + 5))), 1) = ("override func run(w: any Worker) {}\n".toList, 1) := by
    unfold overrideLine
    repeat rewrite [String.toList_ofList]
    decide +kernel
  have hlt : p < overrideLine.length := by
    have hlen := hp.occurs.length_le
    rw [List.length_drop] at hlen
    simp at hlen
    omega
  obtain rfl := honly p hlt hp.occurs
  exact ⟨parse_overrideMessage.1, hopen, happlied.trans hpatched⟩

/-- The window begins behind the `any` of the variable, and the parameter keeps its `some`. -/
theorem applyAll_blockedLine :
    (Diagnostic.parse .empty [overrideMessage "32".toList]).1 =
        .completed [overrideFixup 32] [] ∧
      (overrideFixup 32).OpenSome blockedLine 37 ∧
      applyAll (blockedLine ++ ['\n']) [overrideFixup 32] = (blockedLine ++ ['\n'], 0) := by
  refine ⟨parse_overrideMessage.2, ?_⟩
  unfold overrideFixup blockedLine
  repeat rewrite [String.toList_ofList]
  refine ⟨⟨by decide, by decide, by decide⟩, ?_⟩
  rw [applyAll, List.mergeSort_singleton]
  decide +kernel

end Fixup

end SwiftExistential
