import Mathlib.Order.Bounds.Defs
import SwiftExistential.Proofs.Fixup.Dropping
import SwiftExistential.Proofs.Fixup.Reach

/-!
# Uses that are annotated

A diagnostic about a use of a protocol as a type asks for `any` before the protocol. It is written
at the first place of the line, from the window on, where the name stands as a whole word, maybe
behind one qualifier, and no keyword or dot directly before it (`applyAll_addAny`). Matches behind a
keyword or a dot are passed over as a whole; no such place lies inside one of them, since inside a
match words only begin behind dots.

The statement says where the place is by naming a least element: an acceptable place, with no
acceptable place to the left of it. It mentions neither matches nor the order in which they are
found. If there is no such place, or no such line, the text stays as it is and nothing is counted.
-/

set_option autoImplicit false

namespace SwiftExistential

open Pattern Text Unicode
open Cursor (Reads)
open SitePatch (IsName)

variable {name line : Text} {a b : Cursor} {m : Match} {fixup : Fixup}

/-! ## What is looked for

The pattern matches a name between word boundaries, with one qualifier at most in the same match. -/

namespace LineFix

/-- A name, alone or behind one qualifier. -/
def QualifiedOnce (name x : Text) : Prop := x = name ∨ ∃ q, IsName q ∧ x = q ++ '.' :: name

theorem QualifiedOnce.startsWord {x : Text} (hname : IsName name) (h : QualifiedOnce name x) :
    Text.startsWord x = true := by
  rcases h with rfl | ⟨q, hq, rfl⟩
  · exact hname.startsWord
  · rw [startsWord_append_of_ne_nil hq.1, hq.startsWord]

theorem QualifiedOnce.endsWord {x : Text} (hname : IsName name) (h : QualifiedOnce name x) :
    Text.endsWord x = true := by
  rcases h with rfl | ⟨q, -, rfl⟩
  · exact hname.endsWord
  · rw [List.append_cons, endsWord_append_of_ne_nil _ hname.1, hname.endsWord]

theorem QualifiedOnce.isWord_or_eq {x : Text} (hname : IsName name) (h : QualifiedOnce name x) :
    ∀ c ∈ x, isWord c = true ∨ c = '.' := by
  rcases h with rfl | ⟨q, hq, rfl⟩
  · exact fun c hc => .inl (hname.2 c hc)
  · intro c hc
    rcases List.mem_append.mp hc with hc | hc
    · exact .inl (hq.2 c hc)
    · rcases List.mem_cons.mp hc with rfl | hc
      · exact .inr rfl
      · exact .inl (hname.2 c hc)

/-- **Where the name is found**: as a whole word, alone or behind a qualifier. -/
theorem spans_addAny_iff (hname : IsName name) :
    (addAny name).pattern.Spans a b ↔
      ∃ x, QualifiedOnce name x ∧ Reads x a b ∧ endsWord a.before.reverse = false ∧
        startsWord b.after = false := by
  constructor
  · rintro ⟨a', ⟨rfl, hstart⟩, b', ⟨c, hqualifier, hliteral⟩, hb, hstop⟩
    subst hb
    obtain ⟨x, hx, hread⟩ : ∃ x, QualifiedOnce name x ∧ Reads x a' b := by
      have hread := spans_literal_iff.mp hliteral
      rcases hqualifier with hqualifier | rfl
      · obtain ⟨q, hq, hfirst⟩ := Cleanup.spans_qualifier_iff.mp hqualifier
        refine ⟨_, .inr ⟨q, hq, rfl⟩, ?_⟩
        simpa using hfirst.trans hread
      · exact ⟨name, .inl rfl, hread⟩
    exact ⟨x, hx, hread, hread.endsWord_before hstart (hx.startsWord hname),
      hread.startsWord_after hstop (hx.endsWord hname)⟩
  · rintro ⟨x, hx, hread, hbefore, hafter⟩
    refine ⟨a, ⟨rfl, hread.atBoundary_start hbefore (hx.startsWord hname)⟩, b, ?_, rfl,
      hread.atBoundary_stop hafter (hx.endsWord hname)⟩
    rcases hx with rfl | ⟨q, hq, rfl⟩
    · exact ⟨a, .inr rfl, spans_literal_iff.mpr hread⟩
    · rw [List.append_cons] at hread
      obtain ⟨c, hfirst, hrest⟩ := hread.exists_between
      exact ⟨c, .inl (Cleanup.spans_qualifier_iff.mpr ⟨q, hq, hfirst⟩), spans_literal_iff.mpr hrest⟩

theorem neverEmpty_addAny (hname : IsName name) : NeverEmpty (addAny name).pattern := by
  intro m hm
  obtain ⟨x, hx, hread, -⟩ := (spans_addAny_iff hname).mp hm.spans
  exact ⟨x, ne_nil_of_startsWord (hx.startsWord hname), hread⟩

end LineFix

/-! ## Acceptable places -/

namespace Fixup

/-- **A place of a line where `any` may be written** before a name: in the window of the fixup,
where the name is found, and with neither a keyword nor a dot directly before it. -/
structure IsAcceptable (fixup : Fixup) (name line : Text) (i : Nat) : Prop where
  inWindow : fixup.windowStart ≤ i
  occurs : ∃ stop, (LineFix.addAny name).pattern.Spans ((Cursor.start line).skip i) stop
  free : ∀ ending ∈ takenEnds, ¬ ending <:+ line.take i

variable {i : Nat}

/-- **No acceptable place is passed over**: a match begins at it. -/
theorem IsAcceptable.exists_match (hname : IsName name) (h : fixup.IsAcceptable name line i) :
    ∃ m ∈ (LineFix.addAny name).pattern.matchesFrom ((Cursor.start line).skip fixup.windowStart),
      m.start = (Cursor.start line).skip i := by
  obtain ⟨stop, hspans⟩ := h.occurs
  obtain ⟨m, hm, hstart | ⟨y, d, z, hhead, hy, hz⟩⟩ := exists_match_at_or_over
    (LineFix.neverEmpty_addAny hname) (Cursor.reads_skip_skip h.inWindow line) hspans
  · exact ⟨m, hm, hstart⟩
  · -- inside a match the character before is one of a word, or a dot
    exfalso
    have hmatch := (matchesFrom_successive _ _).isMatch m hm
    obtain ⟨x, hx, hread, -⟩ := (LineFix.spans_addAny_iff hname).mp hmatch.spans
    obtain ⟨-, -, -, hbefore, -⟩ := (LineFix.spans_addAny_iff hname).mp hspans
    have hxy : x = y ++ [d] ++ z :=
      List.append_cancel_right (hread.after.symm.trans (hy.trans hz).after)
    have htake : line.take i = m.start.before.reverse ++ (y ++ [d]) := by
      rw [← hy.reverse_before, Cursor.skip_start, List.reverse_reverse]
    rcases hx.isWord_or_eq hname d (by simp [hxy]) with hd | rfl
    · rw [endsWord_reverse, startsWord, hhead, Option.any_some, hd] at hbefore
      cases hbefore
    · refine h.free ".".toList (by decide) ⟨m.start.before.reverse ++ y, ?_⟩
      rw [htake, List.append_assoc]
      rfl

/-- What the fixup takes begins at the first acceptable place. -/
theorem isLeast_of_target? (hfix : fixup.fix = .addAny name) (hname : IsName name)
    (h : fixup.target? line = some m) :
    ∃ i, m.start = (Cursor.start line).skip i ∧ IsLeast {i | fixup.IsAcceptable name line i} i := by
  rw [target?, hfix, skipped_eq] at h
  have hchain := matchesFrom_successive (LineFix.addAny name).pattern
    ((Cursor.start line).skip fixup.windowStart)
  have hmem := List.mem_of_find?_eq_some h
  have hspans := (hchain.isMatch m hmem).spans
  obtain ⟨x, hread⟩ := hchain.exists_reads m hmem
  obtain ⟨w, hw, hstop⟩ := LineFix.neverEmpty_addAny hname m (hchain.isMatch m hmem)
  have hne : m.start.after ≠ [] := by
    rw [hstop.after]
    exact List.append_ne_nil_of_left_ne_nil hw _
  -- The match has a first letter, so it stands at a position of the line.
  obtain ⟨i, hle, hlt, hplace⟩ := hread.exists_eq_skip hne
  refine ⟨i, hplace, ⟨hle, ⟨m.stop, hplace ▸ hspans⟩, ?_⟩, fun j hj => ?_⟩
  · have hfree := List.find?_some h
    rw [Bool.not_eq_true', hplace, Cursor.skip_start] at hfree
    exact isTaken_eq_false_iff.mp hfree
  -- At any other acceptable position there is a match as well, and the target is the first of them.
  · obtain ⟨m', hm', hplace'⟩ := hj.exists_match hname
    have hfree : (!isTaken m'.start.before) = true := by
      rw [hplace', Cursor.skip_start, isTaken_eq_false_iff.mpr hj.free, Bool.not_false]
    have hlen : m'.start.after.length ≤ m.start.after.length := by
      rcases hchain.reads_of_find? h hm' hfree with rfl | ⟨y, hy⟩
      · exact Nat.le_refl _
      · have hstop' := hstop.length_eq
        have hy' := hy.length_eq
        omega
    rw [hplace, hplace', Cursor.skip_start, Cursor.skip_start, List.length_drop,
      List.length_drop] at hlen
    omega

theorem IsAcceptable.fits (hfix : fixup.fix = .addAny name) (hname : IsName name)
    (h : fixup.IsAcceptable name line i) : fixup.fits line = true := by
  obtain ⟨m, hm, hplace⟩ := h.exists_match hname
  rw [Fixup.fits, target?, hfix, skipped_eq, List.find?_isSome]
  refine ⟨m, hm, ?_⟩
  rw [hplace, Cursor.skip_start, isTaken_eq_false_iff.mpr h.free, Bool.not_false]

/-- **`any` is written at the first acceptable place.** -/
theorem onLine_addAny (hfix : fixup.fix = .addAny name) (hname : IsName name)
    (h : fixup.fits line = true) :
    ∃ i, IsLeast {i | fixup.IsAcceptable name line i} i ∧
      fixup.onLine line = line.take i ++ ("any ".toList ++ line.drop i) := by
  obtain ⟨m, htarget⟩ := Option.isSome_iff_exists.mp h
  obtain ⟨i, hplace, hleast⟩ := isLeast_of_target? hfix hname htarget
  have hmatch : IsMatch (LineFix.addAny name).pattern m := by
    have hchain := matchesFrom_successive fixup.fix.pattern
      ((Cursor.start line).skip fixup.skipped)
    rw [← hfix]
    exact hchain.isMatch m (List.mem_of_find?_eq_some htarget)
  obtain ⟨x, hgroup, hread, hnew⟩ := LineFix.reads_of_addAny hmatch
  have hafter : line.drop i = x ++ m.stop.after := by
    rw [← hread.after, hplace, Cursor.skip_start]
  refine ⟨i, hleast, ?_⟩
  rw [onLine, htarget, hfix]
  simp only [Match.textWith, hgroup, hnew, hplace, Cursor.skip_start, List.reverse_reverse, hafter,
    List.append_assoc]

end Fixup

/-! ## What a message asks for

A fixup that comes from a message names a word, since the pattern for the message reads word
characters there. -/

namespace Diagnostic

theorem isName_of_useAsType (h : IsMatch useAsType m) : IsName (m.groupText 1) := by
  obtain ⟨t, ht, hstop, hgroups⟩ := h
  obtain ⟨u, -, ht⟩ := mem_ways_inOrder_cons ht
  obtain ⟨v, -, ht⟩ := mem_ways_inOrder_cons ht
  obtain ⟨w, -, ht⟩ := mem_ways_inOrder_cons ht
  obtain ⟨x, -, ht⟩ := mem_ways_inOrder_cons ht
  obtain ⟨y, hy, ht⟩ := mem_ways_inOrder_cons ht
  obtain ⟨run, hrun, hread, hyGroups⟩ := @mem_ways_group_run _ _ _ .word hy
  have htGroups : t.groups = y.groups := groups_eq_of_mem_ways rfl ht
  rw [groupText_eq (by rw [hgroups, htGroups, hyGroups]; rfl) hread]
  exact hrun

/-- **A message that asks for `any` names a word.** -/
theorem isName_of_addAny {message : Text} {verdict : Verdict}
    (h : understand? message = some verdict) (hfix : verdict.fix = .addAny name) :
    IsName name := by
  rcases understand?_cases h with ⟨m, huse, rfl⟩ |
    ⟨-, ⟨m, -, rfl⟩ | ⟨-, ⟨-, rfl⟩ | ⟨-, rfl⟩ | ⟨m, -, rfl⟩⟩⟩ <;> cases hfix
  exact isName_of_useAsType (find?_eq_some huse).2

end Diagnostic

/-! ## In a text -/

namespace Fixup

/-- **A fixup for a use writes `any` at the first acceptable place** of its line and is counted.
Where there is no such place, or no such line, it changes nothing and is not counted. -/
theorem applyAll_addAny {registry : Registry} {lines unrecognized : List Text}
    {fixups : List Fixup}
    (hparse : (Diagnostic.parse registry lines).1 = .completed fixups unrecognized)
    (hmem : fixup ∈ fixups) (hfix : fixup.fix = .addAny name) (content : Text) :
    (∀ line, content.line? fixup.line = some line →
      (∃ i, fixup.IsAcceptable name line i) →
        ∃ i, IsLeast {i | fixup.IsAcceptable name line i} i ∧
          applyAll content [fixup] =
            (content.setLine fixup.line (line.take i ++ ("any ".toList ++ line.drop i)), 1)) ∧
      ((∀ line, content.line? fixup.line = some line →
        ∀ i, ¬ fixup.IsAcceptable name line i) → applyAll content [fixup] = (content, 0)) := by
  -- What the parser read is a name, so the pattern of the fixup matches no empty text.
  obtain ⟨message, verdict, hunderstood, hverdict⟩ := Diagnostic.exists_understand? hparse hmem
  have hname := Diagnostic.isName_of_addAny hunderstood (hverdict.trans hfix)
  rw [applyAll_singleton]
  constructor
  · rintro line hline ⟨i, hi⟩
    have hfits := hi.fits hfix hname
    obtain ⟨j, hleast, hnew⟩ := onLine_addAny hfix hname hfits
    refine ⟨j, hleast, ?_⟩
    rw [hline]
    simp only [if_pos hfits, hnew]
  · intro hnone
    cases hline : content.line? fixup.line with
    | none => rfl
    | some line =>
        have hfits : ¬ fixup.fits line = true := fun hfits => by
          obtain ⟨j, hleast, -⟩ := onLine_addAny hfix hname hfits
          exact hnone line hline j hleast.1
        simp only [if_neg hfits]

/-- A diagnostic about a use, and the fixup that it asks for. -/
def useLine : Text := "F.swift:1:30: error: use of protocol 'Worker' as a type".toList

def useFixup : Fixup := ⟨"F.swift".toList, 1, some 30, .addAny "Worker".toList⟩

/-- A line with two uses in the window, the first of which has its keyword. -/
def twoUses : Text := "func f(a: any App.Worker, b: App.Worker) {}".toList

/-- The use that has its keyword is passed over together with its qualifier. -/
theorem applyAll_addAny_of_twoUses :
    (Diagnostic.parse .empty [useLine]).1 = .completed [useFixup] [] ∧
      IsLeast {i | useFixup.IsAcceptable "Worker".toList twoUses i} 29 ∧
      applyAll (twoUses ++ ['\n']) [useFixup] =
        ("func f(a: any App.Worker, b: any App.Worker) {}\n".toList, 1) := by
  have hparse : (Diagnostic.parse .empty [useLine]).1 = .completed [useFixup] [] := by
    unfold useLine useFixup
    repeat rewrite [String.toList_ofList]
    decide +kernel
  have hpatched : applyAll (twoUses ++ ['\n']) [useFixup] =
      ("func f(a: any App.Worker, b: any App.Worker) {}\n".toList, 1) := by
    rw [applyAll, List.mergeSort_singleton]
    unfold twoUses useFixup
    repeat rewrite [String.toList_ofList]
    decide +kernel
  have hacceptable : useFixup.IsAcceptable "Worker".toList twoUses 29 := by
    have hmatches : ((LineFix.addAny "Worker".toList).pattern.matchAt?
        ((Cursor.start twoUses).skip 29)).isSome = true := by
      unfold twoUses
      repeat rewrite [String.toList_ofList]
      decide +kernel
    obtain ⟨m, hm⟩ := Option.isSome_iff_exists.mp hmatches
    obtain ⟨hstart, hmatch⟩ := matchAt?_eq_some hm
    exact ⟨by decide, ⟨m.stop, hstart ▸ hmatch.spans⟩, by decide⟩
  obtain ⟨i, hleast, happlied⟩ := (applyAll_addAny hparse (List.mem_singleton_self _) rfl
    (twoUses ++ ['\n'])).1 twoUses (by decide) ⟨29, hacceptable⟩
  -- no earlier place gives this text
  have hearlier : ∀ j < 29, (twoUses ++ ['\n']).setLine 1
      (twoUses.take j ++ ("any ".toList ++ twoUses.drop j)) ≠
        "func f(a: any App.Worker, b: any App.Worker) {}\n".toList := by
    unfold twoUses
    repeat rewrite [String.toList_ofList]
    decide +kernel
  have hi : i = 29 := by
    refine Nat.le_antisymm (hleast.2 hacceptable) (Nat.le_of_not_lt fun hlt => ?_)
    rw [hpatched, Prod.mk.injEq] at happlied
    exact hearlier i hlt happlied.1.symm
  exact ⟨hparse, hi ▸ hleast, hpatched⟩

end Fixup

end SwiftExistential
