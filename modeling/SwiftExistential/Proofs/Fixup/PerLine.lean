import SwiftExistential.Fixup
import SwiftExistential.Proofs.Edit.Undo
import SwiftExistential.Proofs.Pattern.Matches
import SwiftExistential.Proofs.Text.Insertion
import SwiftExistential.Proofs.Text.Sorted
import SwiftExistential.Proofs.Text.Tokens

/-!
# Fixups line by line

A fixup changes group 1 of the first acceptable match on its line. Every match has that group
(`exists_place`), the new text differs from the old one, and it holds no character that was neither
there nor in the keyword.

Fixups are applied to a whole text, later lines first, by edits at byte offsets. The outcome is that
of a look at each line alone: a line becomes what the fixups with its number make of it, one after
the other, and no other fixup touches it (`applyAll_perLine`). So the order among different lines,
the byte offsets and the checks of an edit can be forgotten: every edit that is made is in range,
cuts no character, and finds what it expects.
-/

set_option autoImplicit false

namespace SwiftExistential

open Pattern Text
open Cursor (Reads)

/-! ## The part of a match that is replaced

One lemma for each kind of fix. They differ in where group 1 stands in the pattern. -/

namespace LineFix

/-- **What a match of a fix is replaced in**: group 1, which reads `old`, lies in the match, and the
new text is another one made of the characters of `old` and of the keyword. -/
structure Place (fix : LineFix) (m : Match) (g : Group) (old : Text) : Prop where
  group : m.group? 1 = some g
  start : ∃ x, Reads x m.start g.start
  reads : Reads old g.start g.stop
  new_ne : fix.replacement m ≠ old
  mem_new : ∀ c ∈ fix.replacement m, c ∈ old ∨ c ∈ "any ".toList

/-- A match of a name is its own group 1, and `any` is written before it. -/
theorem reads_of_addAny {name : Text} {m : Match} (h : IsMatch (addAny name).pattern m) :
    ∃ x, m.group? 1 = some ⟨1, m.start, m.stop⟩ ∧ Reads x m.start m.stop ∧
      (addAny name).replacement m = "any ".toList ++ x := by
  obtain ⟨t, ht, hstop, hgroups⟩ := h
  obtain ⟨u, hu, ht⟩ := mem_ways_inOrder_cons ht
  obtain ⟨rfl, -⟩ := mem_ways_boundary hu
  obtain ⟨v, hv, ht⟩ := mem_ways_inOrder_cons ht
  obtain ⟨rfl, -⟩ := mem_ways_boundary ht
  have hsingle : (seq (optional (cluster (seq wordRun (char '.')))) (literal name)).hasGroup =
      false := by
    simp [hasGroup, wordRun, hasGroup_literal]
  obtain ⟨x, hread, htgroups⟩ := reads_of_mem_ways_single hsingle hv
  have hread : Reads x m.start m.stop := by
    rw [hstop]
    exact hread
  have hfind : m.groups.find? (·.index == 1) = some ⟨1, m.start, m.stop⟩ := by
    rw [hgroups, htgroups, hstop]
    rfl
  exact ⟨x, hfind, hread, by rw [replacement_addAny, groupText_eq hfind hread]⟩

theorem exists_place_addAny {name : Text} {m : Match} (h : IsMatch (addAny name).pattern m) :
    ∃ g old, Place (addAny name) m g old := by
  obtain ⟨old, hfind, hread, hnew⟩ := reads_of_addAny h
  refine ⟨_, old, hfind, ⟨[], Reads.refl _⟩, hread, ?_, ?_⟩
  · intro heq
    have hlen := congrArg List.length (hnew.symm.trans heq)
    simp at hlen
    omega
  · intro c hc
    rw [hnew] at hc
    exact (List.mem_append.mp hc).symm

theorem exists_place_dropAny {name : Text} {m : Match} (h : IsMatch (dropAny name).pattern m) :
    ∃ g old, Place (dropAny name) m g old := by
  obtain ⟨t, ht, hstop, hgroups⟩ := h
  obtain ⟨t', ht', htcursor, htgroups⟩ := mem_ways_group ht
  obtain ⟨u, hu, ht'⟩ := mem_ways_seq ht'
  obtain ⟨hkeyword, -⟩ : Reads "any ".toList m.start u.cursor ∧ _ := mem_ways_literal hu
  have hsingle : (seq SitePatch.qualifiers (literal name)).hasGroup = false := by
    simp [hasGroup, SitePatch.qualifiers, wordRun, hasGroup_literal]
  obtain ⟨type, htype, ht'groups⟩ := reads_of_mem_ways_single hsingle ht'
  -- The first group is the whole match and the second is its type.
  have hone : m.groups.find? (·.index == 1) = some ⟨1, m.start, t'.cursor⟩ := by
    rw [hgroups, htgroups]
    rfl
  have htwo : m.groups.find? (·.index == 2) = some ⟨2, u.cursor, t'.cursor⟩ := by
    rw [hgroups, htgroups, ht'groups]
    rfl
  have hnew : (dropAny name).replacement m = type := by
    rw [replacement_dropAny, groupText_eq htwo htype]
  refine ⟨_, "any ".toList ++ type, hone, ⟨[], Reads.refl _⟩, hkeyword.trans htype, ?_, ?_⟩
  · intro heq
    have hlen := congrArg List.length (hnew.symm.trans heq)
    simp at hlen
    omega
  · intro c hc
    rw [hnew] at hc
    exact .inl (List.mem_append_right _ hc)

theorem reads_of_anyForParameter {m : Match} (h : IsMatch anyForParameter.pattern m) :
    ∃ x a g, x ≠ [] ∧ ')' ∉ x ∧ m.group? 1 = some g ∧ Reads x m.start a ∧ Reads [' '] a g.start ∧
      Reads "some".toList g.start g.stop ∧ Reads [' '] g.stop m.stop := by
  obtain ⟨t, ht, hstop, hgroups⟩ := h
  obtain ⟨u, hu, ht⟩ := mem_ways_inOrder_cons ht
  obtain ⟨d, x, hd, hx, hrun, -⟩ := mem_ways_plus_one hu
  obtain ⟨v, hv, ht⟩ := mem_ways_inOrder_cons ht
  obtain ⟨hspace, hvgroups⟩ := mem_ways_char hv
  obtain ⟨w, hw, ht⟩ := mem_ways_inOrder_cons ht
  obtain ⟨w', hw', hwcursor, hwgroups⟩ := mem_ways_group hw
  obtain ⟨hsome, -⟩ := mem_ways_literal hw'
  obtain ⟨hlast, htgroups⟩ := mem_ways_char ht
  have hfind : m.group? 1 = some ⟨1, v.cursor, w'.cursor⟩ := by
    rw [Match.group?, hgroups, htgroups, hwgroups]
    rfl
  have hclosing : ')' ∉ d :: x := by
    intro hmem
    rcases List.mem_cons.mp hmem with rfl | hmem
    · exact absurd hd (by decide)
    · exact absurd (hx _ hmem) (by decide)
  rw [hwcursor, ← hstop] at hlast
  exact ⟨d :: x, _, _, List.cons_ne_nil _ _, hclosing, hfind, hrun, hspace, hsome, hlast⟩

theorem exists_place_anyForParameter {m : Match} (h : IsMatch anyForParameter.pattern m) :
    ∃ g old, Place anyForParameter m g old := by
  obtain ⟨x, a, g, -, -, hgroup, hrun, hspace, hsome, -⟩ := reads_of_anyForParameter h
  exact ⟨g, _, hgroup, ⟨_, hrun.trans hspace⟩, hsome, by rw [replacement_anyForParameter]; decide,
    fun c hc => .inr (by revert hc c; rw [replacement_anyForParameter]; decide)⟩

theorem exists_place_anyForReturn {m : Match} (h : IsMatch anyForReturn.pattern m) :
    ∃ g old, Place anyForReturn m g old := by
  obtain ⟨t, ht, hstop, hgroups⟩ := h
  obtain ⟨u, hu, ht⟩ := mem_ways_inOrder_cons ht
  obtain ⟨harrow, -⟩ := mem_ways_literal hu
  obtain ⟨w, hw, ht⟩ := mem_ways_inOrder_cons ht
  obtain ⟨w', hw', hwcursor, hwgroups⟩ := mem_ways_group hw
  obtain ⟨hsome, -⟩ := mem_ways_literal hw'
  obtain ⟨-, htgroups⟩ := mem_ways_char ht
  have hfind : m.groups.find? (·.index == 1) = some ⟨1, u.cursor, w'.cursor⟩ := by
    rw [hgroups, htgroups, hwgroups]
    rfl
  exact ⟨_, _, hfind, ⟨_, harrow⟩, hsome, by rw [replacement_anyForReturn]; decide,
    fun c hc => .inr (by revert hc c; rw [replacement_anyForReturn]; decide)⟩

theorem exists_place_dropSome {type : Text} {m : Match} (h : IsMatch (dropSome type).pattern m) :
    ∃ g old, Place (dropSome type) m g old := by
  obtain ⟨t, ht, hstop, hgroups⟩ := h
  obtain ⟨u, hu, ht⟩ := mem_ways_seq ht
  obtain ⟨u', hu', hucursor, hugroups⟩ := mem_ways_group hu
  obtain ⟨hsome, -⟩ := mem_ways_literal hu'
  obtain ⟨-, htgroups⟩ := mem_ways_literal ht
  have hfind : m.groups.find? (·.index == 1) = some ⟨1, m.start, u'.cursor⟩ := by
    rw [hgroups, htgroups, hugroups]
    rfl
  exact ⟨_, _, hfind, ⟨[], Reads.refl _⟩, hsome, by rw [replacement_dropSome]; decide,
    fun c hc => by simp [replacement_dropSome] at hc⟩

/-- **Every match has a place for the new text.** -/
theorem exists_place {fix : LineFix} {m : Match} (h : IsMatch fix.pattern m) :
    ∃ g old, fix.Place m g old := by
  cases fix with
  | addAny name => exact exists_place_addAny h
  | dropAny name => exact exists_place_dropAny h
  | anyForParameter => exact exists_place_anyForParameter h
  | anyForReturn => exact exists_place_anyForReturn h
  | dropSome type => exact exists_place_dropSome h

end LineFix

/-- The text around a match with the text of a group replaced. -/
def Match.textWith (m : Match) (index : Nat) (new : Text) : Text :=
  match m.group? index with
  | none => m.start.text
  | some g => g.start.before.reverse ++ new ++ g.stop.after

namespace Fixup

/-! ## One line -/

/-- Whether a line has an acceptable match. -/
def fits (fixup : Fixup) (line : Text) : Bool := (fixup.target? line).isSome

/-- **A line after one fixup**: the first acceptable match has its group 1 replaced. -/
def onLine (fixup : Fixup) (line : Text) : Text :=
  match fixup.target? line with
  | none => line
  | some m => m.textWith 1 (fixup.fix.replacement m)

/-- A line after several fixups, each of which finds the line as the one before left it, and how
many of them found an acceptable match. -/
def settle : List Fixup → Text → Text × Nat
  | [], line => (line, 0)
  | fixup :: rest, line =>
      let (line', count) := settle rest (fixup.onLine line)
      (line', (if fixup.fits line then 1 else 0) + count)

/-- **Each line of a text after the fixups with its number**, in the order of the list. Lines are
counted from one. -/
def perLine (t : Text) (fixups : List Fixup) : List (Text × Nat) :=
  (lines t).mapIdx fun i line => settle (fixups.filter (·.line == i + 1)) line

/-- What an acceptable match says about its line. -/
theorem exists_place_of_target? {fixup : Fixup} {line : Text} {m : Match}
    (h : fixup.target? line = some m) :
    ∃ g old, fixup.fix.Place m g old ∧ line = g.start.before.reverse ++ old ++ g.stop.after := by
  have hmem := List.mem_of_find?_eq_some h
  have hchain := matchesFrom_successive fixup.fix.pattern
    ((Cursor.start line).skip fixup.skipped)
  obtain ⟨x, hx⟩ := hchain.exists_reads m hmem
  obtain ⟨w, hw⟩ := Reads.skip fixup.skipped (Cursor.start line)
  obtain ⟨g, old, hplace⟩ := LineFix.exists_place (hchain.isMatch m hmem)
  obtain ⟨y, hy⟩ := hplace.start
  have hread : Reads (w ++ x ++ y ++ old) (Cursor.start line) g.stop :=
    ((hw.trans hx).trans hy).trans hplace.reads
  have hbefore : g.start.before.reverse = w ++ x ++ y := ((hw.trans hx).trans hy).reverse_before
  refine ⟨g, old, hplace, ?_⟩
  calc line
      = w ++ x ++ y ++ old ++ g.stop.after := hread.after
    _ = g.start.before.reverse ++ old ++ g.stop.after := by rw [hbefore]

theorem not_mem_onLine (fixup : Fixup) {line : Text} (h : '\n' ∉ line) :
    '\n' ∉ fixup.onLine line := by
  rw [onLine]
  split
  · exact h
  · rename_i m htarget
    obtain ⟨g, old, hplace, hline⟩ := exists_place_of_target? htarget
    rw [Match.textWith, hplace.group]
    rw [hline] at h
    intro hmem
    simp only [List.mem_append, not_or] at h hmem
    rcases hmem with (hmem | hmem) | hmem
    · exact h.1.1 hmem
    · rcases hplace.mem_new _ hmem with hold | hkeyword
      · exact h.1.2 hold
      · revert hkeyword
        decide
    · exact h.2 hmem

/-! ## One fixup of a text

A line is cut out by its number, and the edit is moved by the bytes before it. -/

/-- The cut before a line: it stands before as many lines as were counted, and changes of the text
behind it leave these alone. -/
theorem splitLine?_eq_some {n : Nat} {t before rest : Text}
    (h : splitLine? n t = some (before, rest)) :
    t = before ++ rest ∧
      ∃ earlier : List Text, earlier.length + 1 = n ∧
        ∀ s, lines (before ++ s) = earlier ++ lines s := by
  -- Along the recursion, which takes one line off in each step.
  induction n, t using splitLine?.induct generalizing before rest with
  | case1 t => cases h
  | case2 t =>
      cases h
      exact ⟨rfl, [], rfl, fun s => rfl⟩
  | case3 n t hdrop =>
      rw [splitLine?, hdrop] at h
      cases h
  | case4 n t lineEnd later hdrop ih =>
      rw [splitLine?, hdrop] at h
      obtain ⟨⟨b, r⟩, hsplit, heq⟩ := Option.map_eq_some_iff.mp h
      simp only [Prod.mk.injEq] at heq
      obtain ⟨rfl, rfl⟩ := heq
      obtain ⟨hlater, earlier, hlen, hlines⟩ := ih hsplit
      obtain rfl : lineEnd = '\n' := by
        rcases dropWhile_line_eq t with hnil | ⟨s, hcons⟩
        · rw [hdrop] at hnil
          cases hnil
        · rw [hdrop] at hcons
          exact (List.cons.inj hcons).1
      refine ⟨?_, t.takeWhile (· != '\n') :: earlier, by simp [← hlen], fun s => ?_⟩
      · calc t
            = t.takeWhile (· != '\n') ++ t.dropWhile (· != '\n') := by
              rw [List.takeWhile_append_dropWhile]
          _ = t.takeWhile (· != '\n') ++ '\n' :: b ++ r := by
              rw [hdrop, hlater, List.append_assoc, List.cons_append]
      · rw [List.append_assoc, List.cons_append,
          lines_append_newline (not_mem_takeWhile_line t), hlines, List.cons_append]

theorem splitLine?_eq_none_iff {n : Nat} {t : Text} :
    splitLine? n t = none ↔ n = 0 ∨ (lines t).length < n := by
  induction n, t using splitLine?.induct with
  | case1 t => simp [splitLine?]
  | case2 t =>
      have hpos := length_lines_pos t
      simp only [splitLine?, reduceCtorEq, false_iff, not_or]
      exact ⟨not_false, by omega⟩
  | case3 n t hdrop =>
      -- the text is a single line
      have hmem : '\n' ∉ t := by
        rw [← List.takeWhile_append_dropWhile (p := (· != '\n')) (l := t), hdrop, List.append_nil]
        exact not_mem_takeWhile_line t
      rw [splitLine?, hdrop, lines_of_not_mem hmem]
      simp
  | case4 n t lineEnd later hdrop ih =>
      obtain rfl : lineEnd = '\n' := by
        rcases dropWhile_line_eq t with hnil | ⟨s, hcons⟩
        · rw [hdrop] at hnil
          cases hnil
        · rw [hdrop] at hcons
          exact (List.cons.inj hcons).1
      have hlines : lines t = t.takeWhile (· != '\n') :: lines later := by
        conv_lhs => rw [← List.takeWhile_append_dropWhile (p := (· != '\n')) (l := t), hdrop]
        exact lines_append_newline (not_mem_takeWhile_line t) later
      rw [splitLine?, hdrop, Option.map_eq_none_iff, ih, hlines, List.length_cons]
      omega

/-- The edit of a fixup replaces the span of its place, verified by the text that is there. -/
theorem edit?_eq {fixup : Fixup} {line : Text} {lineStart : Nat} {edit : Edit}
    (h : fixup.edit? lineStart line = some edit) :
    ∃ m g old, fixup.target? line = some m ∧ fixup.fix.Place m g old ∧
      line = g.start.before.reverse ++ old ++ g.stop.after ∧
      edit = .ofTexts (lineStart + byteLength g.start.before.reverse)
        (lineStart + byteLength g.start.before.reverse + byteLength old)
        (fixup.fix.replacement m) old := by
  rw [edit?, Option.bind_eq_some_iff] at h
  obtain ⟨m, htarget, h⟩ := h
  obtain ⟨g, old, hplace, hline⟩ := exists_place_of_target? htarget
  rw [hplace.group, Option.map_some, Option.some.injEq, hplace.reads.textTo_eq] at h
  refine ⟨m, g, old, htarget, hplace, hline, ?_⟩
  rw [← h, byteLength_reverse]

/-- **Every edit of a fixup is accepted and changes the text.** -/
theorem apply_edit? {fixup : Fixup} {before rest : Text} {edit : Edit}
    (h : fixup.edit? before.byteLength (rest.takeWhile (· != '\n')) = some edit) :
    edit.apply (before ++ rest) =
        .ok (.applied edit.replacement.byteLength,
          before ++ fixup.onLine (rest.takeWhile (· != '\n')) ++ rest.dropWhile (· != '\n')) ∧
      fixup.onLine (rest.takeWhile (· != '\n')) ≠ rest.takeWhile (· != '\n') := by
  obtain ⟨m, g, old, htarget, hplace, hline, rfl⟩ := edit?_eq h
  have honLine : fixup.onLine (rest.takeWhile (· != '\n')) =
      g.start.before.reverse ++ fixup.fix.replacement m ++ g.stop.after := by
    rw [onLine, htarget]
    simp only [Match.textWith, hplace.group]
  have htext : before ++ rest = before ++ g.start.before.reverse ++
      (old ++ (g.stop.after ++ rest.dropWhile (· != '\n'))) := by
    conv_lhs => rw [← List.takeWhile_append_dropWhile (p := (· != '\n')) (l := rest), hline]
    simp only [List.append_assoc]
  -- The edit's range is the group's place, counted from the start of the text.
  have hcuts : Edit.Cuts (.ofTexts (byteLength before + byteLength g.start.before.reverse)
      (byteLength before + byteLength g.start.before.reverse + byteLength old)
      (fixup.fix.replacement m) old) (before ++ rest)
      ⟨before ++ g.start.before.reverse, old, g.stop.after ++ rest.dropWhile (· != '\n')⟩ := by
    refine ⟨htext, byteLength_append _ _, ?_⟩
    rw [byteLength_append, byteLength_append]
    rfl
  constructor
  · rw [Edit.apply_of_cuts hcuts, honLine]
    simp only [Edit.ofTexts, if_neg hplace.new_ne.symm, Verification.accepts_ofText, if_true,
      List.append_assoc]
  · rw [honLine]
    intro heq
    rw [hline, List.append_assoc, List.append_assoc, List.append_cancel_left_eq,
      List.append_cancel_right_eq] at heq
    exact hplace.new_ne heq

/-- **One fixup changes its own line** and leaves all other lines alone. -/
theorem apply_eq {fixup : Fixup} {t before rest : Text}
    (h : splitLine? fixup.line t = some (before, rest)) :
    fixup.apply t =
      (before ++ fixup.onLine (rest.takeWhile (· != '\n')) ++ rest.dropWhile (· != '\n'),
        fixup.fits (rest.takeWhile (· != '\n'))) := by
  obtain ⟨rfl, -⟩ := splitLine?_eq_some h
  simp only [apply, h]
  cases hedit : fixup.edit? before.byteLength (rest.takeWhile (· != '\n')) with
  | none =>
      have htarget : fixup.target? (rest.takeWhile (· != '\n')) = none := by
        cases htarget : fixup.target? (rest.takeWhile (· != '\n')) with
        | none => rfl
        | some m =>
            obtain ⟨g, old, hplace, -⟩ := exists_place_of_target? htarget
            rw [edit?, htarget, Option.bind_some, hplace.group] at hedit
            cases hedit
      simp only [onLine, fits, htarget, Option.isSome_none, List.append_assoc,
        List.takeWhile_append_dropWhile]
  | some edit =>
      obtain ⟨m, g, old, htarget, -⟩ := edit?_eq hedit
      simp only [(apply_edit? hedit).1, fits, htarget, Option.isSome_some]

/-- **A fixup of a line that is not there changes nothing.** -/
theorem apply_of_no_line {fixup : Fixup} {t : Text}
    (h : fixup.line = 0 ∨ (lines t).length < fixup.line) : fixup.apply t = (t, false) := by
  rw [apply, splitLine?_eq_none_iff.mpr h]

/-! ## Many fixups

A fixup never changes the number of lines, so the numbers of all other fixups still mean the same
lines. -/

theorem exists_lines_apply (fixup : Fixup) (t : Text) :
    ((∀ i < (lines t).length, fixup.line ≠ i + 1) ∧ fixup.apply t = (t, false)) ∨
      ∃ earlier line later, lines t = earlier ++ line :: later ∧
        fixup.line = earlier.length + 1 ∧
        lines (fixup.apply t).1 = earlier ++ fixup.onLine line :: later ∧
        (fixup.apply t).2 = fixup.fits line := by
  cases hsplit : splitLine? fixup.line t with
  | none =>
      have hline := splitLine?_eq_none_iff.mp hsplit
      exact .inl ⟨fun i hi => by omega, apply_of_no_line hline⟩
  | some parts =>
      obtain ⟨before, rest⟩ := parts
      obtain ⟨ht, earlier, hlen, hlines⟩ := splitLine?_eq_some hsplit
      obtain ⟨later, hlater⟩ := exists_lines_eq rest
      have hfirst := hlater _ (not_mem_takeWhile_line rest)
      have hnew := hlater _ (fixup.not_mem_onLine (not_mem_takeWhile_line rest))
      rw [List.takeWhile_append_dropWhile] at hfirst
      refine .inr ⟨earlier, rest.takeWhile (· != '\n'), later, ?_, hlen.symm, ?_, ?_⟩
      · rw [ht, hlines, hfirst]
      · rw [apply_eq hsplit, List.append_assoc, hlines, hnew]
      · rw [apply_eq hsplit]

theorem perLine_nil (t : Text) : perLine t [] = (lines t).map fun line => (line, 0) := by
  rw [perLine, List.mapIdx_eq_iff]
  intro i
  rw [List.getElem?_map]
  rfl

/-- Fixups of other lines do not matter for a line. -/
theorem filter_cons_of_ne {fixup : Fixup} {n : Nat} (h : fixup.line ≠ n) (rest : List Fixup) :
    (fixup :: rest).filter (·.line == n) = rest.filter (·.line == n) :=
  List.filter_cons_of_neg (by simpa using h)

/-- A fixup in front changes what the others find on its line. -/
theorem perLine_cons {fixup : Fixup} {t t' line : Text} {earlier later : List Text}
    (ht : lines t = earlier ++ line :: later) (hline : fixup.line = earlier.length + 1)
    (ht' : lines t' = earlier ++ fixup.onLine line :: later) (rest : List Fixup) :
    (perLine t (fixup :: rest)).map Prod.fst = (perLine t' rest).map Prod.fst ∧
      ((perLine t (fixup :: rest)).map Prod.snd).sum =
        (if fixup.fits line then 1 else 0) + ((perLine t' rest).map Prod.snd).sum := by
  have hearlier : earlier.mapIdx (fun i line =>
        settle ((fixup :: rest).filter (·.line == i + 1)) line) =
      earlier.mapIdx fun i line => settle (rest.filter (·.line == i + 1)) line := by
    rw [List.mapIdx_eq_mapIdx_iff]
    intro i hi
    rw [filter_cons_of_ne (by omega)]
  have hlater : later.mapIdx (fun i line =>
        settle ((fixup :: rest).filter (·.line == i + 1 + earlier.length + 1)) line) =
      later.mapIdx fun i line => settle (rest.filter (·.line == i + 1 + earlier.length + 1)) line := by
    rw [List.mapIdx_eq_mapIdx_iff]
    intro i hi
    rw [filter_cons_of_ne (by omega)]
  have hhere : (fixup :: rest).filter (·.line == 0 + earlier.length + 1) =
      fixup :: rest.filter (·.line == 0 + earlier.length + 1) :=
    List.filter_cons_of_pos (by simp [hline])
  simp only [perLine, ht, ht', List.mapIdx_append, List.mapIdx_cons, hearlier, hlater, hhere,
    settle, List.map_append, List.map_cons, List.sum_append, List.sum_cons, true_and]
  omega

/-- Fixups one after the other, in any order, come to the same as a look at each line. -/
theorem foldl_apply_perLine (fixups : List Fixup) (t : Text) (n : Nat) :
    let out := fixups.foldl (fun (text, count) fixup =>
      let (text', changed) := fixup.apply text
      (text', if changed then count + 1 else count)) (t, n)
    lines out.1 = (perLine t fixups).map Prod.fst ∧
      out.2 = n + ((perLine t fixups).map Prod.snd).sum := by
  induction fixups generalizing t n with
  | nil => simp [perLine_nil, Function.comp_def]
  | cons fixup rest ih =>
      simp only [List.foldl_cons]
      rcases fixup.exists_lines_apply t with
        ⟨hother, happly⟩ | ⟨earlier, line, later, ht, hline, ht', hfits⟩
      · have hsame : perLine t (fixup :: rest) = perLine t rest := by
          rw [perLine, perLine, List.mapIdx_eq_mapIdx_iff]
          intro i hi
          rw [filter_cons_of_ne (hother i hi)]
        simpa only [happly, hsame, Bool.false_eq_true, if_false] using ih t n
      · obtain ⟨hlines, hcount⟩ := perLine_cons ht hline ht' rest
        obtain ⟨hout, htotal⟩ := ih (fixup.apply t).1 (if (fixup.apply t).2 then n + 1 else n)
        rw [hlines, hcount]
        refine ⟨hout, htotal.trans ?_⟩
        rw [hfits]
        split <;> omega

/-- Sorting by lines does not change the order of the fixups of one line. -/
theorem perLine_mergeSort (t : Text) (fixups : List Fixup) :
    perLine t (fixups.mergeSort fun a b => decide (b.line ≤ a.line)) = perLine t fixups := by
  rw [perLine, perLine, List.mapIdx_eq_mapIdx_iff]
  intro i _
  have hfilter : (fixups.mergeSort fun a b => decide (b.line ≤ a.line)).filter
      (·.line == i + 1) = fixups.filter (·.line == i + 1) :=
    filter_mergeSort_of_key Fixup.line fun fixup h => eq_of_beq h
  rw [hfilter]

/-- **Fixups work line by line.** A text keeps its number of lines; each line becomes what the
fixups with its number make of it, in the order of the list, and the count is that of the fixups
that found an acceptable match. A fixup of a line that is not there changes nothing; every edit of a
fixup is accepted and changes the text; and fixups of different lines can be given in any order. -/
theorem applyAll_perLine (t : Text) (fixups : List Fixup) :
    (lines (applyAll t fixups).1).length = (lines t).length ∧
      lines (applyAll t fixups).1 = (perLine t fixups).map Prod.fst ∧
      (applyAll t fixups).2 = ((perLine t fixups).map Prod.snd).sum ∧
      (∀ (fixup : Fixup) (s : Text), fixup.line = 0 ∨ (lines s).length < fixup.line →
        fixup.apply s = (s, false)) ∧
      (∀ (fixup : Fixup) (s before rest : Text) (edit : Edit), splitLine? fixup.line s =
          some (before, rest) →
        fixup.edit? before.byteLength (rest.takeWhile (· != '\n')) = some edit →
          ∃ bytes s', edit.apply s = .ok (.applied bytes, s') ∧ s' ≠ s) ∧
      ∀ fixups' : List Fixup,
        (∀ n, fixups'.filter (·.line == n) = fixups.filter (·.line == n)) →
          applyAll t fixups' = applyAll t fixups := by
  -- The fold goes through the fixups from the last line up. Line by line this order is the given
  -- one, because sorting is stable.
  have hall : ∀ fixups : List Fixup,
      lines (applyAll t fixups).1 = (perLine t fixups).map Prod.fst ∧
        (applyAll t fixups).2 = ((perLine t fixups).map Prod.snd).sum := by
    intro fixups
    have hfold := foldl_apply_perLine (fixups.mergeSort fun a b => decide (b.line ≤ a.line)) t 0
    rwa [perLine_mergeSort, Nat.zero_add] at hfold
  obtain ⟨hlines, hcount⟩ := hall fixups
  refine ⟨?_, hlines, hcount, fun fixup s => apply_of_no_line, ?_, ?_⟩
  · rw [hlines, List.length_map, perLine, List.length_mapIdx]
  · intro fixup s before rest edit hsplit hedit
    obtain ⟨rfl, -⟩ := splitLine?_eq_some hsplit
    obtain ⟨happly, hne⟩ := apply_edit? hedit
    refine ⟨_, _, happly, fun heq => hne ?_⟩
    -- An edit that did not change the text would have put what stood there.
    have hcut : before ++ rest = before ++ rest.takeWhile (· != '\n') ++
        rest.dropWhile (· != '\n') := by
      rw [List.append_assoc, List.takeWhile_append_dropWhile]
    rw [hcut] at heq
    exact List.append_cancel_left (List.append_cancel_right heq)
  · intro fixups' hsame
    obtain ⟨hlines', hcount'⟩ := hall fixups'
    -- What becomes of a line depends on the fixups of that line only.
    have hper : perLine t fixups' = perLine t fixups := by
      rw [perLine, perLine, List.mapIdx_eq_mapIdx_iff]
      intro i _
      rw [hsame]
    have htext : lines (applyAll t fixups').1 = lines (applyAll t fixups).1 := by
      rw [hlines', hper, hlines]
    refine Prod.ext ?_ (by rw [hcount', hper, hcount])
    calc (applyAll t fixups').1
        = join ['\n'] (lines (applyAll t fixups').1) := (join_splitOn '\n' _).symm
      _ = (applyAll t fixups).1 := by rw [htext, lines, join_splitOn]

/-- Three lines, two of which are diagnosed, one of them twice. -/
def diagnosedLines : Text := "let a: some T\nlet b: any Int\nfunc f(x: P, y: P)".toList

/-- What the diagnostics ask for, and a change of a line that is not there. -/
def diagnosedFixups : List Fixup :=
  [⟨"A.swift".toList, 3, none, .addAny "P".toList⟩, ⟨"A.swift".toList, 2, some 8, .dropAny "Int".toList⟩,
    ⟨"A.swift".toList, 3, none, .addAny "P".toList⟩, ⟨"A.swift".toList, 9, none, .anyForReturn⟩,
    ⟨"A.swift".toList, 3, none, .addAny "P".toList⟩]

/-- The second fixup of a line finds the next use, and the third finds none. The fixup of the line
between can be given first. -/
theorem applyAll_perLine_of_diagnosedLines :
    applyAll diagnosedLines diagnosedFixups =
        ("let a: some T\nlet b: Int\nfunc f(x: any P, y: any P)".toList, 3) ∧
      applyAll diagnosedLines
          ((diagnosedFixups.drop 1).take 1 ++ diagnosedFixups.take 1 ++ diagnosedFixups.drop 2) =
        applyAll diagnosedLines diagnosedFixups := by
  obtain ⟨-, hlines, hcount, -, -, horder⟩ := applyAll_perLine diagnosedLines diagnosedFixups
  have hper : perLine diagnosedLines diagnosedFixups =
      [("let a: some T".toList, 0), ("let b: Int".toList, 1),
        ("func f(x: any P, y: any P)".toList, 2)] := by
    unfold diagnosedLines diagnosedFixups
    repeat rewrite [String.toList_ofList]
    decide +kernel
  refine ⟨Prod.ext ?_ (by rw [hcount, hper]; rfl), horder _ fun n => ?_⟩
  · rw [← join_splitOn '\n' (applyAll diagnosedLines diagnosedFixups).1, ← lines, hlines, hper]
    repeat rewrite [String.toList_ofList]
    rfl
  · by_cases htwo : n = 2
    · subst htwo
      rfl
    · have hne : ¬ (2 : Nat) = n := fun h => htwo h.symm
      simp [diagnosedFixups, List.filter_cons, hne]

end Fixup

end SwiftExistential
