import Mathlib.Data.List.TakeWhile
import SwiftExistential.Proofs.Pattern.Matches
import SwiftExistential.Proofs.SitePatch.Occurrence

/-!
# Windows

What one patch asks for, read off the unpatched text: the free occurrences in its window, as
insertions at byte offsets (`Window.insertions`). Patching the window of a text into which keywords
were put further on makes these insertions and no others (`patchWindow_eq`).

A window is a part of one line, with what stands before it on that line and what stands behind it.
Its occurrences are looked for in the part itself, but the guards that keep an occurrence from being
annotated may lie outside on either side. The line before the window is unpatched when the window's
turn comes, and the line behind it is not; the file about occurrences says why this does not matter.
-/

set_option autoImplicit false

namespace SwiftExistential.SitePatch

open Pattern Text Unicode
open Cursor (Reads)

/-! ## What a window asks for

The keyword goes before the first character of the occurrence, so an insertion is told by a byte
offset and a keyword. -/

/-- The window from an offset of a text to `stop` or the end of the line, whichever comes first. -/
def windowAt (content : Text) (offset stop : Nat) : Window :=
  let (before, after) := (content.splitAtByte? offset).getD (content, [])
  let line := after.takeWhile (· != '\n')
  let inside := takeBytes (stop - offset) line
  ⟨before.reverse.takeWhile (· != '\n'), inside, line.drop inside.length⟩

/-- Where the search in a window begins. -/
def Window.start (w : Window) : Cursor := ⟨w.before, w.inside⟩

/-- The occurrences in a window that take a keyword. There are none if the line declares a generic
parameter of that name before the window. -/
def Window.uses (w : Window) (identifier : Text) : List Match :=
  if hasPart (constraintOf identifier) w.before.reverse then []
  else ((occurrence identifier).matchesFrom w.start).filter w.isFree

/-- The byte offset of an occurrence in a window that begins at an offset. -/
def Window.position (w : Window) (offset : Nat) (m : Match) : Nat :=
  offset + byteLength (w.start.textTo m.start)

/-- **The insertions that a window asks for.** -/
def Window.insertions (w : Window) (offset : Nat) (identifier : Text) (keyword : Keyword) :
    List (Nat × Text) :=
  (w.uses identifier).map fun m => (w.position offset m, keyword.lead)

theorem neverEmpty_occurrence {identifier : Text} (h : IsName identifier) :
    NeverEmpty (occurrence identifier) := by
  intro m hm
  obtain ⟨x, hread, hword, -⟩ := reads_of_occurrence h hm
  exact ⟨x, ne_nil_of_startsWord hword, hread⟩

/-- **Patching a window makes its insertions.** -/
theorem Window.patch_eq {identifier : Text} (hname : IsName identifier) (w : Window) (offset : Nat)
    (keyword : Keyword) :
    w.patch identifier keyword =
      (insertInto (textAt (w.insertions offset identifier keyword)) offset w.inside,
        (w.insertions offset identifier keyword).length) := by
  rw [Window.patch, Window.insertions, Window.uses]
  split
  · rw [List.map_nil, insertInto_eq_self fun i _ _ => textAt_nil i, List.length_nil]
  · have hfound := matchesFrom_successive (occurrence identifier) w.start
    have hsplice := splice_eq_insertInto (neverEmpty_occurrence hname) hfound w.isFree keyword.lead
      (w.position offset) offset fun m hm => by
        obtain ⟨x, hread⟩ := hfound.exists_reads m hm
        rw [Window.position, hread.textTo_eq, hread.after, byteLength_append, Nat.add_assoc]
    rw [List.length_map, ← List.countP_eq_length_filter]
    exact Prod.ext hsplice rfl

/-! ## Where the insertions are

No two insertions of a window are at one place, and all of them lie between the start and the end of
the window. -/

/-- An occurrence that takes a keyword is found by the search and free. -/
theorem Window.mem_uses {w : Window} {identifier : Text} {m : Match}
    (h : m ∈ w.uses identifier) :
    m ∈ (occurrence identifier).matchesFrom w.start ∧ w.isFree m = true := by
  rw [Window.uses] at h
  split at h
  · cases h
  · exact List.mem_filter.mp h

/-- The character before a free occurrence is one that a keyword can go behind. -/
theorem canPrecede_of_isFree {w : Window} {m : Match} (hfree : w.isFree m = true)
    (hword : endsWord m.start.before.reverse = false) :
    m.start.before.head?.all canPrecede = true := by
  cases hbefore : m.start.before with
  | nil => rfl
  | cons c rest =>
      have hc : isWord c = false := by
        rw [hbefore, endsWord_reverse] at hword
        exact hword
      have hdot : (c != '.') = true := by
        rw [bne_iff_ne]
        rintro rfl
        have hguarded : isGuardedBefore m.start.before = true := by
          rw [hbefore, isGuardedBefore, List.any_eq_true]
          exact ⟨".".toList, by decide, rfl⟩
        rw [Window.isFree, hguarded] at hfree
        cases hfree
      rw [List.head?_cons, Option.all_some, canPrecede, hc, hdot]
      rfl

/-- **An insertion that can be made**: a keyword before a word, and behind a character that a
keyword can go behind. -/
def IsUse (content : Text) (e : Nat × Text) : Prop :=
  ∃ a b, ∃ k : Keyword, content = a ++ b ∧ byteLength a = e.1 ∧ e.2 = k.lead ∧
    a.getLast?.all canPrecede = true ∧ startsWord b = true

theorem getLast?_append_all_eq (before x : Text) :
    (before ++ x).getLast?.all canPrecede =
      (x.reverse ++ before.reverse.takeWhile (· != '\n')).head?.all canPrecede := by
  rcases List.eq_nil_or_concat x with rfl | ⟨x, c, rfl⟩
  · have hline : canPrecede '\n' = true := by decide
    rw [List.append_nil, List.reverse_nil, List.nil_append, ← List.head?_reverse]
    -- where the line begins, the text before ends in a line end, which a keyword can go behind
    cases before.reverse with
    | nil => rfl
    | cons c rest =>
        rw [List.takeWhile_cons]
        by_cases hc : (c != '\n') = true
        · rw [if_pos hc]; rfl
        · rw [if_neg hc, of_not_not (mt bne_iff_ne.mpr hc)]
          exact hline
  · rw [List.concat_eq_append, ← List.append_assoc, List.getLast?_concat, List.reverse_append,
      List.reverse_singleton]
    rfl

theorem Window.nodup_insertions {identifier : Text} (hname : IsName identifier) (w : Window)
    (offset : Nat) (keyword : Keyword) :
    ((w.insertions offset identifier keyword).map Prod.fst).Nodup := by
  rw [Window.insertions, List.map_map, Window.uses]
  split
  · exact .nil
  · have hfound := matchesFrom_successive (occurrence identifier) w.start
    have hlater := List.Pairwise.and_mem.mp (hfound.pairwise (neverEmpty_occurrence hname))
    refine List.pairwise_map.mpr ((hlater.filter w.isFree).imp ?_)
    rintro m m' ⟨hm, hm', hlt⟩
    obtain ⟨x, hread⟩ := hfound.exists_reads m hm
    obtain ⟨y, hread'⟩ := hfound.exists_reads m' hm'
    have hx := congrArg byteLength hread.after
    have hy := congrArg byteLength hread'.after
    rw [byteLength_append] at hx hy
    simp only [Function.comp_apply, Window.position, hread.textTo_eq, hread'.textTo_eq]
    omega

theorem eq_newline_of_dropWhile {t rest : Text} {c : Char}
    (h : t.dropWhile (· != '\n') = c :: rest) : c = '\n' := by
  have hnot := List.head_dropWhile_not (· != '\n') (l := t) (by rw [h]; simp)
  simpa [h] using hnot

/-- A window between two cuts of a text is the text between them, up to the end of the line. -/
theorem windowAt_between (before mid suf : Text) :
    ∃ inside more tail, mid = inside ++ more ∧ (∀ c ∈ inside, (c != '\n') = true) ∧
      windowAt (before ++ (mid ++ suf)) (byteLength before) (byteLength before + byteLength mid) =
        ⟨before.reverse.takeWhile (· != '\n'), inside, tail⟩ ∧
      ((∃ rest, more = '\n' :: rest ∧ tail = []) ∨
        (more = [] ∧ tail = suf.takeWhile (· != '\n'))) := by
  simp only [windowAt, splitAtByte?_append, Option.getD_some, Nat.add_sub_cancel_left]
  -- Either the line goes on behind the window or it ends inside it, and then nothing is read after
  -- it.
  cases hmore : mid.dropWhile (· != '\n') with
  | nil =>
      have hmid : ∀ c ∈ mid, (c != '\n') = true := List.dropWhile_eq_nil_iff.mp hmore
      refine ⟨mid, [], suf.takeWhile (· != '\n'), (List.append_nil mid).symm, hmid, ?_,
        .inr ⟨rfl, rfl⟩⟩
      rw [List.takeWhile_append_of_pos hmid, takeBytes_append, List.drop_left]
  | cons c rest =>
      obtain rfl := eq_newline_of_dropWhile hmore
      have hmid : mid = mid.takeWhile (· != '\n') ++ '\n' :: rest := by
        rw [← hmore, List.takeWhile_append_dropWhile]
      have hline : ∀ c ∈ mid.takeWhile (· != '\n'), (c != '\n') = true :=
        fun c hc => List.mem_takeWhile_imp (p := (· != '\n')) hc
      refine ⟨mid.takeWhile (· != '\n'), '\n' :: rest, [], hmid, hline, ?_,
        .inl ⟨rest, rfl, rfl⟩⟩
      have htake : (mid ++ suf).takeWhile (· != '\n') = mid.takeWhile (· != '\n') := by
        rw [hmid, List.append_assoc, List.takeWhile_append_of_pos hline, ← hmid]
        simp
      have hle : byteLength (mid.takeWhile (· != '\n')) ≤ byteLength mid := by
        conv_rhs => rw [hmid]
        rw [byteLength_append]
        omega
      rw [htake, takeBytes_of_le hle, List.drop_length]

/-- **The insertions of a window are uses**, and lie in the window. -/
theorem mem_insertions {identifier : Text} (hname : IsName identifier) {before mid suf : Text}
    {keyword : Keyword} {e : Nat × Text}
    (he : e ∈ (windowAt (before ++ (mid ++ suf)) (byteLength before)
      (byteLength before + byteLength mid)).insertions (byteLength before) identifier keyword) :
    IsUse (before ++ (mid ++ suf)) e ∧ byteLength before ≤ e.1 ∧
      e.1 < byteLength before + byteLength (windowAt (before ++ (mid ++ suf)) (byteLength before)
        (byteLength before + byteLength mid)).inside := by
  obtain ⟨inside, more, tail, rfl, -, hw, -⟩ := windowAt_between before mid suf
  rw [hw] at he ⊢
  obtain ⟨m, hm, rfl⟩ := List.mem_map.mp he
  obtain ⟨hfound, hfree⟩ := Window.mem_uses hm
  have hchain := matchesFrom_successive (occurrence identifier)
    (Window.start ⟨before.reverse.takeWhile (· != '\n'), inside, tail⟩)
  obtain ⟨x, hread⟩ := hchain.exists_reads m hfound
  obtain ⟨y, hmatch, hstarts, -, hword⟩ := reads_of_occurrence hname (hchain.isMatch m hfound)
  -- The window's text is what was skipped, the occurrence and the rest, all of it before the end of
  -- the line.
  have hinside : inside = x ++ (y ++ m.stop.after) := by
    rw [← hmatch.after]
    exact hread.after
  have hbefore : m.start.before = x.reverse ++ before.reverse.takeWhile (· != '\n') := hread.before
  have hy : y ≠ [] := ne_nil_of_startsWord hstarts
  have hpos := byteLength_pos hy
  rw [Window.position, hread.textTo_eq]
  refine ⟨⟨before ++ x, y ++ (m.stop.after ++ (more ++ suf)), keyword, ?_, ?_, rfl, ?_, ?_⟩, ?_, ?_⟩
  · simp only [hinside, List.append_assoc]
  · rw [byteLength_append]
  · rw [getLast?_append_all_eq, ← hbefore]
    exact canPrecede_of_isFree hfree hword
  · rw [startsWord_append_of_ne_nil hy, hstarts]
  · exact Nat.le_add_right _ _
  · simp only [hinside, byteLength_append]
    omega

/-! ## Patching a text

The text is cut at the start and at the end of the window, the part between is patched, and the
three are put together again. -/

/-- A window is patched in the same way whatever keywords were put behind it. -/
theorem Window.patch_congr {identifier : Text} (hname : IsName identifier) {w : Window}
    {tail : Text}
    (h : ∀ x y, w.inside = x ++ y → endsWord x = true →
      isGuardedAfter (y ++ w.after) = isGuardedAfter (y ++ tail)) (keyword : Keyword) :
    Window.patch ⟨w.before, w.inside, tail⟩ identifier keyword = w.patch identifier keyword := by
  have hchain := matchesFrom_successive (occurrence identifier) w.start
  have hsame : ∀ m ∈ (occurrence identifier).matchesFrom w.start,
      Window.isFree ⟨w.before, w.inside, tail⟩ m = w.isFree m := by
    intro m hm
    obtain ⟨x, hread⟩ := hchain.exists_reads m hm
    obtain ⟨y, hmatch, hstarts, hends, -⟩ := reads_of_occurrence hname (hchain.isMatch m hm)
    have hafter := h (x ++ y) m.stop.after (hread.trans hmatch).after
      (by rw [endsWord_append_of_ne_nil x (ne_nil_of_endsWord hends), hends])
    rw [Window.isFree, Window.isFree, hafter]
  simp only [Window.patch]
  split
  · rfl
  · refine Prod.ext (splice_congr fun m hm => ?_) (List.countP_congr fun m hm => ?_)
    · rw [hsame m hm]
    · rw [hsame m hm]

theorem all_canPrecede_eq_false {l : Text} (h : endsWord l = true) :
    l.getLast?.all canPrecede = false := by
  rw [endsWord] at h
  cases hl : l.getLast? with
  | none =>
      rw [hl] at h
      cases h
  | some c =>
      rw [hl, Option.any_some] at h
      rw [Option.all_some, canPrecede, h]
      rfl

/-- **Patching one window of a text** makes the insertions that the window asks for in the unpatched
text, whatever keywords were put behind the window. -/
theorem patchWindow_eq {identifier : Text} (hname : IsName identifier) {before mid suf suf' : Text}
    (h : Annotated (before ++ mid).getLast? suf suf') {stop : Nat}
    (hstop : stop = byteLength before + byteLength mid) (keyword : Keyword) :
    patchWindow (before ++ (mid ++ suf')) (byteLength before) stop identifier keyword =
      (before ++ (insertInto (textAt ((windowAt (before ++ (mid ++ suf)) (byteLength before)
            stop).insertions (byteLength before) identifier keyword)) (byteLength before) mid ++
          suf'),
        ((windowAt (before ++ (mid ++ suf)) (byteLength before) stop).insertions
          (byteLength before) identifier keyword).length) := by
  subst hstop
  have hin : ∀ e ∈ (windowAt (before ++ (mid ++ suf)) (byteLength before)
      (byteLength before + byteLength mid)).insertions (byteLength before) identifier keyword,
      e.1 < byteLength before + byteLength (windowAt (before ++ (mid ++ suf)) (byteLength before)
        (byteLength before + byteLength mid)).inside :=
    fun e he => (mem_insertions hname he).2.2
  obtain ⟨inside, more, tail, rfl, hline, hw, hmore⟩ := windowAt_between before mid suf
  have hpatch := Window.patch_eq hname ⟨before.reverse.takeWhile (· != '\n'), inside, tail⟩
    (byteLength before) keyword
  rw [hw] at hin ⊢
  have hkept : insertInto (textAt (Window.insertions ⟨before.reverse.takeWhile (· != '\n'), inside,
      tail⟩ (byteLength before) identifier keyword)) (byteLength before + byteLength inside) more =
        more := by
    refine insertInto_eq_self fun i hlo hhi => textAt_eq_nil fun e he => ?_
    exact Nat.ne_of_lt (Nat.lt_of_lt_of_le (hin e he) hlo)
  rw [insertInto_append, hkept]
  simp only [patchWindow, splitAtByte?_append, Nat.add_sub_cancel_left]
  rcases hmore with ⟨rest, rfl, rfl⟩ | ⟨rfl, rfl⟩
  · -- the line ends in the window: it holds none of the text behind the window
    have hshort : byteLength inside < byteLength (inside ++ '\n' :: rest) := by
      have hpos := byteLength_pos (List.cons_ne_nil '\n' rest)
      rw [byteLength_append]
      omega
    have htake : (inside ++ '\n' :: rest ++ suf').takeWhile (· != '\n') = inside := by
      rw [List.append_assoc, List.takeWhile_append_of_pos hline]
      simp
    have hdrop : (inside ++ '\n' :: rest ++ suf').dropWhile (· != '\n') =
        '\n' :: (rest ++ suf') := by
      rw [List.append_assoc, List.dropWhile_append_of_pos hline]
      simp
    rw [htake, hdrop, splitAtByte?_eq_none_of_lt hshort, Option.getD_none, hpatch]
    simp only [List.append_assoc, List.nil_append, List.cons_append]
  · -- the line goes on behind the window, in a text with more keywords
    rw [List.append_nil] at h ⊢
    have hguards : ∀ x y, inside = x ++ y → endsWord x = true →
        isGuardedAfter (y ++ suf.takeWhile (· != '\n')) =
          isGuardedAfter (y ++ suf'.takeWhile (· != '\n')) := by
      intro x y hinside hx
      rw [hinside, ← List.append_assoc] at h
      refine h.takeWhile_line.append_left.isGuardedAfter_eq (all_canPrecede_eq_false ?_)
      rw [endsWord_append_of_ne_nil before (ne_nil_of_endsWord hx), hx]
    have hsame := Window.patch_congr hname
      (w := ⟨before.reverse.takeWhile (· != '\n'), inside, suf.takeWhile (· != '\n')⟩) hguards
      keyword
    rw [List.takeWhile_append_of_pos hline, List.dropWhile_append_of_pos hline, splitAtByte?_append,
      Option.getD_some, hsame, hpatch]
    simp only [List.append_assoc, List.append_nil, List.takeWhile_append_dropWhile]

end SwiftExistential.SitePatch
