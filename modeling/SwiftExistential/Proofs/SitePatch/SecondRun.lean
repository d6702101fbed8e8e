import SwiftExistential.Proofs.Pattern.Locality
import SwiftExistential.Proofs.SitePatch.Fits

/-!
# A second run changes nothing

A batch is applied again to its own output, each patch at the offset where its use is now
(`resite`). Nothing is left to be done: the second run returns the same text and makes no change
(`applyAll_resite`).

A window of an annotated text shows the same part of the text as before, with the keywords that were
put into it. An occurrence that no guard stops there stands at a place to which no keyword went, and
the same occurrence, with the same text around it as far as a guard looks, stood in the window
before: it asked for a keyword too (`Fits.exists_mem_uses`). But then a keyword did go there.

The rest is about the batch. The patches that take part are the same and come in the same order, and
their windows are those of the first run with their keywords, so the argument applies to each of
them.
-/

set_option autoImplicit false

namespace SwiftExistential.SitePatch

open Pattern Text Unicode
open Cursor (Reads)

/-! ## What an occurrence can read

An occurrence reads word characters, dots and nothing else. The text in which it is looked for
matters only up to the first other character. -/

/-- Whether a character can stand in an occurrence. -/
def inPath (c : Char) : Bool := isWord c || c == '.'

theorem inPath_of_isWord {c : Char} (h : isWord c = true) : inPath c = true := by
  rw [inPath, h, Bool.true_or]

/-- Behind such a character no keyword can go. -/
theorem canPrecede_of_inPath {c : Char} (h : inPath c = true) : canPrecede c = false := by
  rw [canPrecede, Bool.and_eq_false_iff, Bool.not_eq_false', bne_eq_false_iff_eq]
  exact (Bool.or_eq_true_iff.mp h).imp_right eq_of_beq

theorem readsOnly_literal {ok : Char → Bool} {x : Text} (h : ∀ c ∈ x, ok c = true) :
    (literal x).ReadsOnly ok := by
  induction x with
  | nil => trivial
  | cons c rest ih =>
      cases rest with
      | nil => exact h c List.mem_cons_self
      | cons d rest =>
          exact ⟨h c List.mem_cons_self, ih fun e he => h e (List.mem_cons_of_mem c he)⟩

theorem readsOnly_occurrence {identifier : Text} (hname : IsName identifier) :
    (occurrence identifier).ReadsOnly inPath := by
  have hword : ∀ c, CharClass.word.holds c = true → inPath c = true := fun _ => inPath_of_isWord
  have hdot : inPath '.' = true := by decide
  have htype : ∀ c ∈ ".Type".toList, inPath c = true := by decide
  exact ⟨trivial, ⟨⟨hword, hdot⟩, readsOnly_literal fun c hc => inPath_of_isWord (hname.2 c hc),
    readsOnly_literal htype⟩, trivial⟩

theorem eq_word_of_occurrence {identifier : Text} {m : Match} (hname : IsName identifier)
    (h : IsMatch (occurrence identifier) m) {k : Keyword} {rest : Text}
    (hafter : m.start.after = k.lead ++ rest) : identifier = k.word := by
  have hkeyword : ∀ c ∈ k.word, isWord c = true := by cases k <;> decide
  have hblank : m.start.after = k.word ++ (' ' :: rest) := by
    rw [hafter, Keyword.lead, List.append_assoc]
    rfl
  have hbreak : (' ' :: rest).head?.any isWord = false := by
    have hspace : isWord ' ' = false := by decide
    exact hspace
  obtain ⟨start, ⟨rfl, -⟩, stop, ⟨q, hq, r, hr, htype⟩, hstop, hend⟩ := h.spans
  rcases Relation.ReflTransGen.cases_head hq with rfl | ⟨q', ⟨n, hrun, hdot⟩, -⟩
  · -- without qualifiers it begins with the name, behind which no word goes on
    have hread := spans_literal_iff.mp hr
    have hplain : startsWord r.after = false := by
      rcases htype with htype | rfl
      · have hfirst : startsWord ".Type".toList = false := by decide
        have hne : ".Type".toList ≠ [] := by decide
        rw [(spans_literal_iff.mp htype).after, startsWord_append_of_ne_nil hne, hfirst]
      · exact hread.startsWord_after hend hname.endsWord
    exact (append_inj_of_forall (hread.after.symm.trans hblank) hname.2 hkeyword hplain hbreak).1
  · -- with a qualifier it begins with a word and a dot
    obtain ⟨c, x, hc, hx, hread⟩ := spans_plus_one_iff.mp hrun
    have hwords : ∀ d ∈ c :: x, isWord d = true := List.forall_mem_cons.mpr ⟨hc, hx⟩
    have hdotted : m.start.after = (c :: x) ++ ('.' :: q'.after) := by
      rw [hread.after, hdot.after]
      rfl
    have hdotbreak : ('.' :: q'.after).head?.any isWord = false := by
      have hplain : isWord '.' = false := by decide
      exact hplain
    have heq :=
      (append_inj_of_forall (hdotted.symm.trans hblank) hwords hkeyword hdotbreak hbreak).2
    exact absurd (List.cons.inj heq).1 (by decide)

/-! ## Windows

A window begins at the offset of its patch and ends at the next one or at the end of the line. Its
uses are the free occurrences in it. -/

/-- A window is the text between two cuts up to the end of the line, with the rest of the line
behind it. -/
theorem windowAt_eq (before mid suf : Text) :
    ∃ tail, windowAt (before ++ (mid ++ suf)) (byteLength before)
        (byteLength before + byteLength mid) =
          ⟨before.reverse.takeWhile (· != '\n'), mid.takeWhile (· != '\n'), tail⟩ ∧
      (mid ++ suf).takeWhile (· != '\n') = mid.takeWhile (· != '\n') ++ tail := by
  obtain ⟨inside, more, tail, rfl, hline, hw, hmore⟩ := windowAt_between before mid suf
  rcases hmore with ⟨rest, rfl, rfl⟩ | ⟨rfl, rfl⟩
  · have hinside (x : Text) : (inside ++ '\n' :: x).takeWhile (· != '\n') = inside := by
      rw [List.takeWhile_append_of_pos hline]
      exact List.append_nil inside
    refine ⟨[], ?_, ?_⟩
    · rw [hw, hinside]
    · rw [hinside, List.append_assoc, List.cons_append, hinside, List.append_nil]
  · have hinside : inside.takeWhile (· != '\n') = inside := by
      rw [List.takeWhile_eq_self_iff]
      exact hline
    refine ⟨suf.takeWhile (· != '\n'), ?_, ?_⟩
    · rw [hw, List.append_nil, hinside]
    · rw [List.append_nil, hinside, List.takeWhile_append_of_pos hline]

/-- Where a first part of a line ends, the line goes on. -/
theorem exists_of_takeWhile_eq_append {ok : Char → Bool} {t u v : Text}
    (h : t.takeWhile ok = u ++ v) : ∃ rest, t = u ++ rest ∧ rest.takeWhile ok = v := by
  induction u generalizing t with
  | nil => exact ⟨t, rfl, h⟩
  | cons c u ih =>
      cases t with
      | nil => cases h
      | cons d t =>
          rw [List.takeWhile_cons] at h
          split at h
          · obtain ⟨rfl, htail⟩ := List.cons.inj h
            obtain ⟨rest, rfl, hrest⟩ := ih htail
            exact ⟨rest, rfl, hrest⟩
          · cases h

/-- Whether a word stands before a place is seen on its line. -/
theorem head?_takeWhile_line (t : Text) :
    (t.reverse.takeWhile (· != '\n')).head?.any isWord = endsWord t := by
  rw [endsWord, ← List.head?_reverse]
  cases t.reverse with
  | nil => rfl
  | cons c rest =>
      rw [List.takeWhile_cons]
      by_cases hc : (c != '\n') = true
      · rw [if_pos hc]
        rfl
      · rw [if_neg hc, of_not_not (mt bne_iff_ne.mpr hc)]
        exact isWord_newline.symm

/-- A place behind no word and no guard is behind no path. -/
theorem head?_any_inPath {t : Text} (hword : endsWord t = false)
    (hguard : isGuardedBefore t.reverse = false) :
    (t.reverse.takeWhile (· != '\n')).head?.any inPath = false := by
  rw [← head?_takeWhile_line] at hword
  rw [← isGuardedBefore_takeWhile] at hguard
  cases hline : t.reverse.takeWhile (· != '\n') with
  | nil => rfl
  | cons d rest =>
      rw [hline] at hword hguard
      have hd : isWord d = false := hword
      have hdot : (d == '.') = false := by
        rw [beq_eq_false_iff_ne]
        rintro rfl
        have hguarded : isGuardedBefore (['.'] ++ rest) = true :=
          isGuardedBefore_append (by decide) rest
        rw [List.singleton_append, hguard] at hguarded
        cases hguarded
      rw [List.head?_cons, Option.any_some, inPath, hd, hdot]
      rfl

theorem Window.mem_uses_iff {w : Window} {identifier : Text} {m : Match} :
    m ∈ w.uses identifier ↔ hasPart (constraintOf identifier) w.before.reverse = false ∧
      m ∈ (occurrence identifier).matchesFrom w.start ∧ w.isFree m = true := by
  rw [Window.uses]
  split
  · rename_i hpart
    rw [hpart]
    simp
  · rename_i hpart
    rw [Bool.not_eq_true] at hpart
    rw [List.mem_filter, hpart, eq_self_iff_true, true_and]

/-! ## The same place in both texts

From a free occurrence in the annotated window back to the window before: the place is found first,
then the match, then the guards on both sides. -/

theorem endsWord_of_lead_eq_append {k : Keyword} {u v : Text} (h : k.lead = u ++ v) (hu : u ≠ [])
    (hv : startsWord v = true) : endsWord u = true := by
  have hall : ∀ i < k.lead.length, 0 < i → startsWord (k.lead.drop i) = true →
      endsWord (k.lead.take i) = true := by
    cases k <;> decide
  have hpos := List.length_pos_iff.mpr hu
  have hpos' := List.length_pos_iff.mpr (ne_nil_of_startsWord hv)
  have hcut := hall u.length (by rw [h, List.length_append]; omega) hpos
  rw [h, List.drop_left, List.take_left] at hcut
  exact hcut hv

section Fits

variable {content : Text} {ins : List (Nat × Text)} (h : Fits content ins)

include h

/-- **A word of the annotated text that is neither a keyword put there nor right behind one** was
there before, and no keyword was put at its place. -/
theorem Fits.exists_place {before x suf x' y' : Text} (hcut : content = before ++ (x ++ suf))
    (hsplit : insertInto (textAt ins) (byteLength before) x = x' ++ y') (hword : startsWord y' = true)
    (hbreak : endsWord x' = false) (hfree : ∀ k : Keyword, ¬ k.lead <:+ x')
    (hkeyword : ∀ (k : Keyword) (rest : Text), y' ≠ k.lead ++ rest) :
    ∃ a b, x = a ++ b ∧ textAt ins (byteLength (before ++ a)) = [] ∧
      x' = insertInto (textAt ins) (byteLength before) a := by
  obtain ⟨a, c, r, u, v, rfl, hf, rfl, rfl⟩ :=
    exists_of_insertInto_eq_append hsplit (ne_nil_of_startsWord hword)
  rw [← byteLength_append] at hf
  have hat := h.textAt_eq (a := before ++ a) (b := c :: r ++ suf)
    (by rw [hcut, List.append_assoc, List.append_assoc])
  rw [hf] at hat
  rcases hat with hnil | ⟨k, hlead, -⟩
  · refine ⟨a, c :: r, rfl, by rw [hf, hnil], ?_⟩
    rw [(List.append_eq_nil_iff.mp hnil).1, List.append_nil]
  · -- the cut is before, inside or behind the keyword that was put here
    exfalso
    rcases eq_or_ne v [] with rfl | hv
    · refine hfree k ?_
      rw [← hlead, List.append_nil]
      exact List.suffix_append _ u
    · rcases eq_or_ne u [] with rfl | hu
      · exact hkeyword k _ (by rw [← hlead]; rfl)
      · rw [startsWord_append_of_ne_nil hv] at hword
        rw [endsWord_append_of_ne_nil _ hu, endsWord_of_lead_eq_append hlead.symm hu hword] at hbreak
        cases hbreak

/-- Words joined by dots stay as they are from a place to which no keyword went. -/
theorem Fits.insertInto_path {a b c : Text} (hcut : content = a ++ (b ++ c))
    (hnil : textAt ins (byteLength a) = []) :
    ∃ rest, insertInto (textAt ins) (byteLength a) b = b.takeWhile inPath ++ rest ∧
      rest.head? = (b.dropWhile inPath).head? := by
  have hpath : ∀ d ∈ b.takeWhile inPath, canPrecede d = false :=
    fun d hd => canPrecede_of_inPath (List.mem_takeWhile_imp hd)
  have hb : b = b.takeWhile inPath ++ b.dropWhile inPath :=
    (List.takeWhile_append_dropWhile ..).symm
  have hend : content =
      a ++ (b.takeWhile inPath ++ (b.dropWhile inPath ++ c)) := by
    rw [← List.append_assoc (b.takeWhile _), List.takeWhile_append_dropWhile, hcut]
  -- A keyword stands before the first letter of a path or nowhere in it.
  have hkept : insertInto (textAt ins) (byteLength a) (b.takeWhile inPath) = b.takeWhile inPath ∧
      textAt ins (byteLength (a ++ b.takeWhile inPath)) = [] := by
    rcases eq_or_ne (b.takeWhile inPath) [] with hempty | hne
    · rw [hempty, List.append_nil]
      exact ⟨rfl, hnil⟩
    · constructor
      · rw [h.insertInto_closed hend (closed_of_joined hpath) hne, hnil, List.nil_append]
      · refine h.textAt_of_joined (b := b.dropWhile inPath ++ c)
          (by rw [hend, List.append_assoc]) ?_
        rw [List.getLast?_append_of_ne_nil a hne, List.getLast?_eq_some_getLast hne,
          Option.all_some]
        exact hpath _ (List.getLast_mem hne)
  refine ⟨insertInto (textAt ins) (byteLength (a ++ b.takeWhile inPath)) (b.dropWhile inPath), ?_,
    ?_⟩
  · conv_lhs => rw [hb, insertInto_append, hkept.1, ← byteLength_append]
  · cases b.dropWhile inPath with
    | nil => rfl
    | cons d rest =>
        rw [insertInto, hkept.2]
        rfl

/-- **At such a place the same path is matched** in both texts. -/
theorem Fits.matchAt?_insertInto {p : Pattern} (hp : p.ReadsOnly inPath) {a b c : Text}
    (hcut : content = a ++ (b ++ c)) (hnil : textAt ins (byteLength a) = []) {m' : Match}
    (hm' : p.matchAt? ⟨(insertInto (textAt ins) 0 a).reverse.takeWhile (· != '\n'),
      insertInto (textAt ins) (byteLength a) b⟩ = some m') :
    ∃ m, p.matchAt? ⟨a.reverse.takeWhile (· != '\n'), b⟩ = some m ∧ m.text = m'.text := by
  obtain ⟨rest, hout, hhead⟩ := h.insertInto_path hcut hnil
  have hclosed := head?_dropWhile_any inPath b
  -- The pattern reads nothing but a path and looks at one character on each side, and these are the
  -- same in both texts.
  let e : Surroundings inPath :=
    { before := a.reverse.takeWhile (· != '\n')
      after := b.dropWhile inPath
      before' := (insertInto (textAt ins) 0 a).reverse.takeWhile (· != '\n')
      after' := rest
      word_before := by
        rw [head?_takeWhile_line, head?_takeWhile_line, endsWord, endsWord, getLast?_insertInto]
      word_after := by rw [hhead]
      closed := hclosed
      closed' := by rw [hhead]; exact hclosed }
  have hat : e.At (b.takeWhile inPath) ⟨a.reverse.takeWhile (· != '\n'), b⟩
      ⟨(insertInto (textAt ins) 0 a).reverse.takeWhile (· != '\n'),
        insertInto (textAt ins) (byteLength a) b⟩ :=
    ⟨(List.takeWhile_append_dropWhile ..).symm, hout, [], rfl, rfl⟩
  have hagree := Surroundings.matchAt?_agree hp hat
  rw [hm'] at hagree
  cases hm : p.matchAt? ⟨a.reverse.takeWhile (· != '\n'), b⟩ with
  | none =>
      rw [hm] at hagree
      cases hagree
  | some m =>
      rw [hm] at hagree
      cases hagree with
      | some hsame => exact ⟨m, rfl, hsame.text_eq⟩

theorem Fits.windowAt_insertInto {before mid suf : Text} (hcut : content = before ++ (mid ++ suf)) :
    ∃ tail, windowAt (insertInto (textAt ins) 0 content)
        (byteLength (insertInto (textAt ins) 0 before))
        (byteLength (insertInto (textAt ins) 0 (before ++ mid))) =
          ⟨(insertInto (textAt ins) 0 before).reverse.takeWhile (· != '\n'),
            insertInto (textAt ins) (byteLength before) (mid.takeWhile (· != '\n')), tail⟩ ∧
      insertInto (textAt ins) (byteLength before) ((mid ++ suf).takeWhile (· != '\n')) =
        insertInto (textAt ins) (byteLength before) (mid.takeWhile (· != '\n')) ++ tail := by
  obtain ⟨tail, hw, hline⟩ := windowAt_eq (insertInto (textAt ins) 0 before)
    (insertInto (textAt ins) (byteLength before) mid)
    (insertInto (textAt ins) (byteLength before + byteLength mid) suf)
  rw [← insertInto_append, h.takeWhile_insertInto hcut,
    h.takeWhile_insertInto (x := mid ++ suf) (b := []) (by rw [List.append_nil, hcut])] at hline
  rw [← insertInto_append, h.takeWhile_insertInto hcut] at hw
  refine ⟨tail, ?_, hline⟩
  rw [← hw, hcut, insertInto_append _ 0 before (mid ++ suf), insertInto_append _ 0 before mid,
    Nat.zero_add, byteLength_append]

/-- The rest of the line behind a word guards it in both texts or in none. -/
theorem Fits.isGuardedAfter_insertInto {a y rest : Text} (hcut : content = a ++ (y ++ rest))
    (hy : endsWord y = true) :
    isGuardedAfter (rest.takeWhile (· != '\n')) =
      isGuardedAfter (insertInto (textAt ins) (byteLength (a ++ y)) (rest.takeWhile (· != '\n'))) := by
  have hrest :
      content = (a ++ y) ++ (rest ++ []) := by rw [hcut, List.append_nil, List.append_assoc]
  have hannotated := annotated_insertInto h.uses h.nodup
    (a := a ++ y) (b := rest) (by rw [hcut, List.append_assoc])
  rw [← h.takeWhile_insertInto hrest]
  refine hannotated.takeWhile_line.isGuardedAfter_eq (all_canPrecede_eq_false ?_)
  rw [endsWord_append_of_ne_nil a (ne_nil_of_endsWord hy), hy]

/-- What is seen of the annotated text before a place. -/
theorem Fits.takeWhile_reverse_insertInto {before a rest : Text}
    (hcut : content = before ++ (a ++ rest)) (ha : ∀ c ∈ a, (c != '\n') = true) :
    (insertInto (textAt ins) 0 (before ++ a)).reverse.takeWhile (· != '\n') =
      (insertInto (textAt ins) (byteLength before) a).reverse ++
        (insertInto (textAt ins) 0 before).reverse.takeWhile (· != '\n') := by
  rw [insertInto_append, Nat.zero_add, takeWhile_reverse_append (h.not_mem_insertInto hcut ha)]

/-- **A free occurrence at a place to which no keyword went** is one in the window of the text
without keywords. -/
theorem Fits.mem_uses_of_place {identifier : Text} (hname : IsName identifier)
    {before a b suf tail tail' : Text} (hcut : content = before ++ (a ++ (b ++ suf)))
    (hinside : ∀ c ∈ a ++ b, (c != '\n') = true)
    (hline : (a ++ (b ++ suf)).takeWhile (· != '\n') = a ++ (b ++ tail))
    (hline' : insertInto (textAt ins) (byteLength before) (a ++ (b ++ tail)) =
      insertInto (textAt ins) (byteLength before) (a ++ b) ++ tail')
    (hnil : textAt ins (byteLength (before ++ a)) = []) {m' : Match}
    (hm' : m' ∈ Window.uses ⟨(insertInto (textAt ins) 0 before).reverse.takeWhile (· != '\n'),
      insertInto (textAt ins) (byteLength before) (a ++ b), tail'⟩ identifier)
    (hstart' : Reads (insertInto (textAt ins) (byteLength before) a)
      ⟨(insertInto (textAt ins) 0 before).reverse.takeWhile (· != '\n'),
        insertInto (textAt ins) (byteLength before) (a ++ b)⟩ m'.start) :
    ∃ m ∈ Window.uses ⟨before.reverse.takeWhile (· != '\n'), a ++ b, tail⟩ identifier,
      Reads a ⟨before.reverse.takeWhile (· != '\n'), a ++ b⟩ m.start := by
  obtain ⟨hpart, hfound, hfree⟩ := Window.mem_uses_iff.mp hm'
  rw [Window.isFree, Bool.and_eq_true, Bool.not_eq_true', Bool.not_eq_true'] at hfree
  have ha : ∀ c ∈ a, (c != '\n') = true := fun c hc => hinside c (List.mem_append_left b hc)
  have hplace : content = (before ++ a) ++ (b ++ suf) := by rw [hcut, List.append_assoc]
  have hbefore' := hstart'.before
  have hafter' : m'.start.after = insertInto (textAt ins) (byteLength (before ++ a)) b := by
    have hsplit := hstart'.after
    rw [insertInto_append, List.append_cancel_left_eq, ← byteLength_append] at hsplit
    exact hsplit.symm
  rw [← h.takeWhile_reverse_insertInto hcut ha] at hbefore'
  -- the same occurrence in the other text
  have hcursor' :
      m'.start = ⟨(insertInto (textAt ins) 0 (before ++ a)).reverse.takeWhile (· != '\n'),
      insertInto (textAt ins) (byteLength (before ++ a)) b⟩ := by
    rw [← hbefore', ← hafter']
  obtain ⟨m, hmatch, htext⟩ := h.matchAt?_insertInto (readsOnly_occurrence hname) hplace hnil
    (hcursor' ▸ matchAt?_of_mem_matchesFrom hfound)
  have hstart : m.start = ⟨(before ++ a).reverse.takeWhile (· != '\n'), b⟩ :=
    (matchAt?_eq_some hmatch).1
  have hread : Reads a ⟨before.reverse.takeWhile (· != '\n'), a ++ b⟩ m.start := by
    rw [hstart, takeWhile_reverse_append ha]
    exact ⟨rfl, rfl⟩
  rw [← hstart] at hmatch
  obtain ⟨y, hy', -, hends, hbreak⟩ := reads_of_occurrence hname
    (matchAt?_eq_some (matchAt?_of_mem_matchesFrom hfound)).2
  have hy : Reads y m.start m.stop := by
    obtain ⟨z, hz⟩ := (matchAt?_eq_some hmatch).2.exists_reads
    rw [Match.text, Match.text, hz.textTo_eq, hy'.textTo_eq] at htext
    exact htext ▸ hz
  -- nothing before the place guards it, and no path goes on to it
  have hbefore : isGuardedBefore (before ++ a).reverse = false := by
    rw [Bool.eq_false_iff]
    intro hguarded
    have hstill := h.isGuardedBefore_insertInto hplace hguarded
    rw [hbefore', isGuardedBefore_takeWhile, hstill] at hfree
    cases hfree.1
  have hword : endsWord (before ++ a) = false := by
    rw [endsWord_reverse, startsWord, hbefore', head?_takeWhile_line, endsWord, getLast?_insertInto]
      at hbreak
    exact hbreak
  have hpath : m.start.before.head?.any inPath = false := by
    rw [hstart]
    exact head?_any_inPath hword hbefore
  have hmem := mem_matchesFrom_of_matchAt? (readsOnly_occurrence hname)
    (neverEmpty_occurrence hname) hread hmatch hpath
  -- nor does anything behind it
  have hb : b = y ++ m.stop.after := by
    have hsplit := hy.after
    rwa [hstart] at hsplit
  have hplace' : content = (before ++ a) ++ (y ++ (m.stop.after ++ suf)) := by
    rw [hplace, hb, List.append_assoc y]
  have hrest : (m.stop.after ++ suf).takeWhile (· != '\n') = m.stop.after ++ tail := by
    have hu : (a ++ (b ++ suf)).takeWhile (· != '\n') = (a ++ y) ++ (m.stop.after ++ tail) := by
      rw [hline, hb]
      simp only [List.append_assoc]
    obtain ⟨rest, hsplit, htake⟩ := exists_of_takeWhile_eq_append hu
    rw [hb, List.append_assoc y, ← List.append_assoc a, List.append_cancel_left_eq] at hsplit
    rw [hsplit, htake]
  have hout : m'.stop.after ++ tail' =
      insertInto (textAt ins) (byteLength (before ++ a ++ y)) (m.stop.after ++ tail) := by
    have hkept := h.insertInto_closed hplace' (closed_of_joined fun c hc =>
      canPrecede_of_inPath (forall_of_matchAt? (readsOnly_occurrence hname) hmatch hy c hc))
      (ne_nil_of_endsWord hends)
    rw [hnil, List.nil_append] at hkept
    have hsplit := hstart'.after
    simp only at hsplit
    rw [hsplit, hy'.after, hb, List.append_assoc y, insertInto_append, insertInto_append,
      ← byteLength_append, ← byteLength_append, hkept] at hline'
    simp only [List.append_assoc, List.append_cancel_left_eq] at hline' ⊢
    exact hline'.symm
  have hguard := h.isGuardedAfter_insertInto hplace' hends
  rw [hrest, ← hout, hfree.2] at hguard
  refine ⟨m, Window.mem_uses_iff.mpr ⟨?part, hmem, ?free⟩, hread⟩
  case part =>
    rw [Bool.eq_false_iff]
    intro hyes
    have hstill := h.hasPart_insertInto hname hcut hyes
    rw [hstill] at hpart
    cases hpart
  case free =>
    rw [Window.isFree, Bool.and_eq_true, Bool.not_eq_true', Bool.not_eq_true', hstart,
      isGuardedBefore_takeWhile]
    exact ⟨hbefore, hguard⟩

/-- **A free occurrence that the second look finds** was found by the first one, at a place to which
no keyword went. -/
theorem Fits.exists_mem_uses {identifier : Text} (hname : IsName identifier)
    (hkeywords : ∀ k : Keyword, identifier ≠ k.word) {before mid suf : Text}
    (hcut : content = before ++ (mid ++ suf)) {m' : Match}
    (hm' : m' ∈ (windowAt (insertInto (textAt ins) 0 content)
      (byteLength (insertInto (textAt ins) 0 before))
      (byteLength (insertInto (textAt ins) 0 (before ++ mid)))).uses identifier) :
    ∃ m ∈ (windowAt content (byteLength before) (byteLength before + byteLength mid)).uses identifier,
      textAt ins ((windowAt content (byteLength before)
        (byteLength before + byteLength mid)).position (byteLength before) m) = [] := by
  obtain ⟨tail, hw, hline⟩ := windowAt_eq before mid suf
  obtain ⟨tail', hw', hline'⟩ := h.windowAt_insertInto hcut
  rw [hw'] at hm'
  rw [← hcut] at hw
  rw [hw]
  have hcontent : content =
      before ++ (mid.takeWhile (· != '\n') ++ (mid.dropWhile (· != '\n') ++ suf)) := by
    rw [← List.append_assoc (mid.takeWhile _), List.takeWhile_append_dropWhile, hcut]
  obtain ⟨-, hfound, hfree⟩ := Window.mem_uses_iff.mp hm'
  have hchain := matchesFrom_successive (occurrence identifier) (Window.start
    ⟨(insertInto (textAt ins) 0 before).reverse.takeWhile (· != '\n'),
      insertInto (textAt ins) (byteLength before) (mid.takeWhile (· != '\n')), tail'⟩)
  have hmatch' := hchain.isMatch m' hfound
  obtain ⟨x', hread'⟩ := hchain.exists_reads m' hfound
  obtain ⟨y, hy, hstarts, hends, hbreak⟩ := reads_of_occurrence hname hmatch'
  have hword : startsWord m'.start.after = true := by
    rw [hy.after, startsWord_append_of_ne_nil (ne_nil_of_startsWord hstarts), hstarts]
  have hxbreak : endsWord x' = false := by
    rcases eq_or_ne x' [] with rfl | hx
    · rfl
    · rwa [hread'.reverse_before, endsWord_append_of_ne_nil _ hx] at hbreak
  have hxfree : ∀ k : Keyword, ¬ k.lead <:+ x' := by
    rintro k ⟨t, rfl⟩
    have hlead : isGuardedBefore k.lead.reverse = true := by cases k <;> decide
    have hguarded := isGuardedBefore_append hlead (t.reverse ++
      (insertInto (textAt ins) 0 before).reverse.takeWhile (· != '\n'))
    rw [← List.append_assoc, ← List.reverse_append] at hguarded
    rw [Window.isFree, hread'.before, Window.start, hguarded] at hfree
    cases hfree
  -- so the occurrence is at a place to which no keyword went
  obtain ⟨a, b, hinside, hnil, rfl⟩ := h.exists_place hcontent hread'.after hword hxbreak hxfree
    fun k rest hk => hkeywords k (eq_word_of_occurrence hname hmatch' hk)
  have hmid : mid ++ suf = a ++ (b ++ (mid.dropWhile (· != '\n') ++ suf)) := by
    rw [← List.append_assoc a, ← hinside, ← List.append_assoc (mid.takeWhile _),
      List.takeWhile_append_dropWhile]
  have hall : ∀ c ∈ a ++ b, (c != '\n') = true := by
    rw [← hinside]
    exact fun c hc => List.mem_takeWhile_imp (p := (· != '\n')) hc
  rw [hline, hinside, List.append_assoc] at hline'
  rw [hmid, hinside, List.append_assoc] at hline
  rw [hinside] at hm' hread' ⊢
  obtain ⟨m, hm, hread⟩ := h.mem_uses_of_place hname (hmid ▸ hcut) hall hline hline' hnil hm' hread'
  refine ⟨m, hm, ?_⟩
  rw [Window.position, Window.start, hread.textTo_eq, ← byteLength_append, hnil]

end Fits

/-! ## The second run

The moved offsets are ordered like the old ones, and two of them are equal only if the old ones
were. So the first patch at each offset is the same, and so is the end of its window. -/

/-- **The patch for the same use in the annotated text**: its offset is moved by the length of what
was inserted below it. -/
def resite (ins : List (Nat × Text)) (p : SitePatch) : SitePatch :=
  { p with offset := moved ins p.offset }

theorem ordered_map_resite (ins : List (Nat × Text)) (patches : List SitePatch) :
    ordered (patches.map (resite ins)) = (ordered patches).map (resite ins) := by
  refine (List.map_mergeSort fun a _ b _ => ?_).symm
  rw [resite, resite, decide_eq_decide]
  exact (moved_strictMono ins).le_iff_le.symm

section Fits

variable {content : Text} {ins : List (Nat × Text)} (h : Fits content ins)

include h

theorem Fits.exists_cut {e : Nat × Text} (he : e ∈ ins) :
    ∃ a b, content = a ++ b ∧ byteLength a = e.1 := by
  obtain ⟨a, b, -, hcut, hlen, -⟩ := h.uses e he
  exact ⟨a, b, hcut, hlen⟩

/-- A first part of the text ends where its end is moved to. -/
theorem Fits.byteLength_insertInto {a b : Text} (hcut : content = a ++ b) :
    byteLength (insertInto (textAt ins) 0 a) = moved ins (byteLength a) :=
  Text.byteLength_insertInto (fun _ he => h.exists_cut he) hcut

/-- **The patches that take part are the same.** -/
theorem Fits.isEffective_resite (p : SitePatch) :
    isEffective (insertInto (textAt ins) 0 content) (resite ins p) = isEffective content p := by
  have hcuts : ((insertInto (textAt ins) 0 content).splitAtByte? (moved ins p.offset)).isSome =
      (content.splitAtByte? p.offset).isSome := by
    rw [Bool.eq_iff_iff, Option.isSome_iff_exists, Option.isSome_iff_exists]
    constructor
    · rintro ⟨⟨x, y⟩, hxy⟩
      obtain ⟨hout, hlen⟩ := eq_append_of_splitAtByte? hxy
      obtain ⟨a, b, hcut, ha⟩ := exists_cut_of_moved (fun _ he => h.exists_cut he) hout hlen
      exact ⟨(a, b), splitAtByte?_eq_some_iff.mpr ⟨hcut, ha⟩⟩
    · rintro ⟨⟨a, b⟩, hab⟩
      obtain ⟨hcut, hlen⟩ := eq_append_of_splitAtByte? hab
      have hout : insertInto (textAt ins) 0 content =
          insertInto (textAt ins) 0 a ++ insertInto (textAt ins) (byteLength a) b := by
        rw [hcut, insertInto_append, Nat.zero_add]
      exact ⟨_, splitAtByte?_eq_some_iff.mpr ⟨hout, by rw [h.byteLength_insertInto hcut, hlen]⟩⟩
  rw [isEffective, isEffective, resite, hcuts]

/-- **No patch has anything left to do.** -/
theorem Fits.insertionsOf_resite {p : SitePatch} (hname : IsName p.identifier)
    (hkeywords : ∀ k : Keyword, p.identifier ≠ k.word) {before mid suf : Text}
    (hcut : content = before ++ (mid ++ suf)) (hoffset : byteLength before = p.offset) {stop : Nat}
    (hstop : stop = byteLength before + byteLength mid)
    (hdone : ∀ e ∈ insertionsOf content p stop, e ∈ ins) :
    insertionsOf (insertInto (textAt ins) 0 content) (resite ins p) (moved ins stop) = [] := by
  have hstart := h.byteLength_insertInto hcut
  have hend := h.byteLength_insertInto (a := before ++ mid) (b := suf)
    (by rw [hcut, List.append_assoc])
  rw [byteLength_append, ← hstop] at hend
  rw [hoffset] at hstart
  rw [insertionsOf, resite]
  cases hkeyword : p.keyword with
  | none => rfl
  | some keyword =>
      refine List.eq_nil_iff_forall_not_mem.mpr fun e he => ?_
      obtain ⟨m', hm', -⟩ := List.mem_map.mp he
      rw [← hend, ← hstart] at hm'
      obtain ⟨m, hm, hnil⟩ := h.exists_mem_uses hname hkeywords hcut hm'
      rw [← hstop, hoffset] at hm hnil
      -- its keyword was put there by the first run
      have hmem : ((windowAt content p.offset stop).position p.offset m, keyword.lead) ∈ ins := by
        refine hdone _ ?_
        rw [insertionsOf, hkeyword]
        exact List.mem_map_of_mem hm
      have hlead : keyword.lead ≠ [] := by cases keyword <;> decide
      exact textAt_ne_nil hmem hlead hnil

/-- **A sweep over the moved patches makes no insertion.** -/
theorem Fits.sweep_resite {patches : List SitePatch} {pre suf : Text} (hcut : content = pre ++ suf)
    (heffective : ∀ p ∈ patches, isEffective content p = true)
    (hnames : ∀ p ∈ patches, IsName p.identifier ∧ ∀ k : Keyword, p.identifier ≠ k.word)
    (hsorted : patches.Pairwise fun a b => b.offset ≤ a.offset)
    (hle : ∀ p ∈ patches, p.offset ≤ byteLength pre)
    (hdone : ∀ e ∈ sweep content (byteLength pre) patches, e ∈ ins) :
    sweep (insertInto (textAt ins) 0 content) (moved ins (byteLength pre))
      (patches.map (resite ins)) = [] := by
  -- From the last site down, as the sweep goes: the text before a site is the same for all that
  -- remain.
  induction patches generalizing pre suf with
  | nil => rfl
  | cons p rest ih =>
      obtain ⟨hfirst, hrest⟩ := List.pairwise_cons.mp hsorted
      obtain ⟨hname, hkeywords⟩ := hnames p List.mem_cons_self
      obtain ⟨keyword, before, after, -, hcontent, hoffset⟩ :=
        SitePatch.exists_cut (heffective p List.mem_cons_self)
      obtain ⟨mid, rfl, rfl⟩ := exists_of_byteLength_le (hcontent.symm.trans hcut)
        (hoffset ▸ hle p List.mem_cons_self)
      have hwindow := h.insertionsOf_resite hname hkeywords hcontent hoffset (byteLength_append _ _)
        fun e he => hdone e (List.mem_append_right _ he)
      have hlower := ih hcontent (fun q hq => heffective q (List.mem_cons_of_mem p hq))
        (fun q hq => hnames q (List.mem_cons_of_mem p hq)) hrest (fun q hq => hoffset ▸ hfirst q hq)
        fun e he => hdone e (List.mem_append_left _ (hoffset ▸ he))
      rw [hoffset] at hlower
      rw [List.map_cons, sweep, hwindow, List.append_nil]
      exact hlower

/-- The moved patches find nothing to do. -/
theorem Fits.applyAll_map_resite {patches : List SitePatch}
    (hnames : ∀ p ∈ patches, IsName p.identifier ∧ ∀ k : Keyword, p.identifier ≠ k.word)
    (hperm : (sweep content content.byteLength
      ((ordered patches).filter (isEffective content))).Perm ins) :
    applyAll (insertInto (textAt ins) 0 content) (patches.map (resite ins)) =
      (insertInto (textAt ins) 0 content, 0) := by
  have hreached := reached_sweep (insertInto (textAt ins) 0 content) (patches.map (resite ins)) (by
    intro p hp
    obtain ⟨q, hq, rfl⟩ := List.mem_map.mp hp
    exact (hnames q hq).1)
  have hlength := h.byteLength_insertInto (a := content) (b := []) (List.append_nil content).symm
  -- Moving a site keeps the order and the text behind it, so the second run has the same effective
  -- patches,
  have hsame : ((ordered patches).map (resite ins)).filter
      (isEffective (insertInto (textAt ins) 0 content)) =
        ((ordered patches).filter (isEffective content)).map (resite ins) := by
    rw [List.filter_map]
    congr 2
    funext p
    exact h.isEffective_resite p
  -- and none of them finds an occurrence that is still without a keyword.
  have hnothing : sweep (insertInto (textAt ins) 0 content)
      (byteLength (insertInto (textAt ins) 0 content))
      ((ordered (patches.map (resite ins))).filter
        (isEffective (insertInto (textAt ins) 0 content))) = [] := by
    rw [hlength, ordered_map_resite, hsame]
    exact h.sweep_resite (List.append_nil content).symm (fun p hp => (mem_effective hp).2)
      (fun p hp => hnames p (mem_effective hp).1) ((pairwise_ordered patches).filter _)
      (fun p hp => offset_le_byteLength (mem_effective hp).2) fun e he => hperm.mem_iff.mp he
  rw [hnothing] at hreached
  exact Prod.ext (hreached.output_eq.trans (insertAll_nil _)) hreached.count

end Fits

/-- **A second run with up-to-date offsets never annotates anything again.** -/
theorem applyAll_resite (content : Text) (patches : List SitePatch)
    (hnames : ∀ p ∈ patches, IsName p.identifier ∧ p.identifier ≠ "any".toList ∧
      p.identifier ≠ "some".toList) :
    applyAll content patches =
        (insertAll (insertions content patches) content, (insertions content patches).length) ∧
      applyAll (applyAll content patches).1 (patches.map (resite (insertions content patches))) =
        ((applyAll content patches).1, 0) := by
  have hkeywords : ∀ p ∈ patches, IsName p.identifier ∧ ∀ k : Keyword, p.identifier ≠ k.word := by
    intro p hp
    obtain ⟨hname, hany, hsome⟩ := hnames p hp
    refine ⟨hname, fun k => ?_⟩
    cases k with
    | any => exact hany
    | some => exact hsome
  have hnames' : ∀ p ∈ patches, IsName p.identifier := fun p hp => (hnames p hp).1
  -- The insertions of the first run, as a batch and as the sweep finds them from the right.
  have hfits := fits_insertions content patches hnames'
  have hperm := sweep_perm_insertions content patches hnames'
  have hreached := reached_sweep content patches hnames'
  have hfirst : applyAll content patches =
      (insertAll (insertions content patches) content, (insertions content patches).length) := by
    refine Prod.ext ?_ ?_
    · rw [← insertAll_perm hperm hreached.nodup]
      exact hreached.output_eq
    · rw [← hperm.length_eq]
      exact hreached.count
  refine ⟨hfirst, ?_⟩
  rw [hfirst, insertAll_eq_insertInto hfits.uses]
  exact hfits.applyAll_map_resite hkeywords hperm

/-- The two sites of a line have moved behind the keywords, and nothing is left to be done there. -/
theorem applyAll_resite_of_workerSites :
    (∀ p ∈ workerSites, IsName p.identifier ∧ p.identifier ≠ "any".toList ∧
        p.identifier ≠ "some".toList) ∧
      workerSites.map (resite (insertions workerLine workerSites)) =
        [⟨7, "Worker".toList, some .any⟩, ⟨19, "Worker".toList, some .some⟩,
          ⟨7, "Foo".toList, some .some⟩, ⟨108, "Foo".toList, some .any⟩] ∧
      applyAll "let a: any Worker, b: some Foo.Worker".toList
          [⟨7, "Worker".toList, some .any⟩, ⟨19, "Worker".toList, some .some⟩,
            ⟨7, "Foo".toList, some .some⟩, ⟨108, "Foo".toList, some .any⟩] =
        ("let a: any Worker, b: some Foo.Worker".toList, 0) := by
  have hresited : workerSites.map (resite [(18, "some ".toList), (7, "any ".toList)]) =
      [⟨7, "Worker".toList, some .any⟩, ⟨19, "Worker".toList, some .some⟩,
        ⟨7, "Foo".toList, some .some⟩, ⟨108, "Foo".toList, some .any⟩] := by
    unfold workerSites
    repeat rewrite [String.toList_ofList]
    decide
  obtain ⟨hfirst, hsecond⟩ := applyAll_resite workerLine workerSites isName_of_mem_workerSites
  rw [hfirst, insertions_workerSites, insertAll_workerLine, hresited] at hsecond
  exact ⟨isName_of_mem_workerSites, by rw [insertions_workerSites, hresited], hsecond⟩

end SwiftExistential.SitePatch
