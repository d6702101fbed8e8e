import SwiftExistential.Proofs.SitePatch.Simultaneous
import SwiftExistential.Proofs.Text.Occurrence

/-!
# What an annotated text keeps

The keywords of a batch fit into the text (`Fits`): each goes before a word, behind a character that
a keyword can go behind, and never where the text before is a guard already. So no keyword goes into
a guard or into the constraint of a generic parameter, and the text before a place that was guarded
guards it still (`Fits.isGuardedBefore_insertInto`, `Fits.hasPart_insertInto`).

This is one half of why a second run changes nothing: what stopped an annotation in the first run
stops it in the second one too. The other half, that the new keywords stop all annotations that were
made, is in the file about the second run.
-/

set_option autoImplicit false

namespace SwiftExistential.SitePatch

open Pattern Text Unicode
open Cursor (Reads)

/-! ## Guards and lines

A guard is looked for in the text before an occurrence, no further back than the start of the line.
No guard holds a line end. -/

theorem isWord_newline : isWord '\n' = false := by decide

theorem isPrefixOf_takeWhile {ok : Char → Bool} {x : Text} (hx : ∀ c ∈ x, ok c = true) (t : Text) :
    x.isPrefixOf (t.takeWhile ok) = x.isPrefixOf t := by
  induction x generalizing t with
  | nil => rfl
  | cons d x ih =>
      cases t with
      | nil => rfl
      | cons c t =>
          rw [List.takeWhile_cons]
          by_cases hc : ok c = true
          · rw [if_pos hc, List.isPrefixOf, List.isPrefixOf,
              ih fun e he => hx e (List.mem_cons_of_mem d he)]
          · have hne : (d == c) = false := by
              rw [beq_eq_false_iff_ne]
              rintro rfl
              exact hc (hx d List.mem_cons_self)
            rw [if_neg hc]
            exact (Bool.and_eq_false_iff.mpr (.inl hne)).symm

theorem isGuardedBefore_takeWhile (t : Text) :
    isGuardedBefore (t.takeWhile (· != '\n')) = isGuardedBefore t := by
  have hline : ∀ g ∈ guardsBefore, ∀ c ∈ g.reverse, (c != '\n') = true := by decide
  rw [Bool.eq_iff_iff, isGuardedBefore, isGuardedBefore, List.any_eq_true, List.any_eq_true]
  refine exists_congr fun g => and_congr_right fun hg => ?_
  rw [isPrefixOf_takeWhile (hline g hg)]

theorem isGuardedBefore_append {x : Text} (h : isGuardedBefore x = true) (y : Text) :
    isGuardedBefore (x ++ y) = true := by
  rw [isGuardedBefore, List.any_eq_true] at h ⊢
  obtain ⟨g, hg, hstarts⟩ := h
  rw [List.isPrefixOf_iff_prefix] at hstarts
  exact ⟨g, hg, List.isPrefixOf_iff_prefix.mpr (hstarts.trans (List.prefix_append x y))⟩

/-- What is seen of the text before a place from its line. -/
theorem takeWhile_reverse_append {x : Text} (hx : ∀ c ∈ x, (c != '\n') = true) (before : Text) :
    (before ++ x).reverse.takeWhile (· != '\n') =
      x.reverse ++ before.reverse.takeWhile (· != '\n') := by
  rw [List.reverse_append, List.takeWhile_append_of_pos fun c hc => hx c (List.mem_reverse.mp hc)]

/-! ## Texts into which no keyword goes

These are the guards themselves, and the constraint of a generic parameter with its bracket and its
colon. -/

/-- **No keyword goes into this text.** -/
def Closed (g : Text) : Prop :=
  ∀ l r, g = l ++ r → l ≠ [] → r ≠ [] →
    l.getLast?.all canPrecede = false ∨ startsWord r = false ∨ isGuardedBefore l.reverse = true

theorem closed_of_mem_guardsBefore {g : Text} (hg : g ∈ guardsBefore) : Closed g := by
  have hall : ∀ g ∈ guardsBefore, ∀ i < g.length, 0 < i →
      (g.take i).getLast?.all canPrecede = false ∨ startsWord (g.drop i) = false ∨
        isGuardedBefore (g.take i).reverse = true := by decide
  rintro l r rfl hl hr
  have hpos := List.length_pos_iff.mpr hl
  have hpos' := List.length_pos_iff.mpr hr
  have hcut := hall _ hg l.length (by rw [List.length_append]; omega) hpos
  rwa [List.take_left, List.drop_left] at hcut

/-- A text in which no keyword can go behind any character. -/
theorem closed_of_joined {x : Text} (hx : ∀ c ∈ x, canPrecede c = false) : Closed x := by
  rintro l r rfl hl -
  refine .inl ?_
  rw [List.getLast?_eq_some_getLast hl, Option.all_some]
  exact hx _ (List.mem_append_left r (List.getLast_mem hl))

theorem canPrecede_eq_false {c : Char} (h : isWord c = true) : canPrecede c = false := by
  rw [canPrecede, h]
  rfl

theorem closed_constraintOf {identifier : Text} (hname : IsName identifier) :
    Closed (constraintOf identifier) := by
  intro l r h hl hr
  cases l with
  | nil => exact absurd rfl hl
  | cons d l =>
      have hcons : '<' :: (identifier ++ ": ".toList) = d :: (l ++ r) := h
      obtain ⟨rfl, hname'⟩ := List.cons.inj hcons
      rcases List.append_eq_append_iff.mp hname' with ⟨x, rfl, hx⟩ | ⟨x, hidentifier, rfl⟩
      · -- the cut is behind the name, before a colon or a blank
        have hcuts : ∀ i < 2, startsWord (": ".toList.drop i) = false := by decide
        have hlen := congrArg List.length hx
        have hpos := List.length_pos_iff.mpr hr
        have htwo : (": ".toList : Text).length = 2 := rfl
        rw [List.length_append, htwo] at hlen
        have hdrop := hcuts x.length (by omega)
        rw [show (": ".toList : Text) = x ++ r from hx, List.drop_left] at hdrop
        exact .inr (.inl hdrop)
      · cases l with
        | nil => exact .inr (.inr rfl)
        | cons e l =>
            -- the cut is inside the name
            refine .inl ?_
            rw [← List.singleton_append, List.getLast?_append_of_ne_nil _ (List.cons_ne_nil e l),
              List.getLast?_eq_some_getLast (List.cons_ne_nil e l), Option.all_some]
            refine canPrecede_eq_false (hname.2 _ ?_)
            rw [hidentifier]
            exact List.mem_append_left x (List.getLast_mem _)

/-! ## Keywords that fit

Everything about the annotated text that the second run needs follows from `Fits`, not from the loop
that made it. -/

/-- **Keywords that fit into a text**: each before a word and behind what a keyword can go behind,
no two at one place, and none where the text before guards the place. -/
structure Fits (content : Text) (ins : List (Nat × Text)) : Prop where
  uses : ∀ e ∈ ins, IsUse content e
  nodup : (ins.map Prod.fst).Nodup
  unguarded : ∀ e ∈ ins, ∀ a b, content = a ++ b → byteLength a = e.1 →
    isGuardedBefore a.reverse = false

theorem unguarded_of_mem_insertionsOf {content : Text} {p : SitePatch} {stop : Nat}
    (hp : isEffective content p = true) {e : Nat × Text}
    (he : e ∈ insertionsOf content p stop) {a b : Text} (hcut : content = a ++ b)
    (hlen : byteLength a = e.1) : isGuardedBefore a.reverse = false := by
  obtain ⟨keyword, before, after, hkeyword, hcontent, hoffset⟩ := exists_cut hp
  have hsplit := splitAtByte?_eq_some_iff.mpr ⟨hcontent, hoffset⟩
  rw [insertionsOf, hkeyword] at he
  obtain ⟨m, hm, rfl⟩ := List.mem_map.mp he
  obtain ⟨hfound, hfree⟩ := Window.mem_uses hm
  simp only [Window.position, windowAt, Window.start, hsplit, Option.getD_some] at hfound hlen
  obtain ⟨x, hread⟩ := (matchesFrom_successive _ _).exists_reads m hfound
  obtain ⟨rest, hline⟩ : x <+: after.takeWhile (· != '\n') :=
    List.IsPrefix.trans ⟨m.start.after, hread.after.symm⟩ (prefix_of_takeBytes _ _)
  have hinside : ∀ c ∈ x, (c != '\n') = true := by
    intro c hc
    refine List.mem_takeWhile_imp (p := (· != '\n')) (l := after) ?_
    rw [← hline]
    exact List.mem_append_left rest hc
  -- the text before the use ends with what the search read
  have hafter : content = (before ++ x) ++ (rest ++ after.dropWhile (· != '\n')) := by
    rw [hcontent, List.append_assoc, ← List.append_assoc x, hline, List.takeWhile_append_dropWhile]
  rw [hread.textTo_eq, ← hoffset, ← byteLength_append] at hlen
  obtain ⟨rfl, -⟩ := eq_of_byteLength_eq (hcut.symm.trans hafter) hlen
  have hbefore : m.start.before = (before ++ x).reverse.takeWhile (· != '\n') := by
    rw [takeWhile_reverse_append hinside]
    exact hread.before
  rw [Window.isFree, Bool.and_eq_true, Bool.not_eq_true', hbefore, isGuardedBefore_takeWhile]
    at hfree
  exact hfree.1

/-- **The keywords of a batch fit.** -/
theorem fits_insertions (content : Text) (patches : List SitePatch)
    (hnames : ∀ p ∈ patches, IsName p.identifier) : Fits content (insertions content patches) := by
  obtain ⟨progress, done, hreached, hperm, -⟩ := reached_applyAll content patches hnames
  refine ⟨?uses, ?nodup, ?unguarded⟩
  case uses => exact fun e he => hreached.uses e (hperm.mem_iff.mpr he)
  case nodup => exact (hperm.map Prod.fst).nodup_iff.mp hreached.nodup
  case unguarded =>
    intro e he a b hcut hlen
    obtain ⟨offset, -, he⟩ := List.mem_flatMap.mp he
    rw [insertionsAt] at he
    split at he
    · cases he
    · rename_i p hleader
      have hp := List.find?_some hleader
      exact unguarded_of_mem_insertionsOf (Bool.and_eq_true_iff.mp hp).1 he hcut hlen

section Fits

variable {content : Text} {ins : List (Nat × Text)} (h : Fits content ins)

include h

theorem Fits.textAt_inside {a g b : Text} (hcut : content = a ++ (g ++ b)) (hg : Closed g) {i : Nat}
    (hlo : byteLength a < i) (hhi : i < byteLength a + byteLength g) : textAt ins i = [] := by
  refine textAt_eq_nil fun e he hi => ?_
  obtain ⟨u, v, k, hu, hlen, -, hprevious, hword⟩ := h.uses e he
  obtain ⟨l, rfl, hl⟩ := exists_of_byteLength_le (hcut.symm.trans hu) (by omega)
  rw [byteLength_append] at hlen
  obtain ⟨r, hr, rfl⟩ : ∃ r, g = l ++ r ∧ v = r ++ b := by
    obtain ⟨r, hr, hb⟩ := exists_of_byteLength_le hl.symm (by omega)
    exact ⟨r, hr, hb⟩
  have hne : l ≠ [] := by
    rintro rfl
    rw [byteLength_nil] at hlen
    omega
  have hne' : r ≠ [] := by
    rintro rfl
    rw [hr, List.append_nil] at hhi
    omega
  rw [List.getLast?_append_of_ne_nil a hne] at hprevious
  rw [startsWord_append_of_ne_nil hne'] at hword
  -- Wherever a closed text is cut, no keyword fits: the word goes on, none starts, or one stands
  -- before it.
  rcases hg l r hr hne hne' with hjoined | hplain | hguarded
  · rw [hjoined] at hprevious
    cases hprevious
  · rw [hplain] at hword
    cases hword
  · have hfree := h.unguarded e he (a ++ l) (r ++ b) hu (by rw [byteLength_append]; omega)
    rw [List.reverse_append, isGuardedBefore_append hguarded] at hfree
    cases hfree

/-- A closed text stays as it is, behind what is put before it. -/
theorem Fits.insertInto_closed {a g b : Text} (hcut : content = a ++ (g ++ b)) (hg : Closed g)
    (hne : g ≠ []) :
    insertInto (textAt ins) (byteLength a) g = textAt ins (byteLength a) ++ g :=
  insertInto_at_start hne fun _ hlo hhi => h.textAt_inside hcut hg hlo hhi

/-- What is put at a place: nothing, or one keyword at a use. -/
theorem Fits.textAt_eq {a b : Text} (hcut : content = a ++ b) :
    textAt ins (byteLength a) = [] ∨
      ∃ k : Keyword, textAt ins (byteLength a) = k.lead ∧ a.getLast?.all canPrecede = true ∧
        startsWord b = true := by
  refine (textAt_eq_nil_or h.nodup (byteLength a)).imp_right ?_
  rintro ⟨e, he, hoffset, htext⟩
  obtain ⟨u, v, k, hu, hlen, hlead, hprevious, hword⟩ := h.uses e he
  obtain ⟨rfl, rfl⟩ := eq_of_byteLength_eq (hcut.symm.trans hu) (hoffset.symm.trans hlen.symm)
  exact ⟨k, htext.trans hlead, hprevious, hword⟩

/-- No keyword is put before a character that begins no word. -/
theorem Fits.textAt_of_not_startsWord {a b : Text} (hcut : content = a ++ b)
    (hword : startsWord b = false) : textAt ins (byteLength a) = [] := by
  rcases h.textAt_eq hcut with hnil | ⟨k, -, -, hyes⟩
  · exact hnil
  · rw [hword] at hyes
    cases hyes

/-- No keyword is put behind a word or a dot. -/
theorem Fits.textAt_of_joined {a b : Text} (hcut : content = a ++ b)
    (hprevious : a.getLast?.all canPrecede = false) : textAt ins (byteLength a) = [] := by
  rcases h.textAt_eq hcut with hnil | ⟨k, -, hyes, -⟩
  · exact hnil
  · rw [hprevious] at hyes
    cases hyes

/-- **A guarded place is still guarded.** -/
theorem Fits.isGuardedBefore_insertInto {a b : Text} (hcut : content = a ++ b)
    (hguarded : isGuardedBefore a.reverse = true) :
    isGuardedBefore (insertInto (textAt ins) 0 a).reverse = true := by
  rw [isGuardedBefore, List.any_eq_true] at hguarded ⊢
  obtain ⟨g, hg, hstarts⟩ := hguarded
  refine ⟨g, hg, ?_⟩
  rw [List.isPrefixOf_iff_prefix, List.reverse_prefix] at hstarts ⊢
  obtain ⟨a, rfl⟩ := hstarts
  have hne : g ≠ [] := by
    rintro rfl
    revert hg
    decide
  rw [insertInto_append, Nat.zero_add, h.insertInto_closed (by rw [hcut, List.append_assoc])
    (closed_of_mem_guardsBefore hg) hne, ← List.append_assoc]
  exact List.suffix_append _ g

theorem Fits.not_mem_insertInto {a x b : Text} (hcut : content = a ++ (x ++ b))
    (hx : ∀ c ∈ x, (c != '\n') = true) :
    ∀ c ∈ insertInto (textAt ins) (byteLength a) x, (c != '\n') = true := by
  have hlead : ∀ (k : Keyword), ∀ c ∈ k.lead, (c != '\n') = true := by
    intro k
    cases k <;> decide
  induction x generalizing a with
  | nil => exact fun c hc => absurd hc List.not_mem_nil
  | cons d rest ih =>
      have hrest := ih (a := a ++ [d]) (by rw [hcut, List.append_assoc]; rfl)
        fun c hc => hx c (List.mem_cons_of_mem d hc)
      rw [byteLength_append, byteLength_cons, byteLength_nil, Nat.add_zero] at hrest
      intro c hc
      rw [insertInto, List.mem_append, List.mem_cons] at hc
      rcases hc with hc | rfl | hc
      · rcases h.textAt_eq hcut with hnil | ⟨k, hk, -⟩
        · rw [hnil] at hc
          cases hc
        · exact hlead k c (hk ▸ hc)
      · exact hx c List.mem_cons_self
      · exact hrest c hc

theorem Fits.takeWhile_insertInto {a x b : Text} (hcut : content = a ++ (x ++ b)) :
    (insertInto (textAt ins) (byteLength a) x).takeWhile (· != '\n') =
      insertInto (textAt ins) (byteLength a) (x.takeWhile (· != '\n')) := by
  have hline : ∀ c ∈ x.takeWhile (· != '\n'), (c != '\n') = true :=
    fun c hc => List.mem_takeWhile_imp (p := (· != '\n')) hc
  have hx : content = a ++ (x.takeWhile (· != '\n') ++ (x.dropWhile (· != '\n') ++ b)) := by
    rw [← List.append_assoc (x.takeWhile _), List.takeWhile_append_dropWhile, hcut]
  have hend : (insertInto (textAt ins) (byteLength a + byteLength (x.takeWhile (· != '\n')))
      (x.dropWhile (· != '\n'))).takeWhile (· != '\n') = [] := by
    cases hrest : x.dropWhile (· != '\n') with
    | nil => rfl
    | cons c rest =>
        obtain rfl := eq_newline_of_dropWhile hrest
        rw [hrest] at hx
        have hnone := h.textAt_of_not_startsWord (a := a ++ x.takeWhile (· != '\n'))
          (b := '\n' :: (rest ++ b)) (by rw [hx, List.append_assoc]; rfl) isWord_newline
        rw [byteLength_append] at hnone
        rw [insertInto, hnone]
        rfl
  conv_lhs => rw [← List.takeWhile_append_dropWhile (p := (· != '\n')) (l := x), insertInto_append]
  rw [List.takeWhile_append_of_pos (h.not_mem_insertInto hx hline), hend, List.append_nil]

/-- **A line that declares a generic parameter still declares it.** -/
theorem Fits.hasPart_insertInto {identifier before after : Text} (hname : IsName identifier)
    (hcut : content = before ++ after)
    (hpart : hasPart (constraintOf identifier) (before.reverse.takeWhile (· != '\n')).reverse = true) :
    hasPart (constraintOf identifier)
      ((insertInto (textAt ins) 0 before).reverse.takeWhile (· != '\n')).reverse = true := by
  rw [hasPart_iff] at hpart ⊢
  obtain ⟨l, r, hlr⟩ := hpart
  -- The constraint stands in the part of the line before the place. It is closed, so nothing is
  -- inserted into it, and no line end comes behind it.
  obtain ⟨earlier, hbefore⟩ : ∃ earlier,
      before = earlier ++ (before.reverse.takeWhile (· != '\n')).reverse := by
    refine ⟨(before.reverse.dropWhile (· != '\n')).reverse, ?_⟩
    rw [← List.reverse_append, List.takeWhile_append_dropWhile, List.reverse_reverse]
  have hline : ∀ c ∈ (before.reverse.takeWhile (· != '\n')).reverse, (c != '\n') = true :=
    fun c hc => List.mem_takeWhile_imp (p := (· != '\n')) (List.mem_reverse.mp hc)
  rw [← hlr, List.append_assoc] at hbefore hline
  have hconstraint : constraintOf identifier ≠ [] := List.cons_ne_nil _ _
  have hkept := h.insertInto_closed (a := earlier ++ l) (b := r ++ after)
    (by rw [hcut, hbefore]; simp only [List.append_assoc]) (closed_constraintOf hname) hconstraint
  have hrest := h.not_mem_insertInto (a := earlier ++ l ++ constraintOf identifier) (x := r)
    (b := after) (by rw [hcut, hbefore]; simp only [List.append_assoc])
    fun c hc => hline c (List.mem_append_right _ (List.mem_append_right _ hc))
  have hmiddle : ∀ c ∈ constraintOf identifier ++ insertInto (textAt ins)
      (byteLength (earlier ++ l ++ constraintOf identifier)) r, (c != '\n') = true := by
    intro c hc
    rcases List.mem_append.mp hc with hc | hc
    · exact hline c (List.mem_append_right _ (List.mem_append_left _ hc))
    · exact hrest c hc
  have hout : insertInto (textAt ins) 0 before =
      (insertInto (textAt ins) 0 (earlier ++ l) ++ textAt ins (byteLength (earlier ++ l))) ++
        (constraintOf identifier ++ insertInto (textAt ins)
          (byteLength (earlier ++ l ++ constraintOf identifier)) r) := by
    conv_lhs => rw [hbefore, ← List.append_assoc, ← List.append_assoc, insertInto_append,
      insertInto_append, Nat.zero_add, Nat.zero_add, hkept]
    simp only [List.append_assoc]
  rw [hout, takeWhile_reverse_append hmiddle, List.reverse_append, List.reverse_reverse,
    ← List.append_assoc]
  exact ⟨_, _, rfl⟩

end Fits

end SwiftExistential.SitePatch
