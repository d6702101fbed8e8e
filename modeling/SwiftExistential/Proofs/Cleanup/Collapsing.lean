import SwiftExistential.Proofs.Cleanup.Chains
import SwiftExistential.Proofs.Cleanup.Removing

/-!
# One keyword for each chain

A sweep over doubled keywords makes one keyword of two next to each other, here and there in a
chain, and the pass sweeps until nothing changes. What it makes of a text does not depend on which
keywords met first: no sweep changes what the chains are worth or what stands between them, and each
match drops one keyword (`sameBut_collapseOnce`).

So a chain becomes one keyword, `some` if all of the chain are, and every keyword but one of each
chain is counted (`collapseDoubled_chains`). A sweep over a long chain leaves about half of its
keywords, and so the number of sweeps grows with the longest chain; the bound of the loop is the
length of the text and is never met.
-/

set_option autoImplicit false

namespace SwiftExistential.Cleanup

open Pattern Text
open Cursor (Reads exists_reads_of_after)

/-! ## Two keywords that become one

A match is two keywords with spaces between them, in the middle of a text. It is compared in the cut
of the whole text, where it may be a part of a longer chain on both sides. -/

namespace Cut

variable {s s' : Cut} {d : Nat}

/-- **Two cuts that differ in surplus keywords only**, the first of them by so many more. -/
structure SameBut (d : Nat) (s s' : Cut) : Prop where
  merged : s.merged = s'.merged
  surplus : s.surplus = s'.surplus + d

@[simp] theorem surplus_merged (s : Cut) : s.merged.surplus = 0 := by
  simp [Cut.merged, Cut.surplus, Function.comp_def]

/-- What chains are worth is not changed by what stands before them. -/
theorem merged_absorb (w : Text) (s : Cut) : (s.absorb w).merged = (s.merged.absorb w).merged := by
  obtain ⟨pieces, rest⟩ := s
  cases hw : keyword? w with
  | none =>
      rw [absorb_of_keyword?_eq_none hw, absorb_of_keyword?_eq_none hw]
      cases pieces <;> simp [Cut.merged, keep, Function.comp_def]
  | some k =>
      obtain rfl := eq_word_of_keyword? hw
      rw [absorb_word, absorb_word]
      cases pieces with
      | nil => rfl
      | cons piece pieces =>
          by_cases hgap : IsSpaces piece.1 <;>
            simp [Cut.merged, join, hgap, Function.comp_def]

/-- A part adds as many surplus keywords before chains as before the keywords that they are worth.
-/
theorem surplus_absorb (w : Text) (s : Cut) :
    (s.absorb w).surplus = s.surplus + (s.merged.absorb w).surplus := by
  obtain ⟨pieces, rest⟩ := s
  cases hw : keyword? w with
  | none =>
      rw [absorb_of_keyword?_eq_none hw, absorb_of_keyword?_eq_none hw]
      cases pieces <;> simp [Cut.merged, Cut.surplus, keep, Function.comp_def]
  | some k =>
      obtain rfl := eq_word_of_keyword? hw
      rw [absorb_word, absorb_word]
      cases pieces with
      | nil => rfl
      | cons piece pieces =>
          by_cases hgap : IsSpaces piece.1
          · simp [Cut.merged, Cut.surplus, join, hgap, Function.comp_def]
            omega
          · simp [Cut.merged, Cut.surplus, join, hgap, Function.comp_def]

theorem SameBut.refl (s : Cut) : SameBut 0 s s := ⟨rfl, rfl⟩

theorem SameBut.trans {s'' : Cut} {d' : Nat} (h : SameBut d s s') (h' : SameBut d' s' s'') :
    SameBut (d + d') s s'' := by
  refine ⟨h.merged.trans h'.merged, ?_⟩
  rw [h.surplus, h'.surplus]
  omega

theorem SameBut.absorb (w : Text) (h : SameBut d s s') : SameBut d (s.absorb w) (s'.absorb w) := by
  constructor
  · rw [merged_absorb w s, merged_absorb w s', h.merged]
  · rw [surplus_absorb w s, surplus_absorb w s', h.merged, h.surplus]
    omega

/-- Parts that stand before both do not matter. -/
theorem SameBut.foldr (h : SameBut d s s') (ps : List Text) :
    SameBut d (ps.foldr Cut.absorb s) (ps.foldr Cut.absorb s') := by
  induction ps with
  | nil => exact h
  | cons w ps ih => exact ih.absorb w

/-- **Two keywords and the one that they are worth** differ in one surplus keyword. -/
theorem sameBut_merged (first second : Keyword) {x : Text} (hx : IsSpaces x) (s : Cut) :
    SameBut 1 (((s.join second).keep x).join first)
      (s.join (mergedKeyword first.word second.word)) := by
  -- Which keyword remains does not depend on the order of merging.
  have hassoc (third : Keyword) :
      mergedKeyword first.word (mergedKeyword second.word third.word).word =
        mergedKeyword (mergedKeyword first.word second.word).word third.word := by
    cases first <;> cases second <;> cases third <;> decide
  by_cases h : s.StartsSpaced
  · obtain ⟨pieces, rest⟩ := s
    cases pieces with
    | nil => exact absurd h id
    | cons piece pieces =>
        obtain ⟨gap, c⟩ := piece
        rw [join_of_startsSpaced h, join_of_startsSpaced h, keep, List.append_nil,
          join_of_startsSpaced hx]
        refine ⟨?_, ?_⟩
        · simp [Cut.merged, hassoc]
        · simp [Cut.surplus]
          omega
  · rw [join_of_not_startsSpaced h, join_of_not_startsSpaced h, keep, List.append_nil,
      join_of_startsSpaced hx]
    refine ⟨?_, ?_⟩
    · simp [Cut.merged]
    · simp [Cut.surplus]
      omega

end Cut

/-! ## Sweeps over the chains -/

theorem count_collapseOnce (t : Text) :
    (collapseOnce t).2 = (doubledKeyword.matchesFrom (.start t)).length := by
  unfold collapseOnce substitute
  refine List.countP_eq_length.mpr fun m hm => ?_
  have hmatch := (matchesFrom_successive doubledKeyword (.start t)).isMatch m hm
  have hshorter := length_merged hmatch
  rw [bne_iff_ne]
  intro heq
  rw [Pattern.replacement, Option.getD_some] at heq
  rw [heq] at hshorter
  exact Nat.lt_irrefl _ hshorter

/-- **A sweep leaves the chains worth what they were**, with all that stands between them, and drops
a surplus keyword with each match. -/
theorem sameBut_collapseOnce (t : Text) :
    Cut.SameBut (collapseOnce t).2 (cutOf (parts t)) (cutOf (parts (collapseOnce t).1)) := by
  rw [count_collapseOnce, ← Nat.zero_add (List.length _)]
  have hsuccessive := matchesFrom_successive doubledKeyword (.start t)
  refine splice_counting (fun n u => Cut.SameBut n (cutOf (parts t)) (cutOf (parts u))) hsuccessive ?_
    0 [] rfl (Cut.SameBut.refl _)
  intro m hm n l hl hgood
  have hmatch := hsuccessive.isMatch m hm
  refine ⟨?_, (faithful_doubledKeyword hmatch l hl).2⟩
  obtain ⟨first, second, x, hread, hstart, hafter, hx, hone, htwo⟩ := reads_of_doubledKeyword hmatch
  have hend := hl.trans hstart
  have hbefore : cutOf (parts (l ++ m.start.after)) = (parts l).foldr Cut.absorb
      ((((cutOf (parts m.stop.after)).join second).keep x).join first) := by
    rw [parts_append (.inl hend), cutOf_append, hread.after, List.append_assoc, List.append_assoc,
      cutOf_word_append first (startsWord_spaces hx _), cutOf_spaces_append hx,
      cutOf_word_append second hafter]
  have hnew : cutOf (parts (l ++ (mergedKeyword first.word second.word).word ++ m.stop.after)) =
      (parts l).foldr Cut.absorb
        ((cutOf (parts m.stop.after)).join (mergedKeyword first.word second.word)) := by
    rw [List.append_assoc, parts_append (.inl hend), cutOf_append, cutOf_word_append _ hafter]
  rw [Pattern.replacement, Option.getD_some, hone, htwo, hnew]
  rw [hbefore] at hgood
  exact hgood.trans ((Cut.sameBut_merged first second hx _).foldr _)

theorem Loops.sameBut {t last : Text} {total : Nat} (h : Loops collapseOnce t last total) :
    Cut.SameBut total (cutOf (parts t)) (cutOf (parts last)) := by
  induction h with
  | @stop t hunchanged =>
      have hsweep := sameBut_collapseOnce t
      rwa [hunchanged] at hsweep
  | again _ _ ih => exact (sameBut_collapseOnce _).trans ih

/-! ## The pass

After the last sweep no keyword stands behind another one, so each chain of what is left is a single
keyword. -/

theorem spans_spaces {a b : Cursor} {n : Nat} (h : Reads (spaces n) a b) :
    (plus (char ' ')).Spans a b := by
  have hmany (n : Nat) {a : Cursor} (h : Reads (List.replicate n ' ') a b) :
      Relation.ReflTransGen (char ' ').Spans a b := by
    induction n generalizing a with
    | zero => rw [h.eq_of_nil]
    | succ n ih =>
        obtain ⟨m, hfirst, hrest⟩ := Reads.exists_between (x := [' ']) h
        exact .head hfirst (ih hrest)
  obtain ⟨m, hfirst, hrest⟩ := Reads.exists_between (x := [' ']) h
  exact ⟨m, hfirst, hmany n hrest⟩

/-- **The pattern matches two whole keywords** with spaces between them. -/
theorem spans_doubledKeyword {a b : Cursor} {first second : Keyword} {n : Nat}
    (hbefore : endsWord a.before.reverse = false)
    (hread : Reads (first.word ++ (spaces n ++ second.word)) a b)
    (hafter : startsWord b.after = false) : doubledKeyword.Spans a b := by
  have hkeyword {k : Keyword} {a b : Cursor} (h : Reads k.word a b) : eitherKeyword.Spans a b := by
    have hne : [Keyword.any.word, Keyword.some.word] ≠ [] := List.cons_ne_nil _ _
    exact (spans_either_literal_iff hne).mpr ⟨k.word, by cases k <;> simp, h⟩
  obtain ⟨c, hfirst, hrest⟩ := hread.exists_between
  obtain ⟨d, hblank, hsecond⟩ := hrest.exists_between
  exact ⟨a, ⟨rfl, hfirst.atBoundary_start hbefore (startsWord_keyword first)⟩, c, hkeyword hfirst,
    d, spans_spaces hblank, b, hkeyword hsecond, rfl,
    hsecond.atBoundary_stop hafter (endsWord_keyword second)⟩

/-- Where no keyword stands behind another one, each chain is one keyword. -/
theorem merged_cutOf {t : Text} (h : doubledKeyword.occursIn t = false) :
    (cutOf (parts t)).merged = cutOf (parts t) := by
  have hlast : ∀ piece ∈ (cutOf (parts t)).pieces, (piece.1, Chain.last piece.2.worth) = piece := by
    rintro ⟨gap, c⟩ hmem
    obtain ⟨front, back, hpieces⟩ := List.append_of_mem hmem
    have hchain : (cutOf (parts t)).HasChain _ c _ := ⟨front, gap, back, hpieces, rfl, rfl⟩
    cases c with
    | last k => rw [Chain.worth_last]
    | cons k n c =>
        -- the first two keywords of a longer chain would be a match
        obtain ⟨htext, hmaximal⟩ := hasChain_cutOf_iff.mp hchain
        obtain ⟨k', r, hfirst, hr⟩ := c.exists_first hmaximal.startsWord_after
        rw [Chain.text, List.append_assoc, List.append_assoc, hfirst] at htext
        obtain ⟨a, hbefore, ha⟩ := exists_reads_of_after (a := .start t) htext.symm
        have hpair : a.after = k.word ++ (spaces n ++ k'.word) ++ r := by
          rw [ha]
          simp only [List.append_assoc]
        obtain ⟨b, hread, hb⟩ := exists_reads_of_after hpair
        have hend : endsWord a.before.reverse = false := by
          rw [hbefore.reverse_before]
          exact hmaximal.endsWord_before
        have hoccurs := occursIn_iff.mpr
          ⟨_, a, b, hbefore, spans_doubledKeyword hend hread (by rwa [hb])⟩
        rw [h] at hoccurs
        cases hoccurs
  have hpieces : (cutOf (parts t)).merged.pieces = (cutOf (parts t)).pieces :=
    (List.map_congr_left hlast).trans (List.map_id _)
  exact congrArg (Cut.mk · (cutOf (parts t)).rest) hpieces

/-- **Each chain of keywords becomes one keyword**, what it is worth, and nothing else is changed.
The text is cut at its chains that go no further, the sweeps come to an end by themselves, they
write one keyword for each chain, and they count the keywords beside one of each chain. A lone
keyword is a chain that stays as it is. -/
theorem collapseDoubled_chains (t : Text) :
    ∃ s : Cut, s.text = t ∧
      (∀ before c after, s.HasChain before c after ↔
        before ++ (c.text ++ after) = t ∧ IsMaximalChain before c after) ∧
      Loops collapseOnce t (collapseDoubled t).1 (collapseDoubled t).2 ∧
      collapseDoubled t = (s.merged.text, s.surplus) := by
  have htext (x : Text) : (cutOf (parts x)).text = x := by rw [text_cutOf, flatten_parts]
  have hloops := loops_collapseDoubled t
  have hsame := hloops.sameBut
  have hmerged := merged_cutOf hloops.occursIn_last
  refine ⟨cutOf (parts t), htext t, fun before c after => hasChain_cutOf_iff, hloops, ?_⟩
  refine Prod.ext ?_ ?_
  · show (collapseDoubled t).1 = (cutOf (parts t)).merged.text
    rw [hsame.merged, hmerged, htext]
  · show (collapseDoubled t).2 = (cutOf (parts t)).surplus
    rw [hsame.surplus, ← hmerged, Cut.surplus_merged, Nat.zero_add]

example : collapseDoubled "f(x: some any  some A, some some B)".toList =
    ("f(x: any A, some B)".toList, 3) := by
  repeat rewrite [String.toList_ofList]
  decide +kernel

end SwiftExistential.Cleanup
