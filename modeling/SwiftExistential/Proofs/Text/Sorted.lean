import Mathlib.Data.List.Pairwise
import SwiftExistential.Text.Basic

/-!
# Texts in order

Two kinds of sorting meet in this development, and this file has what is needed of both.

`Text.sortDistinct` lists the members of a list in strictly increasing order: the same texts
(`mem_sortDistinct`), sorted and each once (`pairwise_sortDistinct`). The lines of a build's output
and the errors of a report are sorted like this, so their order says nothing about the order in
which they were found.

Changes of a text are sorted by their place, the last one first, so that a change never moves the
place of another one that is still to be made. Changes at one place keep the order in which they
were asked for (`filter_mergeSort_of_key`): what is asked for first is done first.
-/

set_option autoImplicit false

namespace SwiftExistential.Text

/-! ## Dropping repetitions

A sorted list holds equal members next to each other, so it is enough to drop those that repeat the
one before them. The library's function for that runs with an accumulator; the equation for two
members in front is what all the proofs use. -/

private theorem eraseRepsBy_loop_eq {α : Type} (r : α → α → Bool) (xs : List α) (a : α)
    (acc : List α) :
    List.eraseRepsBy.loop r a xs acc = acc.reverse ++ List.eraseRepsBy.loop r a xs [] := by
  induction xs generalizing a acc with
  | nil => simp [List.eraseRepsBy.loop]
  | cons b rest ih =>
      rw [List.eraseRepsBy.loop, List.eraseRepsBy.loop]
      cases r a b with
      | true => exact ih a acc
      | false =>
          simp only
          rw [ih b (a :: acc), ih b [a], List.reverse_cons, List.append_assoc,
            List.reverse_singleton]

theorem eraseReps_cons_cons (a b : Text) (rest : List Text) :
    (a :: b :: rest).eraseReps =
      if a = b then (b :: rest).eraseReps else a :: (b :: rest).eraseReps := by
  by_cases h : a = b
  · subst h
    rw [if_pos rfl, List.eraseReps, List.eraseRepsBy, List.eraseRepsBy.loop, beq_self_eq_true]
    rfl
  · have hne : (a == b) = false := beq_eq_false_iff_ne.mpr h
    rw [if_neg h, List.eraseReps, List.eraseRepsBy, List.eraseRepsBy.loop, hne]
    exact eraseRepsBy_loop_eq _ rest b [a]

theorem mem_eraseReps (x : Text) (ts : List Text) : x ∈ ts.eraseReps ↔ x ∈ ts := by
  induction ts with
  | nil => rfl
  | cons a rest ih =>
      cases rest with
      | nil => rfl
      | cons b rest =>
          rw [eraseReps_cons_cons]
          split
          · rename_i h
            rw [ih, h, List.mem_cons (a := x) (b := b) (l := b :: rest), or_iff_right_of_imp]
            rintro rfl
            exact List.mem_cons_self
          · rw [List.mem_cons, ih, ← List.mem_cons]

theorem pairwise_eraseReps {ts : List Text}
    (h : ts.Pairwise fun a b => (compare a b).isLE = true) :
    ts.eraseReps.Pairwise fun a b => compare a b = .lt := by
  induction ts with
  | nil => exact .nil
  | cons a rest ih =>
      cases rest with
      | nil => exact List.pairwise_singleton _ _
      | cons b rest =>
          have htail := ih h.tail
          rw [eraseReps_cons_cons]
          split
          · exact htail
          · rename_i hne
            -- `a` is below `b`, and `b` is at most any text behind it
            refine List.pairwise_cons.mpr ⟨fun x hx => ?_, htail⟩
            have hab : (compare a b).isLE = true := List.rel_of_pairwise_cons h List.mem_cons_self
            have hlt : compare a b = .lt := by
              cases hcmp : compare a b with
              | lt => rfl
              | eq => exact absurd (Std.LawfulEqCmp.compare_eq_iff_eq.mp hcmp) hne
              | gt => rw [hcmp] at hab; cases hab
            rcases List.mem_cons.mp ((mem_eraseReps x _).mp hx) with rfl | hx
            · exact hlt
            · exact Std.TransCmp.lt_of_lt_of_isLE hlt (List.rel_of_pairwise_cons h.tail hx)

/-! ## Sorting

The results are stated for `sortDistinct` as a whole: which members it has, in which order, and when
there are none. -/

@[simp] theorem mem_sortDistinct (x : Text) (ts : List Text) : x ∈ sortDistinct ts ↔ x ∈ ts := by
  rw [sortDistinct, mem_eraseReps, List.mem_mergeSort]

theorem pairwise_sortDistinct (ts : List Text) :
    (sortDistinct ts).Pairwise fun a b => compare a b = .lt := by
  refine pairwise_eraseReps (List.pairwise_mergeSort ?_ ?_ ts)
  · intro a b c hab hbc
    exact Std.TransCmp.isLE_trans hab hbc
  · intro a b
    have hswap : compare b a = (compare a b).swap := Std.OrientedCmp.eq_swap
    rw [hswap]
    cases compare a b <;> rfl

theorem sortDistinct_eq_nil_iff (ts : List Text) : sortDistinct ts = [] ↔ ts = [] := by
  simp only [List.eq_nil_iff_forall_not_mem, mem_sortDistinct]

/-! ## Sorting by a number, the largest first

A merge sort is stable. So the members with one number, picked out of the sorted list, are those of
the list before, in the same order. -/

section Descending

variable {α : Type} (key : α → Nat)

theorem descending_trans (a b c : α) (hab : decide (key b ≤ key a) = true)
    (hbc : decide (key c ≤ key b) = true) : decide (key c ≤ key a) = true :=
  decide_eq_true (Nat.le_trans (of_decide_eq_true hbc) (of_decide_eq_true hab))

theorem descending_total (a b : α) :
    (decide (key b ≤ key a) || decide (key a ≤ key b)) = true := by
  rw [Bool.or_eq_true, decide_eq_true_eq, decide_eq_true_eq]
  exact Nat.le_total (key b) (key a)

theorem filter_mergeSort_of_key {l : List α} {q : α → Bool} {n : Nat}
    (hq : ∀ a, q a = true → key a = n) :
    (l.mergeSort fun a b => decide (key b ≤ key a)).filter q = l.filter q := by
  have hpairwise : (l.filter q).Pairwise fun a b => decide (key b ≤ key a) = true := by
    refine List.pairwise_of_forall_mem_list fun a ha b hb => ?_
    rw [hq a (List.mem_filter.mp ha).2, hq b (List.mem_filter.mp hb).2]
    exact decide_eq_true (Nat.le_refl n)
  -- sorting is stable, so the members with the number are a sublist, and there are no others
  have hsublist : (l.filter q).Sublist (l.mergeSort fun a b => decide (key b ≤ key a)) :=
    List.sublist_mergeSort (descending_trans key) (descending_total key) hpairwise
      List.filter_sublist
  have hfiltered := hsublist.filter q
  rw [List.filter_filter] at hfiltered
  simp only [Bool.and_self] at hfiltered
  exact (hfiltered.eq_of_length (List.mergeSort_perm l _ |>.filter q).length_eq.symm).symm

end Descending

end SwiftExistential.Text
