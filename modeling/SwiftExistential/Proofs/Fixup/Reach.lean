import SwiftExistential.Proofs.Fixup.PerLine

/-!
# What is in reach of a fixup

A fixup alone changes its line and no other (`applyAll_singleton`). On the line it looks at the
matches that a search from its window on finds in turn, and takes the first one that is not behind a
keyword or a dot (`isTaken_eq_false_iff`); no other such match begins before it
(`Successive.reads_of_find?`).

This is what the files on the single kinds of fixups begin with. Each of them adds what its pattern
matches.
-/

set_option autoImplicit false

namespace SwiftExistential

open Text
open Cursor (Reads)

/-! ## Lines by number -/

namespace Text

def line? (t : Text) : Nat → Option Text
  | 0 => none
  | n + 1 => (lines t)[n]?

/-- A text with one of its lines replaced, counted from one. -/
def setLine (t : Text) (n : Nat) (line : Text) : Text :=
  join ['\n'] ((lines t).set (n - 1) line)

variable {t line : Text} {n : Nat}

theorem line?_eq_none (h : ∀ i < (lines t).length, n ≠ i + 1) : t.line? n = none := by
  cases n with
  | zero => rfl
  | succ n =>
      refine List.getElem?_eq_none (Nat.le_of_not_lt fun hlt => h n hlt rfl)

variable {earlier later : List Text}

theorem line?_of_lines_eq (h : lines t = earlier ++ line :: later) :
    t.line? (earlier.length + 1) = some line := by
  rw [line?, h, List.getElem?_append_right (Nat.le_refl _), Nat.sub_self, List.getElem?_cons_zero]

theorem eq_setLine {t' line' : Text} (h : lines t = earlier ++ line :: later)
    (h' : lines t' = earlier ++ line' :: later) : t' = t.setLine (earlier.length + 1) line' := by
  have hset : (lines t).set earlier.length line' = lines t' := by
    rw [h, h', List.set_append_right _ _ (Nat.le_refl _), Nat.sub_self, List.set_cons_zero]
  rw [setLine, Nat.add_sub_cancel, hset, lines, join_splitOn]

end Text

/-! ## Places of a line

A window begins so many characters into the line, so places are named by numbers of characters here.
-/

namespace Cursor

theorem skip_eq (n : Nat) (a : Cursor) :
    a.skip n = ⟨(a.after.take n).reverse ++ a.before, a.after.drop n⟩ := by
  induction n generalizing a with
  | zero => rfl
  | succ n ih =>
      obtain ⟨before, after⟩ := a
      cases after with
      | nil => rfl
      | cons c rest =>
          rw [skip, ih, List.take_succ_cons, List.drop_succ_cons, List.reverse_cons,
            List.append_assoc, List.singleton_append]

/-- The place behind the first characters of a text. -/
theorem skip_start (n : Nat) (t : Text) :
    (start t).skip n = ⟨(t.take n).reverse, t.drop n⟩ := by
  rw [skip_eq, start, List.append_nil]

/-- A place of a text is behind as many characters as were read. -/
theorem Reads.eq_skip {x t : Text} {a : Cursor} (h : Reads x (start t) a) :
    a = (start t).skip x.length := by
  obtain ⟨before, after⟩ := a
  obtain ⟨hafter, hbefore⟩ := h
  have ht : t = x ++ after := hafter
  have hx : before = x.reverse := by simpa [start] using hbefore
  rw [skip_start, ht, hx, List.take_left, List.drop_left]

theorem reads_skip_start (n : Nat) (t : Text) : Reads (t.take n) (start t) ((start t).skip n) := by
  rw [skip_start]
  exact ⟨(List.take_append_drop n t).symm, (List.append_nil _).symm⟩

theorem reads_skip_skip {m n : Nat} (h : m ≤ n) (t : Text) :
    Reads ((t.drop m).take (n - m)) ((start t).skip m) ((start t).skip n) := by
  obtain ⟨k, rfl⟩ := Nat.exists_eq_add_of_le h
  rw [Nat.add_sub_cancel_left, skip_start, skip_start]
  constructor
  · rw [← List.drop_drop, List.take_append_drop]
  · rw [List.take_add, List.reverse_append]

/-- Reading on from a place leads as far as the text is long that is read. -/
theorem Reads.eq_skip_add {n : Nat} {x t : Text} {a : Cursor} (h : Reads x ((start t).skip n) a)
    (hle : n ≤ t.length) : a = (start t).skip (n + x.length) := by
  have hplace := ((reads_skip_start n t).trans h).eq_skip
  rwa [List.length_append, List.length_take_of_le hle] at hplace

/-- A place that is reached and is not the end has a number of characters before it. -/
theorem Reads.exists_eq_skip {n : Nat} {x t : Text} {a : Cursor}
    (h : Reads x ((start t).skip n) a) (hne : a.after ≠ []) :
    ∃ i, n ≤ i ∧ i < t.length ∧ a = (start t).skip i := by
  have hlen := h.length_eq
  have hpos := List.length_pos_iff.mpr hne
  rw [skip_start, List.length_drop] at hlen
  exact ⟨n + x.length, Nat.le_add_right _ _, by omega, h.eq_skip_add (by omega)⟩

end Cursor

namespace Pattern

variable {p : Pattern} {c : Cursor} {m m' : Match} {ms : List Match}

/-- **The first match of a kind** comes before all others of this kind. -/
theorem Successive.reads_of_find? (h : Successive p c ms) {ok : Match → Bool}
    (hfind : ms.find? ok = some m) (hmem : m' ∈ ms) (hok : ok m' = true) :
    m' = m ∨ ∃ x, Reads x m.stop m'.start := by
  induction h with
  | nil c => cases hmem
  | @cons c x first ms start head tail ih =>
      rw [List.find?_cons] at hfind
      cases hfirst : ok first with
      | true =>
          rw [hfirst] at hfind
          obtain rfl : first = m := Option.some.inj hfind
          rcases List.mem_cons.mp hmem with rfl | hmem
          · exact .inl rfl
          · exact .inr (tail.exists_reads m' hmem)
      | false =>
          rw [hfirst] at hfind
          rcases List.mem_cons.mp hmem with rfl | hmem
          · rw [hok] at hfirst
            cases hfirst
          · exact ih hfind hmem

end Pattern

namespace Fixup

open Pattern

variable {fixup : Fixup} {t line : Text}

/-- Where the window of a fixup begins: twenty characters before its column, both counted from zero.
-/
def windowStart (fixup : Fixup) : Nat := fixup.column.elim 0 fun column => column - 21

theorem skipped_eq (fixup : Fixup) : fixup.skipped = fixup.windowStart := by
  rw [skipped, windowStart]
  cases fixup.column <;> rfl

/-- The texts directly behind which nothing is changed. -/
def takenEnds : List Text := ["any ".toList, "some ".toList, ".".toList]

theorem isTaken_eq_false_iff {before : Text} :
    isTaken before.reverse = false ↔ ∀ ending ∈ takenEnds, ¬ ending <:+ before := by
  rw [isTaken, takenEnds, List.any_eq_false]
  simp only [List.isPrefixOf_iff_prefix, List.reverse_prefix]

/-- **A fixup alone** changes its line if the line is there and has an acceptable match, and nothing
else. -/
theorem applyAll_singleton (fixup : Fixup) (t : Text) :
    applyAll t [fixup] =
      match t.line? fixup.line with
      | none => (t, 0)
      | some line =>
          if fixup.fits line then (t.setLine fixup.line (fixup.onLine line), 1) else (t, 0) := by
  have hone : applyAll t [fixup] =
      ((fixup.apply t).1, if (fixup.apply t).2 then 1 else 0) := by
    rw [applyAll, List.mergeSort_singleton]
    rfl
  rw [hone]
  rcases fixup.exists_lines_apply t with
    ⟨hother, happly⟩ | ⟨earlier, line, later, ht, hline, ht', hfits⟩
  · rw [happly, line?_eq_none hother]
    rfl
  · rw [hfits, hline, line?_of_lines_eq ht]
    by_cases hfit : fixup.fits line = true
    · simp only [if_pos hfit, eq_setLine ht ht']
    -- A fixup that does not fit leaves its line, and the line is put back as it was.
    · have hsame : fixup.onLine line = line := by
        rw [fits, Option.not_isSome_iff_eq_none] at hfit
        rw [onLine, hfit]
      rw [hsame, ← ht] at ht'
      have htext : (fixup.apply t).1 = t := by
        rw [← join_splitOn '\n' (fixup.apply t).1, ← lines, ht', lines, join_splitOn]
      simp only [if_neg hfit, htext]

end Fixup

end SwiftExistential
