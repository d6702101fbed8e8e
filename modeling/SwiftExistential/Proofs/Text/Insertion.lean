import Mathlib.Algebra.GroupWithZero.Nat
import Mathlib.Data.List.Induction
import Mathlib.Data.List.Nodup
import Mathlib.Order.Monotone.Basic
import SwiftExistential.Text.Basic

/-!
# Insertions into a text

`insertAll` puts texts at byte offsets of a text, all at once: every offset refers to the text
before any change. This is what a batch of annotations is meant to do, and it is said without any
order among the annotations. The program goes another way: it makes one insertion after the other,
from the highest offset down.

To compare the two, texts that are cut at the same byte are cut at the same place, and an insertion
into two texts next to each other is an insertion into both (`insertInto_append`). An insertion that
is made below all others leaves the part above it as it is, so the insertions can be made in turn.

The other direction is needed for a second run: where an offset of the text has gone (`moved`), and
where a cut of the text that comes out was before (`exists_cut_of_moved`).
-/

set_option autoImplicit false

namespace SwiftExistential.Text

/-! ## Cuts

A byte offset is a place of the text only between two characters. `splitAtByte?` finds this place or
nothing, and two texts with the same first bytes are cut alike. -/

@[simp] theorem byteLength_nil : byteLength [] = 0 := rfl

@[simp] theorem byteLength_cons (c : Char) (t : Text) :
    byteLength (c :: t) = c.utf8Size + byteLength t := rfl

theorem byteLength_reverse (t : Text) : byteLength t.reverse = byteLength t := by
  induction t with
  | nil => rfl
  | cons c rest ih =>
      rw [List.reverse_cons, byteLength_append, ih, byteLength_cons, byteLength_cons,
        byteLength_nil, Nat.add_zero, Nat.add_comm]

theorem byteLength_pos {t : Text} (h : t ≠ []) : 0 < byteLength t := by
  cases t with
  | nil => exact absurd rfl h
  | cons c rest =>
      have hc := c.utf8Size_pos
      rw [byteLength_cons]
      omega

theorem eq_of_byteLength_eq {a b a' b' : Text} (h : a ++ b = a' ++ b')
    (hlen : byteLength a = byteLength a') : a = a' ∧ b = b' := by
  have hcut := splitAtByte?_append a b
  rw [h, hlen, splitAtByte?_append, Option.some.injEq, Prod.mk.injEq] at hcut
  exact ⟨hcut.1.symm, hcut.2.symm⟩

/-- Of two cuts the earlier one cuts the first part of the later one. -/
theorem exists_of_byteLength_le {a b a' b' : Text} (h : a ++ b = a' ++ b')
    (hle : byteLength a ≤ byteLength a') : ∃ mid, a' = a ++ mid ∧ b = mid ++ b' := by
  rcases List.append_eq_append_iff.mp h with ⟨mid, ha, hb⟩ | ⟨mid, ha, hb⟩
  · exact ⟨mid, ha, hb⟩
  · -- the other way round the two cuts are the same
    have hmid : mid = [] := by
      by_contra hne
      have hpos := byteLength_pos hne
      rw [ha, byteLength_append] at hle
      omega
    rw [hmid, List.append_nil] at ha
    rw [hmid, List.nil_append] at hb
    exact ⟨[], by rw [List.append_nil, ha], by rw [List.nil_append, hb]⟩

/-- A text has a cut at an offset if and only if the offset is the end of a first part. -/
theorem splitAtByte?_eq_some_iff {t before after : Text} {n : Nat} :
    splitAtByte? t n = some (before, after) ↔ t = before ++ after ∧ byteLength before = n := by
  constructor
  · exact eq_append_of_splitAtByte?
  · rintro ⟨rfl, rfl⟩
    exact splitAtByte?_append before after

theorem splitAtByte?_eq_none_of_lt {t : Text} {n : Nat} (h : byteLength t < n) :
    splitAtByte? t n = none := by
  cases hcut : splitAtByte? t n with
  | none => rfl
  | some parts =>
      obtain ⟨ht, hlen⟩ : t = parts.1 ++ parts.2 ∧ byteLength parts.1 = n :=
        eq_append_of_splitAtByte? hcut
      have hsum := congrArg byteLength ht
      rw [byteLength_append] at hsum
      omega

/-- The longest first part with at most so many bytes. -/
def takeBytes : Nat → Text → Text
  | _, [] => []
  | n, c :: rest => if c.utf8Size ≤ n then c :: takeBytes (n - c.utf8Size) rest else []

theorem takeBytes_append (a b : Text) : takeBytes (byteLength a) (a ++ b) = a := by
  induction a with
  | nil =>
      cases b with
      | nil => rfl
      | cons c rest =>
          have hc := c.utf8Size_pos
          rw [List.nil_append, takeBytes, if_neg (by rw [byteLength_nil]; omega)]
  | cons c rest ih =>
      rw [List.cons_append, takeBytes, byteLength_cons, if_pos (by omega), Nat.add_sub_cancel_left,
        ih]

theorem takeBytes_of_le {n : Nat} {t : Text} (h : byteLength t ≤ n) : takeBytes n t = t := by
  induction t generalizing n with
  | nil => rfl
  | cons c rest ih =>
      rw [byteLength_cons] at h
      rw [takeBytes, if_pos (by omega), ih (by omega)]

theorem prefix_of_takeBytes (n : Nat) (t : Text) : takeBytes n t <+: t := by
  induction t generalizing n with
  | nil => exact List.prefix_rfl
  | cons c rest ih =>
      rw [takeBytes]
      split
      · exact (List.prefix_cons_inj c).mpr (ih _)
      · exact List.nil_prefix

/-! ## Insertions

`insertInto f n t` puts `f i` before the character at byte `i`, where the text `t` begins at byte
`n`. The function `f` is that of a list of insertions: all texts for one offset, in the order of the
list. -/

/-- Puts before each character the text that is given for its byte offset. The first character has
the given offset. -/
def insertInto (ins : Nat → Text) : Nat → Text → Text
  | _, [] => []
  | n, c :: rest => ins n ++ c :: insertInto ins (n + c.utf8Size) rest

/-- What a list of insertions puts at an offset. -/
def textAt (insertions : List (Nat × Text)) (n : Nat) : Text :=
  (insertions.filter (·.1 == n)).flatMap (·.2)

/-- **Makes all insertions at once.** An insertion is a byte offset of the text with the text that
goes there. -/
def insertAll (insertions : List (Nat × Text)) (t : Text) : Text :=
  insertInto (textAt insertions) 0 t ++ textAt insertions t.byteLength

example :
    insertAll [(4, "any ".toList), (0, "v: ".toList)] "[é]P".toList = "v: [é]any P".toList := by
  decide

theorem insertInto_append (ins : Nat → Text) (n : Nat) (a b : Text) :
    insertInto ins n (a ++ b) = insertInto ins n a ++ insertInto ins (n + byteLength a) b := by
  induction a generalizing n with
  | nil => rfl
  | cons c rest ih =>
      rw [List.cons_append, insertInto, insertInto, ih, byteLength_cons, Nat.add_assoc,
        List.append_assoc, List.cons_append]

theorem insertInto_congr {f g : Nat → Text} {n : Nat} {t : Text}
    (h : ∀ i, n ≤ i → i < n + byteLength t → f i = g i) : insertInto f n t = insertInto g n t := by
  induction t generalizing n with
  | nil => rfl
  | cons c rest ih =>
      have hc := c.utf8Size_pos
      rw [byteLength_cons] at h
      rw [insertInto, insertInto, h n (Nat.le_refl n) (by omega),
        ih fun i hlo hhi => h i (by omega) (by omega)]

theorem insertInto_nothing (n : Nat) (t : Text) : insertInto (fun _ => []) n t = t := by
  induction t generalizing n with
  | nil => rfl
  | cons c rest ih => rw [insertInto, ih, List.nil_append]

theorem insertInto_eq_self {f : Nat → Text} {n : Nat} {t : Text}
    (h : ∀ i, n ≤ i → i < n + byteLength t → f i = []) : insertInto f n t = t := by
  rw [insertInto_congr h, insertInto_nothing]

theorem insertInto_at_start {f : Nat → Text} {n : Nat} {t : Text} (hne : t ≠ [])
    (h : ∀ i, n < i → i < n + byteLength t → f i = []) : insertInto f n t = f n ++ t := by
  cases t with
  | nil => exact absurd rfl hne
  | cons c rest =>
      have hc := c.utf8Size_pos
      rw [byteLength_cons] at h
      rw [insertInto, insertInto_eq_self fun i hlo hhi => h i (by omega) (by omega)]

/-! ### What lists of insertions say

The order of a list matters only among insertions at one offset. A list in which no offset stands
twice can be reordered. -/

@[simp] theorem textAt_nil (n : Nat) : textAt [] n = [] := rfl

theorem textAt_cons (e : Nat × Text) (rest : List (Nat × Text)) (n : Nat) :
    textAt (e :: rest) n = (if e.1 = n then e.2 else []) ++ textAt rest n := by
  by_cases h : e.1 = n
  · simp [textAt, h]
  · simp [textAt, h]

theorem textAt_append (a b : List (Nat × Text)) (n : Nat) :
    textAt (a ++ b) n = textAt a n ++ textAt b n := by
  rw [textAt, List.filter_append, List.flatMap_append, ← textAt, ← textAt]

theorem textAt_eq_nil {insertions : List (Nat × Text)} {n : Nat}
    (h : ∀ e ∈ insertions, e.1 ≠ n) : textAt insertions n = [] := by
  have hnone : insertions.filter (·.1 == n) = [] := by
    rw [List.filter_eq_nil_iff]
    intro e he
    rw [beq_iff_eq]
    exact h e he
  rw [textAt, hnone, List.flatMap_nil]

theorem textAt_ne_nil {insertions : List (Nat × Text)} {e : Nat × Text} (he : e ∈ insertions)
    (hne : e.2 ≠ []) : textAt insertions e.1 ≠ [] := by
  rw [textAt, Ne, List.flatMap_eq_nil_iff]
  exact fun hnil => hne (hnil e (List.mem_filter.mpr ⟨he, beq_self_eq_true e.1⟩))

/-- Insertions below a cut go to the text before it, and the others to the text behind it. -/
theorem insertInto_textAt_append {low high : List (Nat × Text)} {n : Nat} {a : Text}
    (hlow : ∀ e ∈ low, e.1 < n + byteLength a) (hhigh : ∀ e ∈ high, n + byteLength a ≤ e.1)
    (b : Text) :
    insertInto (textAt (low ++ high)) n (a ++ b) =
      insertInto (textAt low) n a ++ insertInto (textAt high) (n + byteLength a) b := by
  have hbefore : insertInto (textAt (low ++ high)) n a = insertInto (textAt low) n a := by
    refine insertInto_congr fun i _ hi => ?_
    have hnone : textAt high i = [] :=
      textAt_eq_nil fun e he => Nat.ne_of_gt (Nat.lt_of_lt_of_le hi (hhigh e he))
    rw [textAt_append, hnone, List.append_nil]
  have hbehind : insertInto (textAt (low ++ high)) (n + byteLength a) b =
      insertInto (textAt high) (n + byteLength a) b := by
    refine insertInto_congr fun i hi _ => ?_
    have hnone : textAt low i = [] :=
      textAt_eq_nil fun e he => Nat.ne_of_lt (Nat.lt_of_lt_of_le (hlow e he) hi)
    rw [textAt_append, hnone, List.nil_append]
  rw [insertInto_append, hbefore, hbehind]

theorem insertInto_singleton {a b : Text} (hb : b ≠ []) (lead : Text) (n : Nat) :
    insertInto (textAt [(n + byteLength a, lead)]) n (a ++ b) = a ++ (lead ++ b) := by
  have helsewhere : ∀ i, i ≠ n + byteLength a → textAt [(n + byteLength a, lead)] i = [] := by
    intro i hi
    rw [textAt_cons, if_neg (Ne.symm hi), textAt_nil, List.append_nil]
  have hthere : textAt [(n + byteLength a, lead)] (n + byteLength a) = lead := by
    rw [textAt_cons, if_pos rfl, textAt_nil, List.append_nil]
  have hbefore : insertInto (textAt [(n + byteLength a, lead)]) n a = a :=
    insertInto_eq_self fun i _ hi => helsewhere i (Nat.ne_of_lt hi)
  rw [insertInto_append, hbefore, insertInto_at_start hb fun i hi _ => helsewhere i (by omega),
    hthere]

/-- At most one of several insertions at different offsets is at a given one. -/
theorem textAt_eq_nil_or {insertions : List (Nat × Text)} (hnodup : (insertions.map Prod.fst).Nodup)
    (n : Nat) :
    textAt insertions n = [] ∨ ∃ e ∈ insertions, e.1 = n ∧ textAt insertions n = e.2 := by
  induction insertions with
  | nil => exact .inl rfl
  | cons e rest ih =>
      rw [List.map_cons, List.nodup_cons] at hnodup
      rw [textAt_cons]
      by_cases he : e.1 = n
      · have hrest : textAt rest n = [] := by
          refine textAt_eq_nil fun e' he' hn => hnodup.1 ?_
          exact List.mem_map.mpr ⟨e', he', by rw [hn, he]⟩
        rw [if_pos he, hrest, List.append_nil]
        exact .inr ⟨e, List.mem_cons_self, he, rfl⟩
      · rw [if_neg he, List.nil_append]
        rcases ih hnodup.2 with h | ⟨e', he', hn, h⟩
        · exact .inl h
        · exact .inr ⟨e', List.mem_cons_of_mem _ he', hn, h⟩

/-- The order of insertions at different offsets does not matter. -/
theorem textAt_perm {a b : List (Nat × Text)} (h : a.Perm b) (hnodup : (a.map Prod.fst).Nodup)
    (n : Nat) : textAt a n = textAt b n := by
  -- one insertion at most is at the offset, so there is nothing to be put in order
  rcases textAt_eq_nil_or hnodup n with hnil | ⟨e, he, rfl, htext⟩
  · have hb : ((b.filter (·.1 == n)).flatMap (·.2)).Perm [] := by
      have hperm := (h.filter (·.1 == n)).flatMap_right (·.2)
      rw [← textAt, hnil] at hperm
      exact hperm.symm
    rw [hnil, textAt, hb.eq_nil]
  · have hnodup' := (h.map Prod.fst).nodup_iff.mp hnodup
    rcases textAt_eq_nil_or hnodup' e.1 with hnil | ⟨e', he', hfst, htext'⟩
    · have ha := ((h.symm.filter (·.1 == e.1)).flatMap_right (·.2))
      rw [← textAt, ← textAt, hnil] at ha
      rw [hnil, ha.nil_eq.symm]
    · have hsame : e' = e :=
        List.inj_on_of_nodup_map hnodup (h.mem_iff.mpr he') he hfst
      rw [htext, htext', hsame]

theorem insertAll_nil (t : Text) : insertAll [] t = t := by
  rw [insertAll, textAt_nil, List.append_nil, insertInto_eq_self fun i _ _ => textAt_nil i]

theorem insertAll_perm {a b : List (Nat × Text)} (h : a.Perm b)
    (hnodup : (a.map Prod.fst).Nodup) (t : Text) : insertAll a t = insertAll b t := by
  rw [insertAll, insertAll, textAt_perm h hnodup,
    insertInto_congr fun i _ _ => textAt_perm h hnodup i]

/-! ### The text that comes out

Where the text that comes out is cut, the unchanged text can be cut too, unless the cut goes through
something that was inserted. -/

theorem getLast?_insertInto (f : Nat → Text) (n : Nat) (t : Text) :
    (insertInto f n t).getLast? = t.getLast? := by
  induction t generalizing n with
  | nil => rfl
  | cons c rest ih =>
      rw [insertInto, List.getLast?_append_of_ne_nil _ (List.cons_ne_nil _ _), List.getLast?_cons,
        List.getLast?_cons, ih]

/-- **A cut of the text that comes out** lies at a character of the unchanged text, or in what was
put before it. -/
theorem exists_of_insertInto_eq_append {f : Nat → Text} {n : Nat} {t x y : Text}
    (h : insertInto f n t = x ++ y) (hy : y ≠ []) :
    ∃ a c r u v, t = a ++ c :: r ∧ f (n + byteLength a) = u ++ v ∧ x = insertInto f n a ++ u ∧
      y = v ++ c :: insertInto f (n + byteLength a + c.utf8Size) r := by
  induction t generalizing n x with
  | nil => exact absurd (List.append_eq_nil_iff.mp h.symm).2 hy
  | cons c rest ih =>
      -- The cut falls into what is inserted before `c`, or behind it and then into the rest.
      have here {u v : Text} (hf : f n = u ++ v) (hx : x = u)
          (hrest : y = v ++ c :: insertInto f (n + c.utf8Size) rest) :
          ∃ a d r u v, c :: rest = a ++ d :: r ∧ f (n + byteLength a) = u ++ v ∧
            x = insertInto f n a ++ u ∧
            y = v ++ d :: insertInto f (n + byteLength a + d.utf8Size) r :=
        ⟨[], c, rest, u, v, rfl, hf, hx, hrest⟩
      rw [insertInto] at h
      rcases List.append_eq_append_iff.mp h with ⟨v, rfl, hrest⟩ | ⟨v, hf, hrest⟩
      · cases v with
        | nil => exact here (List.append_nil _).symm (List.append_nil _) hrest.symm
        | cons d v =>
            rw [List.cons_append, List.cons.injEq] at hrest
            obtain ⟨rfl, hrest⟩ := hrest
            obtain ⟨a, d, r, u, w, rfl, hf, rfl, hy⟩ := ih hrest
            refine ⟨c :: a, d, r, u, w, rfl, ?_, ?_, ?_⟩
            · rw [byteLength_cons, ← Nat.add_assoc, hf]
            · rw [insertInto, List.append_assoc, List.cons_append]
            · rw [byteLength_cons, ← Nat.add_assoc, hy]
      · exact here hf rfl hrest

/-! ### Where an offset goes

An offset is moved by the bytes that were inserted below it. What is inserted at the offset itself
comes behind the moved place, so that the moved offset of a use is that of its keyword. -/

/-- How many bytes are inserted at the offsets that satisfy a condition. -/
def bytesWhere (ok : Nat → Bool) (insertions : List (Nat × Text)) : Nat :=
  ((insertions.filter (ok ·.1)).map fun e => byteLength e.2).sum

theorem bytesWhere_cons (ok : Nat → Bool) (e : Nat × Text) (rest : List (Nat × Text)) :
    bytesWhere ok (e :: rest) = (if ok e.1 then byteLength e.2 else 0) + bytesWhere ok rest := by
  by_cases h : ok e.1 = true
  · simp [bytesWhere, h]
  · simp [bytesWhere, h]

theorem bytesWhere_eq_zero {ok : Nat → Bool} {insertions : List (Nat × Text)}
    (h : ∀ e ∈ insertions, ok e.1 = false) : bytesWhere ok insertions = 0 := by
  have hnone : insertions.filter (ok ·.1) = [] := by
    rw [List.filter_eq_nil_iff]
    intro e he
    rw [h e he]
    exact Bool.false_ne_true
  rw [bytesWhere, hnone, List.map_nil, List.sum_nil]

/-- How many bytes are inserted below an offset. -/
def shift (insertions : List (Nat × Text)) (n : Nat) : Nat := bytesWhere (· < n) insertions

/-- **Where an offset is after the insertions.** What is inserted at the offset itself comes behind
it. -/
def moved (insertions : List (Nat × Text)) (n : Nat) : Nat := n + shift insertions n

/-- What is inserted below an offset is inserted below, at or behind a smaller one. -/
theorem shift_eq_add (insertions : List (Nat × Text)) {m n : Nat} (h : m < n) :
    shift insertions n = shift insertions m + byteLength (textAt insertions m) +
      bytesWhere (fun i => decide (m < i) && decide (i < n)) insertions := by
  induction insertions with
  | nil => rfl
  | cons e rest ih =>
      rw [shift, shift] at *
      simp only [bytesWhere_cons, textAt_cons, byteLength_append, Bool.and_eq_true,
        decide_eq_true_eq]
      rcases Nat.lt_trichotomy e.1 m with hlt | heq | hgt
      · rw [if_pos (Nat.lt_trans hlt h), if_pos hlt, if_neg (Nat.ne_of_lt hlt), if_neg (by omega),
          byteLength_nil]
        omega
      · rw [if_pos (by omega), if_neg (by omega), if_pos heq, if_neg (by omega)]
        omega
      · by_cases hn : e.1 < n
        · rw [if_pos hn, if_neg (by omega), if_neg (by omega), if_pos ⟨hgt, hn⟩, byteLength_nil]
          omega
        · rw [if_neg hn, if_neg (by omega), if_neg (by omega), if_neg (by omega), byteLength_nil]
          omega

theorem moved_strictMono (insertions : List (Nat × Text)) : StrictMono (moved insertions) := by
  intro m n h
  have hsum := shift_eq_add insertions h
  rw [moved, moved]
  omega

/-- **A first part of the text, with its insertions, ends where its end is moved to.** -/
theorem byteLength_insertInto {insertions : List (Nat × Text)} {t : Text}
    (hcuts : ∀ e ∈ insertions, ∃ u v, t = u ++ v ∧ byteLength u = e.1) {a b : Text}
    (h : t = a ++ b) :
    byteLength (insertInto (textAt insertions) 0 a) = moved insertions (byteLength a) := by
  induction a using List.reverseRecOn generalizing b with
  | nil =>
      rw [moved, shift, bytesWhere_eq_zero fun e _ => decide_eq_false (Nat.not_lt_zero e.1)]
      rfl
  | append_singleton a c ih =>
      have hcut : t = a ++ (c :: b) := by rw [h, List.append_assoc, List.singleton_append]
      have hc := c.utf8Size_pos
      -- no insertion is inside the last character
      have hnone : ∀ e ∈ insertions, e.1 ≤ byteLength a ∨ byteLength a + c.utf8Size ≤ e.1 := by
        intro e he
        obtain ⟨u, v, hu, hlen⟩ := hcuts e he
        rcases Nat.le_total e.1 (byteLength a) with hle | hle
        · exact .inl hle
        · obtain ⟨mid, rfl, hmid⟩ := exists_of_byteLength_le (hcut.symm.trans hu) (hlen ▸ hle)
          cases mid with
          | nil => exact .inl (by rw [← hlen, List.append_nil])
          | cons d mid =>
              obtain ⟨rfl, -⟩ := List.cons.inj hmid
              rw [byteLength_append, byteLength_cons] at hlen
              exact .inr (by omega)
      have hshift := shift_eq_add insertions (Nat.lt_add_of_pos_right hc : byteLength a < _)
      rw [bytesWhere_eq_zero fun e he => by
        rw [← Bool.decide_and, decide_eq_false_iff_not]
        have hsides := hnone e he
        omega] at hshift
      have hstep := ih hcut
      rw [moved] at hstep ⊢
      simp only [insertInto_append, insertInto, byteLength_append, byteLength_cons, byteLength_nil,
        Nat.zero_add, Nat.add_zero, hshift, hstep]
      omega

/-- **A cut of the text that comes out at a moved offset is a cut of the unchanged text.** -/
theorem exists_cut_of_moved {insertions : List (Nat × Text)} {t p q : Text} {n : Nat}
    (hcuts : ∀ e ∈ insertions, ∃ u v, t = u ++ v ∧ byteLength u = e.1)
    (h : insertInto (textAt insertions) 0 t = p ++ q) (hlen : byteLength p = moved insertions n) :
    ∃ a b, t = a ++ b ∧ byteLength a = n := by
  cases q with
  | nil =>
      have hall : byteLength p = moved insertions (byteLength t) := by
        rw [← byteLength_insertInto hcuts (List.append_nil t).symm, h, List.append_nil]
      exact ⟨t, [], (List.append_nil t).symm,
        (moved_strictMono insertions).injective (hall.symm.trans hlen)⟩
  | cons d q =>
      obtain ⟨a, c, r, u, v, rfl, hf, rfl, -⟩ :=
        exists_of_insertInto_eq_append h (List.cons_ne_nil d q)
      rw [byteLength_append, byteLength_insertInto hcuts rfl] at hlen
      rw [Nat.zero_add] at hf
      have hu : byteLength u ≤ byteLength (textAt insertions (byteLength a)) := by
        rw [hf, byteLength_append]
        exact Nat.le_add_right _ _
      refine ⟨a, c :: r, rfl, ?_⟩
      -- a larger offset would be behind all that is put before the character
      rcases Nat.lt_trichotomy (byteLength a) n with hlt | heq | hgt
      · have hsum := shift_eq_add insertions hlt
        rw [moved, moved] at hlen
        omega
      · exact heq
      · have hlt := moved_strictMono insertions hgt
        omega

end SwiftExistential.Text
