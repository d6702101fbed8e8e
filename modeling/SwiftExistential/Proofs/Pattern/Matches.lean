import SwiftExistential.Proofs.Pattern.Ways
import SwiftExistential.Proofs.Text.Insertion
import SwiftExistential.Proofs.Text.Tokens

/-!
# Successive matches

The matches that a search finds are ways to match (`IsMatch`), and they follow one another without
overlap: each begins at or after the end of the one before it (`matchesFrom_successive`). This
relation says nothing about which matches were passed over; it is enough for all results about what
a replacement keeps.

Replacing the successive matches is done piece by piece. What each single replacement keeps is kept
by all of them (`splice_induction`), and what each brings on by one they bring on by their number
(`splice_counting`): these two lemmas are the loops of all cleanup passes. Where a replacement only
puts something before a match, replacing the successive matches of a text is an insertion at the
places where they begin (`splice_eq_insertInto`).
-/

set_option autoImplicit false

namespace SwiftExistential

open Cursor (Reads)

/-! ## Word boundaries

A boundary is a fact about the two characters beside a place. Where a text that was read begins or
ends with a word character, it says that no word goes on there. -/

namespace Cursor

open Text

variable {x : Text} {a b : Cursor}

theorem Reads.endsWord_before (h : Reads x a b) (hboundary : a.atBoundary = true)
    (hword : startsWord x = true) : endsWord a.before.reverse = false := by
  have hne : startsWord a.before ≠ startsWord a.after := bne_iff_ne.mp hboundary
  rw [h.after, startsWord_append_of_ne_nil (ne_nil_of_startsWord hword), hword, ne_eq,
    Bool.not_eq_true] at hne
  rw [endsWord_reverse, hne]

theorem Reads.atBoundary_start (h : Reads x a b) (hbefore : endsWord a.before.reverse = false)
    (hword : startsWord x = true) : a.atBoundary = true := by
  rw [endsWord_reverse] at hbefore
  have hafter : startsWord a.after = true := by
    rw [h.after, startsWord_append_of_ne_nil (ne_nil_of_startsWord hword), hword]
  exact bne_iff_ne.mpr fun heq => by simp_all [startsWord]

theorem Reads.startsWord_after (h : Reads x a b) (hboundary : b.atBoundary = true)
    (hword : endsWord x = true) : startsWord b.after = false := by
  have hne : startsWord b.before ≠ startsWord b.after := bne_iff_ne.mp hboundary
  rw [← endsWord_reverse, h.reverse_before, endsWord_append_of_ne_nil _ (ne_nil_of_endsWord hword),
    hword, ne_eq, eq_comm, Bool.not_eq_true] at hne
  exact hne

theorem Reads.atBoundary_stop (h : Reads x a b) (hafter : startsWord b.after = false)
    (hword : endsWord x = true) : b.atBoundary = true := by
  have hbefore : startsWord b.before = true := by
    rw [← endsWord_reverse, h.reverse_before,
      endsWord_append_of_ne_nil _ (ne_nil_of_endsWord hword), hword]
  exact bne_iff_ne.mpr fun heq => by simp_all [startsWord]

end Cursor

namespace Pattern

variable {p : Pattern} {c : Cursor} {m : Match}

/-! ## Found matches

A search returns the preferred way at the first place where there is one. -/

/-- A match that is one of the ways to match at its start. -/
def IsMatch (p : Pattern) (m : Match) : Prop :=
  ∃ t ∈ p.ways (.start m.start), m.stop = t.cursor ∧ m.groups = t.groups

theorem IsMatch.exists_reads (h : IsMatch p m) : ∃ x, Reads x m.start m.stop := by
  obtain ⟨t, ht, hstop, -⟩ := h
  obtain ⟨x, -, hread, -⟩ := hasRead_of_mem_ways p ht
  exact ⟨x, by rw [hstop]; exact hread⟩

theorem groupText_eq {m : Match} {i : Nat} {g : Group} {x : Text}
    (hfind : m.groups.find? (·.index == i) = some g) (hread : Reads x g.start g.stop) :
    m.groupText i = x := by
  rw [Match.groupText, Match.groupText?, Match.group?, hfind, Option.map_some, Option.getD_some,
    hread.textTo_eq]

theorem matchAt?_eq_some (h : p.matchAt? c = some m) : m.start = c ∧ IsMatch p m := by
  rw [matchAt?_eq_head?, Option.map_eq_some_iff] at h
  obtain ⟨t, ht, rfl⟩ := h
  exact ⟨rfl, t, List.mem_of_head? ht, rfl, rfl⟩

theorem findFrom?_eq_some {inRun : Bool} {before after : Text}
    (h : p.findFrom? inRun before after = some m) :
    (∃ x, Reads x ⟨before, after⟩ m.start) ∧ IsMatch p m := by
  have here {before after : Text} (h : p.matchAt? ⟨before, after⟩ = some m) :
      (∃ x, Reads x ⟨before, after⟩ m.start) ∧ IsMatch p m := by
    obtain ⟨hstart, hmatch⟩ := matchAt?_eq_some h
    exact ⟨⟨[], by rw [hstart]; exact Reads.refl _⟩, hmatch⟩
  -- `inRun` only says where no match can begin, so the induction is for any value of it
  induction after generalizing inRun before with
  | nil => exact here h
  | cons d rest ih =>
      have further {inRun : Bool} (h : p.findFrom? inRun (d :: before) rest = some m) :
          (∃ x, Reads x ⟨before, d :: rest⟩ m.start) ∧ IsMatch p m := by
        obtain ⟨⟨x, hread⟩, hmatch⟩ := ih h
        have hd : Reads [d] ⟨before, d :: rest⟩ ⟨d :: before, rest⟩ := ⟨rfl, rfl⟩
        exact ⟨⟨[d] ++ x, hd.trans hread⟩, hmatch⟩
      rw [findFrom?] at h
      split at h
      · exact further h
      · split at h
        · rename_i m' hm
          cases h
          exact here hm
        · exact further h

/-- **What a search finds** stands at or after the place where it began, and is a match. -/
theorem find?_eq_some (h : p.find? c = some m) : (∃ x, Reads x c m.start) ∧ IsMatch p m :=
  findFrom?_eq_some h

/-! ## All matches

The matches of a text are found one after the other, each search beginning where the match before it
ended. -/

/-- **Matches that follow one another** from a place on, without overlap. -/
inductive Successive (p : Pattern) : Cursor → List Match → Prop where
  | nil (c : Cursor) : Successive p c []
  | cons {c : Cursor} {x : Text} {m : Match} {ms : List Match} (start : Reads x c m.start)
      (head : IsMatch p m) (tail : Successive p m.stop ms) : Successive p c (m :: ms)

/-- Matches from a later place also follow from an earlier one. -/
theorem Successive.of_reads {x : Text} {d : Cursor} {ms : List Match} (hread : Reads x c d)
    (h : Successive p d ms) : Successive p c ms := by
  cases h with
  | nil => exact .nil c
  | cons start head tail => exact .cons (hread.trans start) head tail

theorem exists_reads_next (m : Match) : ∃ x, Reads x m.stop m.next := by
  rw [Match.next]
  split
  · exact ⟨[], Reads.refl _⟩
  · exact Reads.skip 1 m.stop

/-- **The matches that are found follow one another.** -/
theorem matchesFrom_successive (p : Pattern) (c : Cursor) : Successive p c (p.matchesFrom c) := by
  fun_induction matchesFrom p c with
  | case1 c hfind => exact .nil c
  | case2 c m hfind hlt ih =>
      obtain ⟨⟨x, hread⟩, hmatch⟩ := find?_eq_some hfind
      obtain ⟨y, hnext⟩ := exists_reads_next m
      exact .cons hread hmatch (ih.of_reads hnext)
  | case3 c m hfind hlt =>
      obtain ⟨⟨x, hread⟩, hmatch⟩ := find?_eq_some hfind
      exact .cons hread hmatch (.nil m.stop)

theorem Successive.isMatch {ms : List Match} (h : Successive p c ms) :
    ∀ m ∈ ms, IsMatch p m := by
  induction h with
  | nil => intro m hm; cases hm
  | cons start head tail ih =>
      intro m hm
      rcases List.mem_cons.mp hm with rfl | hm
      · exact head
      · exact ih m hm

/-- All matches lie in the text after the place. -/
theorem Successive.exists_reads {ms : List Match} (h : Successive p c ms) :
    ∀ m ∈ ms, ∃ x, Reads x c m.start := by
  induction h with
  | nil => intro m hm; cases hm
  | @cons c x m ms start head tail ih =>
      intro m' hm
      rcases List.mem_cons.mp hm with rfl | hm
      · exact ⟨x, start⟩
      · obtain ⟨y, hy⟩ := head.exists_reads
        obtain ⟨z, hz⟩ := ih m' hm
        exact ⟨x ++ (y ++ z), start.trans (hy.trans hz)⟩

/-! ## Replaced matches as insertions

A match is kept here, with a text put before it. An empty match would be met twice at one place, so
the pattern must read something at every match. -/

open Text

/-- Every match of the pattern has at least one character. -/
def NeverEmpty (p : Pattern) : Prop := ∀ m, IsMatch p m → ∃ x, x ≠ [] ∧ Reads x m.start m.stop

theorem Successive.pairwise {p : Pattern} (hp : NeverEmpty p) {c : Cursor} {ms : List Match}
    (h : Successive p c ms) :
    ms.Pairwise fun m m' => byteLength m'.start.after < byteLength m.start.after := by
  induction h with
  | nil => exact .nil
  | @cons c x m ms start head tail ih =>
      refine List.pairwise_cons.mpr ⟨fun m' hm' => ?_, ih⟩
      obtain ⟨y, hne, hread⟩ := hp m head
      obtain ⟨z, hnext⟩ := tail.exists_reads m' hm'
      have hpos := byteLength_pos hne
      rw [hread.after, hnext.after, byteLength_append, byteLength_append]
      omega

/-- **What each replacement brings on by one, all of them bring on by their number**, taken from the
left: behind a text that ends like the one before the match, and before the rest as it was. -/
theorem splice_counting (good : Nat → Text → Prop) {p : Pattern} {new : Match → Text} {c : Cursor}
    {ms : List Match} (h : Successive p c ms)
    (hnew : ∀ m ∈ ms, ∀ n l, endsWord l = endsWord m.start.before.reverse →
      good n (l ++ m.start.after) → good (n + 1) (l ++ new m ++ m.stop.after) ∧
        endsWord (l ++ new m) = endsWord m.stop.before.reverse)
    (n : Nat) (l : Text) (hl : endsWord l = endsWord c.before.reverse)
    (hgood : good n (l ++ c.after)) : good (n + ms.length) (l ++ splice new c ms) := by
  induction h generalizing n l with
  | nil c => exact hgood
  | @cons c x m ms start head tail ih =>
      have hx : endsWord (l ++ x) = endsWord m.start.before.reverse := by
        rw [start.reverse_before]
        exact endsWord_append_congr hl x
      rw [start.after, ← List.append_assoc] at hgood
      obtain ⟨hreplaced, hend⟩ := hnew m List.mem_cons_self n (l ++ x) hx hgood
      have hrest :=
        ih (fun m hm => hnew m (List.mem_cons_of_mem _ hm)) (n + 1) (l ++ x ++ new m) hend
        hreplaced
      rw [splice, start.textTo_eq, List.length_cons, Nat.add_comm ms.length 1, ← Nat.add_assoc]
      simpa only [List.append_assoc] using hrest

/-- **What each replacement keeps, all of them keep.** -/
theorem splice_induction (good : Text → Prop) {p : Pattern} {new : Match → Text} {c : Cursor}
    {ms : List Match} (h : Successive p c ms)
    (hnew : ∀ m ∈ ms, ∀ l, endsWord l = endsWord m.start.before.reverse →
      good (l ++ m.start.after) → good (l ++ new m ++ m.stop.after) ∧
        endsWord (l ++ new m) = endsWord m.stop.before.reverse)
    (l : Text) (hl : endsWord l = endsWord c.before.reverse) (hgood : good (l ++ c.after)) :
    good (l ++ splice new c ms) :=
  splice_counting (fun _ => good) h (fun m hm _ => hnew m hm) 0 l hl hgood

theorem splice_congr {f g : Match → Text} {c : Cursor} {ms : List Match}
    (h : ∀ m ∈ ms, f m = g m) : splice f c ms = splice g c ms := by
  induction ms generalizing c with
  | nil => rfl
  | cons m rest ih =>
      rw [splice, splice, h m List.mem_cons_self, ih fun m hm => h m (List.mem_cons_of_mem _ hm)]

/-- **Putting a text before some of the matches is an insertion** at the places where these
begin. -/
theorem splice_eq_insertInto {p : Pattern} (hp : NeverEmpty p) {c : Cursor} {ms : List Match}
    (h : Successive p c ms) (free : Match → Bool) (lead : Text) (position : Match → Nat) (n : Nat)
    (hposition : ∀ m ∈ ms, position m + byteLength m.start.after = n + byteLength c.after) :
    splice (fun m => if free m then lead ++ m.text else m.text) c ms =
      insertInto (textAt ((ms.filter free).map fun m => (position m, lead))) n c.after := by
  induction h generalizing n with
  | nil c => exact (insertInto_eq_self fun i _ _ => rfl).symm
  | @cons c x m ms start head tail ih =>
      obtain ⟨y, hne, hread⟩ := hp m head
      have hpos := byteLength_pos hne
      have hafter : c.after = x ++ y ++ m.stop.after := by
        rw [start.after, hread.after, List.append_assoc]
      have hc : byteLength c.after = byteLength (x ++ y) + byteLength m.stop.after := by
        rw [hafter, byteLength_append]
      have hm : position m = n + byteLength x := by
        have hhead := hposition m List.mem_cons_self
        rw [start.after, byteLength_append] at hhead
        omega
      have hms : ∀ m' ∈ ms, position m' + byteLength m'.start.after =
          n + byteLength (x ++ y) + byteLength m.stop.after := by
        intro m' hm'
        rw [hposition m' (List.mem_cons_of_mem _ hm'), hc, Nat.add_assoc]
      -- the other insertions are behind the end of this match
      have hlater : ∀ e ∈ (ms.filter free).map fun m => (position m, lead),
          n + byteLength (x ++ y) ≤ e.1 := by
        intro e he
        obtain ⟨m', hm', rfl⟩ := List.mem_map.mp he
        have hmem := (List.mem_filter.mp hm').1
        obtain ⟨z, hz⟩ := tail.exists_reads m' hmem
        have hsum := hms m' hmem
        rw [hz.after, byteLength_append z] at hsum
        omega
      have hrest := ih _ hms
      rw [splice, start.textTo_eq, hrest, Match.text, hread.textTo_eq, hafter, List.filter_cons]
      by_cases hfree : free m = true
      · have hinside : ∀ e ∈ [(position m, lead)], e.1 < n + byteLength (x ++ y) := by
          intro e he
          rw [List.mem_singleton.mp he, byteLength_append, hm]
          omega
        have hsplit := insertInto_textAt_append hinside hlater m.stop.after
        rw [if_pos hfree, if_pos hfree, List.map_cons, ← List.singleton_append, hsplit, hm,
          insertInto_singleton hne]
      · have hsplit := insertInto_textAt_append (n := n) (a := x ++ y)
          (fun e he => absurd he List.not_mem_nil) hlater m.stop.after
        have hkept : insertInto (textAt []) n (x ++ y) = x ++ y :=
          insertInto_eq_self fun i _ _ => textAt_nil i
        rw [List.nil_append, hkept] at hsplit
        rw [if_neg hfree, if_neg hfree, hsplit]

end Pattern

end SwiftExistential
