import Mathlib.Logic.Relation
import SwiftExistential.Proofs.Pattern.Matches

/-!
# Where a pattern matches

`Pattern.Spans p a b` says, without the matcher, that `p` matches the text between the places `a`
and `b`. It is defined by recursion over the pattern, with no order among the ways and no bound on
the steps. The matcher is sound and complete for it: the ways to match lead to these places and to
no others (`exists_mem_ways_iff`).

So results can be stated about texts alone. A search finds the leftmost match of all, a pattern
occurs in a text if and only if it matches between two of its places (`occursIn_iff`), and the
successive matches miss none: where the pattern matches, one of them begins or is not over yet
(`exists_mem_matchesFrom`). The last result is what shows that a pass leaves nothing behind that it
should have changed.
-/

set_option autoImplicit false

namespace SwiftExistential

open Cursor (Reads)

/-! ## Places of one text

Two places of one text are ordered, and a text is read between them. Places are named by how many
characters are left behind them. -/

namespace Cursor

variable {x y : Text} {a b c : Cursor}

theorem Reads.eq_of_nil (h : Reads [] a b) : b = a := by
  obtain ⟨before, after⟩ := a
  obtain ⟨before', after'⟩ := b
  obtain ⟨hafter, hbefore⟩ := h
  simp only [List.nil_append, List.reverse_nil] at hafter hbefore
  rw [hafter, hbefore]

/-- Of two places that are reached from one, the later one is reached from the earlier one. -/
theorem Reads.of_le (ha : Reads x c a) (hb : Reads y c b) (hle : b.after.length ≤ a.after.length) :
    ∃ z, Reads z a b ∧ y = x ++ z := by
  have hafter : x ++ a.after = y ++ b.after := ha.after.symm.trans hb.after
  have hlen : x.length ≤ y.length := by
    have hsum := congrArg List.length hafter
    rw [List.length_append, List.length_append] at hsum
    omega
  obtain ⟨z, rfl⟩ : x <+: y := List.prefix_of_prefix_length_le ⟨a.after, rfl⟩
    ⟨b.after, hafter.symm⟩ hlen
  rw [List.append_assoc, List.append_cancel_left_eq] at hafter
  refine ⟨z, ⟨hafter, ?_⟩, rfl⟩
  rw [hb.before, ha.before, List.reverse_append, List.append_assoc]

/-- Reading two texts in turn passes the place between them. -/
theorem Reads.exists_between (h : Reads (x ++ y) a b) : ∃ c, Reads x a c ∧ Reads y c b := by
  refine ⟨⟨x.reverse ++ a.before, y ++ b.after⟩, ⟨?_, rfl⟩, rfl, ?_⟩
  · rw [h.after, List.append_assoc]
  · rw [h.before, List.reverse_append, List.append_assoc]

theorem exists_reads_of_after {r : Text} (h : a.after = x ++ r) : ∃ b, Reads x a b ∧ b.after = r :=
  ⟨⟨x.reverse ++ a.before, r⟩, ⟨h, rfl⟩, rfl⟩

theorem Reads.eq_of_length_eq (ha : Reads x c a) (hb : Reads y c b)
    (h : a.after.length = b.after.length) : a = b := by
  obtain ⟨z, hz, -⟩ := ha.of_le hb (Nat.le_of_eq h.symm)
  have hlen := hz.length_eq
  obtain rfl : z = [] := List.length_eq_zero_iff.mp (by omega)
  exact hz.eq_of_nil.symm

/-- Nothing can be read at the end of a text. -/
theorem Reads.eq_of_after_nil (h : Reads x a b) (hnil : a.after = []) : b = a := by
  have happend := h.after
  rw [hnil] at happend
  obtain rfl : x = [] := (List.append_eq_nil_iff.mp happend.symm).1
  exact h.eq_of_nil

end Cursor

namespace Pattern

variable {p : Pattern} {a b c : Cursor} {s t : State}

/-! ## The relation

A repetition is the reflexive and transitive closure of the relation of its pattern. -/

/-- **The places between which a pattern matches.** -/
def Spans : Pattern → Cursor → Cursor → Prop
  | nothing, a, b => b = a
  | char c, a, b => Reads [c] a b
  | one cls, a, b => ∃ c, cls.holds c = true ∧ Reads [c] a b
  | seq p q, a, b => ∃ m, p.Spans a m ∧ q.Spans m b
  | alt p q, a, b => p.Spans a b ∨ q.Spans a b
  | optional p, a, b => p.Spans a b ∨ b = a
  | star p, a, b => Relation.ReflTransGen p.Spans a b
  | plus p, a, b => ∃ m, p.Spans a m ∧ Relation.ReflTransGen p.Spans m b
  | lazyStar p, a, b => Relation.ReflTransGen p.Spans a b
  | lazyPlus p, a, b => ∃ m, p.Spans a m ∧ Relation.ReflTransGen p.Spans m b
  | group _ p, a, b => p.Spans a b
  | cluster p, a, b => p.Spans a b
  | boundary, a, b => b = a ∧ a.atBoundary = true
  | textStart, a, b => b = a ∧ a.before.isEmpty = true
  | textEnd, a, b => b = a ∧ a.after.isEmpty = true

/-- A lazy repetition has the same ways as a greedy one, in another order. -/
theorem mem_fewWays_iff {step : State → List State} {left : Text} :
    t ∈ fewWays step left s ↔ t ∈ manyWays step left s := by
  induction left generalizing s with
  | nil => exact Iff.rfl
  | cons c left ih =>
      simp only [fewWays, manyWays, List.mem_cons, List.mem_append, List.mem_flatMap, ih,
        List.mem_nil_iff, or_false]
      exact or_comm

/-! ## The ways lead to such places

Soundness, by induction over the pattern. Each constructor needs what its ways consist of, and
nothing else. -/

theorem spans_of_mem_manyWays {step : State → List State}
    (hstep : ∀ u v, v ∈ step u → p.Spans u.cursor v.cursor) {left : Text}
    (h : t ∈ manyWays step left s) : Relation.ReflTransGen p.Spans s.cursor t.cursor :=
  manyWays_induction (fun v => Relation.ReflTransGen p.Spans s.cursor v.cursor)
    (fun u v hu hv => hu.tail (hstep u v hv)) .refl h

theorem cursor_of_mem_ite {holds : Bool} (h : t ∈ if holds then [s] else []) :
    t.cursor = s.cursor ∧ holds = true := by
  cases holds with
  | true =>
      obtain rfl := List.mem_singleton.mp h
      exact ⟨rfl, rfl⟩
  | false => cases h

theorem spans_of_mem_ways (p : Pattern) (h : t ∈ p.ways s) : p.Spans s.cursor t.cursor := by
  -- Every way of a pattern is one of its spans. The converse is `exists_mem_ways`.
  induction p generalizing s t with
  | nothing => exact congrArg State.cursor (List.mem_singleton.mp h)
  | char c => exact (mem_ways_char h).1
  | one cls =>
      obtain ⟨c, hc, hread, -⟩ := mem_ways_one h
      exact ⟨c, hc, hread⟩
  | seq p q ihp ihq =>
      obtain ⟨u, hu, ht⟩ := mem_ways_seq h
      exact ⟨u.cursor, ihp hu, ihq ht⟩
  | alt p q ihp ihq => exact (List.mem_append.mp h).imp ihp ihq
  | optional p ih =>
      rcases mem_ways_optional h with h | rfl
      · exact .inl (ih h)
      · exact .inr rfl
  | star p ih => exact spans_of_mem_manyWays (fun _ _ => ih) h
  | plus p ih =>
      obtain ⟨u, hu, ht⟩ := List.mem_flatMap.mp h
      exact ⟨u.cursor, ih hu, spans_of_mem_manyWays (fun _ _ => ih) ht⟩
  | lazyStar p ih => exact spans_of_mem_manyWays (fun _ _ => ih) (mem_fewWays_iff.mp h)
  | lazyPlus p ih =>
      obtain ⟨u, hu, ht⟩ := List.mem_flatMap.mp h
      exact ⟨u.cursor, ih hu, spans_of_mem_manyWays (fun _ _ => ih) (mem_fewWays_iff.mp ht)⟩
  | group i p ih =>
      obtain ⟨u, hu, hcursor, -⟩ := mem_ways_group h
      rw [hcursor]
      exact ih hu
  | cluster p ih => exact ih h
  | boundary => exact cursor_of_mem_ite h
  | textStart => exact cursor_of_mem_ite h
  | textEnd => exact cursor_of_mem_ite h

theorem Spans.exists_reads (h : p.Spans a b) : ∃ x, Reads x a b := by
  -- a match is a chain of steps, each of which reads some text
  have many {p : Pattern} (ih : ∀ {a b}, p.Spans a b → ∃ x, Reads x a b) {a b : Cursor}
      (h : Relation.ReflTransGen p.Spans a b) : ∃ x, Reads x a b := by
    induction h with
    | refl => exact ⟨[], Reads.refl a⟩
    | tail _ hstep ihtail =>
        obtain ⟨x, hx⟩ := ihtail
        obtain ⟨y, hy⟩ := ih hstep
        exact ⟨x ++ y, hx.trans hy⟩
  have nowhere {a b : Cursor} (h : b = a) : ∃ x, Reads x a b := ⟨[], h ▸ Reads.refl _⟩
  induction p generalizing a b with
  | nothing => exact nowhere h
  | char c => exact ⟨[c], h⟩
  | one cls =>
      obtain ⟨c, -, hread⟩ := h
      exact ⟨[c], hread⟩
  | seq p q ihp ihq =>
      obtain ⟨m, hp, hq⟩ := h
      obtain ⟨x, hx⟩ := ihp hp
      obtain ⟨y, hy⟩ := ihq hq
      exact ⟨x ++ y, hx.trans hy⟩
  | alt p q ihp ihq => exact h.elim ihp ihq
  | optional p ih => exact h.elim ih nowhere
  | star p ih => exact many ih h
  | plus p ih =>
      obtain ⟨m, hp, hmany⟩ := h
      obtain ⟨x, hx⟩ := ih hp
      obtain ⟨y, hy⟩ := many ih hmany
      exact ⟨x ++ y, hx.trans hy⟩
  | lazyStar p ih => exact many ih h
  | lazyPlus p ih =>
      obtain ⟨m, hp, hmany⟩ := h
      obtain ⟨x, hx⟩ := ih hp
      obtain ⟨y, hy⟩ := many ih hmany
      exact ⟨x ++ y, hx.trans hy⟩
  | group i p ih => exact ih h
  | cluster p ih => exact ih h
  | boundary => exact nowhere h.1
  | textStart => exact nowhere h.1
  | textEnd => exact nowhere h.1

/-! ## Literals and runs

The two shapes that patterns are mostly made of, said with the text that stands there. -/

theorem spans_literal_iff {x : Text} : (literal x).Spans a b ↔ Reads x a b := by
  induction x generalizing a with
  | nil =>
      constructor
      · rintro rfl
        exact Reads.refl _
      · exact Reads.eq_of_nil
  | cons c rest ih =>
      cases rest with
      | nil => exact Iff.rfl
      | cons d rest =>
          constructor
          · rintro ⟨m, hc, hrest⟩
            exact hc.trans (ih.mp hrest)
          · intro h
            obtain ⟨m, hfirst, hrest⟩ := Reads.exists_between (x := [c]) h
            exact ⟨m, hfirst, ih.mpr hrest⟩

/-- A repeated character class matches a run of such characters. -/
theorem spans_star_one_iff {cls : CharClass} :
    (star (one cls)).Spans a b ↔ ∃ x : Text, (∀ c ∈ x, cls.holds c = true) ∧ Reads x a b := by
  constructor
  · intro h
    induction h with
    | refl => exact ⟨[], by simp, Reads.refl _⟩
    | tail _ hstep ih =>
        obtain ⟨x, hx, hread⟩ := ih
        obtain ⟨d, hd, hstep⟩ := hstep
        refine ⟨x ++ [d], ?_, hread.trans hstep⟩
        intro c hc
        rcases List.mem_append.mp hc with hc | hc
        · exact hx c hc
        · rw [List.mem_singleton.mp hc]
          exact hd
  · rintro ⟨x, hx, hread⟩
    induction x generalizing a with
    | nil =>
        rw [hread.eq_of_nil]
        exact .refl
    | cons d rest ih =>
        obtain ⟨m, hfirst, hrest⟩ := Reads.exists_between (x := [d]) hread
        exact .head ⟨d, hx d List.mem_cons_self, hfirst⟩
          (ih (fun c hc => hx c (List.mem_cons_of_mem d hc)) hrest)

theorem spans_plus_one_iff {cls : CharClass} :
    (plus (one cls)).Spans a b ↔
      ∃ c x, cls.holds c = true ∧ (∀ d ∈ x, cls.holds d = true) ∧ Reads (c :: x) a b := by
  constructor
  · rintro ⟨m, ⟨c, hc, hfirst⟩, hmany⟩
    obtain ⟨x, hx, hread⟩ := spans_star_one_iff.mp hmany
    exact ⟨c, x, hc, hx, hfirst.trans hread⟩
  · rintro ⟨c, x, hc, hx, hread⟩
    obtain ⟨m, hfirst, hrest⟩ := Reads.exists_between (x := [c]) hread
    exact ⟨m, ⟨c, hc, hfirst⟩, spans_star_one_iff.mpr ⟨x, hx, hrest⟩⟩

/-! ## Counting

The matcher of a repetition goes on only while it moves, and with a count of steps that is large
enough. A state counts the characters it has used up, so that this bound is never in the way. -/

/-- What is taken is what is no longer left. -/
def Counts (s t : State) : Prop :=
  t.taken + t.cursor.after.length = s.taken + s.cursor.after.length

theorem Counts.trans {u : State} (h : Counts s t) (h' : Counts t u) : Counts s u :=
  Eq.trans h' h

theorem counts_of_mem_take? {ok : Char → Bool} (h : t ∈ (s.take? ok).toList) : Counts s t := by
  rw [Option.mem_toList, State.take?] at h
  split at h
  · cases h
  · rename_i c rest hafter
    split at h
    · cases h
      rw [Counts, hafter, List.length_cons]
      simp only
      omega
    · cases h

theorem counts_of_mem_ways (p : Pattern) (h : t ∈ p.ways s) : Counts s t := by
  have here {holds : Bool} {s t : State} (h : t ∈ if holds then [s] else []) : Counts s t := by
    cases holds with
    | true => rw [List.mem_singleton.mp h]; exact rfl
    | false => cases h
  -- Each constructor takes as many characters as it reads; the repetitions take them round by
  -- round.
  induction p generalizing s t with
  | nothing => rw [List.mem_singleton.mp h]; exact rfl
  | char c => exact counts_of_mem_take? h
  | one cls => exact counts_of_mem_take? h
  | seq p q ihp ihq =>
      obtain ⟨u, hu, ht⟩ := mem_ways_seq h
      exact (ihp hu).trans (ihq ht)
  | alt p q ihp ihq => exact (List.mem_append.mp h).elim ihp ihq
  | optional p ih =>
      rcases mem_ways_optional h with h | rfl
      · exact ih h
      · exact rfl
  | star p ih => exact manyWays_induction (Counts s) (fun _ _ hu hv => hu.trans (ih hv)) rfl h
  | plus p ih =>
      obtain ⟨u, hu, ht⟩ := List.mem_flatMap.mp h
      exact manyWays_induction (Counts s) (fun _ _ hu hv => hu.trans (ih hv)) (ih hu) ht
  | lazyStar p ih => exact fewWays_induction (Counts s) (fun _ _ hu hv => hu.trans (ih hv)) rfl h
  | lazyPlus p ih =>
      obtain ⟨u, hu, ht⟩ := List.mem_flatMap.mp h
      exact fewWays_induction (Counts s) (fun _ _ hu hv => hu.trans (ih hv)) (ih hu) ht
  | group i p ih =>
      obtain ⟨u, hu, rfl⟩ := List.mem_map.mp h
      have hcounts : Counts s u := ih hu
      exact hcounts
  | cluster p ih => exact ih h
  | boundary => exact here h
  | textStart => exact here h
  | textEnd => exact here h

/-! ## All such places are reached

Completeness. A chain of steps may stand still for a while; the matcher leaves such steps out, so
the chain is shortened to those that move. -/

/-- A chain of steps that goes anywhere has a first step that does. -/
theorem exists_moving_step {r : Cursor → Cursor → Prop} (h : Relation.ReflTransGen r a b) :
    b = a ∨ ∃ m, r a m ∧ m ≠ a ∧ Relation.ReflTransGen r m b := by
  induction h using Relation.ReflTransGen.head_induction_on with
  | refl => exact .inl rfl
  | @head a m hstep hrest ih =>
      by_cases hm : m = a
      · subst hm
        exact ih
      · exact .inr ⟨m, hstep, hm, hrest⟩

/-- A repetition reaches every place that a chain of its steps leads to. -/
theorem exists_mem_manyWays
    (hstep : ∀ (s : State) (b : Cursor), p.Spans s.cursor b → ∃ t ∈ p.ways s, t.cursor = b)
    {left : Text} (hleft : s.cursor.after.length ≤ left.length)
    (h : Relation.ReflTransGen p.Spans s.cursor b) :
    ∃ t ∈ manyWays p.ways left s, t.cursor = b := by
  induction left generalizing s with
  | nil =>
      have hnil : s.cursor.after = [] := List.length_eq_zero_iff.mp (Nat.le_zero.mp hleft)
      obtain ⟨x, hread⟩ : ∃ x, Reads x s.cursor b := Spans.exists_reads (p := star p) h
      exact ⟨s, List.mem_singleton_self s, (hread.eq_of_after_nil hnil).symm⟩
  | cons c left ih =>
      rcases exists_moving_step h with rfl | ⟨m, hm, hne, hrest⟩
      · exact ⟨s, List.mem_append_right _ (List.mem_singleton_self s), rfl⟩
      · obtain ⟨u, hu, rfl⟩ := hstep s m hm
        obtain ⟨x, hread⟩ := hm.exists_reads
        -- the step takes at least one character, so it counts, and less is left behind it
        have hx : 0 < x.length := by
          rw [List.length_pos_iff]
          rintro rfl
          exact hne hread.eq_of_nil
        have hlen := hread.length_eq
        have hcounts := counts_of_mem_ways p hu
        rw [Counts] at hcounts
        have hpast : u.isPast s = true := decide_eq_true (by omega)
        obtain ⟨t, ht, hb⟩ := ih (s := u) (by rw [List.length_cons] at hleft; omega) hrest
        exact ⟨t, List.mem_append_left _
          (List.mem_flatMap.mpr ⟨u, List.mem_filter.mpr ⟨hu, hpast⟩, ht⟩), hb⟩

theorem exists_mem_take? {ok : Char → Bool} {d : Char} (hd : ok d = true)
    (h : Reads [d] s.cursor b) : ∃ t ∈ (s.take? ok).toList, t.cursor = b := by
  have hafter : s.cursor.after = d :: b.after := h.after
  refine ⟨⟨⟨d :: s.cursor.before, b.after⟩, s.groups, s.taken + 1⟩, ?_, ?_⟩
  · rw [Option.mem_toList, State.take?, hafter]
    simp only [hd, if_true]
  · obtain ⟨before, after⟩ := b
    have hbefore : before = d :: s.cursor.before := h.before
    rw [hbefore]

theorem exists_mem_ite {holds : Bool} (h : b = s.cursor ∧ holds = true) :
    ∃ t ∈ (if holds then [s] else []), t.cursor = b := by
  obtain ⟨rfl, rfl⟩ := h
  exact ⟨s, List.mem_singleton_self s, rfl⟩

theorem exists_mem_ways (p : Pattern) (s : State) (b : Cursor) (h : p.Spans s.cursor b) :
    ∃ t ∈ p.ways s, t.cursor = b := by
  -- The order of the ways plays no part here, so lazy repetitions are like the others.
  induction p generalizing s b with
  | nothing => exact ⟨s, List.mem_singleton_self s, h.symm⟩
  | char c => exact exists_mem_take? (beq_self_eq_true c) h
  | one cls =>
      obtain ⟨c, hc, hread⟩ := h
      exact exists_mem_take? hc hread
  | seq p q ihp ihq =>
      obtain ⟨m, hp, hq⟩ := h
      obtain ⟨u, hu, rfl⟩ := ihp s m hp
      obtain ⟨t, ht, hb⟩ := ihq u b hq
      exact ⟨t, List.mem_flatMap.mpr ⟨u, hu, ht⟩, hb⟩
  | alt p q ihp ihq =>
      rcases h with h | h
      · obtain ⟨t, ht, hb⟩ := ihp s b h
        exact ⟨t, List.mem_append_left _ ht, hb⟩
      · obtain ⟨t, ht, hb⟩ := ihq s b h
        exact ⟨t, List.mem_append_right _ ht, hb⟩
  | optional p ih =>
      rcases h with h | rfl
      · obtain ⟨t, ht, hb⟩ := ih s b h
        exact ⟨t, List.mem_append_left _ ht, hb⟩
      · exact ⟨s, List.mem_append_right _ (List.mem_singleton_self s), rfl⟩
  | star p ih => exact exists_mem_manyWays ih (Nat.le_refl _) h
  | plus p ih =>
      obtain ⟨m, hp, hmany⟩ := h
      obtain ⟨u, hu, rfl⟩ := ih s m hp
      obtain ⟨t, ht, hb⟩ := exists_mem_manyWays ih (Nat.le_refl _) hmany
      exact ⟨t, List.mem_flatMap.mpr ⟨u, hu, ht⟩, hb⟩
  | lazyStar p ih =>
      obtain ⟨t, ht, hb⟩ := exists_mem_manyWays ih (Nat.le_refl _) h
      exact ⟨t, mem_fewWays_iff.mpr ht, hb⟩
  | lazyPlus p ih =>
      obtain ⟨m, hp, hmany⟩ := h
      obtain ⟨u, hu, rfl⟩ := ih s m hp
      obtain ⟨t, ht, hb⟩ := exists_mem_manyWays ih (Nat.le_refl _) hmany
      exact ⟨t, List.mem_flatMap.mpr ⟨u, hu, mem_fewWays_iff.mpr ht⟩, hb⟩
  | group i p ih =>
      obtain ⟨t, ht, hb⟩ := ih s b h
      exact ⟨t.close i s.cursor, List.mem_map.mpr ⟨t, ht, rfl⟩, hb⟩
  | cluster p ih => exact ih s b h
  | boundary => exact exists_mem_ite h
  | textStart => exact exists_mem_ite h
  | textEnd => exact exists_mem_ite h

/-- **The ways to match lead to the places that the pattern spans**, and to no others. -/
theorem exists_mem_ways_iff {p : Pattern} {s : State} {b : Cursor} :
    (∃ t ∈ p.ways s, t.cursor = b) ↔ p.Spans s.cursor b := by
  constructor
  · rintro ⟨t, ht, rfl⟩
    exact spans_of_mem_ways p ht
  · exact exists_mem_ways p s b

/-- **A run goes on as long as it can.** -/
theorem head?_ways_plus_one {cls : CharClass} (h : ((plus (one cls)).ways s).head? = some t) :
    (∃ c x, cls.holds c = true ∧ (∀ d ∈ x, cls.holds d = true) ∧ Reads (c :: x) s.cursor t.cursor) ∧
      t.cursor.after.head?.any cls.holds = false := by
  have hspans := spans_of_mem_ways _ (List.mem_of_head? h)
  refine ⟨spans_plus_one_iff.mp hspans, Bool.eq_false_iff.mpr fun hmore => ?_⟩
  obtain ⟨d, hhead, hd⟩ := (Option.any_eq_true _ _).mp hmore
  obtain ⟨rest, hafter⟩ := List.head?_eq_some_iff.mp hhead
  -- with the next character the run would be longer
  have hfurther : (one cls).Spans t.cursor ⟨d :: t.cursor.before, rest⟩ := ⟨d, hd, hafter, rfl⟩
  obtain ⟨m, hfirst, hmany⟩ := hspans
  obtain ⟨v, hv, hvcursor⟩ := exists_mem_ways (plus (one cls)) s _ ⟨m, hfirst, hmany.tail hfurther⟩
  have hseq : ((seq (plus (one cls)) nothing).ways s).head? = some t := by
    rw [ways, show nothing.ways = fun s => [s] from rfl, List.flatMap_singleton']
    exact h
  obtain ⟨u, -, hu, hlongest⟩ := head?_ways_seq_plus_one hseq
  obtain rfl : u = t := Option.some.inj hu
  have hle := hlongest v hv (List.cons_ne_nil v [])
  rw [hvcursor, hafter, List.length_cons] at hle
  exact Nat.not_succ_le_self _ hle

theorem IsMatch.spans {m : Match} (h : IsMatch p m) : p.Spans m.start m.stop := by
  obtain ⟨t, ht, hstop, -⟩ := h
  rw [hstop]
  exact spans_of_mem_ways p ht

theorem matchAt?_eq_none_iff : p.matchAt? c = none ↔ ∀ b, ¬ p.Spans c b := by
  rw [matchAt?_eq_head?, Option.map_eq_none_iff, List.head?_eq_none_iff]
  constructor
  · intro hnil b hspans
    obtain ⟨t, ht, -⟩ := exists_mem_ways p (.start c) b hspans
    rw [hnil] at ht
    cases ht
  · intro hnone
    refine List.eq_nil_iff_forall_not_mem.mpr fun t ht => hnone t.cursor ?_
    exact spans_of_mem_ways p ht

theorem exists_matchAt?_eq_some (h : p.Spans c b) : ∃ m, p.matchAt? c = some m :=
  Option.ne_none_iff_exists'.mp fun hnone => matchAt?_eq_none_iff.mp hnone b h

/-! ## The leftmost match

The search passes over places inside a run that leads the pattern: where no match began at the start
of the run, none begins further on in it. This has to be shown before a search is known to miss
nothing. -/

/-- Where a leading run goes on, it could have begun one character earlier. -/
theorem Spans.cons_leadingRun {cls : CharClass} {d : Char} {before rest : Text}
    (hlead : p.leadingRun? = some cls) (hd : cls.holds d = true)
    (h : p.Spans ⟨d :: before, rest⟩ b) : p.Spans ⟨before, d :: rest⟩ b := by
  induction p generalizing b with
  | plus q _ =>
      cases q with
      | one cls' =>
          obtain rfl : cls' = cls := Option.some.inj hlead
          obtain ⟨m, hfirst, hmany⟩ := h
          exact ⟨⟨d :: before, rest⟩, ⟨d, hd, rfl, rfl⟩, .head hfirst hmany⟩
      | _ => cases hlead
  | seq q r ihq _ =>
      obtain ⟨m, hq, hr⟩ := h
      exact ⟨m, ihq hlead hq, hr⟩
  | group i q ih => exact ih hlead h
  | cluster q ih => exact ih hlead h
  | _ => cases hlead

/-- **A search misses no match**: what it finds does not begin behind any other match. -/
theorem findFrom?_complete {inRun : Bool} {before after : Text}
    (hrun : inRun = true → ∃ d earlier, before = d :: earlier ∧ p.leadsWith d = true ∧
      ∀ b, ¬ p.Spans ⟨earlier, d :: after⟩ b)
    {x : Text} (hread : Reads x ⟨before, after⟩ a) (hspans : p.Spans a b) :
    ∃ m, p.findFrom? inRun before after = some m ∧ a.after.length ≤ m.start.after.length := by
  induction after generalizing inRun before x with
  | nil =>
      obtain rfl := hread.eq_of_after_nil rfl
      rw [findFrom?]
      cases hmatch : p.matchAt? ⟨before, []⟩ with
      | none => exact absurd hspans (matchAt?_eq_none_iff.mp hmatch b)
      | some m => exact ⟨m, rfl, by rw [(matchAt?_eq_some hmatch).1]⟩
  | cons c rest ih =>
      -- if there is no match here, the place is further on
      have further (hnone : ∀ b, ¬ p.Spans ⟨before, c :: rest⟩ b) :
          ∃ y, Reads y ⟨c :: before, rest⟩ a := by
        cases x with
        | nil => exact absurd (hread.eq_of_nil ▸ hspans) (hnone b)
        | cons d y =>
            obtain ⟨hafter, hbefore⟩ := hread
            simp only [List.cons_append, List.cons.injEq] at hafter
            obtain ⟨rfl, hrest⟩ := hafter
            refine ⟨y, hrest, ?_⟩
            rw [hbefore, List.reverse_cons, List.append_assoc, List.singleton_append]
      rw [findFrom?]
      split
      · rename_i hskip
        obtain ⟨hinRun, hc⟩ := Bool.and_eq_true_iff.mp hskip
        obtain ⟨d, earlier, rfl, hd, hno⟩ := hrun hinRun
        obtain ⟨cls, hlead, hcls⟩ : ∃ cls, p.leadingRun? = some cls ∧ cls.holds d = true := by
          rw [leadsWith, Option.any_eq_true] at hd
          exact hd
        have hnone : ∀ b, ¬ p.Spans ⟨d :: earlier, c :: rest⟩ b :=
          fun b h => hno b (h.cons_leadingRun hlead hcls)
        obtain ⟨y, hy⟩ := further hnone
        exact ih (fun _ => ⟨c, d :: earlier, rfl, hc, hnone⟩) hy
      · cases hmatch : p.matchAt? ⟨before, c :: rest⟩ with
        | some m =>
            refine ⟨m, rfl, ?_⟩
            rw [(matchAt?_eq_some hmatch).1, hread.length_eq]
            exact Nat.le_add_left _ _
        | none =>
            have hnone := matchAt?_eq_none_iff.mp hmatch
            obtain ⟨y, hy⟩ := further hnone
            exact ih (fun hc => ⟨c, before, rfl, hc, hnone⟩) hy

theorem find?_complete {x : Text} (hread : Reads x c a) (hspans : p.Spans a b) :
    ∃ m, p.find? c = some m ∧ a.after.length ≤ m.start.after.length :=
  findFrom?_complete (fun h => by cases h) hread hspans

/-- **A pattern occurs in a text** if and only if it matches between two places of it. -/
theorem occursIn_iff {u : Text} :
    p.occursIn u = true ↔ ∃ x a b, Reads x (.start u) a ∧ p.Spans a b := by
  rw [occursIn, findIn?, Option.isSome_iff_exists]
  constructor
  · rintro ⟨m, hm⟩
    obtain ⟨⟨x, hread⟩, hmatch⟩ := find?_eq_some hm
    exact ⟨x, m.start, m.stop, hread, hmatch.spans⟩
  · rintro ⟨x, a, b, hread, hspans⟩
    obtain ⟨m, hm, -⟩ := find?_complete hread hspans
    exact ⟨m, hm⟩

/-! ## Successive matches

A match that is missed would begin behind the end of one found match and before the start of the
next one, where a search has already found nothing. -/

theorem find?_of_matchAt? {m : Match} (h : p.matchAt? c = some m) :
    p.find? c = some m := by
  obtain ⟨before, after⟩ := c
  cases after with
  | nil => exact h
  | cons d rest =>
      rw [find?, findFrom?, Bool.false_and, if_neg Bool.false_ne_true, h]

theorem findFrom?_matchAt? {inRun : Bool} {before after : Text} {m : Match}
    (h : p.findFrom? inRun before after = some m) : p.matchAt? m.start = some m := by
  have here {before after : Text} (h : p.matchAt? ⟨before, after⟩ = some m) :
      p.matchAt? m.start = some m := by
    rw [(matchAt?_eq_some h).1, h]
  induction after generalizing inRun before with
  | nil => exact here h
  | cons c rest ih =>
      rw [findFrom?] at h
      split at h
      · exact ih h
      · split at h
        · rename_i m' hm
          cases h
          exact here hm
        · exact ih h

theorem exists_matchesFrom_eq_cons {m : Match} (h : p.find? c = some m) :
    ∃ ms, p.matchesFrom c = m :: ms := by
  rw [matchesFrom, h]
  simp only
  split
  · exact ⟨_, rfl⟩
  · exact ⟨[], rfl⟩

theorem matchAt?_of_mem_matchesFrom {m : Match} (h : m ∈ p.matchesFrom c) :
    p.matchAt? m.start = some m := by
  fun_induction matchesFrom p c with
  | case1 c hfind => cases h
  | case2 c m' hfind hlt ih =>
      rcases List.mem_cons.mp h with rfl | h
      · exact findFrom?_matchAt? hfind
      · exact ih h
  | case3 c m' hfind hlt =>
      rw [List.mem_singleton.mp h]
      exact findFrom?_matchAt? hfind

theorem next_eq_stop {m : Match} {x : Text} (hne : x ≠ []) (hread : Reads x m.start m.stop) :
    m.next = m.stop := by
  have hpos := List.length_pos_iff.mpr hne
  have hlen := hread.length_eq
  rw [Match.next, if_pos (by omega)]

/-- **The successive matches miss none**: where the pattern matches, one of them begins or is not
over yet. -/
theorem exists_mem_matchesFrom (hp : NeverEmpty p) {x : Text} (hread : Reads x c a)
    (hspans : p.Spans a b) :
    ∃ m ∈ p.matchesFrom c, (∃ y, Reads y m.start a) ∧ ∃ z, z ≠ [] ∧ Reads z a m.stop := by
  fun_induction matchesFrom p c generalizing x with
  | case1 c hfind =>
      obtain ⟨m, hm, -⟩ := find?_complete hread hspans
      rw [hfind] at hm
      cases hm
  | case2 c m hfind hlt ih =>
      obtain ⟨⟨y, hstart⟩, hmatch⟩ := find?_eq_some hfind
      obtain ⟨w, hne, hstop⟩ := hp m hmatch
      obtain ⟨m', hm', hle⟩ := find?_complete hread hspans
      obtain rfl : m = m' := Option.some.inj (hfind.symm.trans hm')
      obtain ⟨v, hv, -⟩ := hstart.of_le hread hle
      by_cases hover : m.stop.after.length < a.after.length
      · obtain ⟨z, hz, -⟩ := hread.of_le (hstart.trans hstop) (Nat.le_of_lt hover)
        refine ⟨m, List.mem_cons_self, ⟨v, hv⟩, z, ?_, hz⟩
        rintro rfl
        rw [hz.eq_of_nil] at hover
        exact Nat.lt_irrefl _ hover
      · obtain ⟨z, hz, -⟩ := (hstart.trans hstop).of_le hread (Nat.le_of_not_lt hover)
        rw [next_eq_stop hne hstop] at ih
        obtain ⟨m', hm', hplace⟩ := ih hz
        exact ⟨m', List.mem_cons_of_mem _ (by rwa [next_eq_stop hne hstop]), hplace⟩
  | case3 c m hfind hlt =>
      obtain ⟨⟨y, hstart⟩, hmatch⟩ := find?_eq_some hfind
      obtain ⟨w, hne, hstop⟩ := hp m hmatch
      -- a match is not empty, so the search always goes on behind it
      have hpos := List.length_pos_iff.mpr hne
      have hlen := hstart.length_eq
      have hlen' := hstop.length_eq
      rw [next_eq_stop hne hstop] at hlt
      omega

/-- Where the pattern matches, a match begins there, or one reads over the character before. -/
theorem exists_match_at_or_over (hp : NeverEmpty p) {x : Text} (hread : Reads x c a)
    (hspans : p.Spans a b) :
    ∃ m ∈ p.matchesFrom c, m.start = a ∨
      ∃ y d z, a.before.head? = some d ∧ Reads (y ++ [d]) m.start a ∧ Reads z a m.stop := by
  obtain ⟨m, hm, ⟨y, hy⟩, z, -, hz⟩ := exists_mem_matchesFrom hp hread hspans
  refine ⟨m, hm, ?_⟩
  rcases List.eq_nil_or_concat y with rfl | ⟨y, d, rfl⟩
  · exact .inl hy.eq_of_nil.symm
  · rw [List.concat_eq_append] at hy
    refine .inr ⟨y, d, z, ?_, hy, hz⟩
    rw [hy.before, List.reverse_append]
    rfl

end Pattern

end SwiftExistential
