import SwiftExistential.Pattern.Search

/-!
# What a match reads

The matcher computes the ways to match a pattern at a place, the preferred one first. All that is
known about a match comes from this list. `Cursor.Reads x a b` says that the text `x` stands between
the places `a` and `b`, and each way to match a pattern reads some text (`hasRead_of_mem_ways`). For
the parts that patterns are built of, this file says which texts these are and which groups are
remembered; a pattern of the program is then taken apart into its parts, from the left.

The order of the ways tells which one is preferred. It is needed in one place only: a run that can
be longer or shorter is as long as possible among those behind which the rest of the pattern matches
(`head?_ways_seq_plus_one`).
-/

set_option autoImplicit false

namespace SwiftExistential

/-! ## Reading

A place holds the text before it, the nearest character first, and the text behind it. So a text
that is read moves from one to the other. -/

namespace Cursor

/-- **The text `x` stands between the places `a` and `b`.** -/
structure Reads (x : Text) (a b : Cursor) : Prop where
  after : a.after = x ++ b.after
  before : b.before = x.reverse ++ a.before

variable {x y : Text} {a b c : Cursor}

theorem Reads.refl (a : Cursor) : Reads [] a a := ⟨rfl, rfl⟩

theorem Reads.trans (h : Reads x a b) (h' : Reads y b c) : Reads (x ++ y) a c := by
  constructor
  · rw [h.after, h'.after, List.append_assoc]
  · rw [h'.before, h.before, List.reverse_append, List.append_assoc]

theorem Reads.reverse_before (h : Reads x a b) : b.before.reverse = a.before.reverse ++ x := by
  rw [h.before, List.reverse_append, List.reverse_reverse]

theorem Reads.textTo_eq (h : Reads x a b) : a.textTo b = x := by
  rw [textTo, h.after, List.length_append, Nat.add_sub_cancel, List.take_left]

theorem Reads.length_eq (h : Reads x a b) : a.after.length = x.length + b.after.length := by
  rw [h.after, List.length_append]

theorem Reads.skip (n : Nat) (a : Cursor) : ∃ x, Reads x a (a.skip n) := by
  induction n generalizing a with
  | zero => exact ⟨[], Reads.refl a⟩
  | succ n ih =>
      obtain ⟨before, after⟩ := a
      cases after with
      | nil => exact ⟨[], Reads.refl _⟩
      | cons c rest =>
          obtain ⟨x, hx⟩ := ih ⟨c :: before, rest⟩
          have hc : Reads [c] ⟨before, c :: rest⟩ ⟨c :: before, rest⟩ := ⟨rfl, rfl⟩
          exact ⟨[c] ++ x, hc.trans hx⟩

end Cursor

namespace Pattern

open Cursor (Reads)

variable {s t : State}

/-! ## Single characters

A character that is taken stands behind the place, and nothing is remembered. -/

theorem mem_take? {ok : Char → Bool} (h : t ∈ (s.take? ok).toList) :
    ∃ c, ok c = true ∧ Reads [c] s.cursor t.cursor ∧ t.groups = s.groups := by
  rw [Option.mem_toList, State.take?] at h
  split at h
  · cases h
  · rename_i c rest hafter
    split at h
    · rename_i hok
      cases h
      exact ⟨c, hok, ⟨hafter, rfl⟩, rfl⟩
    · cases h

theorem mem_ways_char {c : Char} (h : t ∈ (char c).ways s) :
    Reads [c] s.cursor t.cursor ∧ t.groups = s.groups := by
  obtain ⟨x, hx, hread, hgroups⟩ := mem_take? h
  rw [beq_iff_eq] at hx
  subst hx
  exact ⟨hread, hgroups⟩

theorem mem_ways_one {cls : CharClass} (h : t ∈ (one cls).ways s) :
    ∃ c, cls.holds c = true ∧ Reads [c] s.cursor t.cursor ∧ t.groups = s.groups :=
  mem_take? h

/-! ## Sequences and choices

For each constructor of a pattern, what a way to match it consists of. These are inversions: from a
way to match the whole pattern to ways to match its parts. -/

theorem mem_ways_seq {p q : Pattern} (h : t ∈ (seq p q).ways s) :
    ∃ u ∈ p.ways s, t ∈ q.ways u := List.mem_flatMap.mp h

theorem mem_ways_inOrder_cons {p q : Pattern} {ps : List Pattern}
    (h : t ∈ (inOrder (p :: q :: ps)).ways s) : ∃ u ∈ p.ways s, t ∈ (inOrder (q :: ps)).ways u :=
  mem_ways_seq h

theorem mem_ways_optional {p : Pattern} (h : t ∈ (optional p).ways s) : t ∈ p.ways s ∨ t = s := by
  rcases List.mem_append.mp h with h | h
  · exact .inl h
  · exact .inr (List.mem_singleton.mp h)

theorem mem_ways_either {ps : List Pattern} (h : t ∈ (either ps).ways s) (hne : ps ≠ []) :
    ∃ p ∈ ps, t ∈ p.ways s := by
  induction ps with
  | nil => exact absurd rfl hne
  | cons p rest ih =>
      cases rest with
      | nil => exact ⟨p, List.mem_cons_self, h⟩
      | cons q rest =>
          rcases List.mem_append.mp h with h | h
          · exact ⟨p, List.mem_cons_self, h⟩
          · obtain ⟨r, hr, ht⟩ := ih h (List.cons_ne_nil _ _)
            exact ⟨r, List.mem_cons_of_mem _ hr, ht⟩

theorem mem_ways_group {i : Nat} {p : Pattern} (h : t ∈ (group i p).ways s) :
    ∃ u ∈ p.ways s, t.cursor = u.cursor ∧ t.groups = ⟨i, s.cursor, u.cursor⟩ :: u.groups := by
  obtain ⟨u, hu, rfl⟩ := List.mem_map.mp h
  exact ⟨u, hu, rfl, rfl⟩

theorem mem_ways_boundary (h : t ∈ boundary.ways s) : t = s ∧ s.cursor.atBoundary = true := by
  rw [ways] at h
  split at h
  · rename_i hb
    exact ⟨List.mem_singleton.mp h, hb⟩
  · cases h

theorem mem_ways_literal {x : Text} (h : t ∈ (literal x).ways s) :
    Reads x s.cursor t.cursor ∧ t.groups = s.groups := by
  induction x generalizing s with
  | nil =>
      obtain rfl := List.mem_singleton.mp h
      exact ⟨Reads.refl _, rfl⟩
  | cons c rest ih =>
      cases rest with
      | nil => exact mem_ways_char h
      | cons d rest =>
          obtain ⟨u, hu, ht⟩ := mem_ways_seq h
          obtain ⟨hc, hgroups⟩ := mem_ways_char hu
          obtain ⟨hrest, hgroups'⟩ := ih ht
          exact ⟨hc.trans hrest, hgroups'.trans hgroups⟩

/-! ## Repetitions

A repetition tries the pattern again as long as it moves on. What one step keeps is kept by all of
them, so the two kinds of repetition are covered by an induction each. -/

/-- What holds before a repetition and is kept by each step holds after it. -/
theorem manyWays_induction {step : State → List State} (good : State → Prop)
    (hstep : ∀ u v, good u → v ∈ step u → good v) {left : Text} (hs : good s)
    (h : t ∈ manyWays step left s) : good t := by
  induction left generalizing s with
  | nil =>
      obtain rfl := List.mem_singleton.mp h
      exact hs
  | cons c left ih =>
      rcases List.mem_append.mp h with h | h
      · obtain ⟨u, hu, ht⟩ := List.mem_flatMap.mp h
        exact ih (hstep s u hs (List.mem_filter.mp hu).1) ht
      · obtain rfl := List.mem_singleton.mp h
        exact hs

theorem fewWays_induction {step : State → List State} (good : State → Prop)
    (hstep : ∀ u v, good u → v ∈ step u → good v) {left : Text} (hs : good s)
    (h : t ∈ fewWays step left s) : good t := by
  induction left generalizing s with
  | nil =>
      obtain rfl := List.mem_singleton.mp h
      exact hs
  | cons c left ih =>
      rcases List.mem_cons.mp h with rfl | h
      · exact hs
      · obtain ⟨u, hu, ht⟩ := List.mem_flatMap.mp h
        exact ih (hstep s u hs (List.mem_filter.mp hu).1) ht

/-- The state after reading characters of a class, and nothing else. -/
def HasRun (cls : CharClass) (s t : State) : Prop :=
  ∃ x : Text, (∀ c ∈ x, cls.holds c = true) ∧ Reads x s.cursor t.cursor ∧ t.groups = s.groups

theorem HasRun.step {cls : CharClass} {u v : State} (h : HasRun cls s u)
    (hv : v ∈ (one cls).ways u) : HasRun cls s v := by
  obtain ⟨x, hx, hread, hgroups⟩ := h
  obtain ⟨c, hc, hread', hgroups'⟩ := mem_ways_one hv
  refine ⟨x ++ [c], ?_, hread.trans hread', hgroups'.trans hgroups⟩
  intro d hd
  rcases List.mem_append.mp hd with hd | hd
  · exact hx d hd
  · rw [List.mem_singleton.mp hd]
    exact hc

theorem mem_ways_plus_one {cls : CharClass} (h : t ∈ (plus (one cls)).ways s) :
    ∃ c x, cls.holds c = true ∧ (∀ d ∈ x, cls.holds d = true) ∧
      Reads (c :: x) s.cursor t.cursor ∧ t.groups = s.groups := by
  obtain ⟨u, hu, ht⟩ := List.mem_flatMap.mp h
  obtain ⟨c, hc, hread, hgroups⟩ := mem_ways_one hu
  obtain ⟨x, hx, hread', hgroups'⟩ := manyWays_induction (HasRun cls u)
    (fun _ _ hu hv => hu.step hv) ⟨[], by simp, Reads.refl _, rfl⟩ ht
  exact ⟨c, x, hc, hx, hread.trans hread', hgroups'.trans hgroups⟩

/-! ## Preferred ways

The preferred way of a sequence begins with the first way of its first part behind which the second
part matches at all. -/

theorem head?_ways_seq {p q : Pattern} (h : ((seq p q).ways s).head? = some t) :
    ∃ u ∈ p.ways s, (q.ways u).head? = some t := by
  rw [ways, List.head?_flatMap] at h
  exact List.exists_of_findSome?_eq_some h

theorem head?_ways_optional {p : Pattern} (h : ((optional p).ways s).head? = some t) :
    (p.ways s).head? = some t ∨ p.ways s = [] ∧ t = s := by
  rw [ways, List.head?_append] at h
  cases hp : p.ways s with
  | nil =>
      rw [hp] at h
      exact .inr ⟨rfl, (Option.some.inj h).symm⟩
  | cons u rest =>
      rw [hp] at h
      exact .inl h

/-- What can be read is read, unless nothing matches behind it. -/
theorem head?_ways_seq_optional {p q : Pattern}
    (h : ((seq (optional p) q).ways s).head? = some t) :
    (∃ u ∈ p.ways s, (q.ways u).head? = some t) ∨
      (∀ u ∈ p.ways s, q.ways u = []) ∧ (q.ways s).head? = some t := by
  rw [ways, ways, List.flatMap_append, List.head?_append] at h
  cases hp : ((p.ways s).flatMap q.ways).head? with
  | none =>
      rw [hp, Option.none_or, List.flatMap_singleton] at h
      exact .inr ⟨List.flatMap_eq_nil_iff.mp (List.head?_eq_none_iff.mp hp), h⟩
  | some u =>
      rw [hp, Option.some_or] at h
      obtain rfl := Option.some.inj h
      exact .inl (head?_ways_seq (p := p) (q := q) hp)

theorem head?_ways_group {i : Nat} {p : Pattern} (h : ((group i p).ways s).head? = some t) :
    ∃ u, (p.ways s).head? = some u ∧ t.cursor = u.cursor ∧
      t.groups = ⟨i, s.cursor, u.cursor⟩ :: u.groups := by
  rw [ways, List.head?_map, Option.map_eq_some_iff] at h
  obtain ⟨u, hu, rfl⟩ := h
  exact ⟨u, hu, rfl, rfl⟩

theorem ways_one_cases (cls : CharClass) (s : State) :
    (one cls).ways s = [] ∨ ∃ u, (one cls).ways s = [u] := by
  rw [ways]
  cases s.take? cls.holds with
  | none => exact .inl rfl
  | some u => exact .inr ⟨u, rfl⟩

/-- A repetition prefers the ways that leave less of the text. -/
theorem pairwise_manyWays_one {cls : CharClass} {left : Text} :
    (manyWays (one cls).ways left s).Pairwise fun u v =>
      u.cursor.after.length ≤ v.cursor.after.length := by
  induction left generalizing s with
  | nil => exact List.pairwise_singleton _ s
  | cons c left ih =>
      rw [manyWays, List.pairwise_append]
      refine ⟨?_, List.pairwise_singleton _ s, fun u hu v hv => ?_⟩
      · rcases ways_one_cases cls s with hnil | ⟨w, hone⟩
        · rw [hnil]
          exact List.Pairwise.nil
        · rw [hone]
          cases hpast : w.isPast s with
          | true => simpa [hpast] using ih
          | false => simp [hpast]
      · obtain ⟨w, hw, hu⟩ := List.mem_flatMap.mp hu
        obtain ⟨d, hd, hfirst, hgroups⟩ := mem_ways_one (List.mem_filter.mp hw).1
        obtain ⟨x, -, hrest, -⟩ := manyWays_induction (HasRun cls w)
          (fun _ _ hu hv => hu.step hv) ⟨[], by simp, Reads.refl _, rfl⟩ hu
        rw [List.mem_singleton.mp hv, (hfirst.trans hrest).length_eq]
        exact Nat.le_add_left _ _

/-- **A run is as long as possible**: of the runs behind which the rest matches, the longest is
preferred. -/
theorem head?_ways_seq_plus_one {cls : CharClass} {q : Pattern}
    (h : ((seq (plus (one cls)) q).ways s).head? = some t) :
    ∃ u ∈ (plus (one cls)).ways s, (q.ways u).head? = some t ∧
      ∀ v ∈ (plus (one cls)).ways s, q.ways v ≠ [] →
        u.cursor.after.length ≤ v.cursor.after.length := by
  have hpairwise : ((plus (one cls)).ways s).Pairwise fun u v =>
      u.cursor.after.length ≤ v.cursor.after.length := by
    rw [ways]
    rcases ways_one_cases cls s with hnil | ⟨w, hone⟩
    · rw [hnil]
      exact List.Pairwise.nil
    · rw [hone, List.flatMap_singleton]
      exact pairwise_manyWays_one
  rw [ways, List.head?_flatMap, List.findSome?_eq_some_iff] at h
  obtain ⟨longer, u, shorter, hways, hhead, hlonger⟩ := h
  rw [hways] at hpairwise ⊢
  refine ⟨u, List.mem_append_right _ List.mem_cons_self, hhead, fun v hv hne => ?_⟩
  rcases List.mem_append.mp hv with hv | hv
  · exact absurd (List.head?_eq_none_iff.mp (hlonger v hv)) hne
  · rcases List.mem_cons.mp hv with rfl | hv
    · exact Nat.le_refl _
    · exact List.rel_of_pairwise_cons (List.pairwise_append.mp hpairwise).2.1 hv

/-! ## Any pattern

That some text is read needs no knowledge of the pattern, only an induction over it. -/

/-- The state after reading some text and remembering some groups. -/
def HasRead (s t : State) : Prop :=
  ∃ x gs, Reads x s.cursor t.cursor ∧ t.groups = gs ++ s.groups

theorem HasRead.refl (s : State) : HasRead s s := ⟨[], [], Reads.refl _, rfl⟩

theorem HasRead.trans {u : State} (h : HasRead s t) (h' : HasRead t u) : HasRead s u := by
  obtain ⟨x, gs, hread, hgroups⟩ := h
  obtain ⟨y, gs', hread', hgroups'⟩ := h'
  exact ⟨x ++ y, gs' ++ gs, hread.trans hread', by rw [hgroups', hgroups, List.append_assoc]⟩

theorem hasRead_of_mem_take? {ok : Char → Bool} (h : t ∈ (s.take? ok).toList) : HasRead s t := by
  obtain ⟨c, -, hread, hgroups⟩ := mem_take? h
  exact ⟨[c], [], hread, hgroups⟩

theorem hasRead_of_mem_ite {holds : Bool} (h : t ∈ if holds then [s] else []) : HasRead s t := by
  cases holds with
  | true =>
      obtain rfl := List.mem_singleton.mp h
      exact HasRead.refl t
  | false => cases h

/-- **Every way to match reads some text.** -/
theorem hasRead_of_mem_ways (p : Pattern) (h : t ∈ p.ways s) : HasRead s t := by
  -- a case for each constructor; the repetitions keep `HasRead s` as their invariant
  induction p generalizing s t with
  | nothing =>
      obtain rfl := List.mem_singleton.mp h
      exact HasRead.refl t
  | char c => exact hasRead_of_mem_take? h
  | one cls => exact hasRead_of_mem_take? h
  | seq p q ihp ihq =>
      obtain ⟨u, hu, ht⟩ := mem_ways_seq h
      exact (ihp hu).trans (ihq ht)
  | alt p q ihp ihq =>
      rcases List.mem_append.mp h with h | h
      · exact ihp h
      · exact ihq h
  | optional p ih =>
      rcases mem_ways_optional h with h | rfl
      · exact ih h
      · exact HasRead.refl t
  | star p ih =>
      exact manyWays_induction (HasRead s) (fun _ _ hu hv => hu.trans (ih hv)) (HasRead.refl s) h
  | plus p ih =>
      obtain ⟨u, hu, ht⟩ := List.mem_flatMap.mp h
      exact manyWays_induction (HasRead s) (fun _ _ hu hv => hu.trans (ih hv)) (ih hu) ht
  | lazyStar p ih =>
      exact fewWays_induction (HasRead s) (fun _ _ hu hv => hu.trans (ih hv)) (HasRead.refl s) h
  | lazyPlus p ih =>
      obtain ⟨u, hu, ht⟩ := List.mem_flatMap.mp h
      exact fewWays_induction (HasRead s) (fun _ _ hu hv => hu.trans (ih hv)) (ih hu) ht
  | group i p ih =>
      obtain ⟨u, hu, hcursor, hgroups⟩ := mem_ways_group h
      obtain ⟨x, gs, hread, hgroups'⟩ := ih hu
      refine ⟨x, ⟨i, s.cursor, u.cursor⟩ :: gs, ?_, ?_⟩
      · rw [hcursor]; exact hread
      · rw [hgroups, hgroups', List.cons_append]
  | cluster p ih => exact ih h
  | boundary => exact hasRead_of_mem_ite h
  | textStart => exact hasRead_of_mem_ite h
  | textEnd => exact hasRead_of_mem_ite h

/-! ## Patterns without groups

Most parts of a pattern remember nothing, so the groups of a match can be read off the few parts
that do. -/

/-- Whether a pattern remembers a part of the match. -/
def hasGroup : Pattern → Bool
  | seq p q | alt p q => p.hasGroup || q.hasGroup
  | optional p | star p | plus p | lazyStar p | lazyPlus p | cluster p => p.hasGroup
  | group _ _ => true
  | _ => false

theorem groups_eq_of_mem_ways {p : Pattern} (hp : p.hasGroup = false) (h : t ∈ p.ways s) :
    t.groups = s.groups := by
  induction p generalizing s t with
  | nothing => rw [List.mem_singleton.mp h]
  | char c => exact (mem_ways_char h).2
  | one cls =>
      obtain ⟨c, -, -, hgroups⟩ := mem_ways_one h
      exact hgroups
  | seq p q ihp ihq =>
      obtain ⟨hp, hq⟩ := Bool.or_eq_false_iff.mp hp
      obtain ⟨u, hu, ht⟩ := mem_ways_seq h
      exact (ihq hq ht).trans (ihp hp hu)
  | alt p q ihp ihq =>
      obtain ⟨hp, hq⟩ := Bool.or_eq_false_iff.mp hp
      rcases List.mem_append.mp h with h | h
      · exact ihp hp h
      · exact ihq hq h
  | optional p ih =>
      rcases mem_ways_optional h with h | rfl
      · exact ih hp h
      · rfl
  | star p ih =>
      exact manyWays_induction (fun v => v.groups = s.groups)
        (fun _ _ hu hv => (ih hp hv).trans hu) rfl h
  | plus p ih =>
      obtain ⟨u, hu, ht⟩ := List.mem_flatMap.mp h
      exact manyWays_induction (fun v => v.groups = s.groups)
        (fun _ _ hu hv => (ih hp hv).trans hu) (ih hp hu) ht
  | lazyStar p ih =>
      exact fewWays_induction (fun v => v.groups = s.groups)
        (fun _ _ hu hv => (ih hp hv).trans hu) rfl h
  | lazyPlus p ih =>
      obtain ⟨u, hu, ht⟩ := List.mem_flatMap.mp h
      exact fewWays_induction (fun v => v.groups = s.groups)
        (fun _ _ hu hv => (ih hp hv).trans hu) (ih hp hu) ht
  | group i p ih =>
      -- the one constructor that remembers is excluded
      cases hp
  | cluster p ih => exact ih hp h
  | boundary =>
      obtain ⟨rfl, -⟩ := mem_ways_boundary h
      rfl
  | textStart =>
      rw [ways] at h
      split at h
      · rw [List.mem_singleton.mp h]
      · cases h
  | textEnd =>
      rw [ways] at h
      split at h
      · rw [List.mem_singleton.mp h]
      · cases h

/-- A pattern without groups reads some text and remembers nothing. -/
theorem reads_of_mem_ways {p : Pattern} (hp : p.hasGroup = false) (h : t ∈ p.ways s) :
    ∃ x, Reads x s.cursor t.cursor ∧ t.groups = s.groups := by
  obtain ⟨x, -, hread, -⟩ := hasRead_of_mem_ways p h
  exact ⟨x, hread, groups_eq_of_mem_ways hp h⟩

theorem reads_of_mem_ways_group {i : Nat} {p : Pattern} (h : t ∈ (group i p).ways s) :
    ∃ x gs, Reads x s.cursor t.cursor ∧
      t.groups = ⟨i, s.cursor, t.cursor⟩ :: (gs ++ s.groups) := by
  obtain ⟨u, hu, hcursor, hgroups⟩ := mem_ways_group h
  obtain ⟨x, gs, hread, hgroups'⟩ := hasRead_of_mem_ways p hu
  exact ⟨x, gs, by rw [hcursor]; exact hread, by rw [hgroups, hgroups', hcursor]⟩

/-- A group without others inside remembers one text. -/
theorem reads_of_mem_ways_single {i : Nat} {p : Pattern} (hp : p.hasGroup = false)
    (h : t ∈ (group i p).ways s) :
    ∃ x, Reads x s.cursor t.cursor ∧ t.groups = ⟨i, s.cursor, t.cursor⟩ :: s.groups := by
  obtain ⟨u, hu, hcursor, hgroups⟩ := mem_ways_group h
  obtain ⟨x, hread, hgroups'⟩ := reads_of_mem_ways hp hu
  exact ⟨x, by rw [hcursor]; exact hread, by rw [hgroups, hgroups', hcursor]⟩

theorem hasGroup_literal (x : Text) : (literal x).hasGroup = false := by
  induction x with
  | nil => rfl
  | cons c rest ih =>
      cases rest with
      | nil => rfl
      | cons d rest => exact ih

theorem hasGroup_either {ps : List Pattern} (h : ∀ p ∈ ps, p.hasGroup = false) :
    (either ps).hasGroup = false := by
  induction ps with
  | nil => rfl
  | cons p rest ih =>
      cases rest with
      | nil => exact h p List.mem_cons_self
      | cons q rest =>
          have hrest := ih fun r hr => h r (List.mem_cons_of_mem _ hr)
          simp only [either, hasGroup, h p List.mem_cons_self, hrest, Bool.or_self]

end Pattern

end SwiftExistential
