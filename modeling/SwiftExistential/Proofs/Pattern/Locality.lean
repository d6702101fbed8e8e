import Mathlib.Data.List.Forall2
import Mathlib.Data.List.TakeWhile
import SwiftExistential.Proofs.Pattern.Spans
import SwiftExistential.Proofs.Text.Occurrence

/-!
# Matches and what they can read

A pattern that accepts characters of one kind only, and does not ask for the ends of the text,
cannot tell two texts apart that are alike up to where such characters end. Its ways to match are
the same in both, in the same order (`Surroundings.agree_ways`), and so is the preferred match at a
place (`Surroundings.matchAt?_agree`). With this a match in an annotated text is found again in the
text before, although the two texts differ further on.

The other half of the file is about all matches of a text. Replacing the successive matches of a
pattern is a sweep over the text (`isSweep_sweep`), so that it is settled by what is replaced at
each place, and two passes over a text can be compared place by place. The pattern must read
something at every match, and no run may lead it.
-/

set_option autoImplicit false

namespace SwiftExistential.Pattern

open Unicode

/-- Whether a pattern accepts only characters of one kind, and never asks for an end of the text. -/
def ReadsOnly (ok : Char → Bool) : Pattern → Prop
  | nothing | boundary => True
  | char c => ok c = true
  | one cls => ∀ c, cls.holds c = true → ok c = true
  | seq p q | alt p q => p.ReadsOnly ok ∧ q.ReadsOnly ok
  | optional p | star p | plus p | lazyStar p | lazyPlus p | cluster p => p.ReadsOnly ok
  | group _ p => p.ReadsOnly ok
  | textStart | textEnd => False

/-- **Two surroundings of one stretch of text** that no pattern for `ok` characters can tell apart:
words begin and end at the stretch in the same way in both, and such characters end behind it. -/
structure Surroundings (ok : Char → Bool) where
  before : Text
  after : Text
  before' : Text
  after' : Text
  word_before : before.head?.any isWord = before'.head?.any isWord
  word_after : after.head?.any isWord = after'.head?.any isWord
  closed : after.head?.any ok = false
  closed' : after'.head?.any ok = false

namespace Surroundings

variable {ok : Char → Bool} (e : Surroundings ok)

/-! ## Agreement

A state of the matcher holds a place and the groups so far. Two states agree if they have taken the
same characters, counted from the end of the stretch. -/

/-- The same place of the stretch, `left` before its end, in both surroundings. -/
structure At (left : Text) (c c' : Cursor) : Prop where
  after : c.after = left ++ e.after
  after' : c'.after = left ++ e.after'
  before : ∃ read, c.before = read ++ e.before ∧ c'.before = read ++ e.before'

/-- A group that remembers the same part of the stretch. -/
structure AgreeGroup (g g' : Group) : Prop where
  index : g.index = g'.index
  start : ∃ left, e.At left g.start g'.start
  stop : ∃ left, e.At left g.stop g'.stop

/-- **The same state of a match** in both surroundings, with `n` the number of characters taken at
the end of the stretch. -/
structure Agree (n : Nat) (s s' : State) : Prop where
  cursor : ∃ left, e.At left s.cursor s'.cursor ∧ s.taken + left.length = n
  groups : List.Forall₂ e.AgreeGroup s.groups s'.groups
  taken : s.taken = s'.taken

variable {e} {n : Nat} {s s' : State} {left : Text} {c c' : Cursor}

theorem At.cons {d : Char} (h : e.At (d :: left) c c') :
    e.At left ⟨d :: c.before, left ++ e.after⟩ ⟨d :: c'.before, left ++ e.after'⟩ := by
  obtain ⟨read, hread, hread'⟩ := h.before
  exact ⟨rfl, rfl, d :: read, by rw [hread, List.cons_append], by rw [hread', List.cons_append]⟩

theorem At.atBoundary_eq (h : e.At left c c') : c.atBoundary = c'.atBoundary := by
  obtain ⟨read, hread, hread'⟩ := h.before
  have hbefore : c.before.head?.any isWord = c'.before.head?.any isWord := by
    rw [hread, hread']
    cases read with
    | nil => exact e.word_before
    | cons d rest => rfl
  have hafter : c.after.head?.any isWord = c'.after.head?.any isWord := by
    rw [h.after, h.after']
    cases left with
    | nil => exact e.word_after
    | cons d rest => rfl
  rw [Cursor.atBoundary, Cursor.atBoundary, hbefore, hafter]

/-- The text between two places of the stretch is the same in both surroundings. -/
theorem At.textTo_eq {left' : Text} {d d' : Cursor} (h : e.At left c c') (h' : e.At left' d d') :
    c.textTo d = c'.textTo d' := by
  have hlen (x a : Text) : (left ++ x).length - (a ++ x).length ≤ left.length := by
    simp only [List.length_append]
    omega
  rw [Cursor.textTo, Cursor.textTo, h.after, h.after', h'.after, h'.after',
    List.take_append_of_le_length (hlen _ _), List.take_append_of_le_length (hlen _ _)]
  simp only [List.length_append]
  congr 1
  omega

theorem Agree.taken_le (h : e.Agree n s s') : s.taken ≤ n := by
  obtain ⟨left, -, hn⟩ := h.cursor
  omega

/-! ## Ways to match

By induction over the pattern: the two lists of ways are related member by member. A repetition
leaves out the steps that do not move, and it leaves out the same ones in both texts. -/

theorem Agree.take? {accepts : Char → Bool} (haccepts : ∀ c, accepts c = true → ok c = true)
    (h : e.Agree n s s') :
    List.Forall₂ (e.Agree n) (s.take? accepts).toList (s'.take? accepts).toList := by
  -- At the end of the text that both share, neither side is read: what stands there is not
  -- accepted.
  have refused {t : State} {x : Text} (hclosed : x.head?.any ok = false) (hx : t.cursor.after = x) :
      t.take? accepts = none := by
    rw [State.take?, hx]
    cases x with
    | nil => rfl
    | cons d rest =>
        have hd : ok d = false := hclosed
        have hno : ¬ accepts d = true := fun hyes => by
          rw [haccepts d hyes] at hd
          cases hd
        simp only [if_neg hno]
  obtain ⟨left, hat, hn⟩ := h.cursor
  cases left with
  | nil =>
      rw [refused e.closed hat.after, refused e.closed' hat.after']
      exact .nil
  | cons d left =>
      have hafter : s.cursor.after = d :: (left ++ e.after) := hat.after
      have hafter' : s'.cursor.after = d :: (left ++ e.after') := hat.after'
      rw [State.take?, State.take?, hafter, hafter']
      by_cases hd : accepts d = true
      · simp only [if_pos hd, Option.toList_some]
        refine .cons ⟨⟨left, hat.cons, ?_⟩, h.groups, congrArg (· + 1) h.taken⟩ .nil
        simp only [List.length_cons] at hn
        simp only
        omega
      · simp only [if_neg hd, Option.toList_none]
        exact .nil

theorem forall₂_flatMap {l l' : List State} {f f' : State → List State}
    (h : List.Forall₂ (e.Agree n) l l')
    (hf : ∀ {s s'}, e.Agree n s s' → List.Forall₂ (e.Agree n) (f s) (f' s')) :
    List.Forall₂ (e.Agree n) (l.flatMap f) (l'.flatMap f') :=
  List.rel_flatMap h fun _ _ => hf

theorem flatMap_filter_isPast (l : List State) (s : State) (f : State → List State) :
    (l.filter (·.isPast s)).flatMap f = l.flatMap fun t => if t.isPast s then f t else [] := by
  induction l with
  | nil => rfl
  | cons t rest ih => by_cases h : t.isPast s <;> simp [h, ih]

section Repetitions

variable {step : State → List State}
  (hstep : ∀ {s s'}, e.Agree n s s' → List.Forall₂ (e.Agree n) (step s) (step s'))

include hstep

theorem agree_further {f g : State → List State} (h : e.Agree n s s')
    (hf : ∀ {t t'}, e.Agree n t t' → s.taken < t.taken → List.Forall₂ (e.Agree n) (f t) (g t')) :
    List.Forall₂ (e.Agree n) (((step s).filter (·.isPast s)).flatMap f)
      (((step s').filter (·.isPast s')).flatMap g) := by
  rw [flatMap_filter_isPast, flatMap_filter_isPast]
  refine forall₂_flatMap (hstep h) ?_
  intro t t' ht
  rw [State.isPast, State.isPast, ← ht.taken, ← h.taken]
  by_cases hpast : s.taken < t.taken
  · rw [if_pos (decide_eq_true hpast), if_pos (decide_eq_true hpast)]
    exact hf ht hpast
  · rw [decide_eq_false hpast]
    exact .nil

theorem further_eq_nil {f g : State → List State} (h : e.Agree n s s') (hn : n ≤ s.taken) :
    ((step s).filter (·.isPast s)).flatMap f = [] ∧
      ((step s').filter (·.isPast s')).flatMap g = [] := by
  -- a state that it went on from would have been taken past the end
  have hlast {u v : State → List State} := agree_further hstep (f := u) (g := v) h fun ht hlt =>
    absurd (Nat.lt_of_lt_of_le hlt ht.taken_le) (Nat.not_lt.mpr hn)
  have hleft := hlast (u := f) (v := fun _ => [])
  have hright := hlast (u := fun _ => []) (v := g)
  rw [List.flatMap_eq_nil_iff.mpr fun _ _ => rfl] at hleft hright
  exact ⟨List.forall₂_nil_right_iff.mp hleft, List.forall₂_nil_left_iff.mp hright⟩

/-- A repetition does not depend on the room behind the stretch. -/
theorem agree_manyWays {room room' : Text} (h : e.Agree n s s')
    (hroom : n ≤ s.taken + room.length) (hroom' : n ≤ s.taken + room'.length) :
    List.Forall₂ (e.Agree n) (manyWays step room s) (manyWays step room' s') := by
  induction room generalizing room' s s' with
  | nil =>
      cases room' with
      | nil => exact .cons h .nil
      | cons d room' =>
          rw [manyWays, manyWays, (further_eq_nil hstep (f := fun _ => []) h hroom).2]
          exact .cons h .nil
  | cons d room ih =>
      cases room' with
      | nil =>
          rw [manyWays, manyWays, (further_eq_nil hstep (g := fun _ => []) h hroom').1]
          exact .cons h .nil
      | cons d' room' =>
          rw [List.length_cons] at hroom hroom'
          exact List.rel_append
            (agree_further hstep h fun ht hlt => ih ht (by omega) (by omega)) (.cons h .nil)

theorem agree_fewWays {room room' : Text} (h : e.Agree n s s')
    (hroom : n ≤ s.taken + room.length) (hroom' : n ≤ s.taken + room'.length) :
    List.Forall₂ (e.Agree n) (fewWays step room s) (fewWays step room' s') := by
  induction room generalizing room' s s' with
  | nil =>
      cases room' with
      | nil => exact .cons h .nil
      | cons d room' =>
          rw [fewWays, fewWays, (further_eq_nil hstep (f := fun _ => []) h hroom).2]
          exact .cons h .nil
  | cons d room ih =>
      cases room' with
      | nil =>
          rw [fewWays, fewWays, (further_eq_nil hstep (g := fun _ => []) h hroom').1]
          exact .cons h .nil
      | cons d' room' =>
          rw [List.length_cons] at hroom hroom'
          exact .cons h (agree_further hstep h fun ht hlt => ih ht (by omega) (by omega))

end Repetitions

/-- The stretch has no more characters than the text from a place of it. -/
theorem Agree.le_length (h : e.Agree n s s') :
    n ≤ s.taken + s.cursor.after.length ∧ n ≤ s.taken + s'.cursor.after.length := by
  obtain ⟨left, hat, hn⟩ := h.cursor
  rw [hat.after, hat.after', List.length_append, List.length_append]
  omega

/-- **The ways to match are the same in both surroundings**, in the same order. -/
theorem agree_ways {p : Pattern} (hp : p.ReadsOnly ok) (h : e.Agree n s s') :
    List.Forall₂ (e.Agree n) (p.ways s) (p.ways s') := by
  have here {s s' : State} (h : e.Agree n s s') : List.Forall₂ (e.Agree n) [s] [s'] := .cons h .nil
  -- By induction on the pattern. The ways of both sides come in the same order, which the first
  -- match depends on.
  induction p generalizing s s' with
  | nothing => exact here h
  | char c =>
      refine h.take? fun d hd => ?_
      rw [eq_of_beq hd]
      exact hp
  | one cls => exact h.take? hp
  | seq p q ihp ihq => exact forall₂_flatMap (ihp hp.1 h) (ihq hp.2)
  | alt p q ihp ihq => exact List.rel_append (ihp hp.1 h) (ihq hp.2 h)
  | optional p ih => exact List.rel_append (ih hp h) (here h)
  | star p ih => exact agree_manyWays (ih hp) h h.le_length.1 h.le_length.2
  | plus p ih =>
      exact forall₂_flatMap (ih hp h) fun ht =>
        agree_manyWays (ih hp) ht ht.le_length.1 ht.le_length.2
  | lazyStar p ih => exact agree_fewWays (ih hp) h h.le_length.1 h.le_length.2
  | lazyPlus p ih =>
      exact forall₂_flatMap (ih hp h) fun ht =>
        agree_fewWays (ih hp) ht ht.le_length.1 ht.le_length.2
  | group i p ih =>
      obtain ⟨left, hat, -⟩ := h.cursor
      refine List.rel_map ?_ (ih hp h)
      intro t t' ht
      obtain ⟨left', hat', -⟩ := ht.cursor
      exact ⟨ht.cursor, .cons ⟨rfl, ⟨left, hat⟩, left', hat'⟩ ht.groups, ht.taken⟩
  | cluster p ih => exact ih hp h
  -- Word boundaries are alike because the words before and behind begin and end alike.
  | boundary =>
      obtain ⟨left, hat, -⟩ := h.cursor
      rw [ways, ways, hat.atBoundary_eq]
      split
      · exact here h
      · exact .nil
  | textStart => exact hp.elim
  | textEnd => exact hp.elim

/-! ## The preferred match

It is the first of the ways, so the agreement of the lists gives it at once. -/

/-- The same match in both surroundings. -/
structure AgreeMatch (e : Surroundings ok) (m m' : Match) : Prop where
  start : ∃ left, e.At left m.start m'.start
  stop : ∃ left, e.At left m.stop m'.stop
  groups : List.Forall₂ e.AgreeGroup m.groups m'.groups

/-- **The preferred match at a place of the stretch is the same in both surroundings.** -/
theorem matchAt?_agree {p : Pattern} (hp : p.ReadsOnly ok) (h : e.At left c c') :
    Option.Rel e.AgreeMatch (p.matchAt? c) (p.matchAt? c') := by
  have hstart : e.Agree left.length (.start c) (.start c') :=
    ⟨⟨left, h, Nat.zero_add _⟩, .nil, rfl⟩
  have hways := agree_ways hp hstart
  rw [matchAt?_eq_head?, matchAt?_eq_head?]
  cases hl : p.ways (.start c) with
  | nil =>
      rw [hl, List.forall₂_nil_left_iff] at hways
      rw [hways]
      exact .none
  | cons t rest =>
      rw [hl, List.forall₂_cons_left_iff] at hways
      obtain ⟨t', rest', hfirst, -, hl'⟩ := hways
      obtain ⟨left', hat, -⟩ := hfirst.cursor
      rw [hl']
      exact .some ⟨⟨left, h⟩, ⟨left', hat⟩, hfirst.groups⟩

theorem AgreeMatch.text_eq {m m' : Match} (h : e.AgreeMatch m m') : m.text = m'.text := by
  obtain ⟨left, hstart⟩ := h.start
  obtain ⟨left', hstop⟩ := h.stop
  exact hstart.textTo_eq hstop

end Surroundings

/-! ## What a match reads, and where it is found

A place where the pattern matches is one of the successive matches if no match that begins further
to the left can reach over it. -/

/-- A match of a pattern for `ok` characters holds no others. -/
theorem forall_of_matchAt? {ok : Char → Bool} {p : Pattern} (hp : p.ReadsOnly ok) {m : Match}
    (h : p.matchAt? m.start = some m) {x : Text} (hread : Cursor.Reads x m.start m.stop) :
    ∀ c ∈ x, ok c = true := by
  have hclosed := Text.head?_dropWhile_any ok m.start.after
  -- the text as its own surroundings: the match ends where such characters end, or before
  let e : Surroundings ok :=
    ⟨m.start.before, m.start.after.dropWhile ok, m.start.before, m.start.after.dropWhile ok, rfl, rfl,
      hclosed, hclosed⟩
  have hat : e.At (m.start.after.takeWhile ok) m.start m.start :=
    ⟨(List.takeWhile_append_dropWhile ..).symm, (List.takeWhile_append_dropWhile ..).symm, [], rfl, rfl⟩
  have hagree := Surroundings.matchAt?_agree hp hat
  rw [h] at hagree
  cases hagree with
  | some hsame =>
      obtain ⟨left, hstop⟩ := hsame.stop
      have hafter : m.start.after.takeWhile ok = x ++ left := by
        have hsplit := hat.after.symm.trans hread.after
        rw [hstop.after, ← List.append_assoc] at hsplit
        exact List.append_cancel_right hsplit
      intro c hc
      have hmem : c ∈ m.start.after.takeWhile ok := hafter ▸ List.mem_append_left left hc
      exact List.mem_takeWhile_imp hmem

/-- **A match is found if no match can go on to it** from what stands before. -/
theorem mem_matchesFrom_of_matchAt? {ok : Char → Bool} {p : Pattern} (hp : p.ReadsOnly ok)
    (hne : NeverEmpty p) {c : Cursor} {m : Match} {x : Text} (hread : Cursor.Reads x c m.start)
    (h : p.matchAt? m.start = some m) (hbreak : m.start.before.head?.any ok = false) :
    m ∈ p.matchesFrom c := by
  obtain ⟨found, hfound, hplace⟩ :=
    exists_match_at_or_over hne hread (matchAt?_eq_some h).2.spans
  have hmatch := matchAt?_of_mem_matchesFrom hfound
  rcases hplace with hstart | ⟨y, d, z, hhead, hy, hz⟩
  · rw [hstart, h] at hmatch
    rwa [Option.some.inj hmatch]
  · -- the match that is found would hold the character before
    have hd : ok d = true := by
      refine forall_of_matchAt? hp hmatch (hy.trans hz) d ?_
      simp
    rw [hhead, Option.any_some, hd] at hbreak
    cases hbreak

/-! ## Replacing matches step by step

At a place where the pattern matches, the match is replaced and the sweep goes on behind it, and at
any other place it keeps a character. Where a run leads the pattern, the search passes over places
without looking for a match, so such patterns are left out here. -/

section Sweep

open Cursor (Reads)
open Text (IsSweep)

variable {p : Pattern} {new : Match → Text} {c : Cursor} {m : Match}

/-- Replaces the successive matches from a place on. -/
def sweep (p : Pattern) (new : Match → Text) (before t : Text) : Text :=
  splice new ⟨before, t⟩ (p.matchesFrom ⟨before, t⟩)

theorem substitute_fst (p : Pattern) (new : Match → Option Text) (t : Text) :
    (p.substitute new t).1 = p.sweep (replacement new) [] t := rfl

theorem matchesFrom_eq (hp : NeverEmpty p) (c : Cursor) :
    p.matchesFrom c = match p.find? c with
      | none => []
      | some m => m :: p.matchesFrom m.stop := by
  rw [matchesFrom]
  cases hfind : p.find? c with
  | none => rfl
  | some m =>
      obtain ⟨⟨x, hstart⟩, hmatch⟩ := find?_eq_some hfind
      obtain ⟨y, hne, hstop⟩ := hp m hmatch
      have hnext := next_eq_stop hne hstop
      have hpos := List.length_pos_iff.mpr hne
      have hlen := hstart.length_eq
      have hlen' := hstop.length_eq
      simp only [hnext]
      rw [if_pos (by omega)]

theorem sweep_of_matchAt? (hp : NeverEmpty p) {before t : Text}
    (h : p.matchAt? ⟨before, t⟩ = some m) :
    p.sweep new before t = new m ++ p.sweep new m.stop.before m.stop.after := by
  obtain ⟨hstart, -⟩ := matchAt?_eq_some h
  rw [sweep, matchesFrom_eq hp, find?_of_matchAt? h]
  simp only
  rw [splice, hstart, (Reads.refl _).textTo_eq, List.nil_append]
  rfl

theorem sweep_of_matchAt?_eq_none (hp : NeverEmpty p) (hrun : p.leadingRun? = none)
    {before rest : Text}
    {d : Char} (h : p.matchAt? ⟨before, d :: rest⟩ = none) :
    p.sweep new before (d :: rest) = d :: p.sweep new (d :: before) rest := by
  have hleads : p.leadsWith d = false := by rw [leadsWith, hrun]; rfl
  have hfind : p.find? ⟨before, d :: rest⟩ = p.find? ⟨d :: before, rest⟩ := by
    rw [find?, findFrom?, Bool.false_and, if_neg Bool.false_ne_true, h, hleads]
    rfl
  rw [sweep, sweep, matchesFrom_eq hp, matchesFrom_eq hp, hfind]
  cases hm : p.find? ⟨d :: before, rest⟩ with
  | none => rfl
  | some m =>
      obtain ⟨⟨x, hread⟩, -⟩ := find?_eq_some hm
      have hd : Reads [d] ⟨before, d :: rest⟩ ⟨d :: before, rest⟩ := ⟨rfl, rfl⟩
      simp only
      rw [splice, splice, hread.textTo_eq, (hd.trans hread).textTo_eq]
      rfl

/-- **Replacing the successive matches is a sweep** that replaces what the preferred matches read.
-/
theorem isSweep_sweep {replaces : Text → Text → Text → Prop} (hp : NeverEmpty p)
    (hrun : p.leadingRun? = none)
    (h : ∀ before x y r, replaces x y r ↔
      ∃ m, p.matchAt? ⟨before, x ++ r⟩ = some m ∧ m.stop = ⟨x.reverse ++ before, r⟩ ∧ new m = y) :
    IsSweep replaces (p.sweep new) where
  ne_nil := by
    intro x y r hxy
    obtain ⟨m, hm, hstop, -⟩ := (h [] x y r).mp hxy
    obtain ⟨hstart, hmatch⟩ := matchAt?_eq_some hm
    obtain ⟨z, hne, hread⟩ := hp m hmatch
    rintro rfl
    have hlen := hread.length_eq
    have hpos := List.length_pos_iff.mpr hne
    rw [hstart, hstop] at hlen
    simp only [List.nil_append] at hlen
    omega
  nil := by
    intro before
    -- At the end of the text nothing is left that a match could read, and no match is empty.
    have hnone : p.find? ⟨before, []⟩ = none := by
      refine Option.eq_none_iff_forall_ne_some.mpr fun m hm => ?_
      obtain ⟨⟨x, hstart⟩, hmatch⟩ := find?_eq_some hm
      obtain ⟨y, hne, hstop⟩ := hp m hmatch
      have hlen := (hstart.trans hstop).length_eq
      have hpos := List.length_pos_iff.mpr hne
      rw [List.length_append, List.length_nil] at hlen
      omega
    rw [sweep, matchesFrom_eq hp, hnone]
    rfl
  replace := by
    intro before x y r hxy
    obtain ⟨m, hm, hstop, rfl⟩ := (h before x y r).mp hxy
    rw [sweep_of_matchAt? hp hm, hstop]
  keep := by
    intro before d r hkeep
    -- A match would be one of the replaced occurrences, and there is none here.
    refine sweep_of_matchAt?_eq_none hp hrun (Option.eq_none_iff_forall_ne_some.mpr fun m hm => ?_)
    obtain ⟨hstart, hmatch⟩ := matchAt?_eq_some hm
    obtain ⟨x, hread⟩ := hmatch.exists_reads
    rw [hstart] at hread
    refine hkeep x (new m) m.stop.after ((h before x (new m) m.stop.after).mpr ⟨m, ?_, ?_, rfl⟩) hread.after
    · rw [← hread.after]
      exact hm
    · rw [← hread.before]

end Sweep

end SwiftExistential.Pattern
