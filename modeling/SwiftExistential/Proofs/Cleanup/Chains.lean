import SwiftExistential.Proofs.Cleanup.Shapes

/-!
# Chains of keywords

Keywords pile up in chains, with spaces between each and the next. A text is cut at its chains by
going over its parts from the last one (`cutOf`): a keyword goes on with the chain behind it if only
spaces are between. The chains of this cut are those of the text that go no further to either side
(`hasChain_cutOf_iff`).

The cut is a function and can be computed; `IsMaximalChain` is the notion that it stands for, said
about the text alone. That the two agree is the point of this file. Between them stands `Proper`,
the description of a cut at whole chains, which determines the cut.
-/

set_option autoImplicit false

namespace SwiftExistential.Cleanup

open Text

/-! ## Chains

A chain is not empty, so it has a first keyword and is worth a keyword. All keywords but one are
surplus. -/

def spaces (n : Nat) : Text := List.replicate (n + 1) ' '

def IsSpaces (x : Text) : Prop := x ≠ [] ∧ ∀ c ∈ x, c = ' '

instance : DecidablePred IsSpaces := fun _ => inferInstanceAs (Decidable (_ ∧ _))

theorem isSpaces_spaces (n : Nat) : IsSpaces (spaces n) :=
  ⟨List.cons_ne_nil _ _, fun _ hc => List.eq_of_mem_replicate hc⟩

theorem IsSpaces.eq_spaces {x : Text} (h : IsSpaces x) : x = spaces (x.length - 1) := by
  have hpos := List.length_pos_iff.mpr h.1
  have hlen : x.length - 1 + 1 = x.length := by omega
  rw [spaces, hlen]
  exact List.eq_replicate_of_mem h.2

/-- **A chain of keywords**, one or more, with spaces between each and the next. -/
inductive Chain where
  | last (k : Keyword)
  | cons (k : Keyword) (n : Nat) (rest : Chain)
deriving DecidableEq, Repr

namespace Chain

def text : Chain → Text
  | last k => k.word
  | cons k n c => k.word ++ (spaces n ++ c.text)

def keywords : Chain → List Keyword
  | last k => [k]
  | cons k _ c => k :: c.keywords

/-- **What a chain is worth**: `some` if all of its keywords are, and `any` otherwise. -/
def worth (c : Chain) : Keyword := if ∀ k ∈ c.keywords, k = .some then .some else .any

/-- How many keywords a chain has beside one. -/
def surplus (c : Chain) : Nat := c.keywords.length - 1

variable {c : Chain} {k : Keyword} {n : Nat}

@[simp] theorem worth_last (k : Keyword) : (last k).worth = k := by
  cases k <;> simp [worth, keywords]

theorem worth_eq_some_iff : c.worth = .some ↔ ∀ k ∈ c.keywords, k = .some := by
  by_cases h : ∀ k ∈ c.keywords, k = .some
  · rw [worth, if_pos h]
    exact ⟨fun _ => h, fun _ => rfl⟩
  · rw [worth, if_neg h]
    exact ⟨fun heq => (by cases heq), fun hall => absurd hall h⟩

/-- A chain is worth what its first keyword and the rest are worth together. -/
@[simp] theorem worth_cons : (cons k n c).worth = mergedKeyword k.word c.worth.word := by
  have hword (k : Keyword) : k.word = Keyword.some.word ↔ k = .some := by
    cases k <;> decide
  have hall : (∀ k' ∈ (cons k n c).keywords, k' = .some) ↔
      k.word = Keyword.some.word ∧ c.worth.word = Keyword.some.word := by
    rw [hword, hword, worth_eq_some_iff]
    exact List.forall_mem_cons
  exact if_congr hall rfl rfl

@[simp] theorem surplus_last (k : Keyword) : (last k).surplus = 0 := rfl

@[simp] theorem surplus_cons : (cons k n c).surplus = c.surplus + 1 := by
  have hpos : 0 < c.keywords.length := by cases c <;> exact Nat.succ_pos _
  have hlen : (cons k n c).keywords.length = c.keywords.length + 1 := rfl
  rw [surplus, surplus, hlen]
  omega

theorem exists_first (c : Chain) {r : Text} (hr : startsWord r = false) :
    ∃ (k : Keyword) (r' : Text), c.text ++ r = k.word ++ r' ∧ startsWord r' = false := by
  cases c with
  | last k => exact ⟨k, r, rfl, hr⟩
  | cons k n c =>
      refine ⟨k, spaces n ++ c.text ++ r, ?_, rfl⟩
      rw [text, List.append_assoc, List.append_assoc]

theorem startsWord_text (c : Chain) (r : Text) : startsWord (c.text ++ r) = true := by
  cases c with
  | last k => cases k <;> rfl
  | cons k n c => cases k <;> rfl

end Chain

/-- **A chain in a text that goes no further** to either side: its keywords are whole words, and
neither before it nor behind it stands another keyword with only spaces between. -/
structure IsMaximalChain (before : Text) (c : Chain) (after : Text) : Prop where
  endsWord_before : endsWord before = false
  startsWord_after : startsWord after = false
  first : ∀ (l : Text) (k : Keyword) (n : Nat), before = l ++ (k.word ++ spaces n) → endsWord l = true
  last : ∀ (n : Nat) (k : Keyword) (r : Text), after = spaces n ++ (k.word ++ r) → startsWord r = true

/-! ## Texts cut at their chains

The function reads a part and a cut of what stands behind it. A keyword begins a chain of its own,
or goes on with one that is there; any other part goes before the first chain. -/

/-- **A text cut at chains**: each chain with what stands before it, and what stands behind the last
one. -/
structure Cut where
  pieces : List (Text × Chain)
  rest : Text
deriving DecidableEq, Repr

namespace Cut

def text (s : Cut) : Text := s.pieces.foldr (fun piece r => piece.1 ++ (piece.2.text ++ r)) s.rest

/-- **One keyword for each chain.** -/
def merged (s : Cut) : Cut := ⟨s.pieces.map fun piece => (piece.1, .last piece.2.worth), s.rest⟩

/-- The keywords beside one of each chain. -/
def surplus (s : Cut) : Nat := (s.pieces.map fun piece => piece.2.surplus).sum

/-- A chain of the cut, with all that stands before it and all that stands behind it. -/
def HasChain (s : Cut) (before : Text) (c : Chain) (after : Text) : Prop :=
  ∃ front gap back, s.pieces = front ++ (gap, c) :: back ∧ before = text ⟨front, gap⟩ ∧
    after = text ⟨back, s.rest⟩

/-- Whether only spaces stand before the first chain. -/
def StartsSpaced : Cut → Prop
  | ⟨[], _⟩ => False
  | ⟨(gap, _) :: _, _⟩ => IsSpaces gap

/-- Puts a text that is no keyword before. -/
def keep (x : Text) : Cut → Cut
  | ⟨[], rest⟩ => ⟨[], x ++ rest⟩
  | ⟨(gap, c) :: pieces, rest⟩ => ⟨(x ++ gap, c) :: pieces, rest⟩

/-- Puts a keyword before: it begins a chain, or goes on with the first one if only spaces are
between. -/
def join (k : Keyword) : Cut → Cut
  | ⟨[], rest⟩ => ⟨[([], .last k)], rest⟩
  | ⟨(gap, c) :: pieces, rest⟩ =>
      if IsSpaces gap then ⟨([], .cons k (gap.length - 1) c) :: pieces, rest⟩
      else ⟨([], .last k) :: (gap, c) :: pieces, rest⟩

end Cut

def keyword? (w : Text) : Option Keyword :=
  if w = Keyword.any.word then some .any else if w = Keyword.some.word then some .some else none

/-- Puts a part before a text that is cut. -/
def Cut.absorb (w : Text) (s : Cut) : Cut :=
  match keyword? w with
  | some k => s.join k
  | none => s.keep w

/-- **Cuts a list of parts at its chains.** -/
def cutOf (ps : List Text) : Cut := ps.foldr Cut.absorb ⟨[], []⟩

example : cutOf (parts "x: some  any A, some B".toList) =
    ⟨[("x: ".toList, .cons .some 1 (.last .any)), (" A, ".toList, .last .some)], " B".toList⟩ := by
  decide

theorem keyword?_word (k : Keyword) : keyword? k.word = some k := by cases k <;> rfl

theorem keyword?_eq_none_iff {w : Text} : keyword? w = none ↔ ∀ k : Keyword, w ≠ k.word := by
  constructor
  · rintro h k rfl
    rw [keyword?_word] at h
    cases h
  · intro h
    rw [keyword?, if_neg (h .any), if_neg (h .some)]

theorem eq_word_of_keyword? {w : Text} {k : Keyword} (h : keyword? w = some k) : w = k.word := by
  unfold keyword? at h
  split at h
  · cases h
    assumption
  · split at h
    · cases h
      assumption
    · cases h

namespace Cut

variable {s : Cut} {k : Keyword} {n : Nat} {x : Text}

@[simp] theorem text_mk_nil (rest : Text) : text ⟨[], rest⟩ = rest := rfl

@[simp] theorem text_mk_cons (piece : Text × Chain) (pieces : List (Text × Chain)) (rest : Text) :
    text ⟨piece :: pieces, rest⟩ = piece.1 ++ (piece.2.text ++ text ⟨pieces, rest⟩) := rfl

@[simp] theorem keep_nil (s : Cut) : s.keep [] = s := by
  obtain ⟨pieces, rest⟩ := s
  cases pieces <;> rfl

@[simp] theorem keep_keep (x y : Text) : (s.keep y).keep x = s.keep (x ++ y) := by
  obtain ⟨pieces, rest⟩ := s
  cases pieces <;> simp [keep]

@[simp] theorem text_keep (x : Text) (s : Cut) : (s.keep x).text = x ++ s.text := by
  obtain ⟨pieces, rest⟩ := s
  cases pieces <;> simp [keep]

theorem absorb_of_keyword?_eq_none {w : Text} (hw : keyword? w = none) : s.absorb w = s.keep w := by
  rw [absorb, hw]

@[simp] theorem absorb_word (k : Keyword) (s : Cut) : s.absorb k.word = s.join k := by
  rw [absorb, keyword?_word]

theorem join_of_startsSpaced {gap : Text} {c : Chain} {pieces : List (Text × Chain)} {rest : Text}
    (h : IsSpaces gap) :
    (Cut.mk ((gap, c) :: pieces) rest).join k =
      ⟨([], .cons k (gap.length - 1) c) :: pieces, rest⟩ := if_pos h

/-- A keyword begins a chain where none stands behind its spaces. -/
theorem join_of_not_startsSpaced (h : ¬ s.StartsSpaced) :
    s.join k = ⟨([], .last k) :: s.pieces, s.rest⟩ := by
  obtain ⟨pieces, rest⟩ := s
  cases pieces with
  | nil => rfl
  | cons piece pieces => exact if_neg h

@[simp] theorem text_join (k : Keyword) (s : Cut) : (s.join k).text = k.word ++ s.text := by
  by_cases h : s.StartsSpaced
  · obtain ⟨pieces, rest⟩ := s
    cases pieces with
    | nil => exact absurd h id
    | cons piece pieces =>
        obtain ⟨gap, c⟩ := piece
        have hgap : IsSpaces gap := h
        rw [join_of_startsSpaced hgap, text_mk_cons, text_mk_cons, Chain.text, ← hgap.eq_spaces]
        simp only [List.nil_append, List.append_assoc]
  · rw [join_of_not_startsSpaced h]
    rfl

end Cut

/-- **Nothing is lost in a cut.** -/
theorem text_cutOf (ps : List Text) : (cutOf ps).text = ps.flatten := by
  induction ps with
  | nil => rfl
  | cons w ps ih =>
      show ((cutOf ps).absorb w).text = w ++ ps.flatten
      rw [← ih]
      cases hw : keyword? w with
      | none => rw [Cut.absorb_of_keyword?_eq_none hw, Cut.text_keep]
      | some k => rw [eq_word_of_keyword? hw, Cut.absorb_word, Cut.text_join]

/-! ## The parts of keywords and spaces -/

theorem isBlank_of_isSpaces {x : Text} (h : IsSpaces x) : ∀ c ∈ x, Unicode.isBlank c = true := by
  intro c hc
  rw [h.2 c hc]
  decide

theorem startsWord_spaces {x : Text} (h : IsSpaces x) (r : Text) : startsWord (x ++ r) = false := by
  rw [startsWord_append_of_ne_nil h.1, startsWord_blanks (isBlank_of_isSpaces h)]

/-- Parts that are no keywords stand before a cut. -/
theorem foldr_absorb_of_forall {ps : List Text} (h : ∀ w ∈ ps, keyword? w = none) (s : Cut) :
    ps.foldr Cut.absorb s = s.keep ps.flatten := by
  induction ps with
  | nil => exact (Cut.keep_nil s).symm
  | cons w ps ih =>
      obtain ⟨hw, hps⟩ := List.forall_mem_cons.mp h
      rw [List.foldr_cons, ih hps, Cut.absorb_of_keyword?_eq_none hw, Cut.keep_keep,
        List.flatten_cons]

theorem cutOf_append (A B : List Text) : cutOf (A ++ B) = A.foldr Cut.absorb (cutOf B) :=
  List.foldr_append

theorem cutOf_word_append (k : Keyword) {r : Text} (hr : startsWord r = false) :
    cutOf (parts (k.word ++ r)) = (cutOf (parts r)).join k := by
  rw [parts_name_append (isName_word k) hr]
  exact Cut.absorb_word k _

theorem cutOf_spaces_append {x : Text} (hx : IsSpaces x) (r : Text) :
    cutOf (parts (x ++ r)) = (cutOf (parts r)).keep x := by
  have hother : ∀ w ∈ x.map (fun c => [c]), keyword? w = none := by
    intro w hw
    obtain ⟨c, -, rfl⟩ := List.mem_map.mp hw
    exact keyword?_eq_none_iff.mpr fun k => by cases k <;> simp [Keyword.word_any, Keyword.word_some]
  have hflat : (x.map fun c => [c]).flatten = x := by
    rw [← List.flatMap_def, List.flatMap_singleton']
  rw [parts_blanks (isBlank_of_isSpaces hx), cutOf_append, foldr_absorb_of_forall hother, hflat]

theorem cutOf_chain_append (c : Chain) {r : Text} (hr : startsWord r = false)
    (hspaced : ¬ (cutOf (parts r)).StartsSpaced) :
    cutOf (parts (c.text ++ r)) = ⟨([], c) :: (cutOf (parts r)).pieces, (cutOf (parts r)).rest⟩ := by
  induction c with
  | last k => rw [Chain.text, cutOf_word_append k hr, Cut.join_of_not_startsSpaced hspaced]
  | cons k n c ih =>
      have hspaces := isSpaces_spaces n
      have hlen : (spaces n).length - 1 = n := by simp [spaces]
      rw [Chain.text, List.append_assoc, List.append_assoc,
        cutOf_word_append k (startsWord_spaces hspaces _), cutOf_spaces_append hspaces, ih, Cut.keep,
        List.append_nil, Cut.join_of_startsSpaced hspaces, hlen]

/-! ## The chains of a cut are maximal

From right to left, a proper cut is found again by the function. From left to right, each chain of a
proper cut is maximal, since what stands on its two sides is no keyword with spaces. -/

namespace Cut

/-- **A cut at whole chains**: no keyword stands outside the chains, no word goes on before or
behind one, and between two there are more than spaces. -/
inductive Proper : Cut → Prop where
  | rest {rest : Text} (plain : ∀ w ∈ parts rest, keyword? w = none) : Proper ⟨[], rest⟩
  | piece {gap : Text} {c : Chain} {pieces : List (Text × Chain)} {rest : Text}
      (plain : ∀ w ∈ parts gap, keyword? w = none) (before : endsWord gap = false)
      (behind : startsWord (text ⟨pieces, rest⟩) = false) (apart : ¬ StartsSpaced ⟨pieces, rest⟩)
      (tail : Proper ⟨pieces, rest⟩) : Proper ⟨(gap, c) :: pieces, rest⟩

variable {s : Cut}

theorem Proper.cutOf_text (h : s.Proper) : cutOf (parts s.text) = s := by
  induction h with
  | @rest rest plain =>
      show (parts rest).foldr absorb ⟨[], []⟩ = _
      rw [foldr_absorb_of_forall plain, flatten_parts, keep, List.append_nil]
  | @piece gap c pieces rest plain before behind apart _ ih =>
      rw [text_mk_cons, parts_append (.inl before), cutOf_append,
        cutOf_chain_append c behind (by rwa [ih]), ih, foldr_absorb_of_forall plain, flatten_parts, keep,
        List.append_nil]

/-- A part that is no keyword stands before the first gap. -/
theorem Proper.keep {t w : Text} (h : s.Proper) (hparts : w :: parts s.text <:+ parts t)
    (hw : keyword? w = none) : (s.keep w).Proper := by
  have hall {x : Text} (hx : parts (w ++ x) = w :: parts x)
      (plain : ∀ v ∈ parts x, keyword? v = none) : ∀ v ∈ parts (w ++ x), keyword? v = none := by
    rw [hx]
    exact List.forall_mem_cons.mpr ⟨hw, plain⟩
  cases h with
  | @rest rest plain =>
      refine .rest (hall ?_ plain)
      have hflat := parts_flatten_of_suffix hparts
      rwa [List.flatten_cons, flatten_parts] at hflat
  | @piece gap c pieces rest plain before behind apart tail =>
      have hcut : parts (text ⟨(gap, c) :: pieces, rest⟩) =
          parts gap ++ parts (c.text ++ text ⟨pieces, rest⟩) := by
        rw [text_mk_cons, parts_append (.inl before)]
      rw [hcut, ← List.cons_append] at hparts
      obtain ⟨hflat, -, hapart⟩ := parts_split (parts_flatten_of_suffix hparts)
      rw [List.flatten_cons, flatten_parts] at hflat hapart
      refine .piece (hall hflat plain) (hapart.resolve_right ?_) behind apart tail
      rw [flatten_parts, c.startsWord_text]
      decide

/-- A keyword at the start of a text begins a chain, or goes on with the first one. -/
theorem Proper.join (k : Keyword) (h : s.Proper) (hs : startsWord s.text = false) :
    (s.join k).Proper := by
  have hnil : ∀ w ∈ parts [], keyword? w = none := by simp
  by_cases hspaced : s.StartsSpaced
  · cases h with
    | rest => exact absurd hspaced id
    | piece plain before behind apart tail =>
        rw [join_of_startsSpaced hspaced]
        exact .piece hnil rfl behind apart tail
  · rw [join_of_not_startsSpaced hspaced]
    exact .piece hnil rfl hs hspaced h

/-- **The cut of a text is one at whole chains.** -/
theorem proper_cutOf (t : Text) : (cutOf (parts t)).Proper := by
  -- by induction over the parts, from the last one: what is cut is the end of the text
  suffices ∀ B, B <:+ parts t → (cutOf B).Proper from this _ List.suffix_rfl
  intro B hB
  induction B with
  | nil => exact .rest (by simp)
  | cons w B ih =>
      have htail : B <:+ parts t := (List.suffix_cons w B).trans hB
      have hproper := ih htail
      have hparts : parts (cutOf B).text = B := by
        rw [text_cutOf, parts_flatten_of_suffix htail]
      show ((cutOf B).absorb w).Proper
      cases hw : keyword? w with
      | none =>
          rw [absorb_of_keyword?_eq_none hw]
          exact hproper.keep (t := t) (by rwa [hparts]) hw
      | some k =>
          obtain rfl := eq_word_of_keyword? hw
          rw [absorb_word]
          refine hproper.join k ?_
          rw [text_cutOf]
          obtain ⟨A, hA⟩ := hB
          exact startsWord_behind hA.symm (isName_word k)

variable {front back : List (Text × Chain)} {gap rest before after : Text} {c : Chain}

@[simp] theorem text_append : text ⟨front ++ (gap, c) :: back, rest⟩ =
    text ⟨front, gap⟩ ++ (c.text ++ text ⟨back, rest⟩) := by
  induction front with
  | nil => rfl
  | cons piece front ih => rw [List.cons_append, text_mk_cons, text_mk_cons, ih]; simp

/-- What stands before a chain of a cut is itself cut at whole chains. -/
theorem Proper.before_chain (h : Proper ⟨front ++ (gap, c) :: back, rest⟩) :
    Proper ⟨front, gap⟩ ∧ endsWord (text ⟨front, gap⟩) = false ∧ (front ≠ [] → ¬ IsSpaces gap) := by
  induction front with
  | nil =>
      cases h with
      | piece plain before => exact ⟨.rest plain, before, fun hne => absurd rfl hne⟩
  | cons piece front ih =>
      cases h with
      | piece plain before behind apart tail =>
          obtain ⟨hproper, hend, hgap⟩ := ih tail
          rw [List.append_eq, text_append] at behind
          -- a chain stands behind, so what is before it is not empty
          have hne : text ⟨front, gap⟩ ≠ [] := by
            intro hnil
            rw [hnil, List.nil_append, c.startsWord_text] at behind
            cases behind
          rw [startsWord_append_of_ne_nil hne] at behind
          refine ⟨.piece plain before behind ?_ hproper, ?_, fun _ => ?_⟩
          · cases front with
            | nil => exact id
            | cons piece front => exact apart
          · rw [text_mk_cons, ← List.append_assoc, endsWord_append_of_ne_nil _ hne, hend]
          · cases front with
            | nil => exact apart
            | cons piece front => exact hgap (List.cons_ne_nil _ _)

/-- What stands behind a chain of a cut is itself cut at whole chains. -/
theorem Proper.behind_chain (h : Proper ⟨front ++ (gap, c) :: back, rest⟩) :
    Proper ⟨back, rest⟩ ∧ startsWord (text ⟨back, rest⟩) = false ∧ ¬ StartsSpaced ⟨back, rest⟩ := by
  induction front with
  | nil =>
      cases h with
      | piece _ _ behind apart tail => exact ⟨tail, behind, apart⟩
  | cons piece front ih =>
      cases h with
      | piece _ _ _ _ tail => exact ih tail

/-- Parts before a cut that has a chain do not change what stands behind its last chain. -/
theorem foldr_absorb_rest (ps : List Text) (hne : s.pieces ≠ []) :
    (ps.foldr absorb s).pieces ≠ [] ∧ (ps.foldr absorb s).rest = s.rest := by
  induction ps with
  | nil => exact ⟨hne, rfl⟩
  | cons w ps ih =>
      rw [List.foldr_cons]
      generalize ps.foldr absorb s = u at ih
      obtain ⟨pieces, rest⟩ := u
      obtain ⟨hpieces, hrest⟩ := ih
      obtain ⟨piece, pieces, rfl⟩ := List.exists_cons_of_ne_nil hpieces
      unfold absorb
      split
      · unfold Cut.join
        simp only
        split <;> exact ⟨List.cons_ne_nil _ _, hrest⟩
      · exact ⟨List.cons_ne_nil _ _, hrest⟩

/-- **The chains of a text that is cut at whole chains go no further.** -/
theorem Proper.isMaximalChain (h : s.Proper) (hchain : s.HasChain before c after) :
    IsMaximalChain before c after := by
  obtain ⟨pieces, rest⟩ := s
  obtain ⟨front, gap, back, rfl, rfl, rfl⟩ := hchain
  obtain ⟨hfront, hend, hgap⟩ := h.before_chain
  obtain ⟨hback, hstart, hapart⟩ := h.behind_chain
  refine ⟨hend, hstart, fun l k n hbefore => ?_, fun n k r hafter => ?_⟩
  · by_contra hl
    rw [Bool.not_eq_true] at hl
    have hspaces := isSpaces_spaces n
    have hcut : cutOf (parts (k.word ++ spaces n)) = ⟨[([], .last k)], spaces n⟩ := by
      have hspace := cutOf_spaces_append hspaces []
      rw [List.append_nil] at hspace
      rw [cutOf_word_append k (by simpa using startsWord_spaces hspaces []), hspace]
      simp [cutOf, Cut.keep, Cut.join]
    -- so the gap before the chain would be these spaces, behind another chain
    have hwhole := hfront.cutOf_text
    rw [hbefore, parts_append (.inl hl), cutOf_append, hcut] at hwhole
    obtain ⟨hpieces, hrest⟩ := foldr_absorb_rest (s := ⟨[([], .last k)], spaces n⟩) (parts l)
      (List.cons_ne_nil _ _)
    rw [hwhole] at hpieces hrest
    have hrest : gap = spaces n := hrest
    exact hgap hpieces (hrest ▸ hspaces)
  · by_contra hr
    rw [Bool.not_eq_true] at hr
    have hspaces := isSpaces_spaces n
    refine hapart ?_
    rw [← hback.cutOf_text, hafter, cutOf_spaces_append hspaces, cutOf_word_append k hr]
    generalize cutOf (parts r) = u
    by_cases hspaced : u.StartsSpaced
    · obtain ⟨pieces, rest'⟩ := u
      cases pieces with
      | nil => exact absurd hspaced id
      | cons piece pieces =>
          rw [join_of_startsSpaced hspaced, Cut.keep, List.append_nil]
          exact hspaces
    · rw [join_of_not_startsSpaced hspaced, Cut.keep, List.append_nil]
      exact hspaces

/-- Parts before a chain are cut as they are alone, unless a keyword stands before it with only
spaces between. -/
theorem foldr_absorb_chain {ps : List Text}
    (h : ∀ (k : Keyword) (B : List Text), k.word :: B <:+ ps → (cutOf B).pieces = [] →
      ¬ IsSpaces (cutOf B).rest) (c : Chain) (back : List (Text × Chain)) (rest : Text) :
    ps.foldr absorb ⟨([], c) :: back, rest⟩ =
      ⟨(cutOf ps).pieces ++ ((cutOf ps).rest, c) :: back, rest⟩ := by
  -- From the last part back to the first. A chain would only grow if a keyword before it had
  -- nothing but blanks behind, which is excluded.
  induction ps with
  | nil => rfl
  | cons w ps ih =>
      have hfirst := fun k => h k ps
      have hcons : cutOf (w :: ps) = (cutOf ps).absorb w := rfl
      rw [List.foldr_cons, ih fun k B hB => h k B (hB.trans (List.suffix_cons w ps)), hcons]
      generalize cutOf ps = u at hfirst
      obtain ⟨pieces, last⟩ := u
      cases hw : keyword? w with
      | none =>
          rw [absorb_of_keyword?_eq_none hw, absorb_of_keyword?_eq_none hw]
          cases pieces <;> rfl
      | some k =>
          -- A keyword: it begins a piece of its own, or joins the piece behind the blanks that
          -- follow.
          obtain rfl := eq_word_of_keyword? hw
          rw [absorb_word, absorb_word]
          cases pieces with
          | nil =>
              have hgap : ¬ StartsSpaced ⟨(last, c) :: back, rest⟩ := hfirst k List.suffix_rfl rfl
              rw [List.nil_append, join_of_not_startsSpaced hgap]
              rfl
          | cons piece pieces =>
              by_cases hgap : IsSpaces piece.1
              · rw [List.cons_append, join_of_startsSpaced hgap, join_of_startsSpaced hgap]
                rfl
              · rw [List.cons_append,
                  join_of_not_startsSpaced (s := ⟨piece :: (pieces ++ (last, c) :: back), rest⟩) hgap,
                  join_of_not_startsSpaced (s := ⟨piece :: pieces, last⟩) hgap]
                rfl

end Cut

theorem hasChain_of_isMaximalChain {before after : Text} {c : Chain}
    (h : IsMaximalChain before c after) :
    (cutOf (parts (before ++ (c.text ++ after)))).HasChain before c after := by
  have htext (x : Text) : (cutOf (parts x)).text = x := by rw [text_cutOf, flatten_parts]
  -- The chain is maximal on both sides: no keyword follows over blanks alone, and none stands
  -- before it.
  have hafter : ¬ (cutOf (parts after)).StartsSpaced := by
    intro hspaced
    have hproper := Cut.proper_cutOf after
    have hcut := htext after
    generalize cutOf (parts after) = u at hspaced hproper hcut
    cases hproper with
    | rest => exact hspaced
    | @piece gap c' pieces rest _ _ behind _ _ =>
        obtain ⟨k, r, hfirst, hr⟩ := c'.exists_first behind
        have hgap : IsSpaces gap := hspaced
        rw [Cut.text_mk_cons, hfirst, hgap.eq_spaces] at hcut
        rw [h.last _ k r hcut.symm] at hr
        cases hr
  have hbefore (k : Keyword) (B : List Text) (hB : k.word :: B <:+ parts before)
      (hnil : (cutOf B).pieces = []) : ¬ IsSpaces (cutOf B).rest := by
    intro hspaces
    obtain ⟨A, hA⟩ := hB
    have hrest : B.flatten = (cutOf B).rest := by
      rw [← text_cutOf, Cut.text, hnil]
      rfl
    have hcut : before = A.flatten ++ (k.word ++ spaces ((cutOf B).rest.length - 1)) := by
      rw [← hspaces.eq_spaces, ← hrest, ← List.flatten_cons, ← List.flatten_append, hA,
        flatten_parts]
    have hend := endsWord_before hA.symm (isName_word k)
    rw [h.first _ k _ hcut] at hend
    cases hend
  rw [parts_append (.inl h.endsWord_before), cutOf_append,
    cutOf_chain_append c h.startsWord_after hafter, Cut.foldr_absorb_chain hbefore]
  exact ⟨_, _, _, rfl, (htext before).symm, (htext after).symm⟩

/-- **The chains of the cut are the chains of the text that go no further.** -/
theorem hasChain_cutOf_iff {t before after : Text} {c : Chain} :
    (cutOf (parts t)).HasChain before c after ↔
      before ++ (c.text ++ after) = t ∧ IsMaximalChain before c after := by
  constructor
  · intro h
    refine ⟨?_, (Cut.proper_cutOf t).isMaximalChain h⟩
    obtain ⟨front, gap, back, hpieces, rfl, rfl⟩ := h
    rw [← Cut.text_append, ← hpieces]
    exact (text_cutOf _).trans (flatten_parts t)
  · rintro ⟨rfl, h⟩
    exact hasChain_of_isMaximalChain h

end SwiftExistential.Cleanup
