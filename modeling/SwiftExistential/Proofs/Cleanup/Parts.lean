import Mathlib.Data.List.Infix
import Mathlib.Data.List.SplitBy
import Mathlib.Data.List.TakeWhile
import SwiftExistential.Proofs.SitePatch.Occurrence

/-!
# Parts of a text

A text falls into parts: the longest runs of word characters, and every other character alone. What
the cleanup looks for is a shape of a list of parts, which may begin at any of them; `Lacks` says
that a text has none of a shape.

Parts are used instead of characters because no pass of the cleanup reads a part of a word. A
rewrite is then a change in the list of parts: what stands before it and behind it keeps its parts,
and a shape that begins before it reaches into what was written, while any other begins there or
stood in the text before (`Lacks.edit`). So a pass brings in no shape if this is true of one of its
replacements.
-/

set_option autoImplicit false

namespace SwiftExistential.Text

open Unicode
open SitePatch (IsName)

/-- **The parts of a text.** -/
def parts (t : Text) : List Text := t.splitBy fun a b => isWord a && isWord b

example : parts "as! A.P ".toList =
    ["as".toList, "!".toList, " ".toList, "A".toList, ".".toList, "P".toList, " ".toList] := by
  decide

@[simp] theorem flatten_parts (t : Text) : (parts t).flatten = t := List.flatten_splitBy _ t

@[simp] theorem parts_nil : parts [] = [] := rfl

/-! ## Parts of joined texts

Two texts have the parts of both if no word goes on from one to the other. A name is one part, and
each blank is a part of its own. -/

theorem parts_append {l r : Text} (h : Apart l r) : parts (l ++ r) = parts l ++ parts r := by
  refine List.splitBy_append fun x hx y hy => ?_
  rcases h with h | h
  · rw [endsWord, Option.mem_def.mp hx, Option.any_some] at h
    rw [h, Bool.false_and]
  · rw [startsWord, Option.mem_def.mp hy, Option.any_some] at h
    rw [h, Bool.and_false]

theorem parts_cons {c : Char} (hc : isWord c = false) (r : Text) :
    parts (c :: r) = [c] :: parts r := by
  have hapart : Apart [c] r := .inl hc
  exact parts_append hapart

theorem parts_name {x : Text} (h : IsName x) : parts x = [x] := by
  refine List.splitBy_of_isChain h.1 (List.Pairwise.isChain ?_)
  refine List.pairwise_of_forall_mem_list fun a ha b hb => ?_
  rw [h.2 a ha, h.2 b hb, Bool.and_self]

theorem parts_name_append {x r : Text} (h : IsName x) (hr : startsWord r = false) :
    parts (x ++ r) = x :: parts r := by
  rw [parts_append (.inr hr), parts_name h, List.singleton_append]

theorem exists_word_of_startsWord {t : Text} (h : startsWord t = true) :
    ∃ w r, IsName w ∧ t = w ++ r ∧ startsWord r = false := by
  refine ⟨t.takeWhile isWord, t.dropWhile isWord, ⟨?_, fun c hc => List.mem_takeWhile_imp hc⟩,
    (List.takeWhile_append_dropWhile).symm, head?_dropWhile_any isWord t⟩
  cases t with
  | nil => cases h
  | cons c rest =>
      have hc : isWord c = true := h
      rw [List.takeWhile_cons, if_pos hc]
      exact List.cons_ne_nil _ _

/-- A word may go on in the text behind it. -/
theorem exists_parts_name_append {x : Text} (h : IsName x) (r : Text) :
    ∃ w R, parts (x ++ r) = w :: R ∧ x <+: w ∧ IsName w ∧ R.flatten <:+ r := by
  have hrun : ∀ c ∈ r.takeWhile isWord, isWord c = true := fun c hc => List.mem_takeWhile_imp hc
  have hname : IsName (x ++ r.takeWhile isWord) := by
    refine ⟨List.append_ne_nil_of_left_ne_nil h.1 _, fun c hc => ?_⟩
    exact (List.mem_append.mp hc).elim (h.2 c) (hrun c)
  refine ⟨x ++ r.takeWhile isWord, parts (r.dropWhile isWord), ?_, List.prefix_append x _, hname,
    ?_⟩
  · rw [← parts_name_append hname (head?_dropWhile_any isWord r), List.append_assoc,
      List.takeWhile_append_dropWhile]
  · rw [flatten_parts]
    exact List.dropWhile_suffix _

def isBlankPart : Text → Bool
  | [c] => isBlank c
  | _ => false

theorem isBlankPart_of_isName {x : Text} (h : IsName x) : isBlankPart x = false := by
  match x, h with
  | [], _ => rfl
  | [c], h =>
      refine Bool.eq_false_iff.mpr fun hblank => ?_
      have hword := h.2 c List.mem_cons_self
      rw [isWord_eq_false_of_isBlank hblank] at hword
      cases hword
  | _ :: _ :: _, _ => rfl

theorem parts_blanks {x : Text} (h : ∀ c ∈ x, isBlank c = true) (r : Text) :
    parts (x ++ r) = x.map (fun c => [c]) ++ parts r := by
  induction x with
  | nil => rfl
  | cons c x ih =>
      obtain ⟨hc, hx⟩ := List.forall_mem_cons.mp h
      rw [List.cons_append, parts_cons (isWord_eq_false_of_isBlank hc), ih hx]
      rfl

theorem isBlankPart_of_mem_map {x : Text} (h : ∀ c ∈ x, isBlank c = true) :
    ∀ b ∈ x.map (fun c => [c]), isBlankPart b = true := by
  intro b hb
  obtain ⟨c, hc, rfl⟩ := List.mem_map.mp hb
  exact h c hc

theorem forall_mem_flatten_isBlank {ws : List Text} (h : ∀ b ∈ ws, isBlankPart b = true) :
    ∀ c ∈ ws.flatten, isBlank c = true := by
  intro c hc
  obtain ⟨b, hb, hcb⟩ := List.mem_flatten.mp hc
  have hblank := h b hb
  match b, hblank, hcb with
  | [d], hblank, hcb =>
      rw [List.mem_singleton.mp hcb]
      exact hblank

theorem isBlanks_flatten {ws : List Text} (hne : ws ≠ []) (h : ∀ b ∈ ws, isBlankPart b = true) :
    IsBlanks ws.flatten := by
  refine ⟨?_, forall_mem_flatten_isBlank h⟩
  obtain ⟨b, ws, rfl⟩ := List.exists_cons_of_ne_nil hne
  refine List.append_ne_nil_of_left_ne_nil ?_ _
  rintro rfl
  exact absurd (h [] List.mem_cons_self) (by decide)

/-! ## Single parts

At each part the text is cut, and no word goes on over the cut. So lists of parts and places of the
text are the same thing, and one is used where the other would be awkward. -/

theorem isName_or_of_mem_parts {t w : Text} (h : w ∈ parts t) :
    IsName w ∨ ∃ c, isWord c = false ∧ w = [c] := by
  have hchain := List.isChain_of_mem_splitBy h
  match w, List.ne_nil_of_mem_splitBy h, hchain with
  | [c], _, _ =>
      cases hc : isWord c with
      | true =>
          refine .inl ⟨List.cons_ne_nil c [], fun d hd => ?_⟩
          rw [List.mem_singleton.mp hd, hc]
      | false => exact .inr ⟨c, hc, rfl⟩
  | c :: d :: rest, _, hchain =>
      refine .inl ⟨List.cons_ne_nil c _, ?_⟩
      have hfirst := (List.isChain_cons_cons.mp hchain).1
      rw [Bool.and_eq_true] at hfirst
      -- every character stands next to one of the same run
      have hall (l : Text) (e : Char) (he : isWord e = true)
          (hl : (e :: l).IsChain fun a b => (isWord a && isWord b) = true) :
          ∀ a ∈ e :: l, isWord a = true := by
        induction l generalizing e with
        | nil =>
            intro a ha
            rw [List.mem_singleton.mp ha, he]
        | cons f l ih =>
            obtain ⟨hef, hrest⟩ := List.isChain_cons_cons.mp hl
            rw [Bool.and_eq_true] at hef
            exact List.forall_mem_cons.mpr ⟨he, ih f hef.2 hrest⟩
      exact hall (d :: rest) c hfirst.1 hchain

theorem parts_split {t : Text} {A B : List Text} (h : parts t = A ++ B) :
    parts A.flatten = A ∧ parts B.flatten = B ∧ Apart A.flatten B.flatten := by
  obtain ⟨-, hnil, hruns, hbreaks⟩ := List.splitBy_eq_iff.mp h
  have hnilA : [] ∉ A := fun hmem => hnil (List.mem_append_left B hmem)
  have hnilB : [] ∉ B := fun hmem => hnil (List.mem_append_right A hmem)
  obtain ⟨hbreaksA, hbreaksB, hcut⟩ := List.isChain_append.mp hbreaks
  refine ⟨List.splitBy_flatten hnilA (fun m hm => hruns m (List.mem_append_left B hm)) hbreaksA,
    List.splitBy_flatten hnilB (fun m hm => hruns m (List.mem_append_right A hm)) hbreaksB, ?_⟩
  rcases List.eq_nil_or_concat A with rfl | ⟨A, u, rfl⟩
  · exact .inl rfl
  · cases B with
    | nil => exact .inr rfl
    | cons v B =>
        obtain ⟨hu, hv, huv⟩ := hcut u (by simp) v rfl
        rw [Bool.and_eq_false_iff] at huv
        refine huv.imp (fun hlast => ?_) fun hfirst => ?_
        · rw [List.concat_eq_append, List.flatten_append, List.flatten_singleton,
            endsWord_append_of_ne_nil _ hu, endsWord, List.getLast?_eq_some_getLast hu,
            Option.any_some, hlast]
        · rw [List.flatten_cons, startsWord_append_of_ne_nil hv, startsWord,
            List.head?_eq_some_head hv, Option.any_some, hfirst]

theorem startsWord_behind {t w : Text} {A B : List Text} (h : parts t = A ++ w :: B)
    (hw : IsName w) : startsWord B.flatten = false := by
  obtain ⟨-, -, hapart⟩ := parts_split (A := A ++ [w]) (B := B) (by rw [h]; simp)
  rw [Apart, List.flatten_append, List.flatten_singleton, endsWord_append_of_ne_nil _ hw.1,
    hw.endsWord] at hapart
  exact hapart.resolve_left (by decide)

theorem endsWord_before {t w : Text} {A B : List Text} (h : parts t = A ++ w :: B)
    (hw : IsName w) : endsWord A.flatten = false := by
  obtain ⟨-, -, hapart⟩ := parts_split h
  rw [Apart, List.flatten_cons, startsWord_append_of_ne_nil hw.1, hw.startsWord] at hapart
  exact hapart.resolve_right (by decide)

theorem ne_nil_of_mem_parts {t w : Text} (h : w ∈ parts t) : w ≠ [] := List.ne_nil_of_mem_splitBy h

theorem length_flatten_pos {t : Text} {B : List Text} (h : B <:+ parts t) (hne : B ≠ []) :
    0 < B.flatten.length := by
  obtain ⟨b, B, rfl⟩ := List.exists_cons_of_ne_nil hne
  have hb := ne_nil_of_mem_parts (h.subset List.mem_cons_self)
  rw [List.flatten_cons, List.length_append]
  exact Nat.add_pos_left (List.length_pos_iff.mpr hb) _

theorem length_flatten_le {t : Text} {B : List Text} (h : B <:+ parts t) :
    B.flatten.length ≤ t.length := by
  obtain ⟨A, hAB⟩ := h
  have hlen := congrArg (fun l => (List.flatten l).length) hAB
  simp only [List.flatten_append, List.length_append, flatten_parts] at hlen
  omega

theorem parts_flatten_of_suffix {t : Text} {B : List Text} (h : B <:+ parts t) :
    parts B.flatten = B := by
  obtain ⟨A, hAB⟩ := h
  exact (parts_split hAB.symm).2.1

theorem endsWord_flatten {t : Text} {B : List Text} (h : B <:+ parts t) (hne : B ≠ []) :
    endsWord B.flatten = endsWord t := by
  have hpos := length_flatten_pos h hne
  obtain ⟨A, hAB⟩ := h
  rw [← flatten_parts t, ← hAB, List.flatten_append,
    endsWord_append_of_ne_nil _ (List.length_pos_iff.mp hpos)]

theorem exists_of_append_eq_append_cons {F R Y Z : List Text} {b : Text}
    (h : F ++ R = Y ++ b :: Z) (hb : b ∉ F) : ∃ rest, Y = F ++ rest ∧ R = rest ++ b :: Z := by
  rcases List.append_eq_append_iff.mp h with ⟨rest, hY, hR⟩ | ⟨rest, hF, hZ⟩
  · exact ⟨rest, hY, hR⟩
  · cases rest with
    | nil =>
        refine ⟨[], ?_, ?_⟩
        · rw [hF, List.append_nil, List.append_nil]
        · rw [List.nil_append, hZ]
          rfl
    | cons d rest =>
        obtain ⟨rfl, -⟩ := List.cons.inj hZ
        exact absurd (hF ▸ List.mem_append_right Y List.mem_cons_self) hb

/-- A shape does not begin at parts of another kind than its first one. -/
theorem suffix_of_suffix_append {ok : Text → Prop} {b : Text} {B X N : List Text}
    (h : b :: B <:+ X ++ N) (hb : ok b) (hX : ∀ x ∈ X, ¬ ok x) : b :: B <:+ N := by
  obtain ⟨C, hC⟩ := h
  rcases List.append_eq_append_iff.mp hC with ⟨Y, rfl, hY⟩ | ⟨Y, -, hN⟩
  · cases Y with
    | nil => exact ⟨[], hY⟩
    | cons d Y =>
        obtain ⟨rfl, -⟩ := List.cons.inj hY
        exact absurd hb (hX b (List.mem_append_right C List.mem_cons_self))
  · exact ⟨Y, hN.symm⟩

/-! ## Shapes

A shape is a predicate of the list of parts from a place on. It is looked for at every suffix of the
list. -/

/-- **A text lacks a shape**: it begins at none of the parts. -/
def Lacks (shape : List Text → Prop) (t : Text) : Prop := ∀ B, B <:+ parts t → ¬ shape B

instance (shape : List Text → Prop) [DecidablePred shape] (t : Text) : Decidable (Lacks shape t) :=
  decidable_of_iff (∀ B ∈ (parts t).tails, ¬ shape B) (by simp only [List.mem_tails, Lacks])

/-- No shape begins in the first text, where the second one stands behind it. -/
def LacksBefore (shape : List Text → Prop) (l r : Text) : Prop :=
  ∀ B, B <:+ parts (l ++ r) → r.length < B.flatten.length → ¬ shape B

variable {shape : List Text → Prop} {l r r₀ r₁ x : Text}

theorem lacks_iff {t : Text} :
    Lacks shape t ↔ ∀ l r, t = l ++ r → Apart l r → ¬ shape (parts r) := by
  constructor
  · rintro h l r rfl hapart
    exact h _ ⟨parts l, (parts_append hapart).symm⟩
  · rintro h B ⟨A, hAB⟩
    obtain ⟨-, hB, hapart⟩ := parts_split hAB.symm
    rw [← hB]
    refine h A.flatten B.flatten ?_ hapart
    rw [← List.flatten_append, hAB, flatten_parts]

/-- What begins at the last parts of a text with others behind it begins before these or in them. -/
theorem suffix_append_cases {A B N : List Text} (h : B <:+ A ++ N) :
    (∃ Y, Y ≠ [] ∧ Y <:+ A ∧ B = Y ++ N) ∨ B <:+ N := by
  obtain ⟨C, hC⟩ := h
  rcases List.append_eq_append_iff.mp hC with ⟨Y, rfl, rfl⟩ | ⟨Y, -, hN⟩
  · rcases eq_or_ne Y [] with rfl | hY
    · exact .inr List.suffix_rfl
    · exact .inl ⟨Y, hY, List.suffix_append C Y, rfl⟩
  · exact .inr ⟨Y, hN.symm⟩

/-- **No shape is brought in by a change**, if one that begins before it or in what was written was
in the text before. -/
theorem Lacks.edit (h : Lacks shape (l ++ r₀)) (h₀ : Apart l r₀) (h₁ : Apart l r₁)
    (hbefore : ∀ Y, Y ≠ [] → Y <:+ parts l → shape (Y ++ parts r₁) →
      ∃ B, B <:+ Y ++ parts r₀ ∧ shape B)
    (hinside : ∀ B, B <:+ parts r₁ → shape B → ∃ B', B' <:+ parts r₀ ∧ shape B') :
    Lacks shape (l ++ r₁) := by
  rw [Lacks, parts_append h₀] at h
  intro B hB hshape
  rw [parts_append h₁] at hB
  rcases suffix_append_cases hB with ⟨Y, hne, ⟨C, hC⟩, rfl⟩ | hB
  · obtain ⟨B, hB, hshape⟩ := hbefore Y hne ⟨C, hC⟩ hshape
    refine h B (hB.trans ⟨C, ?_⟩) hshape
    rw [← hC, List.append_assoc]
  · obtain ⟨B', hB', hshape⟩ := hinside B hB hshape
    exact h B' (hB'.trans (List.suffix_append _ _)) hshape

/-- A change brings in no shape that begins before its end. -/
theorem LacksBefore.edit (h : LacksBefore shape l r₀) (h₀ : Apart l r₀) (h₁ : Apart l (x ++ r))
    (hbefore : ∀ Y, Y ≠ [] → Y <:+ parts l → shape (Y ++ parts (x ++ r)) →
      shape (Y ++ parts r₀))
    (hinside : ∀ B, B <:+ parts (x ++ r) → shape B → B.flatten.length ≤ r.length) :
    LacksBefore shape (l ++ x) r := by
  rw [LacksBefore, parts_append h₀] at h
  intro B hB hlen hshape
  rw [List.append_assoc, parts_append h₁] at hB
  rcases suffix_append_cases hB with ⟨Y, hne, hY, rfl⟩ | hB
  · refine h (Y ++ parts r₀) ?_ ?_ (hbefore Y hne hY hshape)
    · obtain ⟨C, hC⟩ := hY
      exact ⟨C, by rw [← hC, List.append_assoc]⟩
    · have hpos := length_flatten_pos hY hne
      rw [List.flatten_append, List.length_append, flatten_parts]
      omega
  · exact absurd (hinside B hB hshape) (Nat.not_le_of_lt hlen)

theorem lacksBefore_nil : LacksBefore shape [] r := by
  intro B hB hlen
  rw [List.nil_append] at hB
  exact absurd (length_flatten_le hB) (Nat.not_le_of_lt hlen)

/-- The first text may be longer by one in which no shape begins. -/
theorem LacksBefore.append (h : LacksBefore shape l (x ++ r))
    (hx : ∀ u v, x = u ++ v → v ≠ [] → Apart (l ++ u) (v ++ r) → ¬ shape (parts (v ++ r))) :
    LacksBefore shape (l ++ x) r := by
  intro B hB hlen hshape
  rw [List.append_assoc] at hB
  by_cases hinside : (x ++ r).length < B.flatten.length
  · exact h B hB hinside hshape
  · obtain ⟨A, hAB⟩ := hB
    obtain ⟨-, hB, hapart⟩ := parts_split hAB.symm
    have htext : A.flatten ++ B.flatten = l ++ (x ++ r) := by
      rw [← List.flatten_append, hAB, flatten_parts]
    -- the shape begins behind `l` and before `r`
    obtain ⟨u, hA, hxr⟩ : ∃ u, A.flatten = l ++ u ∧ x ++ r = u ++ B.flatten := by
      rcases List.append_eq_append_iff.mp htext with ⟨u, hl, hBu⟩ | ⟨u, hA, hxr⟩
      · have hu : u = [] := by
          rw [hBu, List.length_append, List.length_append] at hinside
          rw [List.length_append] at hinside
          exact List.length_eq_zero_iff.mp (by omega)
        subst hu
        exact ⟨[], by rw [hl, List.append_nil, List.append_nil], hBu.symm⟩
      · exact ⟨u, hA, hxr⟩
    obtain ⟨v, rfl, hBv⟩ : ∃ v, x = u ++ v ∧ B.flatten = v ++ r := by
      rcases List.append_eq_append_iff.mp hxr with ⟨v, hu, hr⟩ | ⟨v, hx, hr⟩
      · rw [hr, List.length_append] at hlen
        omega
      · exact ⟨v, hx, hr⟩
    have hv : v ≠ [] := by
      rintro rfl
      rw [hBv] at hlen
      exact Nat.lt_irrefl _ hlen
    rw [hA, hBv] at hapart
    refine hx u v rfl hv hapart ?_
    rw [← hBv, hB]
    exact hshape

theorem LacksBefore.lacks (h : LacksBefore shape x []) (hnil : ¬ shape []) : Lacks shape x := by
  intro B hB hshape
  rcases eq_or_ne B [] with rfl | hne
  · exact hnil hshape
  · refine h B ?_ (length_flatten_pos hB hne) hshape
    rwa [List.append_nil]

end SwiftExistential.Text
