import Mathlib.Data.List.Infix
import SwiftExistential.Text.Basic

/-!
# Occurrences and sweeps

What the searches of plain text find, said with prefixes and infixes of lists: a text has a part if
it is the part with something before it and something behind it, and a text that is cut at a part is
cut at the first one.

A sweep goes over a text from the left. Where something is to be replaced it puts the new text there
and goes on behind it, and it keeps every other character (`IsSweep`). Replacing the parts of a
command line is a sweep, and so is replacing the successive matches of a pattern. What a sweep does
is settled by what it replaces (`IsSweep.unique`), so two ways to compute a sweep agree, and it does
not matter what stands before the place where it begins.
-/

set_option autoImplicit false

namespace SwiftExistential.Text

/-! ## Occurrences

The functions that look for a part go over the text with the part in hand. What they find is told by
the text alone. -/

section

variable {part t : Text}

/-- A text without the character ends before it. -/
theorem exists_append_of_not_mem {c : Char} {w t x r : Text} (h : w ++ c :: t = x ++ r)
    (hc : c ∉ x) :
    ∃ u, w = x ++ u ∧ r = u ++ c :: t := by
  rcases List.append_eq_append_iff.mp h with ⟨u, rfl, hu⟩ | ⟨u, hu, hr⟩
  · cases u with
    | nil => exact ⟨[], (List.append_nil _).symm.trans (List.append_nil _).symm, hu.symm⟩
    | cons d u =>
        obtain rfl : c = d := (List.cons.inj hu).1
        exact absurd (List.mem_append_right _ List.mem_cons_self) hc
  · exact ⟨u, hu, hr⟩

theorem hasPart_iff : hasPart part t = true ↔ part <:+: t := by
  induction t with
  | nil => rw [hasPart, List.isEmpty_iff, List.infix_nil]
  | cons c rest ih =>
      rw [hasPart, Bool.or_eq_true, ih, List.isPrefixOf_iff_prefix, List.infix_cons_iff]

theorem dropPart?_eq_some_iff {after : Text} :
    dropPart? part t = some after ↔ t = part ++ after := by
  fun_induction dropPart? part t with
  | case1 t => simp [eq_comm]
  | case2 => simp
  | case3 c part rest ih => simp [ih]
  | case4 d part c rest hne => simp [Ne.symm hne]

theorem eq_append_of_splitAtPart? {before after : Text}
    (h : splitAtPart? part t = some (before, after)) : t = before ++ part ++ after := by
  induction t generalizing before with
  | nil =>
      rw [splitAtPart?] at h
      split at h
      · rename_i hempty
        cases h
        rw [List.isEmpty_iff.mp hempty]
        rfl
      · cases h
  | cons c rest ih =>
      rw [splitAtPart?] at h
      split at h
      · rename_i hdrop
        cases h
        exact dropPart?_eq_some_iff.mp hdrop
      · simp only [Option.map_eq_some_iff, Prod.exists, Prod.mk.injEq] at h
        obtain ⟨u, v, huv, rfl, rfl⟩ := h
        rw [ih huv]
        rfl

/-- **A text is cut if and only if it has the part.** -/
theorem splitAtPart?_eq_none_iff : splitAtPart? part t = none ↔ ¬ part <:+: t := by
  induction t with
  | nil => simp [splitAtPart?]
  | cons c rest ih =>
      rw [splitAtPart?, List.infix_cons_iff, not_or, ← ih]
      split
      · rename_i after hdrop
        have hstarts : part <+: c :: rest := ⟨after, (dropPart?_eq_some_iff.mp hdrop).symm⟩
        simp [hstarts]
      · rename_i hdrop
        have hstarts : ¬ part <+: c :: rest := by
          rintro ⟨after, hafter⟩
          rw [dropPart?_eq_some_iff.mpr hafter.symm] at hdrop
          cases hdrop
        simp [hstarts]

end

/-! ## Sweeps

What is replaced may depend on the text before it: a word is replaced only if no word goes on to it.
This text is carried along, the nearest character first. -/

/-- **A sweep.** Where `replaces x y r`, a text `x` that is followed by `r` is replaced by `y`. The
first text that `f` is given is what stands before, the nearest character first. -/
structure IsSweep (replaces : Text → Text → Text → Prop) (f : Text → Text → Text) : Prop where
  ne_nil : ∀ {x y r}, replaces x y r → x ≠ []
  nil : ∀ before, f before [] = []
  replace : ∀ {before x y r}, replaces x y r → f before (x ++ r) = y ++ f (x.reverse ++ before) r
  keep : ∀ {before c r}, (∀ x y r', replaces x y r' → c :: r ≠ x ++ r') →
    f before (c :: r) = c :: f (c :: before) r

namespace IsSweep

variable {replaces : Text → Text → Text → Prop} {f g : Text → Text → Text}

/-- A sweep takes one step after the other: it replaces a text, or it keeps a character. -/
theorem induct (h : IsSweep replaces f) {motive : Text → Prop} (nil : motive [])
    (replace : ∀ {x y r}, replaces x y r → motive r → motive (x ++ r))
    (keep : ∀ {c r}, (∀ x y r', replaces x y r' → c :: r ≠ x ++ r') → motive r → motive (c :: r))
    (t : Text) : motive t := by
  induction hlen : t.length using Nat.strongRecOn generalizing t with
  | _ n ih =>
      subst hlen
      by_cases hreplaces : ∃ x y r, replaces x y r ∧ t = x ++ r
      · obtain ⟨x, y, r, hxy, rfl⟩ := hreplaces
        have hpos := List.length_pos_iff.mpr (h.ne_nil hxy)
        exact replace hxy (ih r.length (by rw [List.length_append]; omega) r rfl)
      · cases t with
        | nil => exact nil
        | cons c r =>
            exact keep (fun x y r' hxy heq => hreplaces ⟨x, y, r', hxy, heq⟩)
              (ih r.length (Nat.lt_succ_self _) r rfl)

/-- **There is one sweep** for what is to be replaced. -/
theorem unique (hf : IsSweep replaces f) (hg : IsSweep replaces g) (before before' t : Text) :
    f before t = g before' t := by
  induction t using hf.induct generalizing before before' with
  | nil => rw [hf.nil, hg.nil]
  | replace hxy ih => rw [hf.replace hxy, hg.replace hxy, ih]
  | keep hkeep ih => rw [hf.keep hkeep, hg.keep hkeep, ih]

theorem congr_before (h : IsSweep replaces f) (before before' t : Text) :
    f before t = f before' t :=
  h.unique h before before' t

/-! ### What a sweep keeps

A text in which nothing is to be replaced is kept. If all that is replaced begins and ends at
characters of one kind, a character of another kind cuts the sweep in two. -/

theorem append_of_forall (h : IsSweep replaces f) {w r : Text}
    (hw : ∀ s, s ≠ [] → s <:+ w → ∀ x y r', replaces x y r' → s ++ r ≠ x ++ r')
    (before before' : Text) : f before (w ++ r) = w ++ f before' r := by
  induction w generalizing before with
  | nil => exact h.congr_before before before' r
  | cons c w ih =>
      have hkeep : ∀ x y r', replaces x y r' → c :: (w ++ r) ≠ x ++ r' :=
        hw (c :: w) (List.cons_ne_nil c w) (List.suffix_refl _)
      rw [List.cons_append, h.keep hkeep, ih, List.cons_append]
      exact fun s hne hs => hw s hne (hs.trans (List.suffix_cons c w))

/-- **Behind a character that is in nothing to be replaced the sweep begins anew**, if what is
replaced before it does not depend on it either. -/
theorem append_cons (h : IsSweep replaces f) {c : Char} {t : Text}
    (hx : ∀ {x y r}, replaces x y r → c ∉ x)
    (hr : ∀ {x y r}, replaces x y (r ++ c :: t) ↔ replaces x y r) (before w : Text) :
    f before (w ++ c :: t) = f before w ++ c :: f before t := by
  induction w using h.induct generalizing before with
  | nil =>
      have hkeep : ∀ x y r, replaces x y r → c :: t ≠ x ++ r := by
        intro x y r hxy heq
        obtain ⟨d, rest, rfl⟩ := List.exists_cons_of_ne_nil (h.ne_nil hxy)
        obtain rfl : c = d := (List.cons.inj heq).1
        exact hx hxy List.mem_cons_self
      rw [List.nil_append, h.keep hkeep, h.nil, List.nil_append,
        h.congr_before (c :: before) before]
  | @replace x y r hxy ih =>
      have hlonger : replaces x y (r ++ c :: t) := hr.mpr hxy
      rw [List.append_assoc, h.replace hlonger, h.replace hxy, ih, List.append_assoc,
        h.congr_before (x.reverse ++ before) before t]
  | @keep d r hkeep ih =>
      have hlonger : ∀ x y r', replaces x y r' → d :: (r ++ c :: t) ≠ x ++ r' := by
        intro x y r' hxy heq
        obtain ⟨u, hu, rfl⟩ := exists_append_of_not_mem (w := d :: r) heq (hx hxy)
        exact hkeep x y u (hr.mp hxy) hu
      rw [List.cons_append, h.keep hlonger, h.keep hkeep, ih, List.cons_append,
        h.congr_before (d :: before) before t]

theorem eq_self_of_not_mem (h : IsSweep replaces f) {d : Char}
    (hy : ∀ {x y r}, replaces x y r → d ∈ y) {before w : Text} (hd : d ∉ f before w) :
    f before w = w := by
  induction w using h.induct generalizing before with
  | nil => exact h.nil before
  | replace hxy ih =>
      rw [h.replace hxy] at hd
      exact absurd (List.mem_append_left _ (hy hxy)) hd
  | keep hkeep ih =>
      rw [h.keep hkeep] at hd ⊢
      rw [ih fun hmem => hd (List.mem_cons_of_mem _ hmem)]

/-- **A text is the result of nothing but itself** if it lacks a character of whatever is replaced
and one of whatever is put in. -/
theorem eq_iff_of_not_mem (h : IsSweep replaces f) {c d : Char}
    (hx : ∀ {x y r}, replaces x y r → c ∈ x) (hy : ∀ {x y r}, replaces x y r → d ∈ y)
    {before v w : Text} (hc : c ∉ v) (hd : d ∉ v) : f before w = v ↔ w = v := by
  constructor
  · rintro rfl
    exact (h.eq_self_of_not_mem hy hd).symm
  · rintro rfl
    have hkeep := h.append_of_forall (w := w) (r := []) ?_ before before
    · rwa [h.nil, List.append_nil] at hkeep
    · rintro s - hs x y r' hxy heq
      rw [List.append_nil] at heq
      subst heq
      exact hc (hs.subset (List.mem_append_left r' (hx hxy)))

/-- What holds of all characters of a text and of what is put in holds of the result. -/
theorem forall_mem (h : IsSweep replaces f) {good : Char → Prop}
    (hy : ∀ {x y r}, replaces x y r → ∀ c ∈ y, good c) {before t : Text} (ht : ∀ c ∈ t, good c) :
    ∀ c ∈ f before t, good c := by
  induction t using h.induct generalizing before with
  | nil =>
      rw [h.nil]
      exact ht
  | replace hxy ih =>
      rw [h.replace hxy]
      exact List.forall_mem_append.mpr ⟨hy hxy, ih (List.forall_mem_append.mp ht).2⟩
  | keep hkeep ih =>
      rw [h.keep hkeep]
      obtain ⟨hc, hr⟩ := List.forall_mem_cons.mp ht
      exact List.forall_mem_cons.mpr ⟨hc, ih hr⟩

end IsSweep

/-! ## Replaced parts

The function for plain parts keeps what it has read in an accumulator. It is a sweep whatever the
accumulator holds. -/

theorem replacePart_go (part new : Text) (skip : Nat) (t : Text) :
    replacePart.go part new skip t = replacePart part new (t.drop skip) := by
  induction t generalizing skip with
  | nil => simp [replacePart, replacePart.go]
  | cons c rest ih =>
      cases skip with
      | zero => rfl
      | succ skip => rw [replacePart.go, ih, List.drop_succ_cons]

/-- **Replacing the occurrences of a part** is a sweep. -/
theorem isSweep_replacePart {part : Text} (hne : part ≠ []) (new : Text) :
    IsSweep (fun x y _ => x = part ∧ y = new) fun _ => replacePart part new where
  ne_nil := by
    rintro x y r ⟨rfl, -⟩
    exact hne
  nil _ := rfl
  replace := by
    rintro _ x y r ⟨rfl, rfl⟩
    obtain ⟨c, rest, rfl⟩ := List.exists_cons_of_ne_nil hne
    have hstarts : (c :: rest).isPrefixOf (c :: (rest ++ r)) = true :=
      List.isPrefixOf_iff_prefix.mpr (List.prefix_append (c :: rest) r)
    rw [List.cons_append, replacePart, replacePart.go, hstarts, replacePart_go]
    simp
  keep := by
    intro _ c r hkeep
    have hstarts : part.isPrefixOf (c :: r) = false := by
      rw [← Bool.not_eq_true, List.isPrefixOf_iff_prefix]
      rintro ⟨r', h⟩
      exact hkeep part new r' ⟨rfl, rfl⟩ h.symm
    rw [replacePart, replacePart.go, hstarts, Bool.and_false, if_neg Bool.false_ne_true,
      replacePart_go]
    rfl

end SwiftExistential.Text
