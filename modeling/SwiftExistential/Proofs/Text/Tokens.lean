import Mathlib.Data.List.SplitBy
import Mathlib.Data.List.TakeWhile
import SwiftExistential.Proofs.Text.Occurrence
import SwiftExistential.Text.Basic
import SwiftExistential.Unicode.Word

/-!
# Tokens, lines and fields

A text falls into tokens: the runs of word characters, and every other character that is no blank.
`bare` leaves out the tokens that an annotation is made of, the two keywords and the parentheses.
Two texts next to each other have the tokens of both, unless a word goes on from one to the other
(`tokens_append`). So an annotation can be replaced by another one where no word touches it, and the
text still has the same bare tokens (`bare_replace`): this is the one step that every pass and every
patch is made of, seen from the program that is rewritten.

Lines are the other way to cut a text. A line end starts a new line (`lines_append_newline`), and a
text without one is a single line, so what happens on one line can be seen apart from the others.

The fields of a command line are what stands between the blanks: texts without a blank and with
something in them (`IsField`). Fields that are put together with a single blank between them are
read again as they were (`fields_joined`).
-/

set_option autoImplicit false

namespace SwiftExistential

namespace Unicode

theorem isWord_eq_false_of_isBlank {c : Char} (h : isBlank c = true) : isWord c = false := by
  -- the blanks are few enough to look at each of them
  have hall : ∀ r ∈ blankRanges, ∀ n ∈ List.range' r.1 (r.2 + 1 - r.1),
      wordRanges.holds n = false := by decide +kernel
  obtain ⟨r, hr, hlo, hhi⟩ := Ranges.exists_of_holds h
  exact hall r hr c.toNat (List.mem_range'_1.mpr ⟨hlo, by omega⟩)

end Unicode

namespace Text

open Unicode

/-! ## Words at the ends of a text

Whether two texts can stand next to each other without joining their words is told by the last
character of the one and the first character of the other. -/

def startsWord (t : Text) : Bool := t.head?.any isWord

def endsWord (t : Text) : Bool := t.getLast?.any isWord

/-- No word goes on from the first text to the second. -/
def Apart (l r : Text) : Prop := endsWord l = false ∨ startsWord r = false

@[simp] theorem endsWord_concat (t : Text) (c : Char) : endsWord (t ++ [c]) = isWord c := by
  rw [endsWord, List.getLast?_concat, Option.any_some]

theorem endsWord_append_of_ne_nil (l : Text) {x : Text} (h : x ≠ []) :
    endsWord (l ++ x) = endsWord x := by
  rw [endsWord, List.getLast?_append_of_ne_nil l h, endsWord]

theorem endsWord_reverse (t : Text) : endsWord t.reverse = startsWord t := by
  rw [endsWord, List.getLast?_reverse, startsWord]

/-- The end of a longer text depends on the text before only if nothing is put behind it. -/
theorem endsWord_append_congr {l l' : Text} (h : endsWord l = endsWord l') (x : Text) :
    endsWord (l ++ x) = endsWord (l' ++ x) := by
  by_cases hx : x = []
  · rw [hx, List.append_nil, List.append_nil, h]
  · rw [endsWord_append_of_ne_nil l hx, endsWord_append_of_ne_nil l' hx]

theorem startsWord_append_of_ne_nil {x : Text} (h : x ≠ []) (r : Text) :
    startsWord (x ++ r) = startsWord x := by
  cases x with
  | nil => exact absurd rfl h
  | cons c rest => rfl

theorem ne_nil_of_startsWord {t : Text} (h : startsWord t = true) : t ≠ [] := by
  rintro rfl
  cases h

theorem ne_nil_of_endsWord {t : Text} (h : endsWord t = true) : t ≠ [] := by
  rintro rfl
  cases h

theorem endsWord_of_forall {x : Text} (h : ∀ c ∈ x, isWord c = false) : endsWord x = false := by
  cases hlast : x.getLast? with
  | none => rw [endsWord, hlast]; rfl
  | some c => rw [endsWord, hlast, Option.any_some, h c (List.mem_of_getLast? hlast)]

theorem head?_dropWhile_any (ok : Char → Bool) (t : Text) :
    (t.dropWhile ok).head?.any ok = false := by
  induction t with
  | nil => rfl
  | cons c rest ih =>
      rw [List.dropWhile_cons]
      split
      · exact ih
      · rename_i hc
        exact Bool.eq_false_iff.mpr hc

/-- A list has one longest first part of one kind of members. -/
theorem append_inj_of_forall {α : Type} {ok : α → Bool} {x y r s : List α} (h : x ++ r = y ++ s)
    (hx : ∀ c ∈ x, ok c = true) (hy : ∀ c ∈ y, ok c = true) (hr : r.head?.any ok = false)
    (hs : s.head?.any ok = false) : x = y ∧ r = s := by
  have hfirst {x r : List α} (hx : ∀ c ∈ x, ok c = true) (hr : r.head?.any ok = false) :
      (x ++ r).takeWhile ok = x := by
    rw [List.takeWhile_append_of_pos hx]
    cases r with
    | nil => exact List.append_nil x
    | cons c rest =>
        have hc : ok c = false := hr
        rw [List.takeWhile_cons, hc, if_neg Bool.false_ne_true, List.append_nil]
  have hxy : x = y := by rw [← hfirst hx hr, h, hfirst hy hs]
  subst hxy
  exact ⟨rfl, List.append_cancel_left h⟩

/-! ## Tokens

A cut inside a text leaves its tokens alone if no word goes on over the cut (`Apart`). All results
about tokens are stated for parts that are apart. -/

/-- **The tokens of a text**: the longest runs of word characters, and every other character that is
no blank. -/
def tokens (t : Text) : List Text :=
  (t.splitBy fun a b => isWord a && isWord b).filter fun part => !part.all isBlank

def annotations : List Text := ["any".toList, "some".toList, "(".toList, ")".toList]

/-- **The tokens that are no part of an annotation.** -/
def bare (t : Text) : List Text := (tokens t).filter fun token => !annotations.contains token

example : tokens "f(any P?)".toList =
    ["f".toList, "(".toList, "any".toList, "P".toList, "?".toList, ")".toList] := by
  decide

theorem tokens_append {l r : Text} (h : Apart l r) : tokens (l ++ r) = tokens l ++ tokens r := by
  rw [tokens, List.splitBy_append, List.filter_append, ← tokens, ← tokens]
  -- no run goes on over the cut: one of the two characters there is no word character
  intro x hx y hy
  rcases h with h | h
  · rw [endsWord, Option.mem_def.mp hx, Option.any_some] at h
    rw [h, Bool.false_and]
  · rw [startsWord, Option.mem_def.mp hy, Option.any_some] at h
    rw [h, Bool.and_false]

theorem bare_append {l r : Text} (h : Apart l r) : bare (l ++ r) = bare l ++ bare r := by
  rw [bare, tokens_append h, List.filter_append, ← bare, ← bare]

/-- A text without bare tokens can be left out where no word touches it. -/
theorem bare_append_append {l u r : Text} (hu : bare u = []) (hl : Apart l (u ++ r))
    (hr : Apart u r) : bare (l ++ u ++ r) = bare l ++ bare r := by
  calc bare (l ++ u ++ r)
      = bare l ++ bare (u ++ r) := by rw [List.append_assoc, bare_append hl]
    _ = bare l ++ (bare u ++ bare r) := by rw [bare_append hr]
    _ = bare l ++ bare r := by rw [hu, List.nil_append]

/-- **An annotation can be replaced by another one** where no word touches either. -/
theorem bare_replace {l u v r : Text} (hu : bare u = []) (hv : bare v = [])
    (hlu : Apart l (u ++ r)) (hur : Apart u r) (hlv : Apart l (v ++ r)) (hvr : Apart v r) :
    bare (l ++ u ++ r) = bare (l ++ v ++ r) := by
  rw [bare_append_append hu hlu hur, bare_append_append hv hlv hvr]

/-! ## Blanks

Blanks have no tokens, and no word goes on into them. -/

def IsBlanks (x : Text) : Prop := x ≠ [] ∧ ∀ c ∈ x, isBlank c = true

theorem bare_blanks {x : Text} (h : ∀ c ∈ x, isBlank c = true) : bare x = [] := by
  induction x with
  | nil => rfl
  | cons c rest ih =>
      have hc := h c List.mem_cons_self
      -- a blank is apart from whatever comes next, so it can be looked at alone
      have hapart : Apart [c] rest := .inl (by
        rw [← List.nil_append [c], endsWord_concat, isWord_eq_false_of_isBlank hc])
      have hone : bare [c] = [] := by
        simp [bare, tokens, List.splitBy, List.splitBy.loop, hc]
      rw [← List.singleton_append, bare_append hapart, hone,
        ih fun d hd => h d (List.mem_cons_of_mem _ hd), List.append_nil]

theorem startsWord_blanks {x : Text} (h : ∀ c ∈ x, isBlank c = true) : startsWord x = false := by
  cases x with
  | nil => rfl
  | cons c rest => exact isWord_eq_false_of_isBlank (h c List.mem_cons_self)

theorem endsWord_blanks {x : Text} (h : ∀ c ∈ x, isBlank c = true) : endsWord x = false :=
  endsWord_of_forall fun c hc => isWord_eq_false_of_isBlank (h c hc)

/-! ## Lines

The first line is what stands before the first line end. A change of this part alone leaves the
other lines as they are. -/

theorem splitOn_of_not_mem {sep : Char} {t : Text} (h : sep ∉ t) : splitOn sep t = [t] := by
  induction t with
  | nil => rfl
  | cons c rest ih =>
      have hc : c ≠ sep := fun hc => h (by simp [hc])
      have hrest : sep ∉ rest := fun hmem => h (by simp [hmem])
      rw [splitOn, if_neg hc, ih hrest]

/-- The first separator ends the first part. -/
theorem splitOn_append_cons {sep : Char} {l : Text} (h : sep ∉ l) (r : Text) :
    splitOn sep (l ++ sep :: r) = l :: splitOn sep r := by
  induction l with
  | nil => rw [List.nil_append, splitOn, if_pos rfl]
  | cons c rest ih =>
      have hc : c ≠ sep := fun hc => h (by simp [hc])
      have hrest : sep ∉ rest := fun hmem => h (by simp [hmem])
      rw [List.cons_append, splitOn, if_neg hc, ih hrest]

theorem lines_of_not_mem {t : Text} (h : '\n' ∉ t) : lines t = [t] := splitOn_of_not_mem h

theorem lines_append_newline {l : Text} (h : '\n' ∉ l) (r : Text) :
    lines (l ++ '\n' :: r) = l :: lines r :=
  splitOn_append_cons h r

/-- What stands before the first line end has none. -/
theorem not_mem_takeWhile_line (t : Text) : '\n' ∉ t.takeWhile (· != '\n') := by
  intro hmem
  have hne := List.mem_takeWhile_imp (p := (· != '\n')) hmem
  simp at hne

/-- Where a line is cut off, a line end follows or nothing at all. -/
theorem dropWhile_line_eq (t : Text) :
    t.dropWhile (· != '\n') = [] ∨ ∃ r, t.dropWhile (· != '\n') = '\n' :: r := by
  cases hdrop : t.dropWhile (· != '\n') with
  | nil => exact .inl rfl
  | cons c rest =>
      have hnot := List.head_dropWhile_not (· != '\n') (l := t) (by rw [hdrop]; simp)
      have hc : c = '\n' := by simpa [hdrop] using hnot
      exact .inr ⟨rest, by rw [hc]⟩

/-- **The first line of a text**, and the lines behind it, which no change of the first one
touches. -/
theorem exists_lines_eq (t : Text) :
    ∃ later, ∀ line : Text, '\n' ∉ line →
      lines (line ++ t.dropWhile (· != '\n')) = line :: later := by
  rcases dropWhile_line_eq t with hdrop | ⟨r, hdrop⟩
  · exact ⟨[], fun line hline => by rw [hdrop, List.append_nil, lines_of_not_mem hline]⟩
  · exact ⟨lines r, fun line hline => by rw [hdrop, lines_append_newline hline]⟩

theorem length_lines_pos (t : Text) : 0 < (lines t).length :=
  List.length_pos_iff.mpr (splitOn_ne_nil '\n' t)

/-! ## Fields

Fields are defined by the library's way to split a list, with the empty parts left out. -/

/-- **The parts between the blanks**; blanks at the ends and next to each other have none between
them. -/
def fields (t : Text) : List Text := (t.splitOnP isBlank).filter fun part => !part.isEmpty

/-- A text that can stand between blanks. -/
structure IsField (w : Text) : Prop where
  ne_nil : w ≠ []
  not_blank : ∀ c ∈ w, isBlank c = false

instance (w : Text) : Decidable (IsField w) :=
  decidable_of_iff (w ≠ [] ∧ ∀ c ∈ w, isBlank c = false)
    ⟨fun h => ⟨h.1, h.2⟩, fun h => ⟨h.1, h.2⟩⟩

/-- Puts a single blank between the parts. -/
def joined (ws : List Text) : Text := join [' '] ws

variable {w : Text} {ws : List Text} {l r t : Text} {c : Char}

theorem isBlank_space : isBlank ' ' = true := by decide

theorem IsField.space_not_mem (h : IsField w) : ' ' ∉ w := fun hmem =>
  Bool.false_ne_true ((h.not_blank ' ' hmem).symm.trans isBlank_space)

/-- A field ends where the blank behind it stands. -/
theorem IsField.append_space_inj {v : Text} (hw : IsField w) (hv : IsField v)
    (h : w ++ ' ' :: l = v ++ ' ' :: r) : w = v ∧ l = r := by
  have hspace (r : Text) : (' ' :: r).head?.any (fun c => !isBlank c) = false := by
    rw [List.head?_cons, Option.any_some, isBlank_space, Bool.not_true]
  have hfield {x : Text} (hx : IsField x) : ∀ c ∈ x, (fun c => !isBlank c) c = true :=
    fun c hc => by simp only [hx.not_blank c hc, Bool.not_false]
  obtain ⟨hwv, hlr⟩ := append_inj_of_forall h (hfield hw) (hfield hv) (hspace l) (hspace r)
  exact ⟨hwv, (List.cons.inj hlr).2⟩

theorem joined_cons_cons (w v : Text) (ws : List Text) :
    joined (w :: v :: ws) = w ++ ' ' :: joined (v :: ws) := by
  rw [joined, join, List.append_assoc]
  · rfl
  · simp

theorem joined_suffix_cons (w : Text) (hws : ws ≠ []) : joined ws <:+ joined (w :: ws) := by
  obtain ⟨v, rest, rfl⟩ := List.exists_cons_of_ne_nil hws
  rw [joined_cons_cons, List.append_cons]
  exact List.suffix_append _ _

/-! ### Reading the fields

Every field is a text without blanks, and reading is the inverse of joining. -/

theorem fields_append_blank (l r : Text) (hc : isBlank c = true) :
    fields (l ++ c :: r) = fields l ++ fields r := by
  rw [fields, List.splitOnP_append_cons l r hc, List.filter_append, ← fields, ← fields]

theorem IsField.fields_eq (h : IsField w) : fields w = [w] := by
  have hne := h.ne_nil
  rw [fields, List.splitOnP_eq_singleton h.not_blank]
  simp [hne]

theorem forall_of_mem_splitOnP {cut : Char → Bool} (h : w ∈ t.splitOnP cut) :
    ∀ c ∈ w, cut c = false := by
  induction t generalizing w with
  | nil =>
      rw [List.splitOnP_nil, List.mem_singleton] at h
      subst h
      exact fun c hc => absurd hc List.not_mem_nil
  | cons d rest ih =>
      rw [List.splitOnP_cons_eq_if_modifyHead] at h
      obtain ⟨part, parts, hparts⟩ := List.exists_cons_of_ne_nil (List.splitOnP_ne_nil cut rest)
      rw [hparts] at h ih
      split at h
      · rcases List.mem_cons.mp h with rfl | h
        · exact fun c hc => absurd hc List.not_mem_nil
        · exact ih h
      · rename_i hd
        rw [List.modifyHead_cons] at h
        rcases List.mem_cons.mp h with rfl | h
        · exact List.forall_mem_cons.mpr ⟨Bool.eq_false_iff.mpr hd, ih List.mem_cons_self⟩
        · exact ih (List.mem_cons_of_mem _ h)

theorem isField_of_mem_fields (h : w ∈ fields t) : IsField w := by
  rw [fields, List.mem_filter, Bool.not_eq_true', List.isEmpty_eq_false_iff] at h
  exact ⟨h.2, forall_of_mem_splitOnP h.1⟩

/-- **Joined fields are read again.** -/
theorem fields_joined (h : ∀ w ∈ ws, IsField w) : fields (joined ws) = ws := by
  induction ws with
  | nil => rfl
  | cons w rest ih =>
      have hw := (h w List.mem_cons_self).fields_eq
      cases rest with
      | nil => exact hw
      | cons v rest =>
          rw [joined_cons_cons, fields_append_blank _ _ isBlank_space, hw,
            ih fun u hu => h u (List.mem_cons_of_mem _ hu)]
          rfl

theorem fields_append_field (hw : IsField w) (l r : Text) :
    fields (l ++ ' ' :: (w ++ ' ' :: r)) = fields l ++ w :: fields r := by
  rw [fields_append_blank l _ isBlank_space, fields_append_blank w r isBlank_space, hw.fields_eq,
    List.singleton_append]

/-! ### A field among others

In a joined text a field stands between two blanks only if other fields stand on both sides of it.
This is what a search for a field with its blanks depends on. -/

/-- **A field has a blank before it and behind it** if and only if it is neither the first nor the
last. -/
theorem infix_joined_iff (hw : IsField w) (hws : ∀ v ∈ ws, IsField v) :
    ' ' :: (w ++ [' ']) <:+: joined ws ↔ ∃ x y, [x, w, y] <:+: ws := by
  constructor
  · rintro ⟨s, r, h⟩
    rw [List.append_assoc, List.cons_append, List.append_assoc, List.singleton_append] at h
    induction ws generalizing s with
    | nil => exact absurd (List.append_eq_nil_iff.mp h).2 (List.cons_ne_nil _ _)
    | cons v rest ih =>
        have hv := (hws v List.mem_cons_self).space_not_mem
        cases rest with
        | nil =>
            have hjoined : joined [v] = v := rfl
            rw [hjoined] at h
            exact absurd (h ▸ List.mem_append_right s List.mem_cons_self) hv
        | cons u rest =>
            have hrest : ∀ v ∈ u :: rest, IsField v := fun v hv => hws v (List.mem_cons_of_mem _ hv)
            rw [joined_cons_cons] at h
            obtain ⟨a, rfl, ha⟩ := exists_append_of_not_mem h hv
            cases a with
            | nil =>
                -- the field is the second one, and the blank behind it says that there is a third
                have hu : joined (u :: rest) = w ++ ' ' :: r := (List.cons.inj ha).2
                cases rest with
                | nil =>
                    have hjoined : joined [u] = u := rfl
                    rw [hjoined] at hu
                    exact absurd (hu ▸ List.mem_append_right w List.mem_cons_self)
                      (hrest u List.mem_cons_self).space_not_mem
                | cons y rest =>
                    rw [joined_cons_cons] at hu
                    obtain ⟨rfl, -⟩ := (hrest u List.mem_cons_self).append_space_inj hw hu
                    exact ⟨v, y, [], rest, rfl⟩
            | cons d a =>
                obtain ⟨x, y, hxy⟩ := ih hrest a (List.cons.inj ha).2.symm
                exact ⟨x, y, List.infix_cons hxy⟩
  · rintro ⟨x, y, l, r, rfl⟩
    induction l with
    | nil =>
        refine ⟨x, joined (y :: r), ?_⟩
        change _ = joined (x :: w :: y :: r)
        rw [joined_cons_cons, joined_cons_cons]
        simp
    | cons v l ih =>
        refine (ih fun u hu => hws u (List.mem_cons_of_mem _ hu)).trans (List.IsSuffix.isInfix ?_)
        exact joined_suffix_cons v (by simp)

end Text

end SwiftExistential
