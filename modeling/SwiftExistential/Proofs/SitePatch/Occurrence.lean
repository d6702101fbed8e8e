import SwiftExistential.Proofs.Pattern.Matches
import SwiftExistential.SitePatch

/-!
# Occurrences and their guards

An occurrence of a name begins and ends with a word character, and no word goes on to it
(`reads_of_occurrence`). So keywords are only ever put before a word, and never directly behind an
occurrence.

Guards are looked for on both sides of an occurrence. The text behind it may already hold the
keywords of windows above, since those are patched first. This makes no difference: the text behind
an occurrence guards it with the same result whether keywords were put into it or not
(`Annotated.isGuardedAfter_eq`). It is the fact that lets one window be seen apart from all others.
-/

set_option autoImplicit false

namespace SwiftExistential.SitePatch

open Pattern Text Unicode
open Cursor (Reads)

/-- A name: at least one character, and word characters only. -/
def IsName (x : Text) : Prop := x ≠ [] ∧ ∀ c ∈ x, isWord c = true

instance : DecidablePred IsName := fun x =>
  decidable_of_iff ((!x.isEmpty && x.all isWord) = true) (by simp [IsName])

theorem IsName.startsWord {x : Text} (h : IsName x) : Text.startsWord x = true := by
  obtain ⟨hne, hword⟩ := h
  cases x with
  | nil => exact absurd rfl hne
  | cons c rest => exact hword c List.mem_cons_self

theorem IsName.endsWord {x : Text} (h : IsName x) : Text.endsWord x = true := by
  obtain ⟨hne, hword⟩ := h
  rw [Text.endsWord, List.getLast?_eq_some_getLast hne, Option.any_some]
  exact hword _ (List.getLast_mem hne)

/-! ## Occurrences

The pattern of an occurrence has the identifier with its qualifiers and perhaps a metatype behind
it; only its first and last characters matter here. -/

theorem mem_ways_qualifiers {s t : State} (h : t ∈ qualifiers.ways s) :
    ∃ x : Text, (x = [] ∨ startsWord x = true) ∧ Reads x s.cursor t.cursor := by
  refine manyWays_induction
    (fun v => ∃ x : Text, (x = [] ∨ startsWord x = true) ∧ Reads x s.cursor v.cursor) ?_
    ⟨[], .inl rfl, Reads.refl _⟩ h
  rintro v w ⟨x, hx, hv⟩ hw
  obtain ⟨u, hu, hw⟩ := mem_ways_seq hw
  obtain ⟨c, run, hc, -, hrun, -⟩ := mem_ways_plus_one hu
  obtain ⟨hdot, -⟩ := mem_ways_char hw
  refine ⟨x ++ (c :: run ++ ['.']), .inr ?_, hv.trans (hrun.trans hdot)⟩
  rcases hx with rfl | hx
  · exact hc
  · rw [startsWord_append_of_ne_nil (ne_nil_of_startsWord hx), hx]

theorem mem_ways_metatype {s t : State} (h : t ∈ metatype.ways s) :
    ∃ x : Text, (x = [] ∨ endsWord x = true) ∧ Reads x s.cursor t.cursor := by
  rcases mem_ways_optional h with h | rfl
  · obtain ⟨hread, -⟩ := mem_ways_literal h
    exact ⟨".Type".toList, .inr (by decide), hread⟩
  · exact ⟨[], .inl rfl, Reads.refl _⟩

/-- **An occurrence of a name** begins and ends with a word character, and no word goes on to it. -/
theorem reads_of_occurrence {identifier : Text} {m : Match} (hname : IsName identifier)
    (h : IsMatch (occurrence identifier) m) :
    ∃ x, Reads x m.start m.stop ∧ startsWord x = true ∧ endsWord x = true ∧
      endsWord m.start.before.reverse = false := by
  obtain ⟨t, ht, hstop, -⟩ := h
  obtain ⟨u, hu, ht⟩ := mem_ways_inOrder_cons ht
  obtain ⟨rfl, hboundary⟩ : _ ∧ m.start.atBoundary = true := mem_ways_boundary hu
  obtain ⟨v, hv, ht⟩ := mem_ways_inOrder_cons ht
  obtain ⟨rfl, -⟩ := mem_ways_boundary ht
  obtain ⟨v', hv', htcursor, -⟩ := mem_ways_group hv
  obtain ⟨a, ha, hv'⟩ := mem_ways_inOrder_cons hv'
  obtain ⟨b, hb, hv'⟩ := mem_ways_inOrder_cons hv'
  obtain ⟨x, hx, hqualifiers⟩ : ∃ x : Text, _ ∧ Reads x m.start a.cursor := mem_ways_qualifiers ha
  obtain ⟨hidentifier, -⟩ := mem_ways_literal hb
  obtain ⟨z, hz, hmetatype⟩ := mem_ways_metatype hv'
  -- Qualifiers, name and metatype in a row. The outer two may be empty, the name never is, so the
  -- row starts and ends with a word.
  have hread : Reads (x ++ (identifier ++ z)) m.start m.stop := by
    rw [hstop, htcursor]
    exact hqualifiers.trans (hidentifier.trans hmetatype)
  have hstarts : startsWord (x ++ (identifier ++ z)) = true := by
    rcases hx with rfl | hx
    · rw [List.nil_append, startsWord_append_of_ne_nil hname.1, hname.startsWord]
    · rw [startsWord_append_of_ne_nil (ne_nil_of_startsWord hx), hx]
  have hends : endsWord (x ++ (identifier ++ z)) = true := by
    rcases hz with rfl | hz
    · rw [List.append_nil, endsWord_append_of_ne_nil x hname.1, hname.endsWord]
    · rw [← List.append_assoc, endsWord_append_of_ne_nil _ (ne_nil_of_endsWord hz), hz]
  exact ⟨_, hread, hstarts, hends, hread.endsWord_before hboundary hstarts⟩

/-! ## Texts with keywords put into them

The relation follows both texts from the left. At each character either it is kept, or a keyword
with its blank comes before it, if the character before allows for that. -/

/-- Whether a keyword can go behind a character. -/
def canPrecede (c : Char) : Bool := !isWord c && c != '.'

/-- **`t'` is `t` with keywords put before words**, none of them behind a word or a dot. The first
argument is the character before both texts. -/
inductive Annotated : Option Char → Text → Text → Prop where
  | nil (previous : Option Char) : Annotated previous [] []
  | keep {previous : Option Char} {c : Char} {t t' : Text} (tail : Annotated (some c) t t') :
      Annotated previous (c :: t) (c :: t')
  | insert {previous : Option Char} {c : Char} {t t' : Text} (k : Keyword)
      (hprevious : previous.all canPrecede = true) (hc : isWord c = true)
      (tail : Annotated (some c) t t') : Annotated previous (c :: t) (k.lead ++ c :: t')

/-- Text before both texts may stay. -/
theorem Annotated.append_left {l y t t' : Text} (h : Annotated (l ++ y).getLast? t t') :
    Annotated l.getLast? (y ++ t) (y ++ t') := by
  induction y generalizing l with
  | nil => rwa [List.append_nil] at h
  | cons c rest ih =>
      refine .keep ?_
      rw [← List.getLast?_concat (l := l)]
      refine ih ?_
      rwa [List.append_assoc, List.singleton_append]

theorem Annotated.takeWhile_line {previous : Option Char} {t t' : Text}
    (h : Annotated previous t t') :
    Annotated previous (t.takeWhile (· != '\n')) (t'.takeWhile (· != '\n')) := by
  induction h with
  | nil previous => exact .nil previous
  | @keep previous c t t' tail ih =>
      rw [List.takeWhile_cons, List.takeWhile_cons]
      split
      · exact .keep ih
      · exact .nil previous
  | @insert previous c t t' k hprevious hc tail ih =>
      -- a keyword holds no line end, and neither does the word behind it
      have hline : (c != '\n') = true := by
        rw [bne_iff_ne]
        rintro rfl
        revert hc
        decide
      have hcons (r : Text) :
          (c :: r).takeWhile (· != '\n') = c :: r.takeWhile (· != '\n') := by
        rw [List.takeWhile_cons, if_pos hline]
      have hlead : (k.lead ++ c :: t').takeWhile (· != '\n') =
          k.lead ++ c :: t'.takeWhile (· != '\n') := by
        rw [← hcons]
        cases k <;> rfl
      rw [hlead, hcons]
      exact .insert k hprevious hc ih

/-! ## Guards behind an occurrence

Each guard behind an occurrence begins with a mark, so a keyword would have to go into it, before a
word of the guard. Only `.self` has a word, and no keyword goes behind a dot. -/

/-- A text without word characters stands at the start of both texts or of none. -/
theorem Annotated.isPrefixOf_eq {previous : Option Char} {g t t' : Text}
    (h : Annotated previous t t') (hg : g.any isWord = false) :
    g.isPrefixOf t = g.isPrefixOf t' := by
  induction g generalizing previous t t' with
  | nil => rfl
  | cons x g ih =>
      obtain ⟨hx, hrest⟩ : isWord x = false ∧ g.any isWord = false := by
        rwa [List.any_cons, Bool.or_eq_false_iff] at hg
      cases h with
      | nil => rfl
      | keep tail => rw [List.isPrefixOf, List.isPrefixOf, ih tail hrest]
      | @insert previous c t t' k hprevious hc tail =>
          have hplain : (x == c) = false := by
            rw [beq_eq_false_iff_ne]
            rintro rfl
            rw [hc] at hx
            cases hx
          -- in one text the word stands first and in the other the keyword: both begin with a
          -- word character, which `x` is not
          have hlead : (x :: g).isPrefixOf (k.lead ++ c :: t') = false := by
            have hfirst : ∀ d ∈ k.lead.head?, (x == d) = false := by
              intro d hd
              rw [beq_eq_false_iff_ne]
              rintro rfl
              revert hx
              cases k <;> cases hd <;> decide
            cases k <;>
              exact Bool.and_eq_false_iff.mpr (.inl (hfirst _ rfl))
          rw [List.isPrefixOf, hplain, Bool.false_and, hlead]

/-- Neither does a text whose characters no keyword can go behind, if none can go before it. -/
theorem Annotated.isPrefixOf_eq_of_joined {previous : Option Char} {g t t' : Text}
    (h : Annotated previous t t') (hprevious : previous.all canPrecede = false)
    (hg : g.any canPrecede = false) : g.isPrefixOf t = g.isPrefixOf t' := by
  induction g generalizing previous t t' with
  | nil => rfl
  | cons x g ih =>
      obtain ⟨hjoined, hrest⟩ : canPrecede x = false ∧ g.any canPrecede = false := by
        rwa [List.any_cons, Bool.or_eq_false_iff] at hg
      cases h with
      | nil => rfl
      | @keep previous c t t' tail =>
          rw [List.isPrefixOf, List.isPrefixOf]
          by_cases hx : x = c
          · subst hx
            rw [ih tail hjoined hrest]
          · rw [beq_eq_false_iff_ne.mpr hx, Bool.false_and, Bool.false_and]
      | insert k hprevious' hc tail =>
          -- no keyword was put here
          rw [hprevious] at hprevious'
          cases hprevious'

/-- Empty braces after blanks stand at the start of both texts or of none. -/
theorem Annotated.isPrefixOf_trimStart_eq {previous : Option Char} {t t' : Text}
    (h : Annotated previous t t') :
    "\x7b\x7d".toList.isPrefixOf (trimStart t) = "\x7b\x7d".toList.isPrefixOf (trimStart t') := by
  -- A keyword is written before a word only, and a brace is no word, nor is a blank.
  induction h with
  | nil => rfl
  | @keep previous c t t' tail ih =>
      rw [trimStart, trimStart, List.dropWhile_cons, List.dropWhile_cons]
      split
      · exact ih
      · have hkept : Annotated previous (c :: t) (c :: t') := .keep tail
        exact hkept.isPrefixOf_eq (by decide)
  | @insert previous c t t' k hprevious hc tail ih =>
      have hblank : isBlank c = false := by
        cases hb : isBlank c with
        | false => rfl
        | true =>
            rw [isWord_eq_false_of_isBlank hb] at hc
            cases hc
      have hplain : trimStart (c :: t) = c :: t := by
        rw [trimStart, List.dropWhile_cons_of_neg (by rw [hblank]; exact Bool.false_ne_true)]
      have hlead : trimStart (k.lead ++ c :: t') = k.lead ++ c :: t' := by
        cases k <;> rfl
      rw [hplain, hlead]
      refine (Annotated.insert k hprevious hc tail).isPrefixOf_eq ?_
      decide

/-- **The text behind a word guards it with the same result** whether keywords were put into it or
not. -/
theorem Annotated.isGuardedAfter_eq {previous : Option Char} {t t' : Text}
    (h : Annotated previous t t') (hprevious : previous.all canPrecede = false) :
    isGuardedAfter t = isGuardedAfter t' := by
  have hcolon := h.isPrefixOf_eq (g := ":".toList) (by decide)
  have hopen := h.isPrefixOf_eq (g := "(".toList) (by decide)
  have hcall := h.isPrefixOf_eq (g := ">(".toList) (by decide)
  have hself := h.isPrefixOf_eq_of_joined (g := ".self".toList) hprevious (by decide)
  have hbraces := h.isPrefixOf_trimStart_eq
  have hhead : t.head? = t'.head? := by
    cases h with
    | nil => rfl
    | keep tail => rfl
    | insert k hprevious' hc tail =>
        rw [hprevious] at hprevious'
        cases hprevious'
  simp only [isGuardedAfter, guardsAfter, List.any_cons, List.any_nil, hcolon, hopen, hcall, hself,
    hbraces, hhead]

end SwiftExistential.SitePatch
