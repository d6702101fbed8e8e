import Mathlib.Data.List.Basic
import Mathlib.Tactic.SplitIfs
import SwiftExistential.Proofs.Text.Tokens
import SwiftExistential.Shell.Reader
import SwiftExistential.Text.Octets

/-!
# Quoted texts are one word

`quote` writes a text so that the reader of words takes it as it is. A single quote ends what the
quotes take, so the proofs follow the text from one single quote to the next (`induction_of_mem`):
what stands before it is read by `run_readParts_quoted`, the quote itself by
`run_readParts_escaped`. The word that comes out, `quotedWord`, has quoted parts only, and they are
the text (`readWord_quote`).

Shells read octets. The octets of a text are those of its characters, one after the other
(`ofText_eq_flatMap`). An ASCII character is its own octet, and the octets of all others are no
ASCII characters, so nothing that means something to a reader of octets comes out of a character
that did not mean it, and quoting a text and quoting its octets is the same (`ofText_quote`).
-/

set_option autoImplicit false

namespace SwiftExistential

namespace Octets

/-! ## Octets of characters

The four lengths of a character in UTF-8 are gone through; every octet but that of an ASCII
character is at least 128. -/

def ofChar (c : Char) : Text := (String.utf8EncodeChar c).map ofByte

theorem toNat_ofByte (b : UInt8) : (ofByte b).toNat = b.toNat := by
  have hb : b.toNat < 256 := b.toNat_lt
  have hvalid : b.toNat.isValidChar := Or.inl (by omega)
  rw [ofByte, Char.ofNat, dif_pos hvalid]
  rfl

theorem ofChar_of_lt {c : Char} (h : c.toNat < 128) : ofChar c = [c] := by
  have hv : c.val.toNat ≤ 0x7f := Nat.le_of_lt_succ h
  have hc : ofByte (UInt8.ofNat c.val.toNat) = c := by
    apply Char.toNat_inj.mp
    rw [toNat_ofByte, UInt8.toNat_ofNat', Nat.mod_eq_of_lt (by omega)]
    rfl
  rw [ofChar, String.utf8EncodeChar, if_pos hv, List.map_singleton, hc]

theorem le_toNat_ofNat {n : Nat} (hlow : 128 ≤ n) (hhigh : n < 256) :
    128 ≤ (UInt8.ofNat n).toNat := by
  rw [UInt8.toNat_ofNat', Nat.mod_eq_of_lt hhigh]
  exact hlow

theorem le_toNat_of_mem_ofChar {c d : Char} (h : 128 ≤ c.toNat) (hd : d ∈ ofChar c) :
    128 ≤ d.toNat := by
  have hv : ¬ c.val.toNat ≤ 0x7f := Nat.not_le.mpr h
  obtain ⟨b, hb, rfl⟩ := List.mem_map.mp hd
  rw [toNat_ofByte]
  rw [String.utf8EncodeChar, if_neg hv] at hb
  -- a character of two, three or four bytes: each of them has its highest bit set
  split_ifs at hb
  all_goals
    simp only [List.mem_cons, List.not_mem_nil, or_false] at hb
    rcases hb with rfl | rfl | rfl | rfl <;> exact le_toNat_ofNat (by omega) (by omega)

theorem not_mem_ofChar {c d : Char} (hd : d.toNat < 128) (hne : c ≠ d) : d ∉ ofChar c := by
  intro hmem
  by_cases hc : c.toNat < 128
  · rw [ofChar_of_lt hc] at hmem
    exact hne (List.mem_singleton.mp hmem).symm
  · have hle := le_toNat_of_mem_ofChar (Nat.le_of_not_lt hc) hmem
    omega

/-! ## Octets of texts

The library turns a text into bytes by a loop over an accumulator. -/

/-- The loop that lists bytes turns the listed ones around at its end. -/
theorem toList_loop (bytes : ByteArray) (i : Nat) (before : List UInt8) :
    ByteArray.toList.loop bytes i before = before.reverse ++ bytes.data.toList.drop i := by
  fun_induction ByteArray.toList.loop bytes i before with
  | case1 i before h ih =>
      have hi : i < bytes.data.toList.length := h
      have hget : bytes.get! i = bytes.data.toList[i] := getElem!_pos bytes.data i h
      rw [ih, List.drop_eq_getElem_cons hi, hget, List.reverse_cons, List.append_assoc]
      rfl
  | case2 i before h =>
      have hi : bytes.data.toList.length ≤ i := Nat.le_of_not_lt h
      rw [List.drop_eq_nil_of_le hi, List.append_nil]

theorem toList_eq (bytes : ByteArray) : bytes.toList = bytes.data.toList := toList_loop bytes 0 []

/-- **The octets of a text** are those of its characters. -/
theorem ofText_eq_flatMap (t : Text) : ofText t = t.flatMap ofChar := by
  by_cases h : isPlain t = true
  · have hsame : ∀ c ∈ t, ofChar c = [c] := by
      intro c hc
      exact ofChar_of_lt (of_decide_eq_true (List.all_eq_true.mp h c hc))
    rw [ofText_of_isPlain h, List.flatMap_congr hsame, List.flatMap_singleton']
  · rw [ofText, if_neg h, ofArray, toList_eq, String.toUTF8_eq_toByteArray, String.toByteArray_ofList,
      List.utf8Encode, List.data_toByteArray, List.map_flatMap]
    rfl

@[simp] theorem ofText_append (s t : Text) : ofText (s ++ t) = ofText s ++ ofText t := by
  simp only [ofText_eq_flatMap, List.flatMap_append]

end Octets

namespace Text

/-! ## Texts cut at a character -/

/-- A text without the character, or such a text with the character and another text behind it. -/
theorem induction_of_mem {c : Char} {motive : Text → Prop} (last : ∀ x, c ∉ x → motive x)
    (cons : ∀ x t, c ∉ x → motive t → motive (x ++ c :: t)) (t : Text) : motive t := by
  induction hlen : t.length using Nat.strongRecOn generalizing t with
  | _ n ih =>
      subst hlen
      by_cases hc : c ∈ t
      · obtain ⟨x, r, rfl, hx⟩ := List.eq_append_cons_of_mem hc
        refine cons x r hx (ih r.length ?_ r rfl)
        rw [List.length_append, List.length_cons]
        omega
      · exact last t hc

theorem splitAtPart?_singleton {c : Char} {x : Text} (h : c ∉ x) (r : Text) :
    splitAtPart? [c] (x ++ c :: r) = some (x, r) := by
  induction x with
  | nil => simp [splitAtPart?, dropPart?]
  | cons d x ih =>
      obtain ⟨hd, hx⟩ := not_or.mp (mt List.mem_cons.mpr h)
      simp [splitAtPart?, dropPart?, hd, ih hx]

theorem replacePart_singleton (c : Char) (new t : Text) :
    replacePart [c] new t = t.flatMap fun d => if d = c then new else [d] := by
  induction t with
  | nil => rfl
  | cons d t ih =>
      rw [List.flatMap_cons, ← ih, replacePart, replacePart.go, replacePart_go]
      by_cases hd : d = c
      · simp [hd]
      · simp [hd, Ne.symm hd, replacePart_go]

end Text

namespace Shell

/-! ## Quoted texts

A quoted text has quotes around each part between two single quotes, and each single quote stands in
a way of its own, behind a backslash. -/

theorem quote_of_not_mem {x : Text} (h : '\'' ∉ x) : quote x = '\'' :: x ++ ['\''] := by
  have hkeep : ∀ d ∈ x, (if d = '\'' then ['\'', '\\', '\'', '\''] else [d]) = [d] := by
    intro d hd
    rw [if_neg]
    rintro rfl
    exact h hd
  rw [quote, Text.replacePart_singleton, List.flatMap_congr hkeep, List.flatMap_singleton']

/-- A single quote ends the quotation, stands behind a backslash, and a new quotation starts. -/
theorem quote_append {x : Text} (h : '\'' ∉ x) (t : Text) :
    quote (x ++ '\'' :: t) = '\'' :: x ++ '\'' :: '\\' :: '\'' :: quote t := by
  have hx := quote_of_not_mem h
  simp only [quote, Text.replacePart_singleton, List.flatMap_append, List.flatMap_cons, if_true] at hx ⊢
  rw [List.append_cancel_right (List.cons.inj hx).2]
  simp

example : quote "/it's".toList = "'/it'\\''s'".toList := by decide

theorem count_quote (t : Text) : (quote t).count '\n' = t.count '\n' := by
  induction t using Text.induction_of_mem (c := '\'') with
  | last x hx => simp [quote_of_not_mem hx]
  | cons x t hx ih => simp [quote_append hx, ih]

theorem ofText_quote (t : Text) : Octets.ofText (quote t) = quote (Octets.ofText t) := by
  have hchar : ∀ c, (if c = '\'' then ['\'', '\\', '\'', '\''] else [c]).flatMap Octets.ofChar =
      (Octets.ofChar c).flatMap fun d => if d = '\'' then ['\'', '\\', '\'', '\''] else [d] := by
    intro c
    by_cases hc : c = '\''
    · subst hc
      rfl
    · have hkeep : ∀ d ∈ Octets.ofChar c,
          (if d = '\'' then ['\'', '\\', '\'', '\''] else [d]) = [d] := by
        intro d hd
        rw [if_neg]
        rintro rfl
        exact Octets.not_mem_ofChar (by decide) hc hd
      rw [if_neg hc, List.flatMap_singleton, List.flatMap_congr hkeep, List.flatMap_singleton']
  have hmark : Octets.ofChar '\'' = ['\''] := rfl
  simp only [quote, Octets.ofText_eq_flatMap, Text.replacePart_singleton, List.cons_append,
    List.flatMap_cons, List.flatMap_append, List.flatMap_nil, List.append_nil, List.flatMap_assoc, hchar,
    hmark]
  rfl

/-- **The word that a quoted text is read as**: its parts between the single quotes, and these
quotes. -/
def quotedWord (t : Text) : Word :=
  ((Text.splitOn '\'' t).map Part.quoted).intersperse (.quoted ['\''])

theorem quotedWord_of_not_mem {x : Text} (h : '\'' ∉ x) : quotedWord x = [.quoted x] := by
  rw [quotedWord, Text.splitOn_of_not_mem h]
  rfl

theorem quotedWord_append {x : Text} (h : '\'' ∉ x) (t : Text) :
    quotedWord (x ++ '\'' :: t) = .quoted x :: .quoted ['\''] :: quotedWord t := by
  rw [quotedWord, quotedWord, Text.splitOn_append_cons h]
  obtain ⟨y, ys, hys⟩ := List.exists_cons_of_ne_nil (Text.splitOn_ne_nil '\'' t)
  rw [hys]
  rfl

/-- There is something to read of a quoted text, even of the empty one. -/
theorem exists_quotedWord_eq (t : Text) : ∃ x word, quotedWord t = .quoted x :: word := by
  by_cases ht : '\'' ∈ t
  · obtain ⟨x, r, rfl, hx⟩ := List.eq_append_cons_of_mem ht
    exact ⟨x, _, quotedWord_append hx r⟩
  · exact ⟨t, [], quotedWord_of_not_mem ht⟩

theorem plain?_quotedWord (t : Text) : (quotedWord t).plain? = none := by
  obtain ⟨x, rest, hword⟩ := exists_quotedWord_eq t
  rw [hword]
  rfl

theorem assignment?_quotedWord (t : Text) : (quotedWord t).assignment? = none := by
  obtain ⟨x, rest, hword⟩ := exists_quotedWord_eq t
  rw [hword]
  rfl

theorem isQuoted_quotedWord (t : Text) : (quotedWord t).isQuoted = true := by
  induction t using Text.induction_of_mem (c := '\'') with
  | last x hx =>
      rw [quotedWord_of_not_mem hx]
      rfl
  | cons x t hx ih =>
      rw [quotedWord_append hx]
      exact ih

theorem literal?_quotedWord (t : Text) : (quotedWord t).literal? = some t := by
  induction t using Text.induction_of_mem (c := '\'') with
  | last x hx =>
      rw [quotedWord_of_not_mem hx]
      simp [Word.literal?]
  | cons x t hx ih =>
      rw [quotedWord_append hx]
      simp [Word.literal?, ih]

theorem run_bind {ε σ α β : Type} {x : EStateM ε σ α} {f : α → EStateM ε σ β} {s s' : σ} {a : α}
    (h : x.run s = .ok a s') : (x >>= f).run s = (f a).run s' := by
  rw [EStateM.run_bind, h]

/-! ## Sources without documents

No document is owed, no alias is being read, and nothing, or one token, has been pushed back. A
reader in this state depends on the characters ahead only. -/

/-- What is left of a script from a line on. -/
def Source.plain (aliases : List (Text × Text)) (line : Nat) (t : Text) : Source :=
  ⟨t, line, 0, none, aliases, []⟩

namespace Reader

variable {aliases : List (Text × Text)} {line : Nat} {x r t : Text}

@[simp] theorem run_rest : rest.run (.plain aliases line t) = .ok t (.plain aliases line t) := rfl

@[simp] theorem run_countLines (x : Text) :
    (countLines x).run (.plain aliases line t) = .ok ⟨⟩ (.plain aliases (line + x.count '\n') t) := by
  unfold countLines
  by_cases hline : x.count '\n' > 0
  · simp only [hline, if_true]
    rfl
  · have hnone : x.count '\n' = 0 := Nat.eq_zero_of_not_pos hline
    simp only [hnone]
    rfl

@[simp] theorem run_take (n : Nat) :
    (take n).run (.plain aliases line t) =
      .ok (t.take n) (.plain aliases (line + (t.take n).count '\n') (t.drop n)) := by
  have hset : (setRest (t.drop n)).run (.plain aliases line t) =
      .ok ⟨⟩ (.plain aliases line (t.drop n)) := rfl
  unfold take
  simp only [EStateM.run_bind, run_rest, hset, run_countLines, EStateM.run_pure]

@[simp] theorem run_discard_take (n : Nat) :
    (discard (take n)).run (.plain aliases line t) =
      .ok ⟨⟩ (.plain aliases (line + (t.take n).count '\n') (t.drop n)) := by
  have htake : (take n).run (.plain aliases line t) = _ := run_take n
  unfold EStateM.run at htake
  show EStateM.map (Function.const Text PUnit.unit) (take n) (Source.plain aliases line t) = _
  simp only [EStateM.map, htake]

/-! ## Reading

The count of steps that the reader may take is part of each lemma; a quoted text needs no more of
them than it has characters. -/

/-- Nothing is left, or what is left begins with a character that ends a word. -/
def EndsWord (t : Text) : Prop := ∀ c, t.head? = some c → Context.endsWord c = true

variable (commands : Reader Command) (fuel depth : Nat) (inner : Bool)

theorem run_readParts_end (ht : EndsWord t) :
    (readParts commands (fuel + 1) .bare depth inner).run (.plain aliases line t) =
      .ok [] (.plain aliases line t) := by
  cases t with
  | nil => simp [readParts, endOfText]
  | cons c t =>
      have hc : Context.endsWord c = true := ht c rfl
      have hordinary : Context.isOrdinary .bare c = false := by simp [Context.isOrdinary, hc]
      simp [readParts, hordinary, hc]

/-- **Single quotes take everything** up to the next single quote. -/
theorem run_readParts_quoted {word : Word} {s : Source} (hx : '\'' ∉ x)
    (h : (readParts commands fuel .bare depth inner).run (.plain aliases (line + x.count '\n') r) =
      .ok word s) :
    (readParts commands (fuel + 2) .bare depth inner).run
        (.plain aliases line ('\'' :: x ++ '\'' :: r)) = .ok (.quoted x :: word) s := by
  have hordinary : Context.isOrdinary .bare '\'' = false := by decide
  have hends : Context.endsWord '\'' = false := by decide
  have hslash : ¬ '\'' = '\\' := by decide
  have hmark : ['\''].count '\n' = 0 := by decide
  have hdrop : (x ++ '\'' :: r).drop (x.length + 1) = r := by simp
  have htake : ((x ++ '\'' :: r).take (x.length + 1)).count '\n' = x.count '\n' := by
    rw [List.take_length_add_append, List.count_append]
    exact Nat.add_eq_left.mpr hmark
  simp only [readParts, readPart, EStateM.run_bind, run_rest, List.cons_append, List.takeWhile_cons,
    hordinary, hends, hslash, List.isEmpty_nil, Bool.not_true, Bool.false_eq_true, if_false, if_true,
    run_discard_take, Text.splitAtPart?_singleton hx, List.drop_succ_cons, List.drop_zero, hdrop,
    htake, List.take_succ_cons, List.take_zero, hmark, Nat.add_zero, h, EStateM.run_pure]

/-- **A backslash takes the next character.** -/
theorem run_readParts_escaped {c : Char} {word : Word} {s : Source} (hc : c ≠ '\n')
    (h : (readParts commands fuel .bare depth inner).run (.plain aliases line r) = .ok word s) :
    (readParts commands (fuel + 2) .bare depth inner).run (.plain aliases line ('\\' :: c :: r)) =
      .ok (.quoted [c] :: word) s := by
  have hordinary : Context.isOrdinary .bare '\\' = false := by decide
  have hends : Context.endsWord '\\' = false := by decide
  have hbare : (!Context.isQuoted .bare) = true := rfl
  have hslash : ['\\'].count '\n' = 0 := by decide
  have hnone : [c].count '\n' = 0 := List.count_eq_zero.mpr (by simpa using hc.symm)
  simp only [readParts, readPart, readEscape, EStateM.run_bind, run_rest, List.takeWhile_cons,
    hordinary, hends, hbare, List.isEmpty_nil, Bool.not_true, Bool.false_eq_true, if_false, if_true,
    run_discard_take, List.drop_succ_cons, List.drop_zero, hc, List.take_succ_cons, List.take_zero,
    hslash, hnone, Nat.add_zero, h, EStateM.run_pure, Word.cons]

/-- A text in quotes takes as many steps as it has characters, and one more for its end. -/
theorem run_readParts_quote (t : Text) (hr : EndsWord r) {fuel : Nat}
    (hfuel : (quote t).length < fuel) :
    (readParts commands fuel .bare depth inner).run (.plain aliases line (quote t ++ r)) =
      .ok (quotedWord t) (.plain aliases (line + t.count '\n') r) := by
  induction t using Text.induction_of_mem (c := '\'') generalizing line fuel with
  | last x hx =>
      rw [quote_of_not_mem hx] at hfuel ⊢
      obtain ⟨fuel, rfl⟩ : ∃ n, fuel = n + 3 := ⟨fuel - 3, by simp at hfuel; omega⟩
      rw [quotedWord_of_not_mem hx, List.append_assoc]
      exact run_readParts_quoted _ _ _ _ hx (run_readParts_end _ _ _ _ hr)
  | cons x t hx ih =>
      rw [quote_append hx] at hfuel ⊢
      obtain ⟨fuel, rfl⟩ : ∃ n, fuel = n + 4 := ⟨fuel - 4, by simp at hfuel; omega⟩
      have hcount : line + (x ++ '\'' :: t).count '\n' = line + x.count '\n' + t.count '\n' := by
        simp [Nat.add_assoc]
      rw [quotedWord_append hx, List.append_assoc, hcount]
      refine run_readParts_quoted _ _ _ _ hx (run_readParts_escaped _ _ _ _ (by decide) (ih ?_))
      simp at hfuel
      omega

end Reader

/-- **A quoted text is read as one word**, and the reader stops right behind it. -/
theorem readWord_quote (t : Text) {r : Text} (hr : Reader.EndsWord r) :
    readWord (quote t ++ r) = some (quotedWord t, r) := by
  have hfuel : (quote t).length < Reader.steps (quote t ++ r) := by
    rw [Reader.steps, List.length_append]
    omega
  have hread : (Reader.readParts (Reader.readAt Reader.maxNesting (.list .open'))
      (Reader.steps (quote t ++ r)) .bare 0 false).run (.plain [] 1 (quote t ++ r)) =
      .ok (quotedWord t) (.plain [] (1 + t.count '\n') r) :=
    Reader.run_readParts_quote _ 0 false t hr hfuel
  have hsource : Source.ofText (quote t ++ r) [] = .plain [] 1 (quote t ++ r) := rfl
  rw [readWord, hsource]
  simp only [hread]
  rfl

end Shell

end SwiftExistential
