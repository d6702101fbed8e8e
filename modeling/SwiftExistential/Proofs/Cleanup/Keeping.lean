import SwiftExistential.Proofs.Cleanup.Places
import SwiftExistential.Proofs.Cleanup.Tokens

/-!
# Passes that bring in no shape

A sweep replaces the successive matches of a pattern. If no replacement brings in a shape, the text
lacks it after the sweep if it did before (`lacks_substitute`). If moreover the pattern matches
wherever the shape begins, the text lacks it after the sweep in any case
(`lacks_substitute_of_found`): up to each match it begins nowhere, since the matches are the
leftmost ones, and the replacement removes it there.

Most passes write a keyword or a parenthesis in place of another one. A shape that does not reach
over these, and begins neither at them nor in the type behind them, is `Guarded`: none of these
passes brings it in. `some` where it is not allowed and a cast without its keyword are such shapes.
The other passes are looked at for the one shape that they meet.

Each pair of a pass and a shape that is not covered by a general lemma has a theorem of its own.
There are few of them because the passes that remove the shapes come early, or meet only what is
still to come.
-/

set_option autoImplicit false

namespace SwiftExistential.Cleanup

open Pattern Text
open Cursor (Reads)
open SitePatch (IsName)

/-! ## Sweeps that bring in no shape

By induction over the matches, with the text before a match as it was left by the replacements. -/

section

variable {shape : List Text → Prop} {p : Pattern}

/-- **A sweep brings in no shape** if none of its replacements does. -/
theorem lacks_substitute {new : Match → Option Text}
    (hfaithful : ∀ m, p.matchAt? m.start = some m → ∀ y, new m = some y → Faithful m y)
    (hkeep : ∀ m, p.matchAt? m.start = some m → ∀ y, new m = some y → ∀ l,
      endsWord l = endsWord m.start.before.reverse → Lacks shape (l ++ m.start.after) →
        Lacks shape (l ++ y ++ m.stop.after)) {t : Text} (ht : Lacks shape t) :
    Lacks shape (p.substitute new t).1 := by
  refine splice_induction (Lacks shape) (matchesFrom_successive p (.start t)) ?_ [] rfl ht
  intro m hm l hl hlacks
  have hmatch := matchAt?_of_mem_matchesFrom hm
  obtain ⟨-, hend⟩ := faithful_replacement hfaithful hmatch l hl
  refine ⟨?_, hend⟩
  rw [Pattern.replacement]
  cases hy : new m with
  | some y => exact hkeep m hmatch y hy l hl hlacks
  | none =>
      obtain ⟨x, hread⟩ := (matchAt?_eq_some hmatch).2.exists_reads
      rwa [Option.getD_none, Match.text, hread.textTo_eq, List.append_assoc, ← hread.after]

theorem lacks_repeatPass {pass : Text → Text × Nat}
    (h : ∀ t, Lacks shape t → Lacks shape (pass t).1) (n : Nat) {t : Text} (ht : Lacks shape t) :
    Lacks shape (repeatPass pass n t).1 := by
  induction n generalizing t with
  | zero => exact ht
  | succ n ih =>
      have hpass := h t ht
      rw [repeatPass]
      rcases hrun : pass t with ⟨t', count⟩
      rw [hrun] at hpass
      have hpass : Lacks shape t' := hpass
      simp only
      split
      · exact hpass
      · exact ih hpass

/-! ## Sweeps that remove a shape

Here the text behind a match still may have the shape, and the text before it has it no more. -/

theorem lacksBefore_splice {new : Match → Text} {c : Cursor} {ms : List Match}
    (h : Successive p c ms)
    (hfound : ∀ x a, Reads x c a → Apart a.before.reverse a.after → shape (parts a.after) →
      ∃ m ∈ ms, (∃ y, Reads y m.start a) ∧ ∃ z, z ≠ [] ∧ Reads z a m.stop)
    (hnew : ∀ m ∈ ms, ∀ l, endsWord l = endsWord m.start.before.reverse →
      LacksBefore shape l m.start.after → LacksBefore shape (l ++ new m) m.stop.after ∧
        endsWord (l ++ new m) = endsWord m.stop.before.reverse)
    (l : Text) (hl : endsWord l = endsWord c.before.reverse)
    (hlacks : LacksBefore shape l c.after) : LacksBefore shape (l ++ splice new c ms) [] := by
  induction h generalizing l with
  | nil c =>
      rw [← List.append_nil c.after] at hlacks
      refine hlacks.append fun u v huv hv hapart hshape => ?_
      obtain ⟨a, hu, ha⟩ := Cursor.exists_reads_of_after (a := c) huv
      have hbefore : endsWord a.before.reverse = endsWord (l ++ u) := by
        rw [hu.reverse_before]
        exact endsWord_append_congr hl.symm u
      rw [List.append_nil, ← ha] at hapart hshape
      obtain ⟨m, hm, -⟩ := hfound u a hu (by rwa [Apart, hbefore]) hshape
      cases hm
  | @cons c x m ms start head tail ih =>
      obtain ⟨w, hstop⟩ := head.exists_reads
      have hx : endsWord (l ++ x) = endsWord m.start.before.reverse := by
        rw [start.reverse_before]
        exact endsWord_append_congr hl x
      -- no shape begins before the first match
      have hgap : LacksBefore shape (l ++ x) m.start.after := by
        rw [start.after] at hlacks
        refine hlacks.append fun u v huv hv hapart hshape => ?_
        subst huv
        obtain ⟨a, hu, hva⟩ := start.exists_between
        have hbefore : endsWord a.before.reverse = endsWord (l ++ u) := by
          rw [hu.reverse_before]
          exact endsWord_append_congr hl.symm u
        rw [← hva.after] at hapart hshape
        obtain ⟨m', hm', ⟨y, hy⟩, -⟩ := hfound u a hu (by rwa [Apart, hbefore]) hshape
        have hlen := hva.length_eq
        have hleny := hy.length_eq
        have hpos := List.length_pos_iff.mpr hv
        rcases List.mem_cons.mp hm' with rfl | hm'
        · omega
        · obtain ⟨z, hz⟩ := tail.exists_reads m' hm'
          have hlenz := hz.length_eq
          have hlenw := hstop.length_eq
          omega
      obtain ⟨hreplaced, hend⟩ := hnew m List.mem_cons_self (l ++ x) hx hgap
      have hrest := ih ?_ (fun m hm => hnew m (List.mem_cons_of_mem _ hm)) (l ++ x ++ new m) hend
        hreplaced
      · rw [splice, start.textTo_eq]
        simpa only [List.append_assoc] using hrest
      · intro y a hy hapart hshape
        obtain ⟨m', hm', hbegun, z, hz, hover⟩ :=
          hfound _ a (start.trans (hstop.trans hy)) hapart hshape
        rcases List.mem_cons.mp hm' with rfl | hm'
        · -- the first match is over at this place
          have hlen := hover.length_eq
          have hleny := hy.length_eq
          have hpos := List.length_pos_iff.mpr hz
          omega
        · exact ⟨m', hm', hbegun, z, hz, hover⟩

/-- **A sweep removes a shape** if its pattern matches wherever the shape begins, and no replacement
brings it in. -/
theorem lacks_substitute_of_found {new : Match → Option Text} {t : Text} (hp : NeverEmpty p)
    (hnil : ¬ shape [])
    (hfound : ∀ a, Apart a.before.reverse a.after → shape (parts a.after) → ∃ b, p.Spans a b)
    (hfaithful : ∀ m, p.matchAt? m.start = some m → ∀ y, new m = some y → Faithful m y)
    (hnew : ∀ m, p.matchAt? m.start = some m → ∀ l, endsWord l = endsWord m.start.before.reverse →
      LacksBefore shape l m.start.after →
        LacksBefore shape (l ++ Pattern.replacement new m) m.stop.after) :
    Lacks shape (p.substitute new t).1 := by
  refine (lacksBefore_splice (matchesFrom_successive p (.start t)) ?_ ?_ [] rfl
    lacksBefore_nil).lacks hnil
  · intro x a hread hapart hshape
    obtain ⟨b, hb⟩ := hfound a hapart hshape
    exact exists_mem_matchesFrom hp hread hb
  · intro m hm l hl hlacks
    have hmatch := matchAt?_of_mem_matchesFrom hm
    exact ⟨hnew m hmatch l hl hlacks, (faithful_replacement hfaithful hmatch l hl).2⟩

end

/-! ## Guarded shapes -/

/-- **A shape that keywords and parentheses guard.** -/
structure Guarded (names : List Text) (shape : List Text → Prop) : Prop where
  types : OutsideTypes names shape
  /-- It does not reach over a barrier. -/
  stops : ∀ {l : Text} {Y Z M : List Text} {b d : Text}, endsWord l = false → Y <:+ parts l → Y ≠ [] →
    IsBarrier b → IsBarrier d → shape (Y ++ b :: Z) → shape (Y ++ d :: M)
  /-- It begins with `some` or a blank. -/
  first : ∀ {b : Text} {B : List Text}, shape (b :: B) → b = "some".toList ∨ isBlankPart b = true
  /-- It does not begin with a blank before a type. -/
  blank : ∀ {qs : List Text} {P : Text} {R : List Text}, Qualifiers (fun _ => True) qs → P ∈ names →
    ¬ shape ([' '] :: (qs ++ P :: R))
  /-- It does not begin with the `some` of a return. -/
  returned : ∀ {P : Text} {R : List Text}, P ∈ names →
    ¬ shape ("some".toList :: [' '] :: P :: [' '] :: ['\x7b'] :: R)

variable {names : List Text} {shape : List Text → Prop}

theorem guarded_forbiddenSome (hnames : ProtocolNames names) :
    Guarded names (ForbiddenSome names) where
  types := outsideTypes_forbiddenSome hnames
  stops _ _ hne hb _ h := h.append hnames hb hne _
  first h := by
    obtain ⟨R, hR⟩ := h.exists_eq
    exact .inl (List.cons.inj hR).1
  blank _ _ h := by
    obtain ⟨R, hR⟩ := h.exists_eq
    exact absurd (List.cons.inj hR).1 (by decide)
  returned := by
    rintro P R hP ⟨qs, P', ws, tail, R', hQ, hqs, -, hws, htail⟩
    obtain ⟨-, hQ⟩ := List.cons.inj hQ
    obtain ⟨-, htype⟩ := List.cons.inj hQ
    cases hqs with
    | cons _ _ _ => exact absurd (List.cons.inj (List.cons.inj htype).2).1 (by decide)
    | nil =>
        obtain ⟨-, hbrace⟩ := List.cons.inj htype
        -- the brace is no blank, and no tail begins with it or with the blank before it
        match ws, hws, hbrace with
        | [], _, hbrace => cases htail <;> simp at hbrace
        | [w], _, hbrace => cases htail <;> simp at hbrace
        | w :: w' :: ws, hws, hbrace =>
            have hw' := hws w' (by simp)
            obtain ⟨-, hbrace⟩ := List.cons.inj hbrace
            obtain ⟨rfl, -⟩ := List.cons.inj hbrace
            exact absurd hw' (by decide)

theorem guarded_bareCast (hnames : ProtocolNames names) (policy : Policy) :
    Guarded names (BareCast policy names) where
  types := outsideTypes_bareCast hnames
  stops hl hY _ hb hd h := h.append hnames hl hY hb fun _ => ⟨_, _, rfl, hd⟩
  first h := by
    obtain ⟨b, R, hb, hR⟩ := h.exists_eq
    obtain ⟨rfl, -⟩ := List.cons.inj hR
    exact .inr hb
  blank hqs hP :=
    have hblank : ∀ b ∈ [[' ']], isBlankPart b = true := by decide
    not_bareCast_blanks hnames hblank hqs hP _
  returned _ h := by
    obtain ⟨b, R, hb, hR⟩ := h.exists_eq
    obtain ⟨rfl, -⟩ := List.cons.inj hR
    exact absurd hb (by decide)

/-- A shape begins behind a part that it does not begin with. -/
theorem Guarded.suffix_of_cons (h : Guarded names shape) {b : Text} {B N : List Text}
    (hB : B <:+ b :: N) (hshape : shape B) (hsome : b ≠ "some".toList)
    (hblank : isBlankPart b = false) : B <:+ N := by
  rcases List.suffix_cons_iff.mp hB with rfl | hB
  · rcases h.first hshape with hb | hb
    · exact absurd hb hsome
    · rw [hblank] at hb
      cases hb
  · exact hB

/-- **One barrier for another** brings in no shape, if none begins in what was written. -/
theorem Guarded.edit (hs : Guarded names shape) {l r₀ r₁ b d : Text} {M N : List Text}
    (h : Lacks shape (l ++ r₀)) (hl : endsWord l = false) (hr₀ : parts r₀ = d :: M)
    (hd : IsBarrier d) (hr₁ : parts r₁ = b :: N) (hb : IsBarrier b)
    (hinside : ∀ B, B <:+ b :: N → shape B → ∃ B', B' <:+ d :: M ∧ shape B') :
    Lacks shape (l ++ r₁) := by
  refine h.edit (.inl hl) (.inl hl) (fun Y hne hY hshape => ?_) ?_
  · rw [hr₁] at hshape
    rw [hr₀]
    exact ⟨_, List.suffix_rfl, hs.stops hl hY hne hb hd hshape⟩
  · rw [hr₀, hr₁]
    exact hinside

variable {m : Match}

/-- **A promoted return** brings in no guarded shape. -/
theorem Guarded.promoteReturns (hs : Guarded names shape) (hnames : ProtocolNames names)
    (hne : names ≠ []) (keep : List Text) {t : Text} (ht : Lacks shape t) :
    Lacks shape (promoteReturns keep (Registry.wholeName names) t).1 := by
  have hgroup := hasGroup_wholeName names
  refine lacks_substitute (fun m hm y hy => ?_) (fun m hm y hy l hl hlacks => ?_) ht
  · split at hy
    · cases hy
      exact faithful_anyReturn hgroup (matchAt?_eq_some hm).2
    · cases hy
  split at hy
  · cases hy
    obtain ⟨a, b, P, harrow, hname, hbrace, hspans, hone⟩ :=
      reads_of_anyReturn hgroup (matchAt?_eq_some hm).2
    obtain ⟨n, hP, hread, -⟩ := (spans_wholeName_iff hnames.isName hne).mp hspans
    obtain rfl : P = n := by rw [← hname.textTo_eq, hread.textTo_eq]
    -- Behind the keyword stand the name, a blank and the brace, before the substitution as after
    -- it.
    have hparts : parts (P ++ (" \x7b".toList ++ m.stop.after)) =
        P :: [' '] :: ['\x7b'] :: parts m.stop.after := by
      have hblank : Unicode.isWord ' ' = false := by decide
      have hopen : Unicode.isWord '\x7b' = false := by decide
      rw [parts_name_append (hnames.isName P hP) (r := " \x7b".toList ++ m.stop.after) hblank]
      show P :: parts (' ' :: '\x7b' :: m.stop.after) = _
      rw [parts_cons hblank, parts_cons hopen]
    have hend : endsWord (l ++ "-> ".toList) = false := by
      rw [endsWord_append_of_ne_nil _ (by decide)]
      rfl
    have hold : l ++ m.start.after = (l ++ "-> ".toList) ++
        (Keyword.any.lead ++ (P ++ (" \x7b".toList ++ m.stop.after))) := by
      rw [(harrow.trans (hname.trans hbrace)).after]
      simp [Keyword.lead, Keyword.word_any]
    have hnew : l ++ ("-> some ".toList ++ m.groupText 1 ++ " \x7b".toList) ++ m.stop.after =
        (l ++ "-> ".toList) ++
          (Keyword.some.lead ++ (P ++ (" \x7b".toList ++ m.stop.after))) := by
      rw [hone]
      simp [Keyword.lead, Keyword.word_some]
    rw [hold] at hlacks
    rw [hnew]
    -- So only the keyword is another one, and a guarded shape does not look at which keyword it is,
    -- but for the one that begins there.
    refine hs.edit hlacks hend (parts_lead .any _) (.inl ⟨_, rfl⟩) (parts_lead .some _)
      (.inl ⟨_, rfl⟩) fun B hB hshape => ?_
    rcases List.suffix_cons_iff.mp hB with rfl | hB
    · rw [hparts] at hshape
      exact absurd hshape (hs.returned hP)
    · exact ⟨B, hB.trans (List.suffix_cons _ _), hshape⟩
  · cases hy

/-- **A plain line** with `any` for its last `some` brings in no guarded shape. -/
theorem Guarded.revertPlainLines (hs : Guarded names shape) {t : Text} (ht : Lacks shape t) :
    Lacks shape (revertPlainLines t).1 := by
  refine lacks_substitute (fun m hm y hy => ?_) (fun m hm y hy l hl hlacks => ?_) ht
  · cases hy
    exact faithful_someOnPlainLine (matchAt?_eq_some hm).2
  cases hy
  obtain ⟨a, x, hline, hsome, hbefore, hafter⟩ := reads_of_someOnPlainLine (matchAt?_eq_some hm).2
  have hend : endsWord (l ++ x) = false := by
    rw [← hbefore, hline.reverse_before]
    exact endsWord_append_congr hl x
  have hold : l ++ m.start.after = (l ++ x) ++ (Keyword.some.word ++ m.stop.after) := by
    rw [(hline.trans hsome).after]
    simp [Keyword.word_some]
  rw [hold] at hlacks
  rw [text_someOnPlainLine hline hsome, ← List.append_assoc l, List.append_assoc (l ++ x)]
  refine hs.edit hlacks hend (parts_name_append (isName_word _) hafter) (.inl ⟨_, rfl⟩)
    (parts_name_append (isName_word .any) hafter) (.inl (isKeyword_word .any)) fun B hB hshape => ?_
  exact ⟨B, (hs.suffix_of_cons hB hshape (by decide) (by decide)).trans (List.suffix_cons _ _),
    hshape⟩

theorem parts_parenthesised (hnames : ∀ n ∈ names, IsName n) {qs : List Text} {P type : Text}
    {mark : Char} (hqs : Qualifiers (fun _ => True) qs) (hP : P ∈ names)
    (htype : type = [] ∨ type = ".Type".toList) (hmark : mark = '?' ∨ mark = '!') (r : Text) :
    parts ("(any ".toList ++ (qs.flatten ++ (P ++ type)) ++ ")".toList ++ [mark] ++ r) =
      ['('] :: "any".toList :: [' '] ::
        (qs ++ P :: (parts type ++ [')'] :: [mark] :: parts r)) := by
  have hopen : Unicode.isWord '(' = false := by decide
  have hclose : Unicode.isWord ')' = false := by decide
  have hrest := parts_markedType hnames hqs hP htype hclose (mark :: r)
  rw [parts_cons (isWord_mark hmark)] at hrest
  rw [← hrest]
  have hlead := parts_lead .any (qs.flatten ++ (P ++ (type ++ ')' :: (mark :: r))))
  have hparen := parts_cons hopen (Keyword.any.lead ++ (qs.flatten ++ (P ++ (type ++ ')' ::
    (mark :: r)))))
  rw [hlead] at hparen
  simpa [Keyword.lead, Keyword.word_any] using hparen

theorem parts_bareOptional (hnames : ∀ n ∈ names, IsName n) {k : Keyword} {ws : Text}
    {qs : List Text} {P type : Text} {mark : Char} (hws : IsBlanks ws)
    (hqs : Qualifiers (fun _ => True) qs) (hP : P ∈ names)
    (htype : type = [] ∨ type = ".Type".toList) (hmark : mark = '?' ∨ mark = '!') (r : Text) :
    parts (k.word ++ (ws ++ (qs.flatten ++ (P ++ (type ++ [mark])))) ++ r) =
      k.word :: (ws.map (fun c => [c]) ++ (qs ++ P :: (parts type ++ [mark] :: parts r))) := by
  have hbreak : startsWord (ws ++ (qs.flatten ++ (P ++ (type ++ mark :: r)))) = false := by
    rw [startsWord_append_of_ne_nil hws.1, startsWord_blanks hws.2]
  rw [← parts_markedType hnames hqs hP htype (isWord_mark hmark) r, ← parts_blanks hws.2,
    ← parts_name_append (isName_word k) hbreak]
  simp

/-- **An optional put in parentheses** brings in no guarded shape. -/
theorem Guarded.parenthesise (hs : Guarded names shape) (hnames : ProtocolNames names)
    (hne : names ≠ []) {t : Text} (ht : Lacks shape t) :
    Lacks shape (parenthesise (Registry.wholeName names) t).1 := by
  refine lacks_substitute (fun m hm y hy => ?_) (fun m hm y hy l hl hlacks => ?_) ht
  · cases hy
    exact faithful_bareOptional (matchAt?_eq_some hm).2
  cases hy
  obtain ⟨k, ws, qs, P, type, mark, hws, hqs, hP, htype, hmark, hread, hstart, hone, htwo⟩ :=
    exists_type_of_bareOptional hnames.isName hne (matchAt?_eq_some hm).2
  rw [hread.after] at hlacks
  rw [hone, htwo, List.append_assoc l]
  refine hs.edit hlacks (hl.trans hstart)
    (parts_bareOptional hnames.isName hws hqs hP htype hmark m.stop.after) (.inl ⟨_, rfl⟩)
    (parts_parenthesised hnames.isName hqs hP htype hmark m.stop.after) (.inr (.inl rfl))
    fun B hB hshape => ⟨B, ?_, hshape⟩
  -- none begins up to the closing parenthesis, and what is behind it was there before
  have hany := hs.suffix_of_cons hB hshape (by decide) (by decide)
  have hblank := hs.suffix_of_cons hany hshape (by decide) (by decide)
  have htyped : B <:+ parts type ++ [')'] :: [mark] :: parts m.stop.after := by
    rcases List.suffix_cons_iff.mp hblank with rfl | hB
    · exact absurd hshape (hs.blank hqs hP)
    · exact hs.types.suffix hqs hP hB hshape
  have hclose : B <:+ [')'] :: [mark] :: parts m.stop.after := by
    rcases parts_metatype htype with hparts | hparts
    · rwa [hparts] at htyped
    · rw [hparts] at htyped
      exact hs.suffix_of_cons (hs.suffix_of_cons htyped hshape (by decide) (by decide)) hshape
        (by decide) (by decide)
  have hmarked := hs.suffix_of_cons hclose hshape (by decide) (by decide)
  refine hmarked.trans ⟨k.word :: (ws.map (fun c => [c]) ++ (qs ++ P :: parts type)), ?_⟩
  simp

theorem parts_doubledKeyword {first second : Keyword} {x r : Text}
    (hx : x ≠ [] ∧ ∀ c ∈ x, c = ' ') (hr : startsWord r = false) :
    parts (first.word ++ (x ++ second.word) ++ r) =
      first.word :: (x.map (fun c => [c]) ++ second.word :: parts r) := by
  have hblank : ∀ c ∈ x, Unicode.isBlank c = true := by
    intro c hc
    rw [hx.2 c hc]
    decide
  have hbreak : startsWord (x ++ (second.word ++ r)) = false := by
    rw [startsWord_append_of_ne_nil hx.1, startsWord_blanks hblank]
  rw [← parts_name_append (isName_word second) hr, ← parts_blanks hblank,
    ← parts_name_append (isName_word first) hbreak, List.append_assoc, List.append_assoc]

theorem mergedKeyword_eq_some {first second : Keyword}
    (h : mergedKeyword first.word second.word = .some) : second = .some := by
  revert h
  cases first <;> cases second <;> decide

/-- **One keyword for two** brings in no guarded shape. -/
theorem Guarded.collapseOnce (hs : Guarded names shape) {t : Text} (ht : Lacks shape t) :
    Lacks shape (collapseOnce t).1 := by
  refine lacks_substitute (fun m hm y hy => ?_) (fun m hm y hy l hl hlacks => ?_) ht
  · cases hy
    exact faithful_doubledKeyword (matchAt?_eq_some hm).2
  cases hy
  obtain ⟨first, second, x, hread, hstart, hafter, hx, hone, htwo⟩ :=
    reads_of_doubledKeyword (matchAt?_eq_some hm).2
  rw [hread.after] at hlacks
  rw [hone, htwo, List.append_assoc]
  refine hs.edit hlacks (hl.trans hstart) (parts_doubledKeyword hx hafter) (.inl ⟨_, rfl⟩)
    (parts_name_append (isName_word _) hafter) (.inl ⟨_, rfl⟩) fun B hB hshape => ?_
  have hbehind (B : List Text) (hB : B <:+ second.word :: parts m.stop.after) :
      B <:+ first.word :: (x.map (fun c => [c]) ++ second.word :: parts m.stop.after) :=
    hB.trans ((List.suffix_append _ _).trans (List.suffix_cons _ _))
  rcases List.suffix_cons_iff.mp hB with rfl | hB
  · -- the merged keyword is `some` only if the second one is
    rcases hs.first hshape with hsome | hblank
    · have hmerged : mergedKeyword first.word second.word = .some := by
        cases hk : mergedKeyword first.word second.word with
        | some => rfl
        | any =>
            rw [hk] at hsome
            exact absurd hsome (by decide)
      rw [hmerged] at hshape
      refine ⟨_, hbehind _ List.suffix_rfl, ?_⟩
      rwa [mergedKeyword_eq_some hmerged]
    · rw [isBlankPart_of_isName (isName_word _)] at hblank
      cases hblank
  · exact ⟨B, hbehind B (hB.trans (List.suffix_cons _ _)), hshape⟩

/-! ## Other passes

These passes drop a keyword without writing anything in its place, or write one where there was
none. -/

/-- **A shape that the constraint of a parameter is of no account for**: it does not look behind the
angle bracket, and begins neither there, nor at the name with the colon, nor at the colon. -/
structure Bracketed (shape : List Text → Prop) : Prop where
  stops : ∀ {Y Z : List Text}, Y ≠ [] → shape (Y ++ ['<'] :: Z) → ∀ M, shape (Y ++ ['<'] :: M)
  bracket : ∀ B, ¬ shape (['<'] :: B)
  parameter : ∀ w B, IsName w → ¬ shape (w :: [':'] :: B)
  colon : ∀ B, ¬ shape ([':'] :: B)

theorem bracketed_forbiddenSome (hnames : ProtocolNames names) :
    Bracketed (ForbiddenSome names) where
  stops hne h _ := h.append hnames (.inr (.inr rfl)) hne _
  bracket B h := by
    obtain ⟨R, hR⟩ := h.exists_eq
    exact absurd (List.cons.inj hR).1 (by decide)
  parameter w B _ h := by
    obtain ⟨R, hR⟩ := h.exists_eq
    exact absurd (List.cons.inj (List.cons.inj hR).2).1 (by decide)
  colon B h := by
    obtain ⟨R, hR⟩ := h.exists_eq
    exact absurd (List.cons.inj hR).1 (by decide)

theorem bracketed_bareCast (hnames : ProtocolNames names) (policy : Policy) :
    Bracketed (BareCast policy names) where
  stops _ h M := h.append_bracket hnames M
  bracket B h := by
    obtain ⟨b, R, hb, hR⟩ := h.exists_eq
    obtain ⟨rfl, -⟩ := List.cons.inj hR
    exact absurd hb (by decide)
  parameter w B hw h := by
    obtain ⟨b, R, hb, hR⟩ := h.exists_eq
    obtain ⟨rfl, -⟩ := List.cons.inj hR
    rw [isBlankPart_of_isName hw] at hb
    cases hb
  colon B h := by
    obtain ⟨b, R, hb, hR⟩ := h.exists_eq
    obtain ⟨rfl, -⟩ := List.cons.inj hR
    exact absurd hb (by decide)

/-- **A constraint without its keyword** brings in no such shape. -/
theorem Bracketed.stripConstraints (hs : Bracketed shape) {t : Text} (ht : Lacks shape t) :
    Lacks shape (stripConstraints t).1 := by
  refine lacks_substitute (fun m hm y hy => ?_) (fun m hm y hy l hl hlacks => ?_) ht
  · cases hy
    exact faithful_constraintKeyword (matchAt?_eq_some hm).2
  cases hy
  obtain ⟨x, k, hread, hx, hword, hone⟩ := reads_of_constraintKeyword (matchAt?_eq_some hm).2
  have hname : IsName x := ⟨hx, hword⟩
  have hopen : Unicode.isWord '<' = false := by decide
  have hcolon : Unicode.isWord ':' = false := by decide
  have hblank : Unicode.isWord ' ' = false := by decide
  have hparts (r : Text) : parts ("<".toList ++ x ++ ": ".toList ++ r) =
      ['<'] :: x :: [':'] :: [' '] :: parts r := by
    have hbreak : startsWord (':' :: ' ' :: r) = false := hcolon
    rw [← parts_cons hblank, ← parts_cons hcolon, ← parts_name_append hname hbreak,
      ← parts_cons hopen]
    simp
  have hold : m.start.after = "<".toList ++ x ++ ": ".toList ++ (k.lead ++ m.stop.after) := by
    rw [hread.after]
    simp [Keyword.lead]
  rw [hold] at hlacks
  rw [hone, List.append_assoc l]
  refine hlacks.edit (.inr ?_) (.inr ?_) (fun Y hne hY hshape => ?_) fun B hB hshape => ?_
  · exact hopen
  · exact hopen
  · rw [hparts] at hshape
    rw [hparts]
    exact ⟨_, List.suffix_rfl, hs.stops hne hshape _⟩
  · refine ⟨B, ?_, hshape⟩
    rw [hparts, parts_lead]
    rw [hparts] at hB
    have hB : B <:+ [' '] :: parts m.stop.after := by
      rcases List.suffix_cons_iff.mp hB with rfl | hB
      · exact absurd hshape (hs.bracket _)
      rcases List.suffix_cons_iff.mp hB with rfl | hB
      · exact absurd hshape (hs.parameter x _ hname)
      rcases List.suffix_cons_iff.mp hB with rfl | hB
      · exact absurd hshape (hs.colon _)
      · exact hB
    -- the blank behind the keyword stands for the one before it
    refine hB.trans ⟨[['<'], x, [':'], [' '], k.word], ?_⟩
    simp

/-- The text before a cast with its keyword, and the text behind it. -/
theorem CastReading.exists_cut {protocol : Pattern} {a b c : Cursor}
    (h : CastReading protocol m a b c) :
    ∃ x, endsWord x = false ∧ x ≠ [] ∧ m.start.after = x ++ a.after ∧
      m.groupText 1 ++ "any ".toList ++ m.groupText 2 ++ m.stop.after =
        x ++ (Keyword.any.lead ++ a.after) := by
  obtain ⟨x, y, z, hoperator, -, -, hz, hblank⟩ := h.operator
  obtain ⟨w, htype⟩ := h.exists_reads_type
  refine ⟨x ++ (y ++ z), ?_, ?_, hoperator.after, ?_⟩
  · rw [← List.append_assoc, endsWord_append_of_ne_nil _ hz, endsWord_blanks hblank]
  · simp [hz]
  · rw [h.operatorText, h.typeText, hoperator.textTo_eq, htype.textTo_eq, htype.after]
    simp [Keyword.lead, Keyword.word_any]

/-- **A cast with its keyword** brings in no forbidden `some`. -/
theorem lacks_annotateCasts (hnames : ProtocolNames names) (policy : Policy) {t : Text}
    (ht : Lacks (ForbiddenSome names) t) :
    Lacks (ForbiddenSome names) (annotateCasts policy (Registry.wholeName names) t).1 := by
  have hgroup := hasGroup_wholeName names
  refine lacks_substitute (fun m hm y hy => ?_) (fun m hm y hy l hl hlacks => ?_) ht
  · split at hy
    · cases hy
      exact faithful_cast hgroup hm
    · cases hy
  split at hy
  · cases hy
    obtain ⟨a, b, c, hcast⟩ := exists_castReading hgroup hm
    obtain ⟨x, hx, hne, hold, hnew⟩ := hcast.exists_cut
    have hend : endsWord (l ++ x) = false := by rw [endsWord_append_of_ne_nil l hne, hx]
    rw [hold, ← List.append_assoc] at hlacks
    rw [List.append_assoc, hnew, ← List.append_assoc]
    -- The text before the keyword ends with the operator's blank, so no word goes on over it.
    refine hlacks.edit (.inl hend) (.inl hend) (fun Y hY _ hshape => ?_) fun B hB hshape => ?_
    · rw [parts_lead] at hshape
      exact ⟨_, List.suffix_rfl, hshape.append hnames (.inl (isKeyword_word .any)) hY _⟩
    · rw [parts_lead] at hB
      have hB := (guarded_forbiddenSome hnames).suffix_of_cons hB hshape (by decide) (by decide)
      rcases List.suffix_cons_iff.mp hB with rfl | hB
      · obtain ⟨R, hR⟩ := hshape.exists_eq
        exact absurd (List.cons.inj hR).1 (by decide)
      · exact ⟨B, hB, hshape⟩
  · cases hy

/-- **One keyword for two** brings in no optional without parentheses. -/
theorem lacks_collapseOnce (hnames : ProtocolNames names) {t : Text}
    (ht : Lacks (BareOptional names) t) : Lacks (BareOptional names) (collapseOnce t).1 := by
  refine lacks_substitute (fun m hm y hy => ?_) (fun m hm y hy l hl hlacks => ?_) ht
  · cases hy
    exact faithful_doubledKeyword (matchAt?_eq_some hm).2
  cases hy
  obtain ⟨first, second, x, hread, hstart, hafter, hx, hone, htwo⟩ :=
    reads_of_doubledKeyword (matchAt?_eq_some hm).2
  have hend := hl.trans hstart
  rw [hread.after] at hlacks
  rw [hone, htwo, List.append_assoc]
  have hblanks : ∀ b ∈ x.map (fun c => [c]), isBlankPart b = true := by
    refine isBlankPart_of_mem_map fun c hc => ?_
    rw [hx.2 c hc]
    decide
  refine hlacks.edit (.inl hend) (.inl hend) (fun Y hY _ hshape => ?_) fun B hB hshape => ?_ <;>
    rw [parts_doubledKeyword hx hafter]
  · rw [parts_name_append (isName_word _) hafter] at hshape
    have hbarrier : IsBarrier (mergedKeyword first.word second.word).word := .inl ⟨_, rfl⟩
    rcases hshape.append hbarrier (not_mem_of_isBarrier hnames hbarrier) hY with hM | ⟨-, hmarked⟩
    · exact ⟨_, List.suffix_rfl, hM _⟩
    · -- the merged keyword is a qualifier: then the optional began at the first of the two
      refine ⟨_, List.suffix_append Y _, first, _, _, rfl, ?_, hblanks,
        hmarked second.word (isName_word second)⟩
      simpa using hx.1
  · rw [parts_name_append (isName_word _) hafter] at hB
    have hbehind : second.word :: parts m.stop.after <:+
        first.word :: (x.map (fun c => [c]) ++ second.word :: parts m.stop.after) :=
      (List.suffix_append _ _).trans (List.suffix_cons _ _)
    rcases List.suffix_cons_iff.mp hB with rfl | hB
    · obtain ⟨k, ws, T, hQ, hne, hws, hT⟩ := hshape
      exact ⟨_, hbehind, second, ws, T, by rw [(List.cons.inj hQ).2], hne, hws, hT⟩
    · exact ⟨B, hB.trans ((List.suffix_cons _ _).trans hbehind), hshape⟩

end SwiftExistential.Cleanup
