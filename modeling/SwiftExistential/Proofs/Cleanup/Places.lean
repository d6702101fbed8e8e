import SwiftExistential.Proofs.Cleanup.Shapes

/-!
# Where the patterns match

The patterns of the cleanup match where their shapes begin. One direction reads a match as a list of
parts (`exists_type_of_forbiddenSome`, `exists_type_of_bareOptional`, `exists_type_of_cast`); the
other finds a match where a shape begins (`spans_of_forbiddenSome`, `spans_of_bareOptional`,
`spans_of_bareCast`).

Both are stated with places and `Pattern.Spans`, so no order among the ways to match plays a part.
The first direction is what makes a replacement safe: it tells which parts are taken away. The
second makes a pass thorough: no shape is passed over.
-/

set_option autoImplicit false

namespace SwiftExistential.Cleanup

open Pattern Text Unicode
open Cursor (Reads exists_reads_of_after)
open SitePatch (IsName)

variable {names : List Text} {a b c : Cursor} {m : Match}

/-! ## Names and types

A type is matched as a name between word boundaries with qualifiers before it. As parts, it is an
odd list: names with dots between them. -/

theorem spans_either_literal_iff (hne : names ≠ []) :
    (either (names.map literal)).Spans a b ↔ ∃ n ∈ names, Reads n a b := by
  induction names with
  | nil => exact absurd rfl hne
  | cons n names ih =>
      cases names with
      | nil =>
          rw [List.map_singleton, either, spans_literal_iff]
          simp
      | cons n' names =>
          have hspans : (either ((n :: n' :: names).map literal)).Spans a b ↔
              (literal n).Spans a b ∨ (either ((n' :: names).map literal)).Spans a b := Iff.rfl
          rw [hspans, spans_literal_iff, ih (List.cons_ne_nil _ _)]
          simp

theorem spans_wholeName_iff (hnames : ∀ n ∈ names, IsName n) (hne : names ≠ []) :
    (Registry.wholeName names).Spans a b ↔ ∃ n ∈ names, Reads n a b ∧
      endsWord a.before.reverse = false ∧ startsWord b.after = false := by
  constructor
  · rintro ⟨a', ⟨rfl, hstart⟩, b', hname, rfl, hstop⟩
    obtain ⟨n, hn, hread⟩ := (spans_either_literal_iff hne).mp hname
    exact ⟨n, hn, hread, hread.endsWord_before hstart (hnames n hn).startsWord,
      hread.startsWord_after hstop (hnames n hn).endsWord⟩
  · rintro ⟨n, hn, hread, hbefore, hafter⟩
    exact ⟨a, ⟨rfl, hread.atBoundary_start hbefore (hnames n hn).startsWord⟩, b,
      (spans_either_literal_iff hne).mpr ⟨n, hn, hread⟩, rfl,
      hread.atBoundary_stop hafter (hnames n hn).endsWord⟩

theorem spans_qualifier_iff :
    (seq wordRun (char '.')).Spans a b ↔ ∃ q, IsName q ∧ Reads (q ++ ['.']) a b := by
  constructor
  · rintro ⟨m, hrun, hdot⟩
    obtain ⟨c, x, hc, hx, hread⟩ := spans_plus_one_iff.mp hrun
    exact ⟨c :: x, ⟨List.cons_ne_nil c x, List.forall_mem_cons.mpr ⟨hc, hx⟩⟩, hread.trans hdot⟩
  · rintro ⟨q, hq, hread⟩
    obtain ⟨m, hname, hdot⟩ := hread.exists_between
    obtain ⟨c, x, rfl⟩ := List.exists_cons_of_ne_nil hq.1
    obtain ⟨hc, hx⟩ := List.forall_mem_cons.mp hq.2
    exact ⟨m, spans_plus_one_iff.mpr ⟨c, x, hc, hx, hname⟩, hdot⟩

theorem spans_qualifiers_iff :
    SitePatch.qualifiers.Spans a b ↔ ∃ qs, Qualifiers (fun _ => True) qs ∧ Reads qs.flatten a b := by
  constructor
  · intro h
    have h : Relation.ReflTransGen (seq wordRun (char '.')).Spans a b := h
    induction h using Relation.ReflTransGen.head_induction_on with
    | refl => exact ⟨[], .nil, Reads.refl _⟩
    | head hstep htail ih =>
        obtain ⟨q, hq, hfirst⟩ := spans_qualifier_iff.mp hstep
        obtain ⟨qs, hqs, hrest⟩ := ih htail
        refine ⟨q :: ['.'] :: qs, .cons hq trivial hqs, ?_⟩
        simpa using hfirst.trans hrest
  · rintro ⟨qs, hqs, hread⟩
    show Relation.ReflTransGen (seq wordRun (char '.')).Spans a b
    induction hqs generalizing a with
    | nil => rw [hread.eq_of_nil]
    | @cons q qs hq _ _ ih =>
        have hread : Reads ((q ++ ['.']) ++ qs.flatten) a b := by simpa using hread
        obtain ⟨m, hfirst, hrest⟩ := hread.exists_between
        exact .head (spans_qualifier_iff.mpr ⟨q, hq, hfirst⟩) (ih hrest)

theorem spans_blanks_iff : blanks.Spans a b ↔ ∃ x, IsBlanks x ∧ Reads x a b := by
  constructor
  · intro h
    obtain ⟨c, x, hc, hx, hread⟩ := spans_plus_one_iff.mp h
    exact ⟨c :: x, ⟨List.cons_ne_nil c x, List.forall_mem_cons.mpr ⟨hc, hx⟩⟩, hread⟩
  · rintro ⟨x, ⟨hne, hx⟩, hread⟩
    obtain ⟨c, x, rfl⟩ := List.exists_cons_of_ne_nil hne
    obtain ⟨hc, hx⟩ := List.forall_mem_cons.mp hx
    exact spans_plus_one_iff.mpr ⟨c, x, hc, hx, hread⟩

theorem spans_metatype_iff : SitePatch.metatype.Spans a b ↔ Reads ".Type".toList a b ∨ b = a :=
  or_congr_left spans_literal_iff

theorem Qualifiers.endsWord_append {ok : Text → Prop} {qs : List Text} (h : Qualifiers ok qs)
    {l : Text} (hl : endsWord l = false) : endsWord (l ++ qs.flatten) = false := by
  induction h generalizing l with
  | nil => rwa [List.flatten_nil, List.append_nil]
  | @cons q qs hq _ _ ih =>
      have hdot : endsWord (l ++ q ++ ['.']) = false := by
        rw [endsWord_concat]
        decide
      have hrest := ih hdot
      simpa using hrest

/-- **A type with its qualifiers and metatype**, read between two places. -/
theorem exists_type_of_qualified (hnames : ∀ n ∈ names, IsName n) (hne : names ≠ [])
    (h : (qualified (Registry.wholeName names)).Spans a b) :
    ∃ qs P type, Qualifiers (fun _ => True) qs ∧ P ∈ names ∧
      (type = [] ∨ type = ".Type".toList) ∧ Reads (qs.flatten ++ (P ++ type)) a b ∧
      startsWord (type ++ b.after) = false := by
  obtain ⟨a', hqualifiers, b', hname, hmetatype⟩ := h
  obtain ⟨qs, hqs, hfirst⟩ := spans_qualifiers_iff.mp hqualifiers
  obtain ⟨P, hP, hread, -, hafter⟩ := (spans_wholeName_iff hnames hne).mp hname
  rcases spans_metatype_iff.mp hmetatype with htype | rfl
  · exact ⟨qs, P, ".Type".toList, hqs, hP, .inr rfl, hfirst.trans (hread.trans htype), rfl⟩
  · refine ⟨qs, P, [], hqs, hP, .inl rfl, ?_, hafter⟩
    rw [List.append_nil]
    exact hfirst.trans hread

theorem spans_qualified (hnames : ∀ n ∈ names, IsName n) {ok : Text → Prop} {qs : List Text}
    (hqs : Qualifiers ok qs) {P : Text} (hP : P ∈ names) {type : Text}
    (htype : type = [] ∨ type = ".Type".toList) (hread : Reads (qs.flatten ++ (P ++ type)) a b)
    (hbefore : endsWord a.before.reverse = false) (hafter : startsWord (type ++ b.after) = false) :
    (qualified (Registry.wholeName names)).Spans a b := by
  obtain ⟨a', hfirst, hrest⟩ := hread.exists_between
  obtain ⟨b', hname, hmetatype⟩ := hrest.exists_between
  refine ⟨a', spans_qualifiers_iff.mpr ⟨qs, hqs.imp fun _ _ => trivial, hfirst⟩, b', ?_, ?_⟩
  · refine (spans_wholeName_iff hnames (List.ne_nil_of_mem hP)).mpr ⟨P, hP, hname, ?_, ?_⟩
    · rw [hfirst.reverse_before]
      exact hqs.endsWord_append hbefore
    · rwa [hmetatype.after]
  · rcases htype with rfl | rfl
    · exact spans_metatype_iff.mpr (.inr hmetatype.eq_of_nil)
    · exact spans_metatype_iff.mpr (.inl hmetatype)

theorem parts_type {ok : Text → Prop} {qs : List Text} (hqs : Qualifiers ok qs) {P r : Text}
    (hP : IsName P) (hr : startsWord r = false) :
    parts (qs.flatten ++ (P ++ r)) = qs ++ P :: parts r := by
  rw [hqs.parts_append, parts_name_append hP hr]

/-! ## `some` where only `any` is allowed

The tails are written out one after the other, since each ends in its own way. -/

/-- The texts that `some` cannot stand before. -/
def forbiddenTails : List Text :=
  ["...".toList, " =".toList, ".Type".toList, ") in".toList]

theorem spans_forbiddenTail_iff :
    forbiddenTail.Spans a b ↔ ∃ z ∈ forbiddenTails, Reads z a b :=
  spans_either_literal_iff (List.cons_ne_nil _ _ : forbiddenTails ≠ [])

/-- Such a text, with what goes on behind it, begins with a tail of parts. -/
theorem exists_tail {z : Text} (hz : z ∈ forbiddenTails) (r : Text) :
    ∃ tail R, parts (z ++ r) = tail ++ R ∧ Tail tail := by
  have hplain {c : Char} (hc : c ∈ ['.', ' ', '=', ')']) : isWord c = false := by
    revert c
    decide
  simp only [forbiddenTails, List.mem_cons, List.not_mem_nil, or_false] at hz
  -- The first two end with a mark. The last two end with a word, which may go on behind them.
  rcases hz with rfl | rfl | rfl | rfl
  · refine ⟨[['.'], ['.'], ['.']], parts r, ?_, .variadic⟩
    show parts ('.' :: '.' :: '.' :: r) = _
    simp only [parts_cons (hplain (c := '.') (by decide)), List.cons_append, List.nil_append]
  · refine ⟨[[' '], ['=']], parts r, ?_, .initial⟩
    show parts (' ' :: '=' :: r) = _
    simp only [parts_cons (hplain (c := ' ') (by decide)), parts_cons (hplain (c := '=') (by decide)),
      List.cons_append, List.nil_append]
  · obtain ⟨w, R, hw, hstarts, hname, -⟩ :=
      exists_parts_name_append (x := "Type".toList) (by decide) r
    refine ⟨[['.'], w], R, ?_, .metatype hname hstarts⟩
    show parts ('.' :: ("Type".toList ++ r)) = _
    rw [parts_cons (hplain (by decide)), hw]
    rfl
  · obtain ⟨w, R, hw, hstarts, hname, -⟩ :=
      exists_parts_name_append (x := "in".toList) (by decide) r
    refine ⟨[[')'], [' '], w], R, ?_, .closure hname hstarts⟩
    show parts (')' :: ' ' :: ("in".toList ++ r)) = _
    rw [parts_cons (hplain (by decide)), parts_cons (hplain (by decide)), hw]
    rfl

/-- A tail of parts begins with such a text. -/
theorem Tail.exists_start {tail : List Text} (h : Tail tail) :
    ∃ z ∈ forbiddenTails, ∃ r, tail.flatten = z ++ r := by
  cases h with
  | variadic => exact ⟨"...".toList, by decide, [], rfl⟩
  | initial => exact ⟨" =".toList, by decide, [], rfl⟩
  | metatype hname hstarts =>
      obtain ⟨r, rfl⟩ := hstarts
      exact ⟨".Type".toList, by decide, r, by simp⟩
  | closure hname hstarts =>
      obtain ⟨r, rfl⟩ := hstarts
      exact ⟨") in".toList, by decide, r, by simp⟩

/-- **What a match of the pattern reads**: behind the keyword a type, and behind this a text without
an `s`. It begins the shape unless a keyword is among the qualifiers. -/
theorem exists_type_of_forbiddenSome (hnames : ∀ n ∈ names, IsName n) (hne : names ≠ [])
    (hm : IsMatch (forbiddenSome (Registry.wholeName names)) m) :
    ∃ qs P rest, Qualifiers (fun _ => True) qs ∧ P ∈ names ∧
      Reads ("some ".toList ++ (qs.flatten ++ (P ++ rest))) m.start m.stop ∧ 's' ∉ rest ∧
      startsWord (rest ++ m.stop.after) = false ∧ endsWord m.start.before.reverse = false ∧
      m.groupText 1 ++ m.groupText 2 = qs.flatten ++ (P ++ rest) ∧
      qs.flatten <+: m.groupText 1 ∧
      (Qualifiers (¬ IsKeyword ·) qs → ForbiddenSome names (parts m.start.after)) := by
  obtain ⟨a, b, x, z, hsome, htype, hrest, hstart, ⟨c, hqualified, hblanks⟩, htail, hone, htwo⟩ :=
    reads_of_forbiddenSome hm
  obtain ⟨qs, P, type, hqs, hP, hmetatype, hread, hafter⟩ :=
    exists_type_of_qualified hnames hne hqualified
  obtain ⟨ws, hws, hblank⟩ := spans_star_one_iff.mp hblanks
  obtain ⟨z', hz, htail⟩ := spans_forbiddenTail_iff.mp htail
  obtain rfl : z = z' := by rw [← hrest.textTo_eq, htail.textTo_eq]
  obtain rfl : x = qs.flatten ++ (P ++ type) ++ ws := by
    rw [← htype.textTo_eq, (hread.trans hblank).textTo_eq]
  have hbehind : c.after = ws ++ (z ++ m.stop.after) := by rw [hblank.after, hrest.after]
  -- The name ends before something that starts no word, so its letters are a part of their own.
  have hstop : startsWord (type ++ (ws ++ z) ++ m.stop.after) = false := by
    rw [hbehind] at hafter
    simpa only [List.append_assoc] using hafter
  have hread : Reads ("some ".toList ++ (qs.flatten ++ (P ++ (type ++ (ws ++ z))))) m.start
      m.stop := by
    simpa only [List.append_assoc] using hsome.trans (htype.trans hrest)
  refine ⟨qs, P, type ++ (ws ++ z), hqs, hP, hread, ?_, hstop, hstart, ?_, ?_, fun hkeywords => ?_⟩
  -- No `s` behind the name: what stands there is a metatype, blanks and one of a few marks.
  · have htails : ∀ z ∈ forbiddenTails, 's' ∉ z := by decide
    have hs : 's' ∉ type := by rcases hmetatype with rfl | rfl <;> decide
    have hblanks : 's' ∉ ws := fun hmem => absurd (hws 's' hmem) (by decide)
    simp only [List.mem_append, not_or]
    exact ⟨hs, hblanks, htails z hz⟩
  · rw [hone, htwo]
    simp only [List.append_assoc]
  · rw [hone, List.append_assoc]
    exact List.prefix_append _ _
  -- The match read as parts. With a metatype the shape ends there; without one it goes on over the
  -- blanks.
  · have hparts : parts m.start.after =
        "some".toList :: [' '] :: (qs ++ P :: parts (type ++ (ws ++ z) ++ m.stop.after)) := by
      rw [hread.after, ← parts_type hqs (hnames P hP) hstop]
      simp only [List.append_assoc]
      exact parts_lead .some _
    rw [hparts]
    rcases hmetatype with rfl | rfl
    · obtain ⟨tail, R, htails, htail⟩ := exists_tail hz m.stop.after
      refine ⟨qs, P, ws.map (fun c => [c]), tail, R, ?_, hkeywords, hP,
        isBlankPart_of_mem_map hws, htail⟩
      rw [List.nil_append, List.append_assoc, parts_blanks hws, htails]
    · obtain ⟨tail, R, htails, htail⟩ :=
        exists_tail (z := ".Type".toList) (by decide) (ws ++ z ++ m.stop.after)
      refine ⟨qs, P, [], tail, R, ?_, hkeywords, hP, by simp, htail⟩
      rw [List.append_assoc, htails, List.nil_append]

/-- **Where the shape begins, the pattern matches.** -/
theorem spans_of_forbiddenSome (hnames : ∀ n ∈ names, IsName n)
    (hbefore : endsWord a.before.reverse = false) (h : ForbiddenSome names (parts a.after)) :
    ∃ b, (forbiddenSome (Registry.wholeName names)).Spans a b := by
  obtain ⟨qs, P, ws, tail, R, hparts, hqs, hP, hws, htail⟩ := h
  obtain ⟨z, hz, r, htailtext⟩ := htail.exists_start
  have hafter : a.after =
      "some ".toList ++ (qs.flatten ++ (P ++ (ws.flatten ++ (z ++ (r ++ R.flatten))))) := by
    rw [← flatten_parts a.after, hparts]
    simp [htailtext]
  -- no word goes on behind the protocol: it is a part of its own
  have hcut : startsWord (ws.flatten ++ (z ++ (r ++ R.flatten))) = false := by
    have hbehind := startsWord_behind (A := "some".toList :: [' '] :: qs) hparts (hnames P hP)
    simpa [htailtext] using hbehind
  obtain ⟨b, hsome, hb⟩ := exists_reads_of_after hafter
  obtain ⟨c, htype, hc⟩ := exists_reads_of_after
    (x := qs.flatten ++ (P ++ [])) (r := ws.flatten ++ (z ++ (r ++ R.flatten))) (by simpa using hb)
  obtain ⟨d, hblank, hd⟩ := exists_reads_of_after hc
  obtain ⟨e, htail, -⟩ := exists_reads_of_after hd
  have hb : endsWord b.before.reverse = false := by
    rw [hsome.reverse_before, endsWord_append_of_ne_nil _ (by decide)]
    rfl
  refine ⟨e, a, ⟨rfl, hsome.atBoundary_start hbefore rfl⟩, b, spans_literal_iff.mpr hsome, d,
    ⟨c, ?_, ?_⟩, spans_forbiddenTail_iff.mpr ⟨z, hz, htail⟩⟩
  · exact spans_qualified hnames hqs hP (.inl rfl) htype hb (by rwa [hc])
  · exact spans_star_one_iff.mpr ⟨_, forall_mem_flatten_isBlank hws, hblank⟩

/-! ## Optionals without parentheses -/

/-- **What a match of the pattern reads**: a keyword, blanks, a type and the mark of an optional. -/
theorem exists_type_of_bareOptional (hnames : ∀ n ∈ names, IsName n) (hne : names ≠ [])
    (hm : IsMatch (bareOptional (Registry.wholeName names)) m) :
    ∃ (k : Keyword) (ws : Text) (qs : List Text) (P type : Text) (mark : Char), IsBlanks ws ∧
      Qualifiers (fun _ => True) qs ∧ P ∈ names ∧ (type = [] ∨ type = ".Type".toList) ∧
      (mark = '?' ∨ mark = '!') ∧
      Reads (k.word ++ (ws ++ (qs.flatten ++ (P ++ (type ++ [mark]))))) m.start m.stop ∧
      endsWord m.start.before.reverse = false ∧
      m.groupText 1 = qs.flatten ++ (P ++ type) ∧ m.groupText 2 = [mark] := by
  obtain ⟨k, ws, y, mark, a, b, hkeyword, htype, hmarked, hstart, hws, hmark, hqualified, hone,
    htwo⟩ := reads_of_bareOptional hm
  obtain ⟨qs, P, type, hqs, hP, hmetatype, hread, -⟩ :=
    exists_type_of_qualified hnames hne hqualified
  obtain rfl : y = qs.flatten ++ (P ++ type) := by rw [← htype.textTo_eq, hread.textTo_eq]
  refine ⟨k, ws, qs, P, type, mark, hws, hqs, hP, hmetatype, hmark, ?_, hstart, hone, htwo⟩
  simpa only [List.append_assoc] using hkeyword.trans (htype.trans hmarked)

theorem parts_markedType (hnames : ∀ n ∈ names, IsName n) {ok : Text → Prop} {qs : List Text}
    (hqs : Qualifiers ok qs) {P : Text} (hP : P ∈ names) {type : Text}
    (htype : type = [] ∨ type = ".Type".toList) {mark : Char} (hmark : isWord mark = false)
    (r : Text) :
    parts (qs.flatten ++ (P ++ (type ++ mark :: r))) =
      qs ++ P :: (parts type ++ [mark] :: parts r) := by
  have hmarked : startsWord (mark :: r) = false := hmark
  have hbreak : startsWord (type ++ mark :: r) = false := by
    rcases htype with rfl | rfl
    · exact hmark
    · rfl
  rw [parts_type hqs (hnames P hP) hbreak, parts_append (.inr hmarked), parts_cons hmark]

theorem isWord_mark {mark : Char} (h : mark = '?' ∨ mark = '!') : isWord mark = false := by
  rcases h with rfl | rfl <;> decide

theorem parts_metatype {type : Text} (h : type = [] ∨ type = ".Type".toList) :
    parts type = [] ∨ parts type = [['.'], "Type".toList] := by
  rcases h with rfl | rfl
  · exact .inl rfl
  · exact .inr (by decide)

/-- **Where the shape begins, the pattern matches.** -/
theorem spans_of_bareOptional (hnames : ∀ n ∈ names, IsName n)
    (hbefore : endsWord a.before.reverse = false) (h : BareOptional names (parts a.after)) :
    ∃ b, (bareOptional (Registry.wholeName names)).Spans a b := by
  obtain ⟨k, ws, T, hparts, hne, hws, qs, P, type, mark, R, rfl, hqs, hP, htype, hmark⟩ := h
  obtain ⟨c, hc, rfl⟩ : ∃ c, (c = '?' ∨ c = '!') ∧ mark = [c] := by
    rcases hmark with rfl | rfl
    · exact ⟨_, .inl rfl, rfl⟩
    · exact ⟨_, .inr rfl, rfl⟩
  -- From the parts back to the text, and from there to the places that the pattern goes through.
  have hafter : a.after = k.word ++ (ws.flatten ++ ((qs.flatten ++ (P ++ type.flatten)) ++
      ([c] ++ R.flatten))) := by
    rw [← flatten_parts a.after, hparts]
    simp
  have hcut : startsWord (type.flatten ++ ([c] ++ R.flatten)) = false := by
    have hbehind := startsWord_behind (A := k.word :: (ws ++ qs)) (w := P)
      (B := type ++ [c] :: R) (by rw [hparts]; simp) (hnames P hP)
    simpa using hbehind
  have hblanks := isBlanks_flatten hne hws
  obtain ⟨d, hkeyword, hd⟩ := exists_reads_of_after hafter
  obtain ⟨e, hblank, he⟩ := exists_reads_of_after hd
  obtain ⟨f, htyped, hf⟩ := exists_reads_of_after he
  obtain ⟨g, hmarked, -⟩ := exists_reads_of_after hf
  have hstart := hkeyword.atBoundary_start hbefore (startsWord_keyword k)
  refine ⟨g, a, ⟨rfl, hstart⟩, d, ?_, e, spans_blanks_iff.mpr ⟨_, hblanks, hblank⟩, f, ?_, c, ?_,
    hmarked⟩
  · have hne : [Keyword.any.word, Keyword.some.word] ≠ [] := List.cons_ne_nil _ _
    exact (spans_either_literal_iff hne).mpr ⟨k.word, by cases k <;> simp, hkeyword⟩
  · refine spans_qualified hnames hqs hP ?_ htyped ?_ (by rwa [hf])
    · rcases htype with rfl | rfl
      · exact .inl rfl
      · exact .inr rfl
    · rw [hblank.reverse_before, endsWord_append_of_ne_nil _ hblanks.1, endsWord_blanks hblanks.2]
  · rcases hc with rfl | rfl <;> decide

/-! ## Casts without a keyword

A match of the cast takes the keyword unless a colon or a small letter is behind it, or its protocol
begins with `Any` or is a class of the policy. -/

theorem spans_castOperator {y : Text} (hy : y ∈ castOperators) (hread : Reads y a b) :
    castOperator.Spans a b := by
  have hmarked {c : Char} (hc : CharClass.holds (.oneOf ['?', '!']) c = true)
      (hread : Reads ("as".toList ++ [c]) a b) : castOperator.Spans a b := by
    obtain ⟨d, has, hmark⟩ := hread.exists_between
    exact .inr ⟨d, spans_literal_iff.mpr has, .inl ⟨c, hc, hmark⟩⟩
  simp only [castOperators, List.mem_cons, List.not_mem_nil, or_false] at hy
  rcases hy with rfl | rfl | rfl | rfl
  · exact .inl (spans_literal_iff.mpr hread)
  · exact hmarked (c := '?') (by decide) hread
  · exact hmarked (c := '!') (by decide) hread
  · exact .inr ⟨b, spans_literal_iff.mpr hread, .inr rfl⟩

theorem parts_castOperator {x y z : Text} (hx : IsBlanks x) (hz : IsBlanks z) (r : Text) :
    parts (x ++ (y ++ (z ++ r))) =
      x.map (fun c => [c]) ++ (parts y ++ (z.map (fun c => [c]) ++ parts r)) := by
  have hbreak : startsWord (z ++ r) = false := by
    rw [startsWord_append_of_ne_nil hz.1, startsWord_blanks hz.2]
  rw [parts_blanks hx.2, parts_append (.inr hbreak), parts_blanks hz.2]

/-- **What a match of the pattern reads** as its type: a qualifier wherever one can be read, and a
protocol. -/
theorem exists_type_of_cast (hnames : ∀ n ∈ names, IsName n) (hne : names ≠ [])
    (h : CastReading (Registry.wholeName names) m a b c) :
    ∃ qs P, Qualifiers (fun _ => True) qs ∧ P ∈ names ∧ m.groupText 3 = P ∧
      Reads (qs.flatten ++ P) a c ∧ startsWord c.after = false ∧
      (qs = [] ∧ (∀ n ∈ names, ∀ R, parts c.after ≠ ['.'] :: n :: R) ∨
        ∃ q, IsName q ∧ qs = [q, ['.']]) := by
  obtain ⟨P, hP, hread, -, hafter⟩ := (spans_wholeName_iff hnames hne).mp h.protocol
  have hthree : m.groupText 3 = P := by rw [h.protocolText, hread.textTo_eq]
  rcases h.qualifier with hqualifier | ⟨rfl, hnone⟩
  · obtain ⟨q, hq, hqread⟩ := spans_qualifier_iff.mp hqualifier
    refine ⟨[q, ['.']], P, .cons hq trivial .nil, hP, hthree, ?_, hafter, .inr ⟨q, hq, rfl⟩⟩
    simpa using hqread.trans hread
  · refine ⟨[], P, .nil, hP, hthree, hread, hafter, .inl ⟨rfl, fun n hn R hR => ?_⟩⟩
    -- the protocol would be the qualifier of another one behind it
    have hbehind : c.after = ['.'] ++ (n ++ R.flatten) := by
      rw [← flatten_parts c.after, hR]
      rfl
    obtain ⟨b', hdot, hb'⟩ := exists_reads_of_after hbehind
    obtain ⟨c', hname, hc'⟩ := exists_reads_of_after hb'
    refine hnone b' c' (spans_qualifier_iff.mpr ⟨P, hnames P hP, hread.trans hdot⟩) ?_
    refine (spans_wholeName_iff hnames hne).mpr ⟨n, hn, hname, ?_, ?_⟩
    · rw [hdot.reverse_before, endsWord_concat]
      decide
    · rw [hc']
      exact startsWord_behind (A := [['.']]) hR (hnames n hn)

/-- Whether a match takes the keyword is told by its protocol and the text behind. -/
theorem castTakesKeyword_iff {policy : Policy}
    (h : CastReading (Registry.wholeName names) m a b c) :
    castTakesKeyword policy m = true ↔ policy.isClass (m.groupText 3) = false ∧
      "Any".toList.isPrefixOf (m.groupText 3) = false ∧ OpenBehind c.after := by
  rw [castTakesKeyword, OpenBehind, h.behind, Bool.and_eq_true, Bool.and_eq_true,
    Bool.not_eq_true', Bool.not_eq_true', Bool.not_eq_true']
  tauto

/-- **A match takes the keyword where the type of its cast does**, and has no keyword as its
qualifier. -/
theorem castType_iff {policy : Policy} {qs : List Text} {P r : Text}
    (hP : P ∈ names)
    (hqs : qs = [] ∧ (∀ n ∈ names, ∀ R, parts r ≠ ['.'] :: n :: R) ∨
      ∃ q, IsName q ∧ qs = [q, ['.']]) :
    CastType policy names (qs ++ P :: parts r) ↔ (policy.isClass P = false ∧
      "Any".toList.isPrefixOf P = false ∧ OpenBehind r) ∧ ∀ q ∈ qs, ¬ IsKeyword q := by
  constructor
  · rintro ⟨qs', P', R, hT, hP', hqs', htakes⟩
    -- both types have a qualifier wherever one can be read, so they are the same
    rcases hqs with ⟨rfl, hpreferred⟩ | ⟨q, -, rfl⟩ <;>
      rcases hqs' with ⟨rfl, hpreferred'⟩ | ⟨q', -, hkeyword, rfl⟩ <;>
      simp only [List.nil_append, List.cons_append, List.cons.injEq] at hT
    · obtain ⟨rfl, rfl⟩ := hT
      rw [flatten_parts] at htakes
      exact ⟨htakes, by simp⟩
    · exact absurd hT.2 (hpreferred P' hP' R)
    · exact absurd hT.2.symm (hpreferred' P hP _)
    · obtain ⟨rfl, -, rfl, rfl⟩ := hT
      rw [flatten_parts] at htakes
      refine ⟨htakes, List.forall_mem_cons.mpr ⟨hkeyword, List.forall_mem_singleton.mpr ?_⟩⟩
      decide
  · rintro ⟨htakes, hkeywords⟩
    refine ⟨qs, P, parts r, rfl, hP, ?_, by rwa [flatten_parts]⟩
    refine hqs.imp_right ?_
    rintro ⟨q, hq, rfl⟩
    exact ⟨q, hq, hkeywords q List.mem_cons_self, rfl⟩

/-- **Where the shape begins, the pattern matches.** -/
theorem spans_of_bareCast {policy : Policy} (hnames : ∀ n ∈ names, IsName n)
    (h : BareCast policy names (parts a.after)) :
    ∃ b, (cast (Registry.wholeName names)).Spans a b := by
  obtain ⟨ws, y, ws', T, hparts, hne, hws, hy, hne', hws', qs, P, R, rfl, hP, hqs, -⟩ := h
  -- The pattern reads a single qualifier. That more of them stand before the name does no harm:
  -- they are then no part of the match.
  have hafter : a.after =
      ws.flatten ++ (y ++ (ws'.flatten ++ (qs.flatten ++ (P ++ R.flatten)))) := by
    rw [← flatten_parts a.after, hparts]
    simp
  have hcut : startsWord R.flatten = false :=
    startsWord_behind (A := ws ++ (parts y ++ (ws' ++ qs))) (by rw [hparts]; simp) (hnames P hP)
  obtain ⟨b, hblank, hb⟩ := exists_reads_of_after hafter
  obtain ⟨c, hoperator, hc⟩ := exists_reads_of_after hb
  obtain ⟨d, hblank', hd⟩ := exists_reads_of_after hc
  obtain ⟨e, hqualifier, he⟩ := exists_reads_of_after hd
  obtain ⟨f, hname, hf⟩ := exists_reads_of_after he
  have hbefore : endsWord d.before.reverse = false := by
    have hblanks := isBlanks_flatten hne' hws'
    rw [hblank'.reverse_before, endsWord_append_of_ne_nil _ hblanks.1, endsWord_blanks hblanks.2]
  have hqualifiers : (optional (cluster (seq wordRun (char '.')))).Spans d e ∧
      endsWord e.before.reverse = false := by
    rcases hqs with ⟨rfl, -⟩ | ⟨q, hq, -, rfl⟩
    · rw [hqualifier.eq_of_nil]
      exact ⟨.inr rfl, hbefore⟩
    · have hread : Reads (q ++ ['.']) d e := by simpa using hqualifier
      refine ⟨.inl (spans_qualifier_iff.mpr ⟨q, hq, hread⟩), ?_⟩
      rw [hread.reverse_before, ← List.append_assoc, endsWord_concat]
      decide
  refine ⟨f, d, ⟨b, spans_blanks_iff.mpr ⟨_, isBlanks_flatten hne hws, hblank⟩, c, ?_,
    spans_blanks_iff.mpr ⟨_, isBlanks_flatten hne' hws', hblank'⟩⟩, e, hqualifiers.1, f, ?_, .inr rfl⟩
  · exact spans_castOperator hy hoperator
  · exact (spans_wholeName_iff hnames (List.ne_nil_of_mem hP)).mpr
      ⟨P, hP, hname, hqualifiers.2, by rwa [hf]⟩

end SwiftExistential.Cleanup
