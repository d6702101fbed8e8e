import SwiftExistential.Proofs.Cleanup.Keeping

/-!
# Passes that remove a shape

Three passes remove a shape each: what they rewrite is found wherever the shape begins, and what
they write does not begin it. So after the pass the text lacks the shape, whatever it was before;
and with what the passes behind it keep, a cleaned text lacks all three.

Two of the results have an exception: a keyword among the qualifiers of a type. The pattern reads
such a keyword as the start of the type, and the match begins there and not at the keyword before
it.

The last pass is a loop. It goes on until a sweep changes nothing, and since every change makes the
text shorter, it does not stop for want of sweeps. So no keyword is left behind another one.
-/

set_option autoImplicit false

namespace SwiftExistential.Cleanup

open Pattern Text
open Cursor (Reads)
open SitePatch (IsName)

variable {names : List Text} {m : Match}

/-! ## `some` where only `any` is allowed -/

/-- A word at a place where no word goes on to it has none before it. -/
theorem endsWord_of_parts {l r w : Text} {R : List Text} (hapart : Apart l r)
    (hparts : parts r = w :: R) (hw : IsName w) : endsWord l = false := by
  refine hapart.resolve_right fun hr => ?_
  rw [← flatten_parts r, hparts, List.flatten_cons, startsWord_append_of_ne_nil hw.1,
    hw.startsWord] at hr
  cases hr

theorem neverEmpty_forbiddenSome (protocol : Pattern) : NeverEmpty (forbiddenSome protocol) := by
  intro m hm
  obtain ⟨a, b, x, z, hsome, htype, hrest, -⟩ := reads_of_forbiddenSome hm
  exact ⟨_, by simp, hsome.trans (htype.trans hrest)⟩

/-- **No `some` is left where only `any` is allowed**, but for types with a keyword among their
qualifiers. -/
theorem lacks_revertForbiddenSome (hnames : ProtocolNames names) (hne : names ≠ []) (t : Text) :
    Lacks (ForbiddenSome names) (revertForbiddenSome (Registry.wholeName names) t).1 := by
  refine lacks_substitute_of_found (neverEmpty_forbiddenSome _) ?_ (fun a hapart hshape => ?_)
    (fun m hm y hy => ?_) fun m hm l hl hlacks => ?_
  · intro h
    obtain ⟨R, hR⟩ := h.exists_eq
    cases hR
  · obtain ⟨R, hR⟩ := hshape.exists_eq
    exact spans_of_forbiddenSome hnames.isName
      (endsWord_of_parts hapart hR (isName_word .some)) hshape
  · cases hy
    exact faithful_forbiddenSome (matchAt?_eq_some hm).2
  obtain ⟨qs, P, rest, hqs, hP, hread, hs, hafter, hstart, htext, -⟩ :=
    exists_type_of_forbiddenSome hnames.isName hne (matchAt?_eq_some hm).2
  have hend := hl.trans hstart
  have hparts : parts ("any ".toList ++ (qs.flatten ++ P) ++ (rest ++ m.stop.after)) =
      "any".toList :: [' '] :: (qs ++ P :: parts (rest ++ m.stop.after)) := by
    rw [← parts_type hqs (hnames.isName P hP) hafter]
    simpa [Keyword.lead, Keyword.word_any] using
      parts_lead .any (qs.flatten ++ (P ++ (rest ++ m.stop.after)))
  -- up to the protocol, none begins in what was written
  have htype : LacksBefore (ForbiddenSome names) (l ++ ("any ".toList ++ (qs.flatten ++ P)))
      (rest ++ m.stop.after) := by
    refine hlacks.edit (.inl hend) (.inl hend) (fun Y hY _ hshape => ?_) fun B hB hshape => ?_
    · rw [hparts] at hshape
      exact hshape.append hnames (.inl (isKeyword_word .any)) hY _
    · rw [hparts] at hB
      have hguarded := guarded_forbiddenSome hnames
      have hB := hguarded.suffix_of_cons hB hshape (by decide) (by decide)
      rcases List.suffix_cons_iff.mp hB with rfl | hB
      · exact absurd hshape (hguarded.blank hqs hP)
      · exact length_flatten_le (hguarded.types.suffix hqs hP hB hshape)
  -- and behind it there is no character that one could begin with
  have hrest := htype.append fun u v huv hv _ hshape => by
    obtain ⟨R, hR⟩ := hshape.exists_eq
    obtain ⟨c, v, rfl⟩ := List.exists_cons_of_ne_nil hv
    have hfirst : (c :: v) ++ m.stop.after = "some".toList ++ ([' '] ++ R.flatten) := by
      rw [← flatten_parts (c :: v ++ m.stop.after), hR]
      rfl
    obtain ⟨rfl, -⟩ := List.cons.inj hfirst
    refine hs ?_
    rw [huv]
    exact List.mem_append_right u List.mem_cons_self
  have hnew : Pattern.replacement (fun m => some ("any ".toList ++ m.groupText 1 ++ m.groupText 2))
      m = "any ".toList ++ (qs.flatten ++ P) ++ rest := by
    show "any ".toList ++ m.groupText 1 ++ m.groupText 2 = _
    rw [List.append_assoc, htext]
    simp
  rw [hnew]
  simpa only [List.append_assoc] using hrest

/-! ## Casts without a keyword

The pass keeps some of its matches: a cast that takes no keyword is found and left alone. So what is
shown of a match depends on whether it was rewritten. -/

theorem neverEmpty_cast (protocol : Pattern) : NeverEmpty (cast protocol) := by
  intro m hm
  obtain ⟨a, ⟨b, hblank, hoperator⟩, htype⟩ := hm.spans
  obtain ⟨x, hx, hread⟩ := spans_blanks_iff.mp hblank
  obtain ⟨y, hy⟩ := Spans.exists_reads (p := seq castOperator blanks) hoperator
  obtain ⟨z, hz⟩ := Spans.exists_reads htype
  exact ⟨_, List.append_ne_nil_of_left_ne_nil hx.1 _, hread.trans (hy.trans hz)⟩

theorem not_mem_castOperator (hnames : ProtocolNames names) {y : Text} (hy : y ∈ castOperators) :
    ∀ b ∈ parts y, b ∉ names := by
  obtain ⟨w, rest, hparts, hw, hrest⟩ := exists_parts_castOperator hy
  have hmark {c : Text} (hc : c = ['?'] ∨ c = ['!']) : c ∉ names := by
    intro hmem
    have hword := (hnames.isName c hmem).2
    rcases hc with rfl | rfl <;> exact absurd (hword _ List.mem_cons_self) (by decide)
  rw [hparts]
  refine List.forall_mem_cons.mpr ⟨fun hmem => ?_, fun b hb => ?_⟩
  · obtain ⟨his, has⟩ := hnames.not_operator w hmem
    exact hw.elim his has
  · rcases hrest with rfl | rfl | rfl
    · cases hb
    · exact hmark (.inl (List.mem_singleton.mp hb))
    · exact hmark (.inr (List.mem_singleton.mp hb))

theorem BareCast.exists_mem {policy : Policy} {Q : List Text} (h : BareCast policy names Q) :
    ∃ P ∈ names, P ∈ Q := by
  obtain ⟨ws, y, ws', T, rfl, -, -, -, -, -, qs, P, R, rfl, hP, -⟩ := h
  exact ⟨P, hP, by simp⟩

section Casts

variable {policy : Policy} {l x y z P r : Text} {qs : List Text}

theorem parts_operator (hx : IsBlanks x) (hz : IsBlanks z) :
    parts (x ++ (y ++ z)) = x.map (fun c => [c]) ++ parts y ++ z.map (fun c => [c]) := by
  simpa using parts_castOperator (y := y) hx hz []

theorem endsWord_operator (l : Text) (hz : IsBlanks z) :
    endsWord (l ++ (x ++ (y ++ z))) = false := by
  rw [← List.append_assoc, ← List.append_assoc, endsWord_append_of_ne_nil _ hz.1,
    endsWord_blanks hz.2]

theorem follows_operator (hx : IsBlanks x) (hz : IsBlanks z) (A M : List Text) :
    Follows (A ++ parts (x ++ (y ++ z))) M := by
  rw [parts_operator hx hz, ← List.append_assoc]
  exact follows_blanks (by simpa using hz.1) (isBlankPart_of_mem_map hz.2)

theorem not_bareCast_operator (hnames : ProtocolNames names) (hx : IsBlanks x)
    (hy : y ∈ castOperators) (hz : IsBlanks z) {Y N : List Text}
    (hY : Y <:+ parts (x ++ (y ++ z))) : ¬ BareCast policy names (Y ++ "any".toList :: N) := by
  intro h
  have hfollows : Follows Y [] := (follows_operator hx hz [] []).of_suffix hY
  have hcut := h.append hnames (endsWord_operator [] hz) hY (.inl (isKeyword_word .any)) hfollows
  -- up to the keyword there are blanks and an operator only, but no protocol
  obtain ⟨n, hn, hmem⟩ := hcut.exists_mem
  rw [List.append_nil] at hmem
  have hmem := hY.subset hmem
  have hblank {x : Text} (hx : IsBlanks x) : n ∉ x.map (fun c => [c]) := by
    intro hmem
    have hblank := isBlankPart_of_mem_map hx.2 n hmem
    rw [isBlankPart_of_isName (hnames.isName n hn)] at hblank
    cases hblank
  rw [parts_operator hx hz, List.append_assoc] at hmem
  rcases List.mem_append.mp hmem with hmem | hmem
  · exact hblank hx hmem
  · rcases List.mem_append.mp hmem with hmem | hmem
    · exact not_mem_castOperator hnames hy n hmem hn
    · exact hblank hz hmem

theorem apart_operator (hx : IsBlanks x) (l r : Text) : Apart l (x ++ r) := by
  refine .inr ?_
  rw [startsWord_append_of_ne_nil hx.1, startsWord_blanks hx.2]

/-- None begins before the end of a cast that takes its keyword. -/
theorem lacksBefore_annotated (hnames : ProtocolNames names) (hx : IsBlanks x)
    (hy : y ∈ castOperators) (hz : IsBlanks z) (hqs : Qualifiers (fun _ => True) qs)
    (hP : P ∈ names) (hr : startsWord r = false)
    (h : LacksBefore (BareCast policy names) l (x ++ (y ++ z) ++ (qs.flatten ++ (P ++ r)))) :
    LacksBefore (BareCast policy names)
      (l ++ (x ++ (y ++ z) ++ (Keyword.any.lead ++ (qs.flatten ++ P)))) r := by
  have hend : endsWord (x ++ (y ++ z)) = false := endsWord_operator [] hz
  have hnew : parts (x ++ (y ++ z) ++ (Keyword.any.lead ++ (qs.flatten ++ P)) ++ r) =
      parts (x ++ (y ++ z)) ++ "any".toList :: [' '] :: (qs ++ P :: parts r) := by
    rw [List.append_assoc, parts_append (.inl hend), List.append_assoc, List.append_assoc,
      parts_lead, parts_type hqs (hnames.isName P hP) hr]
    rfl
  have hguarded := guarded_bareCast hnames policy
  refine h.edit (by simpa using apart_operator hx l _) (by simpa using apart_operator hx l _)
    (fun Y hY hYl hshape => ?_) fun B hB hshape => ?_
  -- A bare cast that starts before the operator ends before the keyword, so it was there before.
  · rw [hnew, ← List.append_assoc] at hshape
    have hYl : Y ++ parts (x ++ (y ++ z)) <:+ parts (l ++ (x ++ (y ++ z))) := by
      rw [parts_append (apart_operator hx l _)]
      obtain ⟨C, hC⟩ := hYl
      exact ⟨C, by rw [← hC, List.append_assoc]⟩
    rw [parts_append (.inl hend), ← List.append_assoc]
    exact hshape.append hnames (endsWord_operator l hz) hYl (.inl (isKeyword_word .any))
      (follows_operator hx hz Y _)
  -- One that starts inside would have to start in the operator or in the type.
  · rw [hnew] at hB
    rcases suffix_append_cases hB with ⟨Y, -, hY, rfl⟩ | hB
    · exact absurd hshape (not_bareCast_operator hnames hx hy hz hY)
    · have hB := hguarded.suffix_of_cons hB hshape (by decide) (by decide)
      rcases List.suffix_cons_iff.mp hB with rfl | hB
      · exact absurd hshape (hguarded.blank hqs hP)
      · exact length_flatten_le (hguarded.types.suffix hqs hP hB hshape)

/-- None begins before the end of a cast that takes no keyword. -/
theorem lacksBefore_unannotated (hnames : ProtocolNames names) (hx : IsBlanks x)
    (hy : y ∈ castOperators) (hz : IsBlanks z) (hqs : Qualifiers (fun _ => True) qs)
    (hP : P ∈ names) (hr : startsWord r = false)
    (hleft : ¬ CastType policy names (qs ++ P :: parts r))
    (h : LacksBefore (BareCast policy names) l (x ++ (y ++ z) ++ (qs.flatten ++ (P ++ r)))) :
    LacksBefore (BareCast policy names) (l ++ (x ++ (y ++ z) ++ (qs.flatten ++ P))) r := by
  have hsame : x ++ (y ++ z) ++ (qs.flatten ++ P) ++ r =
      x ++ (y ++ z) ++ (qs.flatten ++ (P ++ r)) := by simp
  have hapart : Apart l (x ++ (y ++ z) ++ (qs.flatten ++ (P ++ r))) := by
    simpa using apart_operator hx l _
  refine h.edit hapart (by rwa [hsame]) (fun Y _ _ hshape => by rwa [hsame] at hshape)
    fun B hB hshape => ?_
  have hparts : parts (x ++ (y ++ z) ++ (qs.flatten ++ P) ++ r) =
      x.map (fun c => [c]) ++ (parts y ++ (z.map (fun c => [c]) ++ (qs ++ P :: parts r))) := by
    rw [← parts_type hqs (hnames.isName P hP) hr, ← parts_castOperator hx hz]
    simp
  have hzblank := isBlankPart_of_mem_map hz.2
  rw [hparts] at hB
  -- A shape inside starts in the blanks before the operator, in the operator, in the blanks behind
  -- it or in the type. In the first case only it would be this cast.
  rcases suffix_append_cases hB with ⟨Y, -, hY, rfl⟩ | hB
  · have hYblank : ∀ b ∈ Y, isBlankPart b = true :=
      fun b hb => isBlankPart_of_mem_map hx.2 b (hY.subset hb)
    exact absurd (hshape.castType hnames hYblank hy (by simpa using hz.1) hzblank
      (hqs.head?_isBlankPart (hnames.isName P hP) _)) hleft
  · rcases suffix_append_cases hB with ⟨Y, hne, hY, rfl⟩ | hB
    · obtain ⟨d, Y, rfl⟩ := List.exists_cons_of_ne_nil hne
      have hd := isBlankPart_of_mem_castOperators hy d (hY.subset List.mem_cons_self)
      obtain ⟨b, R, hb, hR⟩ := hshape.exists_eq
      obtain ⟨rfl, -⟩ := List.cons.inj hR
      rw [hd] at hb
      cases hb
    · exact length_flatten_le (hshape.suffix_blanks hnames hzblank hqs hP hB)

theorem lacksBefore_metatype {type : Text} (htype : type = [] ∨ type = ".Type".toList)
    (h : LacksBefore (BareCast policy names) l (type ++ r)) :
    LacksBefore (BareCast policy names) (l ++ type) r := by
  refine h.append fun u v huv hv _ hshape => ?_
  obtain ⟨b, R, hb, hR⟩ := hshape.exists_eq
  obtain ⟨c, v, rfl⟩ := List.exists_cons_of_ne_nil hv
  have hplain : ∀ c ∈ type, Unicode.isBlank c = false := by
    rcases htype with rfl | rfl <;> decide
  have hc := hplain c (by rw [huv]; exact List.mem_append_right u List.mem_cons_self)
  have hfirst : (c :: v) ++ r = b ++ R.flatten := by
    rw [← flatten_parts (c :: v ++ r), hR, List.flatten_cons]
  match b, hb, hfirst with
  | [d], hb, hfirst =>
      obtain ⟨rfl, -⟩ := List.cons.inj hfirst
      have hb : Unicode.isBlank c = true := hb
      rw [hc] at hb
      cases hb

end Casts

/-- **No cast is left without a keyword** that it takes, but for types with a keyword as their
qualifier. -/
theorem lacks_bareCast_annotateCasts (hnames : ProtocolNames names) (hne : names ≠ [])
    (policy : Policy) (t : Text) :
    Lacks (BareCast policy names) (annotateCasts policy (Registry.wholeName names) t).1 := by
  -- The substitution leaves no bare cast if no found match does: one that takes the keyword is no
  -- longer bare, and one that does not take it has no type that should.
  have hgroup := hasGroup_wholeName names
  refine lacks_substitute_of_found (neverEmpty_cast _) ?_
    (fun a _ hshape => spans_of_bareCast hnames.isName hshape) (fun m hm y hy => ?_)
    fun m hm l hl hlacks => ?_
  · intro h
    obtain ⟨b, R, -, hR⟩ := h.exists_eq
    cases hR
  · split at hy
    · cases hy
      exact faithful_cast hgroup hm
    · cases hy
  obtain ⟨a, b, c, hcast⟩ := exists_castReading hgroup hm
  obtain ⟨x, y, z, hoperator, hx, hy, hz⟩ := hcast.operator
  obtain ⟨qs, P, hqs, hP, hthree, htype, hafter, hpreferred⟩ :=
    exists_type_of_cast hnames.isName hne hcast
  obtain ⟨type, hmetatype, hrest⟩ : ∃ type, (type = [] ∨ type = ".Type".toList) ∧
      Reads type c m.stop := by
    rcases spans_metatype_iff.mp hcast.metatype with h | h
    · exact ⟨_, .inr rfl, h⟩
    · exact ⟨[], .inl rfl, h ▸ Reads.refl _⟩
  have hstart : m.start.after = x ++ (y ++ z) ++ (qs.flatten ++ (P ++ c.after)) := by
    rw [hoperator.after, htype.after]
    simp
  rw [hstart] at hlacks
  -- Both cases speak of what stands before the new text, with all of it read and then with the
  -- metatype behind the name.
  by_cases htakes : castTakesKeyword policy m = true
  · have hnew := lacksBefore_annotated hnames hx hy hz hqs hP hafter hlacks
    rw [hrest.after] at hnew
    have hnew := lacksBefore_metatype hmetatype hnew
    rw [Pattern.replacement, if_pos htakes, Option.getD_some, hcast.operatorText, hcast.typeText,
      hoperator.textTo_eq, (htype.trans hrest).textTo_eq]
    simpa [Keyword.lead, Keyword.word_any] using hnew
  · have hleft : ¬ CastType policy names (qs ++ P :: parts c.after) := by
      rw [castType_iff hP hpreferred, ← hthree]
      rw [castTakesKeyword_iff hcast] at htakes
      exact fun h => htakes h.1
    have hnew := lacksBefore_unannotated hnames hx hy hz hqs hP hafter hleft hlacks
    rw [hrest.after] at hnew
    have hnew := lacksBefore_metatype hmetatype hnew
    rw [Pattern.replacement, if_neg htakes, Option.getD_none, Match.text,
      (hoperator.trans (htype.trans hrest)).textTo_eq]
    simpa using hnew

/-! ## Optionals without parentheses

What is written begins with a parenthesis, and in it the mark stands behind the closing one, so
nothing of it is an optional without parentheses. -/

theorem neverEmpty_bareOptional (protocol : Pattern) : NeverEmpty (bareOptional protocol) := by
  intro m hm
  obtain ⟨k, x, y, mark, a, b, hkeyword, htype, hmark, -⟩ := reads_of_bareOptional hm
  exact ⟨_, by simp, hkeyword.trans (htype.trans hmark)⟩

section Optionals

variable {qs : List Text} {P : Text} {type N : List Text}

/-- A closing parenthesis stands between a type and the mark behind it. -/
theorem not_markedType_closed (hnames : ∀ n ∈ names, IsName n)
    (hqs : Qualifiers (fun _ => True) qs) (hP : P ∈ names)
    (htype : type = [] ∨ type = [['.'], "Type".toList]) :
    ¬ MarkedType names (qs ++ P :: (type ++ [')'] :: N)) := by
  rintro ⟨qs', P', type', mark, R, hT, hqs', hP', htype', hmark⟩
  have hclose : ¬ IsName [')'] := by decide
  have hfree : [')'] ∉ qs' ++ P' :: (type' ++ [mark]) := by
    intro hmem
    rcases List.mem_append.mp hmem with hmem | hmem
    · rcases hqs'.mem hmem with h | ⟨h, -⟩
      · exact absurd h (by decide)
      · exact hclose h
    · rcases List.mem_cons.mp hmem with rfl | hmem
      · exact hclose (hnames _ hP')
      · revert hmem
        rcases htype' with rfl | rfl <;> rcases hmark with rfl | rfl <;> decide
  have hsplit : (qs' ++ P' :: (type' ++ [mark])) ++ R = (qs ++ P :: type) ++ [')'] :: N := by
    simpa using hT.symm
  -- so the mark would stand in the type
  obtain ⟨rest, hrest, -⟩ := exists_of_append_eq_append_cons hsplit hfree
  have hmem : mark ∈ qs ++ P :: type := by
    rw [hrest]
    simp
  have hname : ¬ IsName mark := by rcases hmark with rfl | rfl <;> decide
  rcases List.mem_append.mp hmem with hmem | hmem
  · rcases hqs.mem hmem with rfl | ⟨h, -⟩
    · exact absurd hmark (by decide)
    · exact hname h
  · rcases List.mem_cons.mp hmem with rfl | hmem
    · exact hname (hnames _ hP)
    · revert hmem
      rcases htype with rfl | rfl <;> rcases hmark with rfl | rfl <;> decide

theorem not_bareOptional_closed (hnames : ∀ n ∈ names, IsName n)
    (hqs : Qualifiers (fun _ => True) qs) (hP : P ∈ names)
    (htype : type = [] ∨ type = [['.'], "Type".toList]) (w : Text) :
    ¬ BareOptional names (w :: [' '] :: (qs ++ P :: (type ++ [')'] :: N))) := by
  rintro ⟨k, ws, T, hQ, -, hws, hT⟩
  have hhead : T.head?.any isBlankPart = false := by
    obtain ⟨qs', P', type', mark, R, rfl, hqs', hP', -⟩ := hT
    exact hqs'.head?_isBlankPart (hnames _ hP') _
  have hbehind : [[' ']] ++ (qs ++ P :: (type ++ [')'] :: N)) = ws ++ T := (List.cons.inj hQ).2
  obtain ⟨-, rfl⟩ := append_inj_of_forall hbehind (by decide) hws
    (hqs.head?_isBlankPart (hnames _ hP) _) hhead
  exact not_markedType_closed hnames hqs hP htype hT

theorem BareOptional.suffix_of_cons {b : Text} {B N : List Text} (hB : B <:+ b :: N)
    (hshape : BareOptional names B) (hb : ¬ IsKeyword b) : B <:+ N := by
  rcases List.suffix_cons_iff.mp hB with rfl | hB
  · obtain ⟨k, d, R, -, hQ⟩ := hshape.exists_eq
    exact absurd ⟨k, (List.cons.inj hQ).1⟩ hb
  · exact hB

end Optionals

/-- **No annotated optional is left without parentheses.** -/
theorem lacks_parenthesise (hnames : ∀ n ∈ names, IsName n) (hne : names ≠ []) (t : Text) :
    Lacks (BareOptional names) (parenthesise (Registry.wholeName names) t).1 := by
  refine lacks_substitute_of_found (neverEmpty_bareOptional _) ?_ (fun a hapart hshape => ?_)
    (fun m hm y hy => ?_) fun m hm l hl hlacks => ?_
  · intro h
    obtain ⟨k, b, R, -, hR⟩ := h.exists_eq
    cases hR
  · obtain ⟨k, b, R, -, hR⟩ := hshape.exists_eq
    exact spans_of_bareOptional hnames (endsWord_of_parts hapart hR (isName_word k)) hshape
  · cases hy
    exact faithful_bareOptional (matchAt?_eq_some hm).2
  -- Each match is found and rewritten, so it is enough that the new text begins no bare optional,
  -- neither together with what stands before it nor by itself.
  obtain ⟨k, ws, qs, P, type, mark, hws, hqs, hP, htype, hmark, hread, hstart, hone, htwo⟩ :=
    exists_type_of_bareOptional hnames hne (matchAt?_eq_some hm).2
  have hend := hl.trans hstart
  have hparts := parts_parenthesised hnames hqs hP htype hmark m.stop.after
  have hmetatype := parts_metatype htype
  rw [Pattern.replacement, Option.getD_some, hone, htwo]
  refine hlacks.edit (.inl hend) (.inl hend) (fun Y hY _ hshape => ?_) fun B hB hshape => ?_
  · rw [hparts] at hshape
    have hother : ['('] ∉ names := fun hmem => absurd (hnames _ hmem) (by decide)
    rcases hshape.append (.inr (.inl rfl)) hother hY with h | ⟨h, -⟩
    · exact h _
    · exact absurd h (by decide)
  -- Inside the new text a bare optional would need a keyword. Its parts are passed one after the
  -- other: the parenthesis, the keyword with its blank, the type, the closing parenthesis and the
  -- mark.
  · rw [hparts] at hB
    have hB := hshape.suffix_of_cons hB (by decide)
    have hblank : B <:+ [' '] :: (qs ++ P :: (parts type ++ [')'] :: [mark] ::
        parts m.stop.after)) := by
      rcases List.suffix_cons_iff.mp hB with rfl | hB
      · exact absurd hshape (not_bareOptional_closed hnames hqs hP hmetatype _)
      · exact hB
    have hnoblank : (parts type ++ [')'] :: [mark] :: parts m.stop.after).head?.any isBlankPart =
        false := by
      rcases hmetatype with h | h <;> rw [h] <;> rfl
    have htyped := hshape.suffix_type hqs hnoblank (hshape.suffix_of_cons hblank (by decide))
    have hclose : B <:+ [')'] :: [mark] :: parts m.stop.after := by
      rcases hmetatype with h | h
      · rwa [h] at htyped
      · rw [h] at htyped
        exact hshape.suffix_of_cons (hshape.suffix_of_cons htyped (by decide)) (by decide)
    have hmark : ¬ IsKeyword [mark] := by rcases hmark with rfl | rfl <;> decide
    exact length_flatten_le (hshape.suffix_of_cons (hshape.suffix_of_cons hclose (by decide)) hmark)

/-! ## Keywords behind keywords

`Loops` is the loop as a relation, with the last text and the number of all changes; the bound on
the sweeps is not part of it. -/

/-- Shorter replacements make a text shorter. -/
theorem length_splice_le {p : Pattern} {new : Match → Text} {c : Cursor} {ms : List Match}
    (h : Successive p c ms) (hnew : ∀ m ∈ ms, (new m).length < m.text.length) :
    (splice new c ms).length + ms.length ≤ c.after.length := by
  induction h with
  | nil c => exact Nat.le_refl _
  | @cons c x m ms start head tail ih =>
      obtain ⟨y, hread⟩ := head.exists_reads
      have hrest := ih fun m hm => hnew m (List.mem_cons_of_mem _ hm)
      have hfirst := hnew m List.mem_cons_self
      rw [Match.text, hread.textTo_eq] at hfirst
      rw [splice, start.textTo_eq, start.after, hread.after]
      simp only [List.length_append, List.length_cons]
      omega

theorem length_merged (hm : IsMatch doubledKeyword m) :
    (mergedKeyword (m.groupText 1) (m.groupText 2)).word.length < m.text.length := by
  obtain ⟨first, second, x, hread, -, -, ⟨hx, -⟩, -, -⟩ := reads_of_doubledKeyword hm
  have hlong : ∀ k : Keyword, 3 ≤ k.word.length ∧ k.word.length ≤ 4 := by
    intro k
    cases k <;> decide
  have hfirst := hlong first
  have hsecond := hlong second
  have hmerged := hlong (mergedKeyword (m.groupText 1) (m.groupText 2))
  rw [Match.text, hread.textTo_eq, List.length_append, List.length_append]
  omega

/-- A sweep over keywords that stand behind keywords makes the text shorter, or finds none. -/
theorem collapseOnce_cases (t : Text) :
    doubledKeyword.matchesFrom (.start t) = [] ∧ collapseOnce t = (t, 0) ∨
      (collapseOnce t).2 ≠ 0 ∧ (collapseOnce t).1.length < t.length := by
  have hsuccessive := matchesFrom_successive doubledKeyword (.start t)
  have hshort : ∀ m ∈ doubledKeyword.matchesFrom (.start t), (Pattern.replacement (fun m =>
      some (mergedKeyword (m.groupText 1) (m.groupText 2)).word) m).length < m.text.length :=
    fun m hm => length_merged (hsuccessive.isMatch m hm)
  have hlen := length_splice_le hsuccessive hshort
  rw [collapseOnce, substitute]
  cases hms : doubledKeyword.matchesFrom (.start t) with
  | nil => exact .inl ⟨rfl, rfl⟩
  | cons m ms =>
      rw [hms] at hlen hshort
      have hlen : _ ≤ t.length := hlen
      refine .inr ⟨?_, ?_⟩
      · refine Nat.ne_of_gt (List.countP_pos_iff.mpr ⟨m, List.mem_cons_self, ?_⟩)
        rw [bne_iff_ne]
        intro heq
        have hfirst := hshort m List.mem_cons_self
        rw [heq] at hfirst
        exact Nat.lt_irrefl _ hfirst
      · rw [List.length_cons] at hlen
        show (splice _ (.start t) (m :: ms)).length < t.length
        omega

theorem occursIn_eq_false_of_matchesFrom {p : Pattern} {t : Text}
    (h : p.matchesFrom (.start t) = []) : p.occursIn t = false := by
  rw [matchesFrom] at h
  cases hfind : p.find? (.start t) with
  | none => rw [occursIn, findIn?, hfind, Option.isSome_none]
  | some m =>
      rw [hfind] at h
      simp only at h
      split at h <;> cases h

/-- **A pass repeated until it changes nothing**: the text that it is given, the last one, and the
number of all changes. -/
inductive Loops (pass : Text → Text × Nat) : Text → Text → Nat → Prop where
  | stop {t : Text} (unchanged : (pass t).2 = 0) : Loops pass t (pass t).1 0
  | again {t last : Text} {total : Nat} (changed : (pass t).2 ≠ 0)
      (rest : Loops pass (pass t).1 last total) : Loops pass t last ((pass t).2 + total)

/-- Where each change makes the text shorter, its length bounds the repetitions. -/
theorem loops_repeatPass {pass : Text → Text × Nat}
    (hshorter : ∀ t, (pass t).2 ≠ 0 → (pass t).1.length < t.length) {n : Nat} {t : Text}
    (hn : t.length < n) : Loops pass t (repeatPass pass n t).1 (repeatPass pass n t).2 := by
  induction n generalizing t with
  | zero => exact absurd hn (Nat.not_lt_zero _)
  | succ n ih =>
      by_cases hcount : (pass t).2 = 0
      · have hstop : repeatPass pass (n + 1) t = ((pass t).1, 0) := by
          rw [repeatPass]
          exact if_pos hcount
        rw [hstop]
        exact .stop hcount
      · have hagain : repeatPass pass (n + 1) t = ((repeatPass pass n (pass t).1).1,
            (pass t).2 + (repeatPass pass n (pass t).1).2) := by
          rw [repeatPass]
          exact if_neg hcount
        rw [hagain]
        have hlen := hshorter t hcount
        exact .again hcount (ih (by omega))

/-- **The sweeps over keywords come to an end** by themselves. -/
theorem loops_collapseDoubled (t : Text) :
    Loops collapseOnce t (collapseDoubled t).1 (collapseDoubled t).2 := by
  refine loops_repeatPass (fun u hcount => ?_) (Nat.lt_succ_self _)
  rcases collapseOnce_cases u with ⟨-, hsame⟩ | ⟨-, hshorter⟩
  · exact absurd (by rw [hsame]) hcount
  · exact hshorter

/-- A sweep that counts nothing finds no keyword behind another one. -/
theorem occursIn_of_collapseOnce {t : Text} (h : (collapseOnce t).2 = 0) :
    doubledKeyword.occursIn t = false ∧ (collapseOnce t).1 = t := by
  rcases collapseOnce_cases t with ⟨hnone, hsame⟩ | ⟨hcount, -⟩
  · exact ⟨occursIn_eq_false_of_matchesFrom hnone, by rw [hsame]⟩
  · exact absurd h hcount

theorem Loops.occursIn_last {t last : Text} {total : Nat} (h : Loops collapseOnce t last total) :
    doubledKeyword.occursIn last = false := by
  induction h with
  | stop hunchanged =>
      obtain ⟨hnone, hsame⟩ := occursIn_of_collapseOnce hunchanged
      rwa [hsame]
  | again _ _ ih => exact ih

/-- **No keyword is left behind another one.** -/
theorem occursIn_collapseDoubled (t : Text) :
    doubledKeyword.occursIn (collapseDoubled t).1 = false :=
  (loops_collapseDoubled t).occursIn_last

end SwiftExistential.Cleanup
