import SwiftExistential.Proofs.Cleanup.Tokens
import SwiftExistential.Proofs.Cleanup.Removing

/-!
# The normal form of a cleaned text

Each of three passes removes a shape, and the passes behind it bring none of it in. So no match of
their patterns is left in a cleaned text but those that the passes leave alone, and those with a
keyword among their qualifiers: the last pass may make such a qualifier of two keywords
(`normalForm_run`).

A second run finds what the last pass has made, and it may change the text again: of two keywords in
a constraint one run drops the first, and the next one drops the other
(`run_run_of_doubledConstraint`).

The pass that puts annotated optionals in parentheses also runs alone. What it writes begins with a
parenthesis, so each match is a change. The text that it returns lacks the shape of an optional
without parentheses, whatever the protocols are called, so no match is left, neither of the whole
pattern nor of that of one protocol, and there is nothing for a second run
(`fixOptionals_complete`).
-/

set_option autoImplicit false

namespace SwiftExistential.Cleanup

open Pattern Text
open Cursor (Reads)
open SitePatch (IsName)

/-! ## Texts without the shapes

From a shape that a text lacks back to its pattern, which then has no match, or only one with a
keyword among the qualifiers. -/

variable {policy : Policy} {names : List Text} {m : Match} {t : Text}

/-- The text of the type in a match of the pattern begins with its qualifiers: where the text lacks
the shape, a keyword is one of them. -/
theorem exists_keyword_of_forbiddenSome (hnames : ProtocolNames names) (hne : names ≠ [])
    (ht : Lacks (ForbiddenSome names) t) {x : Text} (hread : Reads x (.start t) m.start)
    (hm : IsMatch (forbiddenSome (Registry.wholeName names)) m) :
    ∃ (k : Keyword) (u v : Text), m.groupText 1 = u ++ k.word ++ '.' :: v ∧ endsWord u = false := by
  obtain ⟨qs, P, rest, hqs, -, -, -, -, hstart, -, ⟨w, htype⟩, hshape⟩ :=
    exists_type_of_forbiddenSome hnames.isName hne hm
  have hkeyword : ¬ Qualifiers (¬ IsKeyword ·) qs := by
    intro h
    refine lacks_iff.mp ht x m.start.after hread.after (.inl ?_) (hshape h)
    simpa [hread.before, Cursor.start] using hstart
  obtain ⟨k, u, v, hflat, hu⟩ := hqs.exists_keyword hkeyword
  refine ⟨k, u, v ++ w, ?_, hu⟩
  rw [← htype, hflat]
  simp

theorem occursIn_bareOptional (hnames : ∀ n ∈ names, IsName n) (hne : names ≠ [])
    (ht : Lacks (BareOptional names) t) :
    (bareOptional (Registry.wholeName names)).occursIn t = false := by
  refine Bool.eq_false_iff.mpr fun hoccurs => ?_
  obtain ⟨m, hm⟩ := Option.isSome_iff_exists.mp hoccurs
  obtain ⟨⟨x, hx⟩, hmatch⟩ := find?_eq_some hm
  obtain ⟨k, ws, qs, P, type, mark, hws, hqs, hP, htype, hmark, hread, hstart, -⟩ :=
    exists_type_of_bareOptional hnames hne hmatch
  refine lacks_iff.mp ht x m.start.after hx.after (.inl ?_) ?_
  · simpa [hx.before, Cursor.start] using hstart
  · rw [hread.after, parts_bareOptional hnames hws hqs hP htype hmark]
    refine ⟨k, _, _, rfl, ?_, isBlankPart_of_mem_map hws.2, qs, P, _, _, _, rfl, hqs, hP,
      parts_metatype htype, ?_⟩
    · simpa using hws.1
    · exact hmark.imp (congrArg ([·])) (congrArg ([·]))

/-- A match of the pattern for casts takes no keyword, or has one as its qualifier. -/
theorem cast_cases (hnames : ProtocolNames names) (hne : names ≠ [])
    (ht : Lacks (BareCast policy names) t) {x : Text} (hread : Reads x (.start t) m.start)
    (hm : (cast (Registry.wholeName names)).matchAt? m.start = some m) :
    castTakesKeyword policy m = false ∨
      ∃ (k : Keyword) (v : Text), m.groupText 2 = k.word ++ '.' :: v := by
  obtain ⟨a, b, c, hcast⟩ := exists_castReading (hasGroup_wholeName names) hm
  obtain ⟨y, z, w, hoperator, hy, hz, hw⟩ := hcast.operator
  obtain ⟨qs, P, hqs, hP, hthree, htype, hafter, hpreferred⟩ :=
    exists_type_of_cast hnames.isName hne hcast
  obtain ⟨type, hrest⟩ := hcast.metatype.exists_reads
  -- A cast that takes the keyword would be a bare one, unless what stands as its qualifier is a
  -- keyword itself.
  by_cases hkeywords : ∀ q ∈ qs, ¬ IsKeyword q
  · left
    by_contra htakes
    rw [Bool.not_eq_false, castTakesKeyword_iff hcast, hthree] at htakes
    have hshape : CastType policy names (qs ++ P :: parts c.after) :=
      (castType_iff hP hpreferred).mpr ⟨htakes, hkeywords⟩
    refine lacks_iff.mp ht x m.start.after hread.after ?_ ?_
    · rw [hoperator.after]
      simpa using apart_operator hy x _
    · rw [hoperator.after, List.append_assoc, List.append_assoc, parts_castOperator hy hw, htype.after,
        List.append_assoc, parts_type hqs (hnames.isName P hP) hafter]
      exact ⟨_, z, _, _, rfl, by simpa using hy.1, isBlankPart_of_mem_map hy.2, hz,
        by simpa using hw.1, isBlankPart_of_mem_map hw.2, hshape⟩
  · right
    rcases hpreferred with ⟨rfl, -⟩ | ⟨q, hq, rfl⟩
    · exact absurd (by simp) hkeywords
    · simp only [List.forall_mem_cons, List.not_mem_nil, false_implies, implies_true, and_true,
        not_and_or, not_not] at hkeywords
      obtain ⟨k, rfl⟩ : IsKeyword q := hkeywords.resolve_right (by decide)
      refine ⟨k, P ++ type, ?_⟩
      rw [hcast.typeText, (htype.trans hrest).textTo_eq]
      simp

/-! ## The normal form

Its clauses are about the patterns of the passes, so that they can be tested on a text. -/

/-- **The normal form of a cleaned text.** -/
structure NormalForm (policy : Policy) (protocol : Pattern) (t : Text) : Prop where
  /-- `some` is left where only `any` is allowed for types with a keyword among their qualifiers. -/
  forbiddenSome : ∀ m, (∃ x, Reads x (.start t) m.start) → IsMatch (forbiddenSome protocol) m →
    ∃ (k : Keyword) (u v : Text), m.groupText 1 = u ++ k.word ++ '.' :: v ∧ endsWord u = false
  bareOptional : (bareOptional protocol).occursIn t = false
  doubledKeyword : doubledKeyword.occursIn t = false
  /-- Casts are left to classes, to names that begin with `Any`, before a colon or a lower case
  letter, and to types with a keyword as their qualifier. -/
  cast : ∀ m, (∃ x, Reads x (.start t) m.start) → (cast protocol).matchAt? m.start = some m →
    policy.isClass (m.groupText 3) = true ∨ "Any".toList <+: m.groupText 3 ∨
      (m.stop.after.head?.any fun c => c == ':' || c.isLower) = true ∨
      ∃ (k : Keyword) (v : Text), m.groupText 2 = k.word ++ '.' :: v

theorem castTakesKeyword_eq_false_iff :
    castTakesKeyword policy m = false ↔ policy.isClass (m.groupText 3) = true ∨
      "Any".toList <+: m.groupText 3 ∨
      (m.stop.after.head?.any fun c => c == ':' || c.isLower) = true := by
  rw [castTakesKeyword, Bool.and_eq_false_iff, Bool.and_eq_false_iff, Bool.not_eq_false',
    Bool.not_eq_false', Bool.not_eq_false', List.isPrefixOf_iff_prefix]
  tauto

/-- **The passes behind the one over casts** bring in no guarded shape. -/
theorem lacks_passes {shape : List Text → Prop} (hs : Guarded names shape)
    (hnames : ProtocolNames names) (hne : names ≠ []) (policy : Policy) (options : Options)
    (h : Lacks shape
      (runPasses ((passes policy options (Registry.wholeName names)).take 3) t).1) :
    Lacks shape (runPasses (passes policy options (Registry.wholeName names)) t).1 := by
  let t₃ := (runPasses ((passes policy options (Registry.wholeName names)).take 3) t).1
  let t₄ := (promoteReturns options.keepAnyReturns (Registry.wholeName names) t₃).1
  let t₅ := (repeatPass revertPlainLines options.adhocRounds t₄).1
  let t₆ := (parenthesise (Registry.wholeName names) t₅).1
  have h₄ : Lacks shape t₄ := hs.promoteReturns hnames hne _ h
  have h₅ : Lacks shape t₅ := lacks_repeatPass (fun _ => hs.revertPlainLines) _ h₄
  have h₆ : Lacks shape t₆ := hs.parenthesise hnames hne h₅
  show Lacks shape (collapseDoubled t₆).1
  exact lacks_repeatPass (fun _ => hs.collapseOnce) _ h₆

/-- **No cast is left without a keyword** that it takes, but for types with a keyword as their
qualifier. -/
theorem lacks_bareCast_passes (hnames : ProtocolNames names) (hne : names ≠ []) (policy : Policy)
    (options : Options) (t : Text) :
    Lacks (BareCast policy names)
      (runPasses (passes policy options (Registry.wholeName names)) t).1 :=
  lacks_passes (guarded_bareCast hnames policy) hnames hne policy options
    (lacks_bareCast_annotateCasts hnames hne policy _)

theorem normalForm_passes (hnames : ProtocolNames names) (hne : names ≠ []) (policy : Policy)
    (options : Options) (t : Text) :
    NormalForm policy (Registry.wholeName names)
      (runPasses (passes policy options (Registry.wholeName names)) t).1 := by
  -- the texts after each of the first passes, and before the last two
  let t₁ := (revertForbiddenSome (Registry.wholeName names) t).1
  let t₂ := (stripConstraints t₁).1
  let t₅ := (runPasses ((passes policy options (Registry.wholeName names)).take 5) t).1
  let t₆ := (parenthesise (Registry.wholeName names) t₅).1
  let t₇ := (collapseDoubled t₆).1
  have hlast : (runPasses (passes policy options (Registry.wholeName names)) t).1 = t₇ := rfl
  have hforbidden : Lacks (ForbiddenSome names) t₇ := by
    have h₁ : Lacks (ForbiddenSome names) t₁ := lacks_revertForbiddenSome hnames hne t
    have h₂ : Lacks (ForbiddenSome names) t₂ := (bracketed_forbiddenSome hnames).stripConstraints h₁
    exact lacks_passes (guarded_forbiddenSome hnames) hnames hne policy options
      (lacks_annotateCasts hnames policy h₂)
  have hcasts : Lacks (BareCast policy names) t₇ :=
    lacks_bareCast_passes hnames hne policy options t
  have hoptional : Lacks (BareOptional names) t₇ :=
    lacks_repeatPass (fun _ => lacks_collapseOnce hnames) _ (lacks_parenthesise hnames.isName hne t₅)
  rw [hlast]
  refine ⟨?_, occursIn_bareOptional hnames.isName hne hoptional, occursIn_collapseDoubled t₆, ?_⟩
  · rintro m ⟨x, hread⟩ hm
    exact exists_keyword_of_forbiddenSome hnames hne hforbidden hread hm
  · rintro m ⟨x, hread⟩ hm
    rcases cast_cases hnames hne hcasts hread hm with h | h
    · rw [castTakesKeyword_eq_false_iff] at h
      tauto
    · exact .inr (.inr (.inr h))

theorem protocolNames_of_forall {names : List Text}
    (hnames : ∀ n ∈ names,
      IsName n ∧ n ∉ ["any".toList, "some".toList, "is".toList, "as".toList]) :
    ProtocolNames names := by
  refine ⟨fun n hn => (hnames n hn).1, fun n hn hkeyword => ?_, fun n hn => ?_⟩
  · have hother := (hnames n hn).2
    rcases isKeyword_iff.mp hkeyword with rfl | rfl <;> simp at hother
  · have hother := (hnames n hn).2
    simp only [List.mem_cons, List.not_mem_nil, or_false, not_or] at hother
    exact ⟨hother.2.2.1, hother.2.2.2⟩

theorem names_ne_nil {registry : Registry} (hne : registry.isEmpty = false) :
    registry.names ≠ [] := by
  intro hnil
  have hempty : registry.names.isEmpty = registry.isEmpty := Std.TreeMap.isEmpty_keys
  rw [hnil, hne] at hempty
  cases hempty

/-- **A cleaned text is in normal form.** -/
theorem normalForm_run (registry : Registry) (policy : Policy) (options : Options) (t : Text)
    (hne : registry.isEmpty = false)
    (hnames : ∀ n ∈ registry.names,
      IsName n ∧ n ∉ ["any".toList, "some".toList, "is".toList, "as".toList]) :
    NormalForm policy (Registry.wholeName registry.names) (run registry policy options t).1 := by
  rw [run, Registry.pattern?, hne]
  exact normalForm_passes (protocolNames_of_forall hnames) (names_ne_nil hne) policy options t

/-- A line with each of the shapes, all of them behind other text. -/
def unannotatedLine : Text := "func f(x: some Worker = y) \x7b z as Worker; let a: any  Worker? \x7d".toList

/-- The registry that knows one protocol meets the conditions, and the line changes in each place.
-/
theorem normalForm_run_of_unannotatedLine :
    workerRegistry.isEmpty = false ∧
      (∀ n ∈ workerRegistry.names,
        IsName n ∧ n ∉ ["any".toList, "some".toList, "is".toList, "as".toList]) ∧
      (run workerRegistry (.ofClasses []) ⟨[], 1⟩ unannotatedLine).1 =
        "func f(x: any Worker = y) \x7b z as any Worker; let a: (any Worker)? \x7d".toList ∧
      NormalForm (.ofClasses []) (Registry.wholeName workerRegistry.names)
        "func f(x: any Worker = y) \x7b z as any Worker; let a: (any Worker)? \x7d".toList := by
  have hrun : (run workerRegistry (.ofClasses []) ⟨[], 1⟩ unannotatedLine).1 =
      "func f(x: any Worker = y) \x7b z as any Worker; let a: (any Worker)? \x7d".toList := by
    unfold workerRegistry unannotatedLine
    repeat rewrite [String.toList_ofList]
    decide +kernel
  have hnormal := normalForm_run workerRegistry (.ofClasses []) ⟨[], 1⟩ unannotatedLine rfl
    isName_of_mem_workerRegistry
  rw [hrun] at hnormal
  exact ⟨rfl, isName_of_mem_workerRegistry, hrun, hnormal⟩

/-- A type whose qualifiers become a keyword only when the last pass makes one keyword of two. -/
def doubledQualifier : Text := "func f(_ w: some A.any any.Worker...) \x7b\x7d".toList

/-- **A keyword among the qualifiers hides `some` from the first pass**, and the last one leaves it.
-/
theorem forbiddenSome_occursIn_run_of_doubledQualifier :
    workerRegistry.isEmpty = false ∧
      (∀ n ∈ workerRegistry.names,
        IsName n ∧ n ∉ ["any".toList, "some".toList, "is".toList, "as".toList]) ∧
      (run workerRegistry (.ofClasses []) ⟨[], 1⟩ doubledQualifier).1 =
        "func f(_ w: some A.any.Worker...) \x7b\x7d".toList ∧
      (forbiddenSome (Registry.wholeName workerRegistry.names)).occursIn
        (run workerRegistry (.ofClasses []) ⟨[], 1⟩ doubledQualifier).1 = true := by
  refine ⟨rfl, isName_of_mem_workerRegistry, ?_⟩
  unfold workerRegistry doubledQualifier
  repeat rewrite [String.toList_ofList]
  decide +kernel

/-! ## A second run -/

def doubledConstraint : Text := "func f<T: any any Worker>(t: T) \x7b\x7d".toList

/-- **Of two keywords in a constraint one run drops the first**, and the next run drops the other.
-/
theorem run_run_of_doubledConstraint :
    (∀ n ∈ workerRegistry.names, IsName n ∧ n ∉ ["any".toList, "some".toList]) ∧
      (run workerRegistry (.ofClasses []) ⟨[], 4⟩ doubledConstraint).1 =
        "func f<T: any Worker>(t: T) \x7b\x7d".toList ∧
      (run workerRegistry (.ofClasses []) ⟨[], 4⟩
        (run workerRegistry (.ofClasses []) ⟨[], 4⟩ doubledConstraint).1).1 =
          "func f<T: Worker>(t: T) \x7b\x7d".toList ∧
      (run workerRegistry (.ofClasses []) ⟨[], 4⟩
        (run workerRegistry (.ofClasses []) ⟨[], 4⟩ doubledConstraint).1).1 ≠
          (run workerRegistry (.ofClasses []) ⟨[], 4⟩ doubledConstraint).1 := by
  have hfirst : (run workerRegistry (.ofClasses []) ⟨[], 4⟩ doubledConstraint).1 =
      "func f<T: any Worker>(t: T) \x7b\x7d".toList := by
    unfold workerRegistry doubledConstraint
    repeat rewrite [String.toList_ofList]
    decide +kernel
  have hsecond : (run workerRegistry (.ofClasses []) ⟨[], 4⟩
      "func f<T: any Worker>(t: T) \x7b\x7d".toList).1 = "func f<T: Worker>(t: T) \x7b\x7d".toList := by
    unfold workerRegistry
    repeat rewrite [String.toList_ofList]
    decide +kernel
  rw [hfirst, hsecond]
  unfold workerRegistry
  repeat rewrite [String.toList_ofList]
  decide +kernel

/-! ## One optional and all of them

The pass over optionals is also asked about one protocol at a time, with a pattern that does not ask
for the end of a word. -/

section Optionals

variable {P : Text} {a b : Cursor}

/-- Behind a type stands its metatype or a mark, so the type ends there. -/
theorem startsWord_behind_type {c : Cursor} (hmetatype : SitePatch.metatype.Spans a b)
    (hmark : (one (.oneOf ['?', '!'])).Spans b c) : startsWord a.after = false := by
  rcases spans_metatype_iff.mp hmetatype with htype | rfl
  · rw [htype.after]
    rfl
  · obtain ⟨mark, hholds, hread⟩ := hmark
    have hword : ∀ d ∈ ['?', '!'], Unicode.isWord d = false := by decide
    rw [hread.after]
    exact hword mark (List.contains_iff_mem.mp hholds)

/-- **An optional of one protocol is one of the known protocols**: its name is a whole word,
although the pattern of one name does not ask for that. -/
theorem spans_bareOptional_of_literal (hnames : ∀ n ∈ names, IsName n) (hP : P ∈ names)
    (h : (bareOptional (literal P)).Spans a b) :
    (bareOptional (Registry.wholeName names)).Spans a b := by
  obtain ⟨c, hboundary, d, hkeyword, e, hblanks, f, htype, hmark⟩ := h
  obtain ⟨u, hqualifiers, v, hname, hmetatype⟩ := htype
  obtain ⟨ws, hws, hblank⟩ := spans_blanks_iff.mp hblanks
  obtain ⟨qs, hqs, hread⟩ := spans_qualifiers_iff.mp hqualifiers
  have hbefore : endsWord e.before.reverse = false := by
    rw [hblank.reverse_before, endsWord_append_of_ne_nil _ hws.1, endsWord_blanks hws.2]
  have hwhole : (Registry.wholeName names).Spans u v := by
    refine (spans_wholeName_iff hnames (List.ne_nil_of_mem hP)).mpr
      ⟨P, hP, spans_literal_iff.mp hname, ?_, startsWord_behind_type hmetatype hmark⟩
    rw [hread.reverse_before]
    exact hqs.endsWord_append hbefore
  exact ⟨c, hboundary, d, hkeyword, e, hblanks, f, ⟨u, hqualifiers, v, hwhole, hmetatype⟩, hmark⟩

/-! ## What the pass finds

The count of a pass leaves out matches that are replaced by themselves. Here there are none. -/

theorem replacement_parenthesise_ne {protocol : Pattern} {m : Match}
    (hm : IsMatch (bareOptional protocol) m) :
    Pattern.replacement (fun m => some ("(any ".toList ++ m.groupText 1 ++ ")".toList ++ m.groupText 2))
      m ≠ m.text := by
  obtain ⟨k, x, y, mark, a, b, hkeyword, htype, hmark, -⟩ := reads_of_bareOptional hm
  have htext : m.text = k.word ++ (x ++ (y ++ [mark])) := by
    rw [Match.text, (hkeyword.trans (htype.trans hmark)).textTo_eq]
    simp
  have hparen : k.word.head? ≠ some '(' := by cases k <;> decide
  intro heq
  rw [htext] at heq
  refine hparen ?_
  have hhead := congrArg List.head? heq
  rw [List.head?_append_of_ne_nil _ (isName_word k).1] at hhead
  exact hhead.symm

/-- **Each match is a change.** -/
theorem count_parenthesise (protocol : Pattern) (t : Text) :
    (parenthesise protocol t).2 = ((bareOptional protocol).matchesFrom (.start t)).length := by
  unfold parenthesise substitute
  refine List.countP_eq_length.mpr fun m hm => ?_
  have hmatch := (matchesFrom_successive (bareOptional protocol) (.start t)).isMatch m hm
  exact bne_iff_ne.mpr (replacement_parenthesise_ne hmatch)

theorem substitute_of_not_occursIn {p : Pattern} {new : Match → Option Text}
    (h : p.occursIn t = false) : p.substitute new t = (t, 0) := by
  have hfind : p.find? (.start t) = none := by
    rw [occursIn, findIn?] at h
    exact Option.not_isSome_iff_eq_none.mp (by rw [h]; decide)
  have hnone : p.matchesFrom (.start t) = [] := by
    rw [matchesFrom, hfind]
  rw [substitute, hnone]
  rfl

/-! ## The pass alone -/

/-- **The pass over optionals does all of its work at once**: in the text that it returns no
optional of a known protocol is left without parentheses, it counts the matches in the text that it
was given, and a second run changes nothing. -/
theorem fixOptionals_complete (registry : Registry) (t : Text) (hne : registry.isEmpty = false)
    (hnames : ∀ n ∈ registry.names, IsName n) :
    (∀ P ∈ registry.names,
        (bareOptional (literal P)).occursIn (fixOptionals registry t).1 = false) ∧
      (fixOptionals registry t).2 =
        ((bareOptional (Registry.wholeName registry.names)).matchesFrom (.start t)).length ∧
      fixOptionals registry (fixOptionals registry t).1 = ((fixOptionals registry t).1, 0) := by
  have hpass (t : Text) :
      fixOptionals registry t = parenthesise (Registry.wholeName registry.names) t := by
    rw [fixOptionals, Registry.pattern?, hne]
    rfl
  have hnil := names_ne_nil hne
  have hnone :
      (bareOptional (Registry.wholeName registry.names)).occursIn (fixOptionals registry t).1 =
      false := by
    rw [hpass]
    exact occursIn_bareOptional hnames hnil (lacks_parenthesise hnames hnil t)
  refine ⟨fun P hP => ?_, ?_, ?_⟩
  -- A bare optional of one protocol is one of the whole list.
  · by_contra hoccurs
    rw [Bool.not_eq_false, occursIn_iff] at hoccurs
    obtain ⟨x, a, b, hread, hspans⟩ := hoccurs
    have hwhole := occursIn_iff.mpr ⟨x, a, b, hread, spans_bareOptional_of_literal hnames hP hspans⟩
    rw [hnone] at hwhole
    cases hwhole
  · rw [hpass]
    exact count_parenthesise _ t
  · rw [hpass (fixOptionals registry t).1]
    exact substitute_of_not_occursIn hnone

example : fixOptionals workerRegistry "let a: (any Worker)?".toList =
    ("let a: (any Worker)?".toList, 0) := by
  unfold workerRegistry
  repeat rewrite [String.toList_ofList]
  decide +kernel

/-- Optionals with stacked keywords, with a keyword among the qualifiers, and with two marks. -/
def stackedOptionals : Text := "var a: some any App.any.Worker.Type??, b: any  Worker!".toList

/-- The pass finds two optionals, both of the one known protocol, and leaves none. -/
theorem fixOptionals_of_stackedOptionals :
    workerRegistry.isEmpty = false ∧ (∀ n ∈ workerRegistry.names, IsName n) ∧
      fixOptionals workerRegistry stackedOptionals =
        ("var a: some (any App.any.Worker.Type)??, b: (any Worker)!".toList, 2) ∧
      (∀ P ∈ workerRegistry.names, (bareOptional (literal P)).occursIn
        "var a: some (any App.any.Worker.Type)??, b: (any Worker)!".toList = false) ∧
      2 = ((bareOptional (Registry.wholeName workerRegistry.names)).matchesFrom
        (.start stackedOptionals)).length := by
  have hnames : ∀ n ∈ workerRegistry.names, IsName n := fun n hn =>
    (isName_of_mem_workerRegistry n hn).1
  have hrun : fixOptionals workerRegistry stackedOptionals =
      ("var a: some (any App.any.Worker.Type)??, b: (any Worker)!".toList, 2) := by
    unfold workerRegistry stackedOptionals
    repeat rewrite [String.toList_ofList]
    decide +kernel
  obtain ⟨hnone, hcount, -⟩ := fixOptionals_complete workerRegistry stackedOptionals rfl hnames
  rw [hrun] at hnone hcount
  exact ⟨rfl, hnames, hrun, hnone, hcount⟩

end Optionals

end SwiftExistential.Cleanup
