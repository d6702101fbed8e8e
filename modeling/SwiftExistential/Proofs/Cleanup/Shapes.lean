import SwiftExistential.Proofs.Cleanup.Parts
import SwiftExistential.Proofs.Cleanup.Reading

/-!
# Shapes that the cleanup removes

Three shapes of parts are wrong in a cleaned text: `some` where only `any` is allowed
(`ForbiddenSome`), an annotated optional without parentheses (`BareOptional`), and a cast without
its keyword (`BareCast`). They are defined here without a pattern, from the left to the right: a
keyword, blanks, qualifiers, a name and what follows it.

What can be said about them without looking at a pass is said here too. The first and the last do
not reach over a keyword, a parenthesis or an angle bracket (`IsBarrier`), and none of them begins
inside a type (`OutsideTypes`). So a pass that writes one barrier in place of another does not make
a shape out of two halves.
-/

set_option autoImplicit false

namespace SwiftExistential.Cleanup

open Text Unicode
open SitePatch (IsName)

/-! ## Words and barriers

A barrier is a part at which a shape ends, wherever it began. The names of protocols are words and
no barriers. -/

def IsKeyword (w : Text) : Prop := ∃ k : Keyword, w = k.word

/-- A part over which no shape reaches. -/
def IsBarrier (b : Text) : Prop := IsKeyword b ∨ b = ['('] ∨ b = ['<']

/-- **Names that protocols can have**: words, but none of those that the cleanup looks for. -/
structure ProtocolNames (names : List Text) : Prop where
  isName : ∀ n ∈ names, IsName n
  not_keyword : ∀ n ∈ names, ¬ IsKeyword n
  not_operator : ∀ n ∈ names, n ≠ "is".toList ∧ n ≠ "as".toList

theorem isName_word (k : Keyword) : IsName k.word := by cases k <;> decide

theorem parts_lead (k : Keyword) (r : Text) : parts (k.lead ++ r) = k.word :: [' '] :: parts r := by
  have hblank : Unicode.isWord ' ' = false := by decide
  have hbreak : startsWord (' ' :: r) = false := hblank
  rw [Keyword.lead, List.append_assoc, ← parts_cons hblank,
    ← parts_name_append (isName_word k) hbreak]
  rfl

theorem isKeyword_word (k : Keyword) : IsKeyword k.word := ⟨k, rfl⟩

theorem isKeyword_iff {w : Text} : IsKeyword w ↔ w = "any".toList ∨ w = "some".toList := by
  constructor
  · rintro ⟨k, rfl⟩
    cases k
    · exact .inl rfl
    · exact .inr rfl
  · rintro (rfl | rfl)
    · exact ⟨.any, rfl⟩
    · exact ⟨.some, rfl⟩

instance : DecidablePred IsKeyword := fun _ => decidable_of_iff _ isKeyword_iff.symm

instance : DecidablePred IsBarrier := fun _ => inferInstanceAs (Decidable (_ ∨ _ ∨ _))

theorem not_isBarrier_of_isName {w : Text} (hw : IsName w) (h : ¬ IsKeyword w) : ¬ IsBarrier w := by
  have hplain : ∀ c ∈ ['(', '<'], isWord c = false := by decide
  rintro (hk | rfl | rfl)
  · exact h hk
  · exact absurd (hw.2 '(' List.mem_cons_self) (by rw [hplain '(' (by decide)]; decide)
  · exact absurd (hw.2 '<' List.mem_cons_self) (by rw [hplain '<' (by decide)]; decide)

theorem not_mem_of_isBarrier {names : List Text} (hnames : ProtocolNames names) {b : Text}
    (hb : IsBarrier b) : b ∉ names := fun hmem =>
  not_isBarrier_of_isName (hnames.isName b hmem) (hnames.not_keyword b hmem) hb

theorem not_isBarrier_of_isBlankPart {b : Text} (h : isBlankPart b = true) : ¬ IsBarrier b := by
  rintro (⟨k, rfl⟩ | rfl | rfl)
  · rw [isBlankPart_of_isName (isName_word k)] at h
    cases h
  · cases h
  · cases h

/-! ## Qualifiers

A type may stand behind qualifiers, each a name and a dot. They can be cut anywhere, and a keyword
may be among them, which the passes then take for a module. -/

/-- Words of one kind, each with a dot behind it. -/
inductive Qualifiers (ok : Text → Prop) : List Text → Prop where
  | nil : Qualifiers ok []
  | cons {w : Text} {qs : List Text} (isName : IsName w) (holds : ok w) (tail : Qualifiers ok qs) :
      Qualifiers ok (w :: ['.'] :: qs)

variable {ok : Text → Prop} {qs : List Text}

theorem Qualifiers.mem (h : Qualifiers ok qs) {b : Text} (hb : b ∈ qs) :
    b = ['.'] ∨ IsName b ∧ ok b := by
  induction h with
  | nil => cases hb
  | cons hname hok tail ih =>
      rcases List.mem_cons.mp hb with rfl | hb
      · exact .inr ⟨hname, hok⟩
      · rcases List.mem_cons.mp hb with rfl | hb
        · exact .inl rfl
        · exact ih hb

/-- Behind a word among qualifiers stands a dot, and then qualifiers again. -/
theorem Qualifiers.split (h : Qualifiers ok qs) {Y X : List Text} {w : Text}
    (hqs : qs = Y ++ w :: X)
    (hw : IsName w) : ∃ X', X = ['.'] :: X' ∧ Qualifiers ok X' := by
  induction h generalizing Y with
  | nil => exact absurd hqs.symm (by simp)
  | @cons v qs hname hok tail ih =>
      match Y, hqs with
      | [], hqs =>
          obtain ⟨-, rfl⟩ := List.cons.inj hqs
          exact ⟨qs, rfl, tail⟩
      | [d], hqs =>
          -- the dot is no word
          obtain ⟨rfl, -⟩ := List.cons.inj (List.cons.inj hqs).2
          exact absurd hw (by decide)
      | d :: e :: Y, hqs => exact ih (List.cons.inj (List.cons.inj hqs).2).2

/-- What begins among qualifiers begins with a dot, or has one behind its first word. -/
theorem Qualifiers.suffix (h : Qualifiers ok qs) {B N : List Text} (hB : B <:+ qs ++ N) :
    (∃ w B', B = w :: ['.'] :: B') ∨ (∃ B', B = ['.'] :: B') ∨ B <:+ N := by
  induction h with
  | nil => exact .inr (.inr hB)
  | cons hname hok tail ih =>
      rcases List.suffix_cons_iff.mp hB with rfl | hB
      · exact .inl ⟨_, _, rfl⟩
      · rcases List.suffix_cons_iff.mp hB with rfl | hB
        · exact .inr (.inl ⟨_, rfl⟩)
        · exact ih hB

theorem Qualifiers.imp {ok' : Text → Prop} (hok : ∀ w, ok w → ok' w) (h : Qualifiers ok qs) :
    Qualifiers ok' qs := by
  induction h with
  | nil => exact .nil
  | cons hname h tail ih => exact .cons hname (hok _ h) ih

theorem Qualifiers.not_isBarrier (h : Qualifiers (¬ IsKeyword ·) qs) : ∀ b ∈ qs, ¬ IsBarrier b := by
  intro b hb
  rcases h.mem hb with rfl | ⟨hname, hk⟩
  · decide
  · exact not_isBarrier_of_isName hname hk

theorem Qualifiers.parts_append (h : Qualifiers ok qs) (r : Text) :
    parts (qs.flatten ++ r) = qs ++ parts r := by
  induction h with
  | nil => rfl
  | @cons w qs hname hok tail ih =>
      have hdot : Unicode.isWord '.' = false := by decide
      have hflat : (w :: ['.'] :: qs).flatten ++ r = w ++ ('.' :: (qs.flatten ++ r)) := by
        simp only [List.flatten_cons, List.append_assoc, List.cons_append, List.nil_append]
      have hbreak : startsWord ('.' :: (qs.flatten ++ r)) = false := hdot
      rw [hflat, parts_name_append hname hbreak, parts_cons hdot, ih]
      rfl

/-- The keyword among qualifiers begins where no word goes on, and has a dot behind it. -/
theorem Qualifiers.exists_keyword (h : Qualifiers ok qs) (hk : ¬ Qualifiers (¬ IsKeyword ·) qs) :
    ∃ (k : Keyword) (u v : Text), qs.flatten = u ++ k.word ++ '.' :: v ∧ endsWord u = false := by
  induction h with
  | nil => exact absurd .nil hk
  | @cons w qs hname hok tail ih =>
      by_cases hw : IsKeyword w
      · obtain ⟨k, rfl⟩ := hw
        exact ⟨k, [], qs.flatten, rfl, rfl⟩
      · obtain ⟨k, u, v, hqs, hu⟩ := ih fun h => hk (.cons hname hw h)
        refine ⟨k, w ++ '.' :: u, v, ?_, ?_⟩
        · rw [List.flatten_cons, List.flatten_cons, hqs]
          simp only [List.append_assoc, List.cons_append, List.nil_append]
        · have hdot : Unicode.isWord '.' = false := by decide
          rw [endsWord_append_of_ne_nil w (List.cons_ne_nil '.' u), ← List.singleton_append]
          rcases eq_or_ne u [] with rfl | hne
          · exact hdot
          · rw [endsWord_append_of_ne_nil _ hne, hu]

/-- No shape of this kind begins inside a type: neither at a word that has a dot behind it, nor at a
dot, nor at the name of a protocol. -/
structure OutsideTypes (names : List Text) (shape : List Text → Prop) : Prop where
  word : ∀ w B, IsName w → ¬ shape (w :: ['.'] :: B)
  dot : ∀ B, ¬ shape (['.'] :: B)
  protocol : ∀ P ∈ names, ∀ B, ¬ shape (P :: B)

/-- What begins in a type with others behind it begins behind the type. -/
theorem OutsideTypes.suffix {names : List Text} {shape : List Text → Prop}
    (h : OutsideTypes names shape) (hqs : Qualifiers ok qs) {P : Text} (hP : P ∈ names)
    {B R : List Text} (hB : B <:+ qs ++ P :: R) (hshape : shape B) : B <:+ R := by
  induction hqs with
  | nil =>
      rcases List.suffix_cons_iff.mp hB with rfl | hB
      · exact absurd hshape (h.protocol P hP R)
      · exact hB
  | cons hname hok tail ih =>
      rcases List.suffix_cons_iff.mp hB with rfl | hB
      · exact absurd hshape (h.word _ _ hname)
      · rcases List.suffix_cons_iff.mp hB with rfl | hB
        · exact absurd hshape (h.dot _)
        · exact ih hB

/-! ## `some` where only `any` is allowed -/

/-- **What `some` cannot stand before**: `...`, a default value, a metatype and the end of a
closure's parameters. -/
inductive Tail : List Text → Prop where
  | variadic : Tail [['.'], ['.'], ['.']]
  | initial : Tail [[' '], ['=']]
  | metatype {w : Text} (isName : IsName w) (type : "Type".toList <+: w) : Tail [['.'], w]
  | closure {w : Text} (isName : IsName w) (inside : "in".toList <+: w) : Tail [[')'], [' '], w]

variable (names : List Text)

/-- **`some` where only `any` is allowed**, with no keyword among the qualifiers. -/
def ForbiddenSome (Q : List Text) : Prop :=
  ∃ qs P ws tail R, Q = "some".toList :: [' '] :: (qs ++ P :: (ws ++ (tail ++ R))) ∧
    Qualifiers (¬ IsKeyword ·) qs ∧ P ∈ names ∧ (∀ b ∈ ws, isBlankPart b = true) ∧ Tail tail

theorem Tail.not_isBarrier {tail : List Text} (h : Tail tail) : ∀ b ∈ tail, ¬ IsBarrier b := by
  have hword {w x : Text} (hw : IsName w) (hx : x <+: w) (hk : ∀ k : Keyword, ¬ x <+: k.word) :
      ¬ IsBarrier w := by
    refine not_isBarrier_of_isName hw ?_
    rintro ⟨k, rfl⟩
    exact hk k hx
  cases h with
  | variadic => decide
  | initial => decide
  | metatype hw htype =>
      refine List.forall_mem_cons.mpr ⟨by decide, List.forall_mem_singleton.mpr ?_⟩
      exact hword hw htype fun k => by cases k <;> decide
  | closure hw hinside =>
      refine List.forall_mem_cons.mpr ⟨by decide, List.forall_mem_cons.mpr
        ⟨by decide, List.forall_mem_singleton.mpr ?_⟩⟩
      exact hword hw hinside fun k => by cases k <;> decide

variable {names}

theorem ForbiddenSome.exists_eq {Q : List Text} (h : ForbiddenSome names Q) :
    ∃ R, Q = "some".toList :: [' '] :: R := by
  obtain ⟨qs, P, ws, tail, R, rfl, -⟩ := h
  exact ⟨_, rfl⟩

theorem outsideTypes_forbiddenSome (hnames : ProtocolNames names) :
    OutsideTypes names (ForbiddenSome names) := by
  constructor
  · intro w B hw h
    obtain ⟨R, hR⟩ := h.exists_eq
    obtain ⟨-, hR⟩ := List.cons.inj hR
    exact absurd (List.cons.inj hR).1 (by decide)
  · intro B h
    obtain ⟨R, hR⟩ := h.exists_eq
    exact absurd (List.cons.inj hR).1 (by decide)
  · intro P hP B h
    obtain ⟨R, hR⟩ := h.exists_eq
    exact hnames.not_keyword P hP ⟨.some, (List.cons.inj hR).1⟩

/-- The shape does not reach over a barrier. -/
theorem ForbiddenSome.append (hnames : ProtocolNames names) {Y Z : List Text} {b : Text}
    (h : ForbiddenSome names (Y ++ b :: Z)) (hb : IsBarrier b) (hY : Y ≠ []) (M : List Text) :
    ForbiddenSome names (Y ++ M) := by
  obtain ⟨qs, P, ws, tail, R, hQ, hqs, hP, hws, htail⟩ := h
  obtain ⟨y, Y, rfl⟩ := List.exists_cons_of_ne_nil hY
  obtain ⟨rfl, hbehind⟩ := List.cons.inj hQ
  -- No barrier is inside the shape, so the shape ends before the first barrier.
  have hfree : b ∉ [' '] :: (qs ++ P :: (ws ++ tail)) := by
    intro hmem
    refine absurd hb ?_
    rcases List.mem_cons.mp hmem with rfl | hmem
    · decide
    · rcases List.mem_append.mp hmem with hmem | hmem
      · exact hqs.not_isBarrier b hmem
      · rcases List.mem_cons.mp hmem with rfl | hmem
        · exact not_isBarrier_of_isName (hnames.isName _ hP) (hnames.not_keyword _ hP)
        · rcases List.mem_append.mp hmem with hmem | hmem
          · exact not_isBarrier_of_isBlankPart (hws b hmem)
          · exact htail.not_isBarrier b hmem
  have hsplit : ([' '] :: (qs ++ P :: (ws ++ tail))) ++ R = Y ++ b :: Z := by
    have hbehind : Y ++ b :: Z = [' '] :: (qs ++ P :: (ws ++ (tail ++ R))) := hbehind
    rw [hbehind]
    simp only [List.cons_append, List.append_assoc]
  obtain ⟨rest, rfl, -⟩ := exists_of_append_eq_append_cons hsplit hfree
  refine ⟨qs, P, ws, tail, rest ++ M, ?_, hqs, hP, hws, htail⟩
  simp only [List.cons_append, List.append_assoc]

/-! ## Optionals without parentheses

The mark is a question mark or an exclamation mark directly behind the type. -/

/-- **A type with the mark of an optional** behind it. -/
def MarkedType (names : List Text) (T : List Text) : Prop :=
  ∃ qs P type mark R, T = qs ++ P :: (type ++ mark :: R) ∧ Qualifiers (fun _ => True) qs ∧
    P ∈ names ∧ (type = [] ∨ type = [['.'], "Type".toList]) ∧ (mark = ['?'] ∨ mark = ['!'])

/-- **An annotated optional without parentheses.** -/
def BareOptional (names : List Text) (Q : List Text) : Prop :=
  ∃ (k : Keyword) (ws T : List Text), Q = k.word :: (ws ++ T) ∧ ws ≠ [] ∧
    (∀ b ∈ ws, isBlankPart b = true) ∧ MarkedType names T

/-- A type with a mark does not reach over a barrier that is no protocol, unless this is a keyword
among its qualifiers. -/
theorem MarkedType.append {Y Z : List Text} {b : Text} (h : MarkedType names (Y ++ b :: Z))
    (hb : IsBarrier b) (hother : b ∉ names) :
    (∀ M, MarkedType names (Y ++ M)) ∨
      IsKeyword b ∧ ∀ w, IsName w → MarkedType names (w :: Z) := by
  obtain ⟨qs, P, type, mark, R, hT, hqs, hP, htype, hmark⟩ := h
  have hfree : b ∉ P :: (type ++ [mark]) := by
    intro hmem
    rcases List.mem_cons.mp hmem with rfl | hmem
    · exact hother hP
    · refine absurd hb ?_
      have hall : ∀ d ∈ type ++ [mark], ¬ IsBarrier d := by
        rcases htype with rfl | rfl <;> rcases hmark with rfl | rfl <;> decide
      exact hall b hmem
  rcases List.append_eq_append_iff.mp hT with ⟨X, hX, hbZ⟩ | ⟨X, rfl, hX⟩
  · cases X with
    | nil =>
        obtain ⟨rfl, -⟩ := List.cons.inj hbZ
        exact absurd List.mem_cons_self hfree
    | cons d X =>
        -- the barrier is one of the qualifiers, so it is a keyword, with a dot behind it
        obtain ⟨rfl, rfl⟩ := List.cons.inj hbZ
        obtain ⟨hname, hk⟩ : IsName b ∧ IsKeyword b := by
          rcases hqs.mem (hX ▸ List.mem_append_right Y List.mem_cons_self) with rfl | ⟨hname, -⟩
          · exact absurd hb (by decide)
          · refine ⟨hname, ?_⟩
            by_contra hk
            exact not_isBarrier_of_isName hname hk hb
        obtain ⟨X', rfl, hrest⟩ := hqs.split hX hname
        refine .inr ⟨hk, fun w hw => ?_⟩
        exact ⟨w :: ['.'] :: X', P, type, mark, R, rfl, .cons hw trivial hrest, hP, htype, hmark⟩
  · have hsplit : (P :: (type ++ [mark])) ++ R = X ++ b :: Z := by
      rw [← hX]
      simp only [List.cons_append, List.append_assoc, List.nil_append]
    obtain ⟨rest, rfl, -⟩ := exists_of_append_eq_append_cons hsplit hfree
    refine .inl fun M => ⟨qs, P, type, mark, rest ++ M, ?_, hqs, hP, htype, hmark⟩
    simp only [List.cons_append, List.append_assoc, List.nil_append]

theorem BareOptional.exists_eq {Q : List Text} (h : BareOptional names Q) :
    ∃ (k : Keyword) (b : Text) (R : List Text), isBlankPart b = true ∧ Q = k.word :: b :: R := by
  obtain ⟨k, ws, T, rfl, hne, hws, -⟩ := h
  obtain ⟨b, ws, rfl⟩ := List.exists_cons_of_ne_nil hne
  exact ⟨k, b, ws ++ T, hws b List.mem_cons_self, rfl⟩

/-- An optional that begins in a type with others behind it begins behind the type, where no blank
follows. -/
theorem BareOptional.suffix_type {B N : List Text} {P : Text} (h : BareOptional names B)
    (hqs : Qualifiers ok qs) (hN : N.head?.any isBlankPart = false) (hB : B <:+ qs ++ P :: N) :
    B <:+ N := by
  obtain ⟨k, b, R, hb, rfl⟩ := h.exists_eq
  rcases hqs.suffix hB with ⟨w, B', heq⟩ | ⟨B', heq⟩ | hB
  · -- a dot is no blank
    obtain ⟨rfl, -⟩ := List.cons.inj (List.cons.inj heq).2
    exact absurd hb (by decide)
  · have hdot : ∀ k : Keyword, k.word ≠ ['.'] := by
      intro k
      cases k <;> decide
    exact absurd (List.cons.inj heq).1 (hdot k)
  · rcases List.suffix_cons_iff.mp hB with heq | hB
    · obtain ⟨-, rfl⟩ := List.cons.inj heq
      rw [List.head?_cons, Option.any_some, hb] at hN
      cases hN
    · exact hB

/-- The shape does not reach over a barrier that is no protocol, unless this is a keyword among the
qualifiers of the type. -/
theorem BareOptional.append {Y Z : List Text} {b : Text} (h : BareOptional names (Y ++ b :: Z))
    (hb : IsBarrier b) (hother : b ∉ names) (hY : Y ≠ []) :
    (∀ M, BareOptional names (Y ++ M)) ∨
      IsKeyword b ∧ ∀ w, IsName w → MarkedType names (w :: Z) := by
  obtain ⟨k, ws, T, hQ, hne, hws, hT⟩ := h
  obtain ⟨y, Y, rfl⟩ := List.exists_cons_of_ne_nil hY
  obtain ⟨rfl, hbehind⟩ := List.cons.inj hQ
  have hsplit : ws ++ T = Y ++ b :: Z := hbehind.symm
  have hfree : b ∉ ws := fun hmem => not_isBarrier_of_isBlankPart (hws b hmem) hb
  obtain ⟨rest, rfl, rfl⟩ := exists_of_append_eq_append_cons hsplit hfree
  rcases hT.append hb hother with hM | hZ
  · refine .inl fun M => ⟨k, ws, rest ++ M, ?_, hne, hws, hM M⟩
    simp only [List.cons_append, List.append_assoc]
  · exact .inr hZ

/-! ## Casts without a keyword

Which type a cast names is not settled by its start alone: a qualifier is read wherever one can be,
and the metatype behind the name may end the shape. A cast is still read in one way only
(`BareCast.castType`). -/

/-- What a cast with this text behind its protocol has directly behind it does not keep the keyword
away. -/
def OpenBehind (r : Text) : Prop :=
  ((behindMetatype r).head?.any fun c => c == ':' || c.isLower) = false

/-- **A type that takes the keyword in a cast**: with a qualifier wherever one can be read, and this
is no keyword. -/
def CastType (policy : Policy) (names : List Text) (T : List Text) : Prop :=
  ∃ qs P R, T = qs ++ P :: R ∧ P ∈ names ∧
    (qs = [] ∧ (∀ n ∈ names, ∀ R', R ≠ ['.'] :: n :: R') ∨
      ∃ q, IsName q ∧ ¬ IsKeyword q ∧ qs = [q, ['.']]) ∧
    policy.isClass P = false ∧ "Any".toList.isPrefixOf P = false ∧ OpenBehind R.flatten

/-- **A cast without a keyword** to a type that takes one. -/
def BareCast (policy : Policy) (names : List Text) (Q : List Text) : Prop :=
  ∃ (ws : List Text) (y : Text) (ws' T : List Text), Q = ws ++ (parts y ++ (ws' ++ T)) ∧ ws ≠ [] ∧
    (∀ b ∈ ws, isBlankPart b = true) ∧ y ∈ castOperators ∧ ws' ≠ [] ∧
    (∀ b ∈ ws', isBlankPart b = true) ∧ CastType policy names T

variable {policy : Policy}

theorem not_isBarrier_of_mem_castOperators {y : Text} (hy : y ∈ castOperators) :
    ∀ b ∈ parts y, ¬ IsBarrier b := by
  revert y
  decide

theorem isBlankPart_of_mem_castOperators {y : Text} (hy : y ∈ castOperators) :
    ∀ b ∈ parts y, isBlankPart b = false := by
  revert y
  decide

/-- A metatype does not begin in a text that does not end in a word and go on behind it, unless the
text is its dot. -/
theorem isPrefixOf_metatype_append {x r : Text} (hx : x ≠ []) (hword : endsWord x = false)
    (hdot : x = ['.'] → "Type".toList.isPrefixOf r = false) :
    ".Type".toList.isPrefixOf (x ++ r) = ".Type".toList.isPrefixOf x := by
  rw [Bool.eq_iff_iff, List.isPrefixOf_iff_prefix, List.isPrefixOf_iff_prefix]
  constructor
  · rintro ⟨rest, hrest⟩
    rcases List.append_eq_append_iff.mp hrest with ⟨y, rfl, -⟩ | ⟨y, hy, rfl⟩
    · exact List.prefix_append _ y
    · have hstarts : ∀ z ∈ ".Type".toList.inits, z ≠ [] → endsWord z = false → z = ['.'] := by
        decide
      obtain rfl := hstarts x ((List.mem_inits _ _).mpr ⟨y, hy.symm⟩) hx hword
      obtain rfl : "Type".toList = y := (List.cons.inj hy).2
      exact absurd (hdot rfl) (by simp)
  · intro h
    exact h.trans (List.prefix_append x r)

/-- What stands directly behind is told by a text that does not end in a word, unless it is a dot
with the rest of a metatype behind it. -/
theorem openBehind_append {x r r' : Text} (hx : x ≠ []) (hword : endsWord x = false)
    (hr : x = ['.'] → "Type".toList.isPrefixOf r = false)
    (hr' : x = ['.'] → "Type".toList.isPrefixOf r' = false) (h : OpenBehind (x ++ r)) :
    OpenBehind (x ++ r') := by
  suffices (behindMetatype (x ++ r)).head? = (behindMetatype (x ++ r')).head? by
    rwa [OpenBehind, ← this]
  rw [behindMetatype, behindMetatype, isPrefixOf_metatype_append hx hword hr,
    isPrefixOf_metatype_append hx hword hr']
  split
  · rename_i hstarts
    obtain ⟨y, rfl⟩ := List.isPrefixOf_iff_prefix.mp hstarts
    -- a metatype ends in a word, so there is more behind it
    have hy : y ≠ [] := by
      rintro rfl
      revert hword
      decide
    obtain ⟨c, y, rfl⟩ := List.exists_cons_of_ne_nil hy
    rfl
  · obtain ⟨c, x, rfl⟩ := List.exists_cons_of_ne_nil hx
    rfl

theorem isPrefixOf_type_barrier {b : Text} (hb : IsBarrier b) (r : Text) :
    "Type".toList.isPrefixOf (b ++ r) = false := by
  rcases hb with ⟨k, rfl⟩ | rfl | rfl
  · cases k <;> rfl
  · rfl
  · rfl

/-- What may be written behind parts in place of a barrier: another barrier, and anything if the
last part is no dot. -/
def Follows (Y M : List Text) : Prop :=
  Y.getLast? = some ['.'] → ∃ b M', M = b :: M' ∧ IsBarrier b

theorem Follows.of_suffix {Y rest M : List Text} (h : Follows Y M) (hrest : rest <:+ Y) :
    Follows rest M := by
  intro hlast
  obtain ⟨X, rfl⟩ := hrest
  exact h (by rw [List.getLast?_append, hlast, Option.some_or])

theorem follows_blanks {A ws M : List Text} (hne : ws ≠ [])
    (hws : ∀ b ∈ ws, isBlankPart b = true) : Follows (A ++ ws) M := by
  intro hlast
  rw [List.getLast?_append_of_ne_nil A hne] at hlast
  exact absurd (hws _ (List.mem_of_getLast? hlast)) (by decide)

/-- The protocol of a type in a cast stands before a barrier. -/
theorem CastType.exists_before (hnames : ProtocolNames names) {Y Z : List Text} {b : Text}
    (h : CastType policy names (Y ++ b :: Z)) (hb : IsBarrier b) :
    ∃ qs P rest, Y = qs ++ P :: rest ∧ P ∈ names ∧
      (qs = [] ∧ (∀ n ∈ names, ∀ R', rest ++ b :: Z ≠ ['.'] :: n :: R') ∨
        ∃ q, IsName q ∧ ¬ IsKeyword q ∧ qs = [q, ['.']]) ∧
      policy.isClass P = false ∧ "Any".toList.isPrefixOf P = false ∧
      OpenBehind (rest ++ b :: Z).flatten := by
  obtain ⟨qs, P, R, hT, hP, hqs, hclass, hany, hopen⟩ := h
  have hfree : b ∉ qs ++ [P] := by
    intro hmem
    rcases List.mem_append.mp hmem with hmem | hmem
    · rcases hqs with ⟨rfl, -⟩ | ⟨q, hq, hkeyword, rfl⟩
      · cases hmem
      · rcases List.mem_cons.mp hmem with rfl | hmem
        · exact not_isBarrier_of_isName hq hkeyword hb
        · obtain rfl := List.mem_singleton.mp hmem
          exact absurd hb (by decide)
    · obtain rfl := List.mem_singleton.mp hmem
      exact not_mem_of_isBarrier hnames hb hP
  have hsplit : (qs ++ [P]) ++ R = Y ++ b :: Z := by
    rw [hT, List.append_assoc, List.singleton_append]
  obtain ⟨rest, rfl, rfl⟩ := exists_of_append_eq_append_cons hsplit hfree
  exact ⟨qs, P, rest, by simp, hP, hqs, hclass, hany, hopen⟩

/-- A type in a cast does not reach over a barrier. -/
theorem CastType.append (hnames : ProtocolNames names) {l : Text} (hl : endsWord l = false)
    {Y Z M : List Text} {b : Text} (hY : Y <:+ parts l) (h : CastType policy names (Y ++ b :: Z))
    (hb : IsBarrier b) (hM : Follows Y M) : CastType policy names (Y ++ M) := by
  obtain ⟨qs, P, rest, rfl, hP, hqs, hclass, hany, hopen⟩ := h.exists_before hnames hb
  have hsuffix : rest <:+ qs ++ P :: rest :=
    (List.suffix_cons P rest).trans (List.suffix_append qs _)
  have hparts := hsuffix.trans hY
  -- behind the protocol stands more than a word could go on to
  have hrest : rest ≠ [] := by
    rintro rfl
    have hend := endsWord_flatten hY (by simp)
    have hPname := hnames.isName P hP
    rw [List.flatten_append, List.flatten_singleton,
      endsWord_append_of_ne_nil _ hPname.1, hPname.endsWord, hl] at hend
    cases hend
  have hM := hM.of_suffix hsuffix
  have hdot (hx : rest.flatten = ['.']) : ∃ d M', M = d :: M' ∧ IsBarrier d := by
    refine hM ?_
    rw [← parts_flatten_of_suffix hparts, hx]
    decide
  have hopen : OpenBehind (rest ++ M).flatten := by
    rw [List.flatten_append] at hopen ⊢
    refine openBehind_append (List.length_pos_iff.mp (length_flatten_pos hparts hrest))
      ((endsWord_flatten hparts hrest).trans hl) (fun _ => isPrefixOf_type_barrier hb _) ?_ hopen
    intro hx
    obtain ⟨d, M', rfl, hd⟩ := hdot hx
    exact isPrefixOf_type_barrier hd _
  refine ⟨qs, P, rest ++ M, ?_, hP, ?_, hclass, hany, hopen⟩
  · simp only [List.append_assoc, List.cons_append]
  refine hqs.imp_left fun ⟨hnil, hpreferred⟩ => ⟨hnil, fun n hn R' hR => ?_⟩
  obtain ⟨d, rest, rfl⟩ := List.exists_cons_of_ne_nil hrest
  obtain ⟨rfl, hbehind⟩ := List.cons.inj hR
  cases rest with
  | nil =>
      obtain ⟨e, M', rfl, he⟩ := hM rfl
      obtain ⟨rfl, -⟩ := List.cons.inj hbehind
      exact not_mem_of_isBarrier hnames he hn
  | cons e rest =>
      obtain ⟨rfl, -⟩ := List.cons.inj hbehind
      exact hpreferred _ hn _ rfl

/-- What stands behind an angle bracket is of no account for a type in a cast before it. -/
theorem CastType.append_bracket (hnames : ProtocolNames names) {Y Z : List Text}
    (h : CastType policy names (Y ++ ['<'] :: Z)) (M : List Text) :
    CastType policy names (Y ++ ['<'] :: M) := by
  have hbracket : IsBarrier ['<'] := .inr (.inr rfl)
  obtain ⟨qs, P, rest, rfl, hP, hqs, hclass, hany, hopen⟩ := h.exists_before hnames hbracket
  have hend : endsWord (rest.flatten ++ ['<']) = false := endsWord_concat _ '<'
  have hdot : rest.flatten ++ ['<'] ≠ ['.'] := fun h => absurd (congrArg List.getLast? h) (by simp)
  have hcut (Z : List Text) :
      (rest ++ ['<'] :: Z).flatten = rest.flatten ++ ['<'] ++ Z.flatten := by
    simp
  rw [hcut] at hopen
  have hopen : OpenBehind (rest ++ ['<'] :: M).flatten := by
    rw [hcut]
    exact openBehind_append (by simp) hend (fun h => absurd h hdot) (fun h => absurd h hdot) hopen
  refine ⟨qs, P, rest ++ ['<'] :: M, ?_, hP, ?_, hclass, hany, hopen⟩
  · simp only [List.append_assoc, List.cons_append]
  refine hqs.imp_left fun ⟨hnil, hpreferred⟩ => ⟨hnil, fun n hn R' hR => ?_⟩
  -- Whether a member follows is told by the two parts behind the type, so the bracket is one of
  -- them or stands behind both.
  match rest, hR, hpreferred with
  | [], hR, _ => exact absurd (List.cons.inj hR).1 (by decide)
  | [d], hR, _ =>
      obtain ⟨rfl, -⟩ := List.cons.inj (List.cons.inj hR).2
      exact not_mem_of_isBarrier hnames hbracket hn
  | d :: e :: rest, hR, hpreferred =>
      obtain ⟨rfl, hbehind⟩ := List.cons.inj hR
      obtain ⟨rfl, -⟩ := List.cons.inj hbehind
      exact hpreferred _ hn _ rfl

/-- The operator of a cast stands before a barrier, and only the type may reach up to it. -/
theorem BareCast.exists_before {Y Z : List Text} {b : Text}
    (h : BareCast policy names (Y ++ b :: Z)) (hb : IsBarrier b) :
    ∃ A rest, Y = A ++ rest ∧ CastType policy names (rest ++ b :: Z) ∧
      ∀ T, CastType policy names T → BareCast policy names (A ++ T) := by
  obtain ⟨ws, y, ws', T, hQ, hne, hws, hy, hne', hws', hT⟩ := h
  have hfree : b ∉ ws ++ (parts y ++ ws') := by
    intro hmem
    refine absurd hb ?_
    rcases List.mem_append.mp hmem with hmem | hmem
    · exact not_isBarrier_of_isBlankPart (hws b hmem)
    · rcases List.mem_append.mp hmem with hmem | hmem
      · exact not_isBarrier_of_mem_castOperators hy b hmem
      · exact not_isBarrier_of_isBlankPart (hws' b hmem)
  have hsplit : (ws ++ (parts y ++ ws')) ++ T = Y ++ b :: Z := by
    rw [hQ]
    simp only [List.append_assoc]
  obtain ⟨rest, rfl, rfl⟩ := exists_of_append_eq_append_cons hsplit hfree
  refine ⟨_, rest, rfl, hT, fun T hT => ⟨ws, y, ws', T, ?_, hne, hws, hy, hne', hws', hT⟩⟩
  simp only [List.append_assoc]

/-- A cast does not reach over a barrier. -/
theorem BareCast.append (hnames : ProtocolNames names) {l : Text} (hl : endsWord l = false)
    {Y Z M : List Text} {b : Text} (hY : Y <:+ parts l) (h : BareCast policy names (Y ++ b :: Z))
    (hb : IsBarrier b) (hM : Follows Y M) : BareCast policy names (Y ++ M) := by
  obtain ⟨A, rest, rfl, hT, hcast⟩ := h.exists_before hb
  have hsuffix : rest <:+ A ++ rest := List.suffix_append A rest
  rw [List.append_assoc]
  exact hcast _ (hT.append hnames hl (hsuffix.trans hY) hb (hM.of_suffix hsuffix))

/-- What stands behind an angle bracket is of no account for a cast before it. -/
theorem BareCast.append_bracket (hnames : ProtocolNames names) {Y Z : List Text}
    (h : BareCast policy names (Y ++ ['<'] :: Z)) (M : List Text) :
    BareCast policy names (Y ++ ['<'] :: M) := by
  obtain ⟨A, rest, rfl, hT, hcast⟩ := h.exists_before (.inr (.inr rfl))
  rw [List.append_assoc]
  exact hcast _ (hT.append_bracket hnames M)

theorem BareCast.exists_eq {Q : List Text} (h : BareCast policy names Q) :
    ∃ (b : Text) (R : List Text), isBlankPart b = true ∧ Q = b :: R := by
  obtain ⟨ws, y, ws', T, rfl, hne, hws, -⟩ := h
  obtain ⟨b, ws, rfl⟩ := List.exists_cons_of_ne_nil hne
  exact ⟨b, _, hws b List.mem_cons_self, rfl⟩

theorem outsideTypes_bareCast (hnames : ProtocolNames names) :
    OutsideTypes names (BareCast policy names) := by
  have hword {w : Text} {B : List Text} (hw : IsName w) : ¬ BareCast policy names (w :: B) := by
    intro h
    obtain ⟨b, R, hb, hQ⟩ := h.exists_eq
    obtain ⟨rfl, -⟩ := List.cons.inj hQ
    rw [isBlankPart_of_isName hw] at hb
    cases hb
  refine ⟨fun w B hw => hword hw, fun B h => ?_, fun P hP B => hword (hnames.isName P hP)⟩
  obtain ⟨b, R, hb, hQ⟩ := h.exists_eq
  obtain ⟨rfl, -⟩ := List.cons.inj hQ
  exact absurd hb (by decide)

theorem Qualifiers.head?_isBlankPart (h : Qualifiers ok qs) {P : Text} (hP : IsName P)
    (R : List Text) : (qs ++ P :: R).head?.any isBlankPart = false := by
  cases h with
  | nil => exact isBlankPart_of_isName hP
  | cons hname _ _ => exact isBlankPart_of_isName hname

theorem CastType.head?_isBlankPart (hnames : ProtocolNames names) {T : List Text}
    (h : CastType policy names T) : T.head?.any isBlankPart = false := by
  obtain ⟨qs, P, R, rfl, hP, hqs, -⟩ := h
  have hPname := hnames.isName P hP
  rcases hqs with ⟨rfl, -⟩ | ⟨q, hq, -, rfl⟩
  · have hnil : Qualifiers (fun _ => True) [] := .nil
    exact hnil.head?_isBlankPart hPname R
  · have hone : Qualifiers (fun _ => True) [q, ['.']] := .cons hq trivial .nil
    exact hone.head?_isBlankPart hPname R

theorem exists_parts_castOperator {y : Text} (hy : y ∈ castOperators) :
    ∃ w rest, parts y = w :: rest ∧ (w = "is".toList ∨ w = "as".toList) ∧
      (rest = [] ∨ rest = [['?']] ∨ rest = [['!']]) := by
  simp only [castOperators, List.mem_cons, List.not_mem_nil, or_false] at hy
  rcases hy with rfl | rfl | rfl | rfl
  · exact ⟨"is".toList, [], by decide, .inl rfl, .inl rfl⟩
  · exact ⟨"as".toList, [['?']], by decide, .inr rfl, .inr (.inl rfl)⟩
  · exact ⟨"as".toList, [['!']], by decide, .inr rfl, .inr (.inr rfl)⟩
  · exact ⟨"as".toList, [], by decide, .inr rfl, .inl rfl⟩

theorem head?_castOperator {y : Text} (hy : y ∈ castOperators) (R : List Text) :
    (parts y ++ R).head?.any isBlankPart = false := by
  obtain ⟨w, rest, hparts, -, -⟩ := exists_parts_castOperator hy
  have hw := isBlankPart_of_mem_castOperators hy w (hparts ▸ List.mem_cons_self)
  rw [hparts]
  exact hw

theorem head?_blanks {ws : List Text} (hne : ws ≠ []) (hws : ∀ b ∈ ws, isBlankPart b = true)
    (R : List Text) : ∃ b R', ws ++ R = b :: R' ∧ isBlankPart b = true := by
  obtain ⟨b, ws, rfl⟩ := List.exists_cons_of_ne_nil hne
  exact ⟨b, ws ++ R, rfl, hws b List.mem_cons_self⟩

/-- **A cast is read in one way**: its type stands behind the operator and the blanks. -/
theorem BareCast.castType (hnames : ProtocolNames names) {ws ws' T : List Text} {y : Text}
    (hws : ∀ b ∈ ws, isBlankPart b = true) (hy : y ∈ castOperators) (hne' : ws' ≠ [])
    (hws' : ∀ b ∈ ws', isBlankPart b = true) (hT : T.head?.any isBlankPart = false)
    (h : BareCast policy names (ws ++ (parts y ++ (ws' ++ T)))) : CastType policy names T := by
  obtain ⟨v, z, v', U, hQ, -, hv, hz, hvne', hv', hU⟩ := h
  obtain ⟨-, hoperator⟩ := append_inj_of_forall hQ hws hv (head?_castOperator hy _)
    (head?_castOperator hz _)
  have hsolid {y : Text} (hy : y ∈ castOperators) : ∀ b ∈ parts y, (!isBlankPart b) = true := by
    intro b hb
    rw [isBlankPart_of_mem_castOperators hy b hb]
    rfl
  have hblank {ws R : List Text} (hne : ws ≠ []) (hws : ∀ b ∈ ws, isBlankPart b = true) :
      (ws ++ R).head?.any (!isBlankPart ·) = false := by
    obtain ⟨b, R', hR, hb⟩ := head?_blanks hne hws R
    rw [hR, List.head?_cons, Option.any_some, hb]
    rfl
  obtain ⟨-, hbehind⟩ := append_inj_of_forall hoperator (hsolid hy) (hsolid hz) (hblank hne' hws')
    (hblank hvne' hv')
  obtain ⟨-, rfl⟩ := append_inj_of_forall hbehind hws' hv' hT (hU.head?_isBlankPart hnames)
  exact hU

theorem not_bareCast_blanks (hnames : ProtocolNames names) {ws : List Text}
    (hws : ∀ b ∈ ws, isBlankPart b = true) (hqs : Qualifiers ok qs) {P : Text} (hP : P ∈ names)
    (R : List Text) : ¬ BareCast policy names (ws ++ (qs ++ P :: R)) := by
  rintro ⟨v, y, v', U, hQ, -, hv, hy, hne', hv', -⟩
  obtain ⟨-, htype⟩ := append_inj_of_forall hQ hws hv
    (hqs.head?_isBlankPart (hnames.isName P hP) R) (head?_castOperator hy _)
  obtain ⟨w, rest, hparts, hw, hrest⟩ := exists_parts_castOperator hy
  rw [hparts] at htype
  cases hqs with
  | nil =>
      obtain ⟨rfl, -⟩ := List.cons.inj htype
      obtain ⟨his, has⟩ := hnames.not_operator P hP
      exact hw.elim his has
  | cons hname hok tail =>
      -- behind the operator would stand a dot
      obtain ⟨b, R', hR, hb⟩ := head?_blanks hne' hv' U
      obtain ⟨-, hdot⟩ := List.cons.inj htype
      rcases hrest with rfl | rfl | rfl
      · obtain ⟨rfl, -⟩ := List.cons.inj (hdot.trans hR)
        exact absurd hb (by decide)
      · exact absurd (List.cons.inj hdot).1 (by decide)
      · exact absurd (List.cons.inj hdot).1 (by decide)

/-- A cast that begins in blanks and a type with others behind it begins behind the type. -/
theorem BareCast.suffix_blanks (hnames : ProtocolNames names) {ws : List Text}
    (hws : ∀ b ∈ ws, isBlankPart b = true) (hqs : Qualifiers ok qs) {P : Text} (hP : P ∈ names)
    {B R : List Text} (hB : B <:+ ws ++ (qs ++ P :: R)) (h : BareCast policy names B) : B <:+ R := by
  rcases suffix_append_cases hB with ⟨Y, -, hY, rfl⟩ | hB
  · exact absurd h (not_bareCast_blanks hnames (fun b hb => hws b (hY.subset hb)) hqs hP R)
  · exact (outsideTypes_bareCast hnames).suffix hqs hP hB h

end SwiftExistential.Cleanup
