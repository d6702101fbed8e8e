import SwiftExistential.Policy
import SwiftExistential.Proofs.Text.Occurrence

/-!
# When a use is written with `some`

A name is closed by a container, a generic argument or an optional if it stands as a whole name in
the type with `]`, `>` or `?` directly behind it. The search for such a place looks at the
occurrences of the name from the left without overlap. It misses none of them all the same: a place
inside an occurrence has a character of the name before it, so no name begins there
(`closedOccurrence_iff`).

`keywordFor?_iff` says what this makes of the policy: which uses take `some`, which take `any`, and
which take nothing. It is stated for every text as the type of a use. A name that overlaps itself is
where a search without overlap could go wrong, so the example has such a name, in a type that holds
it closed and in one that does not.
-/

set_option autoImplicit false

namespace SwiftExistential.Policy

/-- What stands behind a name that is closed. -/
def closers : List Char := [']', '>', '?']

/-- A closed name stands in a text that comes behind a character, or behind none. -/
def ClosedBehind (name : Text) (previous : Option Char) (t : Text) : Prop :=
  ∃ before c after, t = before ++ (name ++ c :: after) ∧ c ∈ closers ∧
    (before.getLast?.or previous).any isNameChar = false

/-- **The type holds the name closed**: with a closer behind it, and at the start or behind a
character that is in no name. -/
def Closed (name typeText : Text) : Prop :=
  ∃ before c after, typeText = before ++ name ++ c :: after ∧ c ∈ closers ∧
    ∀ d ∈ before.getLast?, isNameChar d = false

variable {name context typeText t : Text} {previous : Option Char} {c : Char}

theorem closesType_iff : closesType t = true ↔ ∃ c after, t = c :: after ∧ c ∈ closers := by
  cases t with
  | nil => simp [closesType]
  | cons c rest => simp [closesType, closers, or_assoc]

theorem closed_iff : Closed name typeText ↔ ClosedBehind name none typeText := by
  refine exists_congr fun before => exists_congr fun c => exists_congr fun after => ?_
  rw [List.append_assoc, Option.or_none]
  cases before.getLast? <;> simp

/-- A closed name stands at the start, or behind the first character. -/
theorem closedBehind_cons : ClosedBehind name previous (c :: t) ↔
    (previous.any isNameChar = false ∧ ∃ d after, c :: t = name ++ d :: after ∧ d ∈ closers) ∨
      ClosedBehind name (some c) t := by
  constructor
  · rintro ⟨before, d, after, heq, hd, hbefore⟩
    cases before with
    | nil => exact .inl ⟨hbefore, d, after, heq, hd⟩
    | cons first before =>
        obtain ⟨rfl, hrest⟩ := List.cons.inj heq
        refine .inr ⟨before, d, after, hrest, hd, ?_⟩
        rw [List.getLast?_cons] at hbefore
        cases hlast : before.getLast? <;> simpa [hlast] using hbefore
  · rintro (⟨hprevious, d, after, heq, hd⟩ | ⟨before, d, after, rfl, hd, hbefore⟩)
    · exact ⟨[], d, after, heq, hd, hprevious⟩
    · refine ⟨c :: before, d, after, rfl, hd, ?_⟩
      rw [List.getLast?_cons]
      cases hlast : before.getLast? <;> simpa [hlast] using hbefore

/-- Some characters of names stand before a place, from the character before them on. -/
def InName (skip : Nat) (previous : Option Char) (t : Text) : Prop :=
  skip ≠ 0 → previous.any isNameChar = true ∧ ∀ d ∈ t.take skip, isNameChar d = true

/-- **The search misses no closed name**, wherever it stands and whatever it skips. -/
theorem closedOccurrence_iff (hne : name ≠ []) (hname : ∀ d ∈ name, isNameChar d = true)
    (skip : Nat) (previous : Option Char) (t : Text) (hskip : InName skip previous t) :
    closedOccurrence name skip previous t = true ↔ ClosedBehind name previous t := by
  fun_induction closedOccurrence name skip previous t with
  | case1 =>
      refine iff_of_false Bool.false_ne_true ?_
      rintro ⟨before, c, after, heq, -⟩
      simp [hne] at heq
  | case2 skip previous c rest ih =>
      obtain ⟨hprevious, htake⟩ := hskip (Nat.succ_ne_zero skip)
      rw [List.take_succ_cons, List.forall_mem_cons] at htake
      rw [ih fun _ => ⟨htake.1, htake.2⟩, closedBehind_cons, hprevious]
      simp
  | case3 previous c rest hstarts ih =>
      rw [List.isPrefixOf_iff_prefix] at hstarts
      obtain ⟨behind, hbehind⟩ := hstarts
      obtain ⟨first, others, rfl⟩ := List.exists_cons_of_ne_nil hne
      obtain ⟨rfl, hrest⟩ := List.cons.inj hbehind
      obtain ⟨hfirst, hothers⟩ := List.forall_mem_cons.mp hname
      -- what is skipped is the rest of the name
      have hskipped : InName ((first :: others).length - 1) (some first) rest := by
        intro _
        refine ⟨hfirst, fun d hd => hothers d ?_⟩
        rwa [← hrest, List.length_cons, Nat.add_sub_cancel, List.append_eq, List.take_left] at hd
      have hhere : (∃ d after, first :: rest = first :: others ++ d :: after ∧ d ∈ closers) ↔
          closesType ((first :: rest).drop (first :: others).length) = true := by
        rw [← hbehind, List.drop_left, closesType_iff]
        simp only [List.append_cancel_left_eq]
      rw [closedBehind_cons, Bool.or_eq_true, Bool.and_eq_true, ih hskipped, hhere,
        Bool.not_eq_true']
  | case4 previous c rest hstarts ih =>
      have hnot : ¬ ∃ d after, c :: rest = name ++ d :: after ∧ d ∈ closers := by
        rintro ⟨d, after, heq, -⟩
        exact hstarts (List.isPrefixOf_iff_prefix.mpr ⟨d :: after, heq.symm⟩)
      rw [ih fun h => absurd rfl h, closedBehind_cons, or_iff_right fun h => hnot h.2]

/-- **The name is nested** if the type is a closure or holds it closed. -/
theorem isNested_eq_false_iff (hne : name ≠ []) (hname : ∀ d ∈ name, isNameChar d = true) :
    isNested name typeText = false ↔
      ¬ ") ->".toList <:+: typeText ∧ ¬ ") throws ->".toList <:+: typeText ∧ ¬ Closed name typeText := by
  rw [isNested, Bool.or_eq_false_iff, Bool.or_eq_false_iff, ← Bool.not_eq_true, ← Bool.not_eq_true,
    ← Bool.not_eq_true, Text.hasPart_iff, Text.hasPart_iff, closed_iff,
    closedOccurrence_iff hne hname 0 none typeText fun h => absurd rfl h, and_assoc]

/-- **A use that is written with `some`**: a plain parameter, of a protocol that is neither a class
nor one of the system nor named like a wrapper. -/
structure TakesSome (policy : Policy) (registry : Registry) (name context typeText : Text) : Prop where
  not_class : policy.isClass name = false
  parameter : "parameter".toList <:+ context
  not_system : registry.isSystem name = false
  not_wrapper : ¬ "Any".toList <+: name
  not_closure : ¬ ") ->".toList <:+: typeText ∧ ¬ ") throws ->".toList <:+: typeText
  not_closed : ¬ Closed name typeText

/-- **What the policy decides** for a name of at least two characters. -/
theorem keywordFor?_iff (policy : Policy) (registry : Registry) (name context typeText : Text)
    (hlength : 2 ≤ name.length) (hname : ∀ c ∈ name, isNameChar c = true) :
    (policy.keywordFor? registry name context typeText = some .some ↔
      TakesSome policy registry name context typeText) ∧
    (¬ TakesSome policy registry name context typeText →
      policy.keywordFor? registry name context typeText =
        if policy.isClass name then none else some .any) := by
  have hne : name ≠ [] := by
    rintro rfl
    cases hlength
  have hone : (name.length == 1) = false := beq_eq_false_iff_ne.mpr (by omega)
  -- Condition by condition, each test of the program is one of the clauses of `TakesSome`.
  have hallows : policy.isClass name = false →
      (allowsSome registry name context typeText = true ↔
        TakesSome policy registry name context typeText) := by
    intro hclass
    have hwrapper : List.isPrefixOf "Any".toList name = false ↔ ¬ "Any".toList <+: name := by
      rw [← Bool.not_eq_true, List.isPrefixOf_iff_prefix]
    rw [allowsSome, Bool.and_eq_true, Bool.and_eq_true, Bool.and_eq_true, Bool.not_eq_true',
      Bool.not_eq_true', Bool.not_eq_true', List.isSuffixOf_iff_suffix, hwrapper,
      isNested_eq_false_iff hne hname]
    constructor
    · rintro ⟨⟨⟨hparameter, hclosure, hthrows, hclosed⟩, hsystem⟩, hany⟩
      exact ⟨hclass, hparameter, hsystem, hany, ⟨hclosure, hthrows⟩, hclosed⟩
    · rintro ⟨-, hparameter, hsystem, hany, ⟨hclosure, hthrows⟩, hclosed⟩
      exact ⟨⟨⟨hparameter, hclosure, hthrows, hclosed⟩, hsystem⟩, hany⟩
  rw [keywordFor?, hone, Bool.or_false]
  -- A class takes no keyword at all; otherwise the tests decide between the two.
  cases hclass : policy.isClass name with
  | true =>
      refine ⟨iff_of_false (by simp) fun h => ?_, fun _ => rfl⟩
      rw [h.not_class] at hclass
      cases hclass
  | false =>
      rw [if_neg Bool.false_ne_true, if_neg Bool.false_ne_true, ← hallows hclass]
      cases allowsSome registry name context typeText <;> simp

/-- A name that overlaps itself: only the second type holds it closed. -/
theorem keywordFor?_iff_of_overlappingName :
    2 ≤ "AA".toList.length ∧ (∀ c ∈ "AA".toList, isNameChar c = true) ∧
    TakesSome (ofClasses []) .seeded "AA".toList "var.parameter".toList "AAA?".toList ∧
    ¬ TakesSome (ofClasses []) .seeded "AA".toList "var.parameter".toList "AAA.AA?".toList ∧
    (ofClasses []).keywordFor? .seeded "AA".toList "var.parameter".toList "AAA.AA?".toList =
      some .any := by
  have hname : ∀ c ∈ "AA".toList, isNameChar c = true := by decide
  have hspec (typeText : Text) := keywordFor?_iff (ofClasses []) .seeded "AA".toList
    "var.parameter".toList typeText (by decide) hname
  have hclosed := (hspec "AAA.AA?".toList).1.not.mp (by decide +kernel)
  exact ⟨by decide, hname, (hspec "AAA?".toList).1.mp (by decide +kernel), hclosed,
    (hspec "AAA.AA?".toList).2 hclosed⟩

end SwiftExistential.Policy
