import SwiftExistential.Proofs.Text.Insertion
import SwiftExistential.SourceFile

/-!
# Applied edits and undone ones

An edit names a span by byte offsets. It is refused unless the offsets cut the text between
characters, in order, and the span there holds the new text or is the one that was expected;
`apply_spec` says when it is refused, when there is nothing to do, and what it writes.

What an edit has written can be taken back by an edit of the same kind, with the two texts in each
other's place (`apply_inverse`). This needs no assumption about the length of the texts: a short
text is expected as it is and a long one by its hash, and a text meets its own description either
way. That two texts could share a hash is of no account, because the inverse edit finds the very
text that was written.
-/

set_option autoImplicit false

namespace SwiftExistential

open Text

/-- An offset that lies between two characters of a text, or at one of its ends. -/
def Text.IsBoundary (t : Text) (n : Nat) : Prop :=
  ∃ before after, t = before ++ after ∧ byteLength before = n

namespace Edit

variable {e : Edit} {t t' : Text} {span : Span}

/-! ## Spans

A span is a way to cut a text into three, with the lengths of the first part and of the first two in
bytes. There is at most one for given offsets. -/

/-- **The span that an edit names** in a text. -/
structure Cuts (e : Edit) (t : Text) (span : Span) : Prop where
  text : t = span.before ++ (span.inside ++ span.after)
  start : byteLength span.before = e.start
  stop : byteLength (span.before ++ span.inside) = e.stop

/-- A text has the span if its ends are places of the text, in order. -/
theorem exists_cuts_iff :
    (∃ span, e.Cuts t span) ↔
      (e.start ≤ e.stop ∧ e.stop ≤ byteLength t) ∧ IsBoundary t e.start ∧ IsBoundary t e.stop := by
  constructor
  · rintro ⟨span, htext, hstart, hstop⟩
    have hinside : byteLength span.before + byteLength span.inside = e.stop := by
      rw [← byteLength_append, hstop]
    have hlen : byteLength t = e.stop + byteLength span.after := by
      rw [htext, byteLength_append, byteLength_append]
      omega
    exact ⟨⟨by omega, by omega⟩, ⟨_, _, htext, hstart⟩, _, span.after,
      by rw [htext, List.append_assoc], hstop⟩
  · rintro ⟨⟨hle, -⟩, ⟨before, rest, htext, hstart⟩, upto, after, htext', hstop⟩
    obtain ⟨inside, rfl, rfl⟩ :=
      exists_of_byteLength_le (htext.symm.trans htext') (by rw [hstart, hstop]; exact hle)
    exact ⟨⟨before, inside, after⟩, htext, hstart, hstop⟩

/-- **A text is cut at the span**, if it has it. -/
theorem locate_eq_ok_iff : e.locate t = .ok span ↔ e.Cuts t span := by
  constructor
  · intro h
    rw [locate] at h
    split at h
    · cases h
    · rename_i hrange
      split at h
      · cases h
      · rename_i before rest hbefore
        split at h
        · cases h
        · rename_i inside after hinside
          cases h
          obtain ⟨htext, hstart⟩ := splitAtByte?_eq_some_iff.mp hbefore
          obtain ⟨rfl, hlen⟩ := splitAtByte?_eq_some_iff.mp hinside
          refine ⟨htext, hstart, ?_⟩
          simp only [byteLength_append]
          omega
  -- The cut texts have the lengths of the edit's range, so the range is inside the text and both
  -- splits find their places.
  · rintro ⟨rfl, hstart, hstop⟩
    have hlen : byteLength span.before + byteLength span.inside = e.stop := by
      rw [← byteLength_append, hstop]
    have hrange : ¬ (e.stop < e.start ∨
        byteLength (span.before ++ (span.inside ++ span.after)) < e.stop) := by
      simp only [byteLength_append]
      omega
    have hinside : e.stop - e.start = byteLength span.inside := by omega
    rw [locate, if_neg hrange, ← hstart]
    simp only [splitAtByte?_append]
    rw [hstart, hinside, splitAtByte?_append]

theorem Cuts.unique {span' : Span} (h : e.Cuts t span) (h' : e.Cuts t span') : span = span' := by
  have hsame : Except.ok (ε := EditError) span = .ok span' := by
    rw [← locate_eq_ok_iff.mpr h, ← locate_eq_ok_iff.mpr h']
  exact Except.ok.inj hsame

/-! ## Outcomes

Where a span exists, the outcome is read off the text in it. Where none exists, the edit is refused,
and which of the complaints it is does not matter here. -/

/-- The edit that puts the text of the span back where an edit has written. -/
def inverse (e : Edit) (inside : Text) : Edit :=
  .ofTexts e.start (e.start + byteLength e.replacement) inside e.replacement

theorem apply_of_cuts (h : e.Cuts t span) :
    e.apply t =
      if span.inside = e.replacement then .ok (.alreadyApplied, t)
      else if e.expected.accepts span.inside then
        .ok (.applied e.replacement.byteLength, span.before ++ e.replacement ++ span.after)
      else .error (.mismatch e.start span.inside) := by
  rw [apply, locate_eq_ok_iff.mpr h]

theorem exists_apply_error (h : ∀ span, ¬ e.Cuts t span) : ∃ err, e.apply t = .error err := by
  rw [apply]
  cases hlocate : e.locate t with
  | ok span => exact absurd (locate_eq_ok_iff.mp hlocate) (h span)
  | error err => exact ⟨err, rfl⟩

theorem apply_eq_error_iff :
    (∃ err, e.apply t = .error err) ↔
      (∀ span, ¬ e.Cuts t span) ∨
        ∃ span, e.Cuts t span ∧ span.inside ≠ e.replacement ∧
          e.expected.accepts span.inside = false := by
  by_cases hcuts : ∃ span, e.Cuts t span
  · obtain ⟨span, hspan⟩ := hcuts
    have hone : (∃ span, e.Cuts t span ∧ span.inside ≠ e.replacement ∧
        e.expected.accepts span.inside = false) ↔
        span.inside ≠ e.replacement ∧ e.expected.accepts span.inside = false :=
      ⟨fun ⟨span', hspan', h⟩ => hspan.unique hspan' ▸ h, fun h => ⟨span, hspan, h⟩⟩
    rw [hone, apply_of_cuts hspan, or_iff_right fun hno => hno span hspan]
    by_cases hsame : span.inside = e.replacement
    · simp [hsame]
    · cases haccepts : e.expected.accepts span.inside <;> simp [hsame]
  · rw [not_exists] at hcuts
    exact iff_of_true (exists_apply_error hcuts) (.inl hcuts)

theorem apply_eq_alreadyApplied_iff :
    e.apply t = .ok (.alreadyApplied, t') ↔
      t' = t ∧ ∃ span, e.Cuts t span ∧ span.inside = e.replacement := by
  constructor
  · intro h
    by_cases hcuts : ∃ span, e.Cuts t span
    · obtain ⟨span, hspan⟩ := hcuts
      rw [apply_of_cuts hspan] at h
      split at h
      · rename_i hsame
        cases h
        exact ⟨rfl, span, hspan, hsame⟩
      · split at h <;> cases h
    · obtain ⟨err, herr⟩ := exists_apply_error (not_exists.mp hcuts)
      rw [herr] at h
      cases h
  · rintro ⟨rfl, span, hspan, hsame⟩
    rw [apply_of_cuts hspan, if_pos hsame]

theorem apply_eq_applied_iff {bytes : Nat} :
    e.apply t = .ok (.applied bytes, t') ↔
      ∃ span, e.Cuts t span ∧ span.inside ≠ e.replacement ∧
        e.expected.accepts span.inside = true ∧ bytes = byteLength e.replacement ∧
        t' = span.before ++ (e.replacement ++ span.after) := by
  constructor
  · intro h
    by_cases hcuts : ∃ span, e.Cuts t span
    · obtain ⟨span, hspan⟩ := hcuts
      rw [apply_of_cuts hspan] at h
      split at h
      · cases h
      · rename_i hnew
        split at h
        · rename_i haccepts
          cases h
          exact ⟨span, hspan, hnew, haccepts, rfl, List.append_assoc _ _ _⟩
        · cases h
    · obtain ⟨err, herr⟩ := exists_apply_error (not_exists.mp hcuts)
      rw [herr] at h
      cases h
  · rintro ⟨span, hspan, hnew, haccepts, rfl, rfl⟩
    rw [apply_of_cuts hspan, if_neg hnew, if_pos haccepts, List.append_assoc]

/-- **What was written has a span of its own**, in which the inverse edit finds it. -/
theorem Cuts.inverse (h : e.Cuts t span) :
    (e.inverse span.inside).Cuts (span.before ++ (e.replacement ++ span.after))
      ⟨span.before, e.replacement, span.after⟩ :=
  ⟨rfl, h.start, by rw [byteLength_append, h.start]; rfl⟩

/-- **An applied edit can be taken back**, however long the texts are: the inverse edit expects what
was written, by the text itself or by its hash. -/
theorem apply_inverse {bytes : Nat} (hcuts : e.Cuts t span)
    (h : e.apply t = .ok (.applied bytes, t')) :
    (e.inverse span.inside).apply t' = .ok (.applied (byteLength span.inside), t) := by
  obtain ⟨span', hspan', hnew, -, -, rfl⟩ := apply_eq_applied_iff.mp h
  obtain rfl := hcuts.unique hspan'
  exact apply_eq_applied_iff.mpr
    ⟨_, hcuts.inverse, hnew.symm, Verification.accepts_ofText e.replacement, rfl, hcuts.text⟩

/-- **Every edit of a text** is refused, finds its new text there already, or replaces its span by
it. It is refused exactly if the offsets are out of range or order, one of them lies inside a
character, or the span holds neither the new text nor what was expected; then a file in memory stays
as it is. What was replaced can be put back by an edit that expects the new text. -/
theorem apply_spec (e : Edit) (t : Text) :
    ((∃ err, e.apply t = .error err) ↔
        ¬ (e.start ≤ e.stop ∧ e.stop ≤ byteLength t) ∨ ¬ IsBoundary t e.start ∨
          ¬ IsBoundary t e.stop ∨ ∃ span, e.Cuts t span ∧ span.inside ≠ e.replacement ∧
            e.expected.accepts span.inside = false) ∧
      (∀ t', e.apply t = .ok (.alreadyApplied, t') ↔
        t' = t ∧ ∃ span, e.Cuts t span ∧ span.inside = e.replacement) ∧
      (∀ bytes t', e.apply t = .ok (.applied bytes, t') ↔
        ∃ span, e.Cuts t span ∧ span.inside ≠ e.replacement ∧
          e.expected.accepts span.inside = true ∧ bytes = byteLength e.replacement ∧
          t' = span.before ++ (e.replacement ++ span.after)) ∧
      (∀ (file : SourceFile) (err : EditError), file.content = t → e.apply t = .error err →
        file.apply e = (file, .error err)) ∧
      ∀ span bytes t', e.Cuts t span → e.apply t = .ok (.applied bytes, t') →
        (ofTexts e.start (e.start + byteLength e.replacement) span.inside e.replacement).apply t' =
          .ok (.applied (byteLength span.inside), t) := by
  refine ⟨?_, fun t' => apply_eq_alreadyApplied_iff, fun bytes t' => apply_eq_applied_iff, ?_,
    fun span bytes t' hcuts happly => apply_inverse hcuts happly⟩
  · rw [apply_eq_error_iff, ← not_exists, exists_cuts_iff]
    simp only [not_and_or, or_assoc]
  · rintro file err rfl herr
    rw [SourceFile.apply, herr]

/-- A line whose name takes two bytes. -/
def accentedLine : Text := "let é: P\n".toList

/-- An edit that writes more than is compared as it stands over the name. -/
def longEdit : Edit := .ofTexts 4 6 (List.replicate 1100 'x') "é".toList

def longLine : Text := "let ".toList ++ (List.replicate 1100 'x' ++ ": P\n".toList)

/-- An edit that wrote a long text is taken back by the hash of the text. -/
theorem apply_spec_of_longEdit :
    longEdit.apply accentedLine = .ok (.applied 1100, longLine) ∧
      Verification.ofText longEdit.replacement =
        .hash (Verification.hashText longEdit.replacement) ∧
      (ofTexts 4 1104 "é".toList longEdit.replacement).apply longLine =
        .ok (.applied 2, accentedLine) := by
  obtain ⟨-, -, happlied, -, hundone⟩ := apply_spec longEdit accentedLine
  have hlen : byteLength longEdit.replacement = 1100 := by decide +kernel
  have hcuts : longEdit.Cuts accentedLine ⟨"let ".toList, "é".toList, ": P\n".toList⟩ :=
    ⟨by decide, by decide, by decide⟩
  have happly : longEdit.apply accentedLine = .ok (.applied 1100, longLine) :=
    (happlied 1100 longLine).mpr
      ⟨_, hcuts, by decide, by decide, hlen.symm, rfl⟩
  have hback := hundone _ _ _ hcuts happly
  rw [hlen] at hback
  exact ⟨happly, if_pos (by rw [hlen]; decide), hback⟩

end Edit

end SwiftExistential
