import SwiftExistential.Diagnostic
import SwiftExistential.Proofs.Pattern.Spans
import SwiftExistential.Proofs.Text.Tokens

/-!
# Error lines

A line names the place of an error if it is `<file>:<line>[:<column>]: error: <message>` with a line
number that a machine can hold. `Located` says this of the text alone: where a part ends is settled
by the character behind it, so a line has at most one reading (`Fields.unique`). The pattern over
error lines finds the same lines with the same parts (`errorLine?_eq_some_iff`).

A pattern alone would not be a specification here. Its parts can stop in several places, and which
of its ways is preferred depends on the order in which they are tried. With a unique reading,
whatever way is taken is the right one.
-/

set_option autoImplicit false

namespace SwiftExistential

open Text
open Cursor (Reads)

namespace Pattern

variable {s t : State} {m : Match}

/-! ## Ends, runs and groups

These parts occur only in patterns over whole lines: the ends of the text, and groups around runs.
-/

theorem mem_ways_textStart (h : t ∈ textStart.ways s) : t = s ∧ s.cursor.before = [] := by
  rw [ways] at h
  split at h
  · rename_i hstart
    exact ⟨List.mem_singleton.mp h, List.isEmpty_iff.mp hstart⟩
  · cases h

theorem mem_ways_textEnd (h : t ∈ textEnd.ways s) : t = s ∧ s.cursor.after = [] := by
  rw [ways] at h
  split at h
  · rename_i hend
    exact ⟨List.mem_singleton.mp h, List.isEmpty_iff.mp hend⟩
  · cases h

theorem mem_ways_star_one {cls : CharClass} (h : t ∈ (star (one cls)).ways s) :
    ∃ x : Text, (∀ c ∈ x, cls.holds c = true) ∧ Reads x s.cursor t.cursor ∧ t.groups = s.groups :=
  manyWays_induction (HasRun cls s) (fun _ _ hu hv => hu.step hv) ⟨[], by simp, Reads.refl _, rfl⟩ h

theorem mem_ways_group_run {i : Nat} {cls : CharClass} (h : t ∈ (group i (plus (one cls))).ways s) :
    ∃ x : Text, (x ≠ [] ∧ ∀ c ∈ x, cls.holds c = true) ∧ Reads x s.cursor t.cursor ∧
      t.groups = ⟨i, s.cursor, t.cursor⟩ :: s.groups := by
  obtain ⟨u, hu, hcursor, hgroups⟩ := mem_ways_group h
  obtain ⟨c, x, hc, hx, hread, hsame⟩ := mem_ways_plus_one hu
  refine ⟨c :: x, ⟨List.cons_ne_nil c x, List.forall_mem_cons.mpr ⟨hc, hx⟩⟩, hcursor ▸ hread, ?_⟩
  rw [hgroups, hsame, hcursor]

theorem groupText?_eq_some {i : Nat} {g : Group} {x : Text}
    (hfind : m.groups.find? (·.index == i) = some g) (hread : Reads x g.start g.stop) :
    m.groupText? i = some x := by
  rw [Match.groupText?, Match.group?, hfind, Option.map_some, hread.textTo_eq]

theorem spans_run (cls : CharClass) {x : Text} (hx : x ≠ [] ∧ ∀ c ∈ x, cls.holds c = true)
    {a b : Cursor} (hread : Reads x a b) : (plus (one cls)).Spans a b := by
  obtain ⟨c, x, rfl⟩ := List.exists_cons_of_ne_nil hx.1
  obtain ⟨hc, hx⟩ := List.forall_mem_cons.mp hx.2
  exact spans_plus_one_iff.mpr ⟨c, x, hc, hx, hread⟩

end Pattern

namespace Diagnostic

open Pattern

/-! ## The fields of an error line

The file holds no colon, the numbers are digits, and the message goes up to the end of the line. A
column that is left out leaves no trace. -/

def IsDigits (x : Text) : Prop := x ≠ [] ∧ ∀ c ∈ x, Unicode.isDigit c = true

/-- A column as it stands behind the line number. -/
def columnText (column : Option Text) : Text := column.elim [] (':' :: ·)

/-- **The fields of an error line.** -/
structure Fields (line file number : Text) (column : Option Text) (message : Text) : Prop where
  line_eq : line =
    file ++ (':' :: (number ++ (columnText column ++ (": error: ".toList ++ message))))
  file : file ≠ [] ∧ ':' ∉ file
  number : IsDigits number
  column : ∀ x ∈ column, IsDigits x
  message : '\n' ∉ message

/-- **A line that names the place of an error.** Its line number has to be a number; a column that
is none is left out. -/
def Located (line : Text) (e : ErrorLine) : Prop :=
  ∃ number column, Fields line e.file number column e.message ∧ number? number = some e.line ∧
    column.bind number? = e.column

/-- **A line has its fields in one way**: a colon ends the file, and what is no digit ends a number.
-/
theorem Fields.unique {line file file' number number' message message' : Text}
    {column column' : Option Text} (h : Fields line file number column message)
    (h' : Fields line file' number' column' message') :
    file = file' ∧ number = number' ∧ column = column' ∧ message = message' := by
  have hfile {x : Text} (hx : ':' ∉ x) : ∀ c ∈ x, (c != ':') = true := fun c hc =>
    bne_iff_ne.mpr fun heq => hx (heq ▸ hc)
  have hdigits {column : Option Text} (r : Text) :
      (columnText column ++ (": error: ".toList ++ r)).head?.any Unicode.isDigit = false := by
    cases column <;> rfl
  obtain ⟨rfl, hbehind⟩ := append_inj_of_forall (h.line_eq.symm.trans h'.line_eq) (hfile h.file.2)
    (hfile h'.file.2) rfl rfl
  obtain ⟨rfl, hrest⟩ := append_inj_of_forall (List.cons.inj hbehind).2 h.number.2 h'.number.2
    (hdigits message) (hdigits message')
  refine ⟨rfl, rfl, ?_⟩
  -- a space is no digit, so a column is there for both or for neither
  have hspace {x r r' : Text} (hx : IsDigits x) : ':' :: (x ++ r) ≠ ": error: ".toList ++ r' := by
    obtain ⟨c, x, rfl⟩ := List.exists_cons_of_ne_nil hx.1
    intro heq
    obtain rfl : c = ' ' := (List.cons.inj (List.cons.inj heq).2).1
    exact absurd (hx.2 ' ' List.mem_cons_self) (by decide)
  cases column with
  | none =>
      cases column' with
      | none =>
          have hmessage : ": error: ".toList ++ message = ": error: ".toList ++ message' := hrest
          exact ⟨rfl, List.append_cancel_left hmessage⟩
      | some x => exact absurd hrest.symm (hspace (h'.column x rfl))
  | some x =>
      cases column' with
      | none => exact absurd hrest (hspace (h.column x rfl))
      | some x' =>
          obtain ⟨rfl, hmessage⟩ := append_inj_of_forall (List.cons.inj hrest).2 (h.column x rfl).2
            (h'.column x' rfl).2 rfl rfl
          exact ⟨rfl, List.append_cancel_left hmessage⟩

/-! ## The pattern

The pattern is read from the left, as those of the cleanup are; the groups of the column are there
or not, together. -/

/-- The part of the pattern that reads a column. -/
def columnField : Pattern :=
  optional (cluster (seq (char ':') (group 3 (plus (one .digit)))))

/-- The column that was read, and the groups that this remembers. -/
inductive ColumnGroups : Option Text → List Group → Prop
  | none : ColumnGroups none []
  | some {x : Text} {a b : Cursor} (hread : Reads x a b) : ColumnGroups (some x) [⟨3, a, b⟩]

theorem reads_of_columnField {s t : State} (h : t ∈ columnField.ways s) :
    ∃ column gs, (∀ x ∈ column, IsDigits x) ∧ Reads (columnText column) s.cursor t.cursor ∧
      ColumnGroups column gs ∧ t.groups = gs ++ s.groups := by
  rcases mem_ways_optional h with h | rfl
  · obtain ⟨u, hu, ht⟩ := mem_ways_seq (show t ∈ (seq (char ':') _).ways s from h)
    obtain ⟨hcolon, hsame⟩ := mem_ways_char hu
    obtain ⟨x, hx, hread, hgroups⟩ := mem_ways_group_run ht
    refine ⟨some x, _, ?_, hcolon.trans hread, .some hread, by rw [hgroups, hsame]; rfl⟩
    rintro y hy
    cases hy
    exact hx
  · exact ⟨none, [], by simp, Reads.refl _, .none, rfl⟩

/-- **What a match of the pattern reads**, and the groups that it remembers. -/
theorem reads_of_location {m : Match} (hm : IsMatch location m) :
    ∃ (file number message : Text) (column : Option Text) (a b c d e : Cursor) (gs : List Group),
      m.start.before = [] ∧ m.stop.after = [] ∧
      (file ≠ [] ∧ ':' ∉ file) ∧ IsDigits number ∧ (∀ x ∈ column, IsDigits x) ∧ '\n' ∉ message ∧
      Reads file m.start a ∧ Reads [':'] a b ∧ Reads number b c ∧ Reads (columnText column) c d ∧
      Reads ": error: ".toList d e ∧ Reads message e m.stop ∧ ColumnGroups column gs ∧
      m.groups = ⟨4, e, m.stop⟩ :: (gs ++ [⟨2, b, c⟩, ⟨1, m.start, a⟩]) := by
  obtain ⟨t, ht, hstop, hgroups⟩ := hm
  obtain ⟨u, hu, ht⟩ := mem_ways_inOrder_cons ht
  obtain ⟨rfl, hstart⟩ : u = .start m.start ∧ m.start.before = [] := mem_ways_textStart hu
  -- One part of the pattern after another, with what it read and the groups it left.
  obtain ⟨a, ha, ht⟩ := mem_ways_inOrder_cons ht
  obtain ⟨file, hfile, hfileRead, haGroups⟩ := mem_ways_group_run ha
  obtain ⟨b, hb, ht⟩ := mem_ways_inOrder_cons ht
  obtain ⟨hcolonRead, hbGroups⟩ := mem_ways_char hb
  obtain ⟨c, hc, ht⟩ := mem_ways_inOrder_cons ht
  obtain ⟨number, hnumber, hnumberRead, hcGroups⟩ := mem_ways_group_run hc
  obtain ⟨d, hd, ht⟩ := mem_ways_inOrder_cons ht
  obtain ⟨column, gs, hcolumn, hcolumnRead, hgs, hdGroups⟩ := reads_of_columnField hd
  obtain ⟨e, he, ht⟩ := mem_ways_inOrder_cons ht
  obtain ⟨herrorRead, heGroups⟩ := mem_ways_literal he
  obtain ⟨f, hf, ht⟩ := mem_ways_inOrder_cons ht
  obtain ⟨f', hf', hcursor, hfGroups⟩ := mem_ways_group hf
  obtain ⟨message, hmessage, hmessageRead, hf'Groups⟩ := mem_ways_star_one hf'
  obtain ⟨rfl, hend⟩ := mem_ways_textEnd ht
  rw [← hcursor, ← hstop] at hmessageRead
  refine ⟨file, number, message, column, a.cursor, b.cursor, c.cursor, d.cursor, e.cursor, gs, hstart,
    hstop ▸ hend, ⟨hfile.1, fun hmem => ?_⟩, hnumber, hcolumn, fun hmem => ?_, hfileRead, hcolonRead,
    hnumberRead, hcolumnRead, herrorRead, hmessageRead, hgs, ?_⟩
  · exact absurd (hfile.2 ':' hmem) (by decide)
  · exact absurd (hmessage '\n' hmem) (by decide)
  · rw [hgroups, hfGroups, hf'Groups, heGroups, hdGroups, hcGroups, hbGroups, haGroups, hstop,
      hcursor]
    rfl

theorem fields_of_location {line : Text} {m : Match} (h : location.findIn? line = some m) :
    Fields line (m.groupText 1) (m.groupText 2) (m.groupText? 3) (m.groupText 4) := by
  obtain ⟨⟨x, hx⟩, hm⟩ := find?_eq_some h
  obtain ⟨file, number, message, column, a, b, c, d, e, gs, hstart, hstop, hfile, hnumber, hcolumn,
    hmessage, hfileRead, hcolonRead, hnumberRead, hcolumnRead, herrorRead, hmessageRead, hgs, hgroups⟩ :=
    reads_of_location hm
  have hone : m.groupText 1 = file :=
    groupText_eq (by rw [hgroups]; cases hgs <;> rfl) hfileRead
  have htwo : m.groupText 2 = number :=
    groupText_eq (by rw [hgroups]; cases hgs <;> rfl) hnumberRead
  have hthree : m.groupText? 3 = column := by
    cases hgs with
    | none =>
        rw [Match.groupText?, Match.group?, hgroups]
        rfl
    | some hread => exact groupText?_eq_some (by rw [hgroups]; rfl) hread
  have hfour : m.groupText 4 = message := groupText_eq (by rw [hgroups]; rfl) hmessageRead
  -- the match begins at the start of the line
  have hline : m.start.after = line := by
    obtain rfl : x = [] := by
      have hbefore := hx.before
      rw [hstart] at hbefore
      exact List.reverse_eq_nil_iff.mp (List.append_eq_nil_iff.mp hbefore.symm).1
    rw [hx.eq_of_nil]
    rfl
  rw [hone, htwo, hthree, hfour]
  refine ⟨?_, hfile, hnumber, hcolumn, hmessage⟩
  rw [← hline, hfileRead.after, hcolonRead.after, hnumberRead.after, hcolumnRead.after,
    herrorRead.after, hmessageRead.after, hstop, List.append_nil]
  rfl

theorem exists_findIn?_location {line file number message : Text} {column : Option Text}
    (h : Fields line file number column message) : ∃ m, location.findIn? line = some m := by
  have hread : (Cursor.start line).after =
      file ++ (':' :: (number ++ (columnText column ++ (": error: ".toList ++ message)))) := h.line_eq
  -- The cursors between the fields of the line,
  obtain ⟨a, hfile, ha⟩ := Cursor.exists_reads_of_after hread
  obtain ⟨b, hcolon, hb⟩ := Cursor.exists_reads_of_after (x := [':']) ha
  obtain ⟨c, hnumber, hc⟩ := Cursor.exists_reads_of_after hb
  obtain ⟨d, hcolumn, hd⟩ := Cursor.exists_reads_of_after hc
  obtain ⟨e, herror, he⟩ := Cursor.exists_reads_of_after hd
  obtain ⟨f, hmessage, hf⟩ := Cursor.exists_reads_of_after (he.trans (List.append_nil _).symm)
  -- and the pattern from one of them to the next.
  have hspans : location.Spans (.start line) f := by
    refine ⟨_, ⟨rfl, rfl⟩, a, spans_run (.noneOf [':']) ⟨h.file.1, ?_⟩ hfile, b, hcolon, c,
      spans_run .digit h.number hnumber, d, ?_, e, spans_literal_iff.mpr herror, f,
      spans_star_one_iff.mpr ⟨message, ?_, hmessage⟩, rfl, ?_⟩
    · rintro c hc
      have hother : c ≠ ':' := fun heq => h.file.2 (heq ▸ hc)
      simpa [CharClass.holds] using hother
    · cases column with
      | none => exact .inr hcolumn.eq_of_nil
      | some x =>
          obtain ⟨c', hcolon', hread⟩ := Reads.exists_between (x := [':']) hcolumn
          exact .inl ⟨c', hcolon', spans_run .digit (h.column x rfl) hread⟩
    · rintro c hc
      have hother : c ≠ '\n' := fun heq => h.message (heq ▸ hc)
      simpa [CharClass.holds] using hother
    · rw [hf]
      rfl
  obtain ⟨m, hm, -⟩ := find?_complete (Reads.refl _) hspans
  exact ⟨m, hm⟩

/-- **An error line** is one that has its fields. -/
theorem errorLine?_eq_some_iff {line : Text} {e : ErrorLine} :
    errorLine? line = some e ↔ Located line e := by
  rw [errorLine?, Option.bind_eq_some_iff]
  constructor
  · rintro ⟨m, hm, he⟩
    obtain ⟨n, hn, rfl⟩ := Option.map_eq_some_iff.mp he
    exact ⟨_, _, fields_of_location hm, hn, rfl⟩
  · rintro ⟨number, column, hfields, hnumber, hcolumn⟩
    obtain ⟨m, hm⟩ := exists_findIn?_location hfields
    obtain ⟨hfile, hsame, hsameColumn, hmessage⟩ := (fields_of_location hm).unique hfields
    refine ⟨m, hm, ?_⟩
    rw [hfile, hsame, hsameColumn, hmessage, hnumber, hcolumn]
    rfl

end Diagnostic

end SwiftExistential
