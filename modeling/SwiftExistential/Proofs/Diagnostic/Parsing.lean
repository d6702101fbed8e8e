import Mathlib.Data.List.TakeWhile
import SwiftExistential.Diagnostic
import SwiftExistential.Proofs.Diagnostic.Located
import SwiftExistential.Proofs.Registry.FirstWriter

/-!
# What an output contributes

`parse` threads a registry through the lines of an output and stops at a missing header. What it
finds does not depend on the registry: the outcome is the header that the first such line reports
or, without one, the fixups and the lines that were not understood, in the order of the lines
(`parse_fst`).

If no line misses a header, each line that names the place of an error contributes one element, a
fixup at this place or the line as it is, and no other line contributes anything (`Contributes`).
The registry gains the protocols that such lines name before the first missing header, each with the
file of the first line that names it (`FirstNamed`). `parse_spec` puts this together; it holds of
every list of lines, with any registry.

The specification is written without the loop. Its parts are a relation between lines and what they
contribute, and a property of the first line that names a protocol.
-/

set_option autoImplicit false

namespace SwiftExistential.Diagnostic

open Pattern

/-! ## What one line contributes

`read` looks at one line. It reports a missing header, names a place, or says nothing. -/

def Reading.fixup? : Reading → Option Fixup
  | fixable fixup _ => some fixup
  | _ => none

def Reading.isUnrecognized : Reading → Bool
  | unrecognized => true
  | _ => false

def fixupsOf (lines : List Text) : List Fixup := lines.filterMap fun line => (read line).fixup?

/-- The error lines that were not understood. -/
def unrecognizedOf (lines : List Text) : List Text :=
  lines.filter fun line => (read line).isUnrecognized

theorem read_of_missingHeader? {line : Text} {header : MissingHeader}
    (h : missingHeader? line = some header) : read line = .headerMissing header := by
  simp only [read, h]

/-- A line without a missing header is read as something else. -/
theorem read_ne_headerMissing {line : Text} (h : missingHeader? line = none)
    (header : MissingHeader) : read line ≠ .headerMissing header := by
  intro hread
  simp only [read, h] at hread
  split at hread
  · cases hread
  · split at hread <;> cases hread

/-! ## Whole outputs

An output is cut short by the first missing header. If there is one, whatever was found before is
forgotten, but what was learned about protocols stays. -/

/-- **The outcome of an output**, read off its lines. -/
theorem parse_fst (registry : Registry) (lines : List Text) :
    (parse registry lines).1 =
      match lines.findSome? missingHeader? with
      | some header => .aborted header
      | none => .completed (fixupsOf lines) (unrecognizedOf lines) := by
  induction lines generalizing registry with
  | nil => rfl
  | cons line rest ih =>
      cases hm : missingHeader? line with
      | some header => simp only [parse, read_of_missingHeader? hm, List.findSome?_cons, hm]
      | none =>
          -- the line adds its own part to what the lines after it give
          rw [List.findSome?_cons, hm]
          cases hr : read line with
          | headerMissing header => exact absurd hr (read_ne_headerMissing hm header)
          | fixable fixup protocol =>
              simp only [parse, hr, ih, fixupsOf, unrecognizedOf, List.filterMap_cons,
                List.filter_cons, Reading.fixup?, Reading.isUnrecognized]
              cases rest.findSome? missingHeader? <;> rfl
          | unrecognized =>
              simp only [parse, hr, ih, fixupsOf, unrecognizedOf, List.filterMap_cons,
                List.filter_cons, Reading.fixup?, Reading.isUnrecognized]
              cases rest.findSome? missingHeader? <;> rfl
          | silent =>
              simp only [parse, hr, ih, fixupsOf, unrecognizedOf, List.filterMap_cons,
                List.filter_cons, Reading.fixup?, Reading.isUnrecognized]
              cases rest.findSome? missingHeader? <;> rfl

/-- An output without a fixup, an error line or a missing header has silent lines only. -/
theorem all_silent_iff (lines : List Text) :
    (∀ line ∈ lines, read line = .silent) ↔
      lines.findSome? missingHeader? = none ∧ fixupsOf lines = [] ∧ unrecognizedOf lines = [] := by
  constructor
  -- A silent line is in none of the three lists.
  · intro h
    refine ⟨?_, ?_, ?_⟩
    · rw [List.findSome?_eq_none_iff]
      intro line hl
      cases hm : missingHeader? line with
      | none => rfl
      | some header =>
          have hs := h line hl
          rw [read_of_missingHeader? hm] at hs
          cases hs
    · rw [fixupsOf, List.filterMap_eq_nil_iff]
      intro line hl
      rw [h line hl]
      rfl
    · rw [unrecognizedOf, List.filter_eq_nil_iff]
      intro line hl
      rw [h line hl]
      decide
  -- And a line that is in none of them has only one reading left.
  · rintro ⟨hm, hf, hu⟩ line hl
    rw [List.findSome?_eq_none_iff] at hm
    rw [fixupsOf, List.filterMap_eq_nil_iff] at hf
    rw [unrecognizedOf, List.filter_eq_nil_iff] at hu
    have hf := hf line hl
    have hu := hu line hl
    cases hr : read line with
    | headerMissing header => exact absurd hr (read_ne_headerMissing (hm line hl) header)
    | fixable fixup protocol => rw [hr] at hf; cases hf
    | unrecognized => rw [hr] at hu; exact absurd rfl hu
    | silent => rfl

/-! ## What lines contribute -/

/-- The lines before the first one that misses a header. -/
def beforeHeader (lines : List Text) : List Text :=
  lines.takeWhile fun line => !missingHeader.occursIn line

/-- **What lines contribute**, in their order: each line that names the place of an error a fixup
there or itself, by whether its message is understood, and every other line nothing. -/
inductive Contributes : List Text → List Fixup → List Text → Prop
  | nil : Contributes [] [] []
  | silent {line : Text} {lines : List Text} {fixups : List Fixup} {unrecognized : List Text}
      (hline : ∀ e, ¬ Located line e) (rest : Contributes lines fixups unrecognized) :
      Contributes (line :: lines) fixups unrecognized
  | fixup {line : Text} {lines : List Text} {fixups : List Fixup} {unrecognized : List Text}
      {e : ErrorLine} {verdict : Verdict} (hline : Located line e)
      (hmessage : understand? e.message = some verdict)
      (rest : Contributes lines fixups unrecognized) :
      Contributes (line :: lines) (⟨e.file, e.line, e.column, verdict.fix⟩ :: fixups) unrecognized
  | verbatim {line : Text} {lines : List Text} {fixups : List Fixup} {unrecognized : List Text}
      {e : ErrorLine} (hline : Located line e) (hmessage : understand? e.message = none)
      (rest : Contributes lines fixups unrecognized) :
      Contributes (line :: lines) fixups (line :: unrecognized)

/-! ## What lines name

Two shapes of messages name a protocol. A name that was known before keeps its origin. -/

/-- The protocol that a message names. One of both shapes is read as a use as a type. -/
def protocolOf? (message : Text) : Option Text :=
  match useAsType.findIn? message with
  | some m => some (m.groupText 1)
  | none => (noEffect.findIn? message).map fun m => withoutMarks (m.groupText 1)

/-- An error line whose message names a protocol. -/
def Names (line name file : Text) : Prop :=
  ∃ e, Located line e ∧ protocolOf? e.message = some name ∧ e.file = file

/-- **The first line that names a protocol** names this file. -/
def FirstNamed (lines : List Text) (name file : Text) : Prop :=
  ∃ earlier line later, lines = earlier ++ line :: later ∧ Names line name file ∧
    ∀ other ∈ earlier, ∀ file', ¬ Names other name file'

/-- The entry that a line adds to a registry. -/
def naming? (line : Text) : Option (Text × Origin) :=
  (errorLine? line).bind fun e => (protocolOf? e.message).map fun name => (name, .file e.file)

/-! ## One line

What a line contributes is settled by two patterns and a table of messages, in this order. -/

section Line

variable {line : Text} {e : ErrorLine}

theorem occursIn_missingHeader (line : Text) :
    missingHeader.occursIn line = (missingHeader? line).isSome := by
  rw [missingHeader?, Option.isSome_map, occursIn]

theorem missingHeader?_eq_none_iff :
    missingHeader? line = none ↔ missingHeader.occursIn line = false := by
  rw [occursIn_missingHeader, Option.isSome_eq_false_iff, Option.isNone_iff_eq_none]

theorem errorLine?_eq_none_iff : errorLine? line = none ↔ ∀ e, ¬ Located line e := by
  simp only [← errorLine?_eq_some_iff, Option.eq_none_iff_forall_ne_some, ne_eq]

theorem read_eq_silent (hm : missingHeader? line = none) (he : errorLine? line = none) :
    read line = .silent := by
  simp only [read, hm, he]

theorem read_eq_unrecognized (hm : missingHeader? line = none) (he : errorLine? line = some e)
    (hu : understand? e.message = none) : read line = .unrecognized := by
  simp only [read, hm, he, hu]

theorem read_eq_fixable {verdict : Verdict} (hm : missingHeader? line = none)
    (he : errorLine? line = some e) (hu : understand? e.message = some verdict) :
    read line = .fixable ⟨e.file, e.line, e.column, verdict.fix⟩ verdict.protocol := by
  simp only [read, hm, he, hu]

/-- **The messages that are understood**, in the order in which they are tried. A verdict about a
later one says that no earlier one was found. -/
theorem understand?_cases {message : Text} {verdict : Verdict}
    (h : understand? message = some verdict) :
    (∃ m, useAsType.findIn? message = some m ∧
      verdict = ⟨.addAny (m.groupText 1), some (m.groupText 1)⟩) ∨
    useAsType.findIn? message = none ∧
      ((∃ m, noEffect.findIn? message = some m ∧
        verdict = ⟨.dropAny (m.groupText 1), some (withoutMarks (m.groupText 1))⟩) ∨
      noEffect.findIn? message = none ∧
        ((overrideMismatch.occursIn message = true ∧ verdict = ⟨.anyForParameter, none⟩) ∨
        (someReturn.occursIn message = true ∧ verdict = ⟨.anyForReturn, none⟩) ∨
        ∃ m, constrainedSome.findIn? message = some m ∧
          verdict = ⟨.dropSome (m.groupText 1), none⟩)) := by
  rw [understand?] at h
  cases huse : useAsType.findIn? message with
  | some m =>
      rw [huse] at h
      exact .inl ⟨m, rfl, (Option.some.inj h).symm⟩
  | none =>
      refine .inr ⟨rfl, ?_⟩
      cases heffect : noEffect.findIn? message with
      | some m =>
          rw [huse, heffect] at h
          exact .inl ⟨m, rfl, (Option.some.inj h).symm⟩
      | none =>
          refine .inr ⟨rfl, ?_⟩
          simp only [huse, heffect] at h
          split at h
          · exact .inl ⟨‹_›, (Option.some.inj h).symm⟩
          · split at h
            · exact .inr (.inl ⟨‹_›, (Option.some.inj h).symm⟩)
            · obtain ⟨m, hm, rfl⟩ := Option.map_eq_some_iff.mp h
              exact .inr (.inr ⟨m, hm, rfl⟩)

/-- A message that is understood names the protocol that its verdict holds. -/
theorem protocol_of_understand? {message : Text} {verdict : Verdict}
    (h : understand? message = some verdict) : verdict.protocol = protocolOf? message := by
  rw [protocolOf?]
  rcases understand?_cases h with ⟨m, huse, rfl⟩ | ⟨huse, hlater⟩
  · rw [huse]
  · rw [huse]
    rcases hlater with ⟨m, heffect, rfl⟩ | ⟨heffect, hlater⟩
    · rw [heffect]
      rfl
    · rw [heffect]
      rcases hlater with ⟨-, rfl⟩ | ⟨-, rfl⟩ | ⟨m, -, rfl⟩ <;> rfl

theorem protocolOf?_eq_none {message : Text} (h : understand? message = none) :
    protocolOf? message = none := by
  rw [understand?] at h
  rw [protocolOf?]
  cases huse : useAsType.findIn? message with
  | some m =>
      rw [huse] at h
      cases h
  | none =>
      cases heffect : noEffect.findIn? message with
      | some m =>
          rw [huse, heffect] at h
          cases h
      | none => rfl

theorem names_iff {name file : Text} :
    Names line name file ↔ naming? line = some (name, .file file) := by
  rw [naming?, Option.bind_eq_some_iff]
  constructor
  · rintro ⟨e, he, hname, rfl⟩
    exact ⟨e, errorLine?_eq_some_iff.mpr he, by rw [hname, Option.map_some]⟩
  · rintro ⟨e, he, hname⟩
    obtain ⟨n, hn, heq⟩ := Option.map_eq_some_iff.mp hname
    cases heq
    exact ⟨e, errorLine?_eq_some_iff.mp he, hn, rfl⟩

theorem exists_file_of_naming? {name : Text} {origin : Origin}
    (h : naming? line = some (name, origin)) : ∃ file, origin = .file file := by
  rw [naming?, Option.bind_eq_some_iff] at h
  obtain ⟨e, -, hname⟩ := h
  obtain ⟨n, -, heq⟩ := Option.map_eq_some_iff.mp hname
  cases heq
  exact ⟨e.file, rfl⟩

end Line

/-! ## The registry

Entries are put into the registry line by line, and the first one for a name stays. So looking a
name up afterwards is looking for the first line that names it. -/

section Registry

variable {line : Text} (registry : Registry) (lines : List Text)

theorem beforeHeader_cons_of_some {header : MissingHeader}
    (h : missingHeader? line = some header) : beforeHeader (line :: lines) = [] := by
  rw [beforeHeader, List.takeWhile_cons, occursIn_missingHeader, h]
  rfl

theorem beforeHeader_cons_of_none (h : missingHeader? line = none) :
    beforeHeader (line :: lines) = line :: beforeHeader lines := by
  rw [beforeHeader, List.takeWhile_cons, occursIn_missingHeader, h]
  rfl

theorem beforeHeader_beforeHeader : beforeHeader (beforeHeader lines) = beforeHeader lines :=
  List.takeWhile_idem

/-- A line that misses no header adds what it names. -/
theorem parse_cons_snd (hm : missingHeader? line = none) :
    (parse registry (line :: lines)).2 =
      (parse (registry.insertAll (naming? line).toList) lines).2 := by
  cases he : errorLine? line with
  | none =>
      rw [naming?, he]
      simp only [parse, read_eq_silent hm he]
      rfl
  | some e =>
      rw [naming?, he, Option.bind_some]
      cases hu : understand? e.message with
      | none =>
          rw [protocolOf?_eq_none hu]
          simp only [parse, read_eq_unrecognized hm he hu]
          rfl
      | some verdict =>
          rw [← protocol_of_understand? hu]
          simp only [parse, read_eq_fixable hm he hu]
          cases verdict.protocol <;> rfl

/-- **The registry of an output** gains what the lines before the first missing header name. -/
theorem parse_snd :
    (parse registry lines).2 = registry.insertAll ((beforeHeader lines).filterMap naming?) := by
  induction lines generalizing registry with
  | nil => rfl
  | cons line lines ih =>
      cases hm : missingHeader? line with
      | some header =>
          rw [beforeHeader_cons_of_some lines hm]
          simp only [parse, read_of_missingHeader? hm]
          rfl
      | none =>
          rw [beforeHeader_cons_of_none lines hm, parse_cons_snd registry lines hm, ih,
            ← Registry.insertAll_append, List.filterMap_cons]
          cases naming? line <;> rfl

end Registry

theorem firstNamed_cons_iff {line : Text} {lines : List Text} {name file : Text} :
    FirstNamed (line :: lines) name file ↔
      Names line name file ∨ (∀ file', ¬ Names line name file') ∧ FirstNamed lines name file := by
  constructor
  · rintro ⟨earlier, found, later, heq, hnames, hfirst⟩
    cases earlier with
    | nil =>
        obtain ⟨rfl, rfl⟩ := List.cons.inj heq
        exact .inl hnames
    | cons other earlier =>
        obtain ⟨rfl, rfl⟩ := List.cons.inj heq
        obtain ⟨hline, hrest⟩ := List.forall_mem_cons.mp hfirst
        exact .inr ⟨hline, earlier, found, later, rfl, hnames, hrest⟩
  · rintro (hnames | ⟨hline, earlier, found, later, rfl, hnames, hrest⟩)
    · exact ⟨[], line, lines, rfl, hnames, by simp⟩
    · exact ⟨line :: earlier, found, later, rfl, hnames, List.forall_mem_cons.mpr ⟨hline, hrest⟩⟩

/-- What is looked up among the entries is what the first line names. -/
theorem lookup_namings_eq_some_iff {lines : List Text} {name : Text} {origin : Origin} :
    (lines.filterMap naming?).lookup name = some origin ↔
      ∃ file, origin = .file file ∧ FirstNamed lines name file := by
  induction lines with
  | nil => simp [FirstNamed]
  | cons line lines ih =>
      simp only [firstNamed_cons_iff, names_iff]
      cases hn : naming? line with
      | none => simpa [hn] using ih
      | some entry =>
          obtain ⟨other, origin'⟩ := entry
          obtain ⟨file', rfl⟩ := exists_file_of_naming? hn
          rw [List.filterMap_cons_some hn, List.lookup_cons]
          by_cases heq : name = other
          · subst heq
            simp [eq_comm]
          · simpa [beq_eq_false_iff_ne.mpr heq, Ne.symm heq] using ih

/-! ## The outcome -/

theorem contributes_iff {lines : List Text} (h : ∀ line ∈ lines, missingHeader? line = none)
    {fixups : List Fixup} {unrecognized : List Text} :
    Contributes lines fixups unrecognized ↔
      fixups = fixupsOf lines ∧ unrecognized = unrecognizedOf lines := by
  constructor
  · intro hc
    -- From the relation to the lists: one case for each kind of line, with what the reader makes of
    -- it.
    induction hc with
    | nil => exact ⟨rfl, rfl⟩
    | @silent line lines fixups unrecognized hline rest ih =>
        obtain ⟨hm, hrest⟩ := List.forall_mem_cons.mp h
        obtain ⟨rfl, rfl⟩ := ih hrest
        have hread := read_eq_silent hm (errorLine?_eq_none_iff.mpr hline)
        simp [fixupsOf, unrecognizedOf, hread, Reading.fixup?, Reading.isUnrecognized]
    | @fixup line lines fixups unrecognized e verdict hline hmessage rest ih =>
        obtain ⟨hm, hrest⟩ := List.forall_mem_cons.mp h
        obtain ⟨rfl, rfl⟩ := ih hrest
        have hread := read_eq_fixable hm (errorLine?_eq_some_iff.mpr hline) hmessage
        simp [fixupsOf, unrecognizedOf, hread, Reading.fixup?, Reading.isUnrecognized]
    | @verbatim line lines fixups unrecognized e hline hmessage rest ih =>
        obtain ⟨hm, hrest⟩ := List.forall_mem_cons.mp h
        obtain ⟨rfl, rfl⟩ := ih hrest
        have hread := read_eq_unrecognized hm (errorLine?_eq_some_iff.mpr hline) hmessage
        simp [fixupsOf, unrecognizedOf, hread, Reading.fixup?, Reading.isUnrecognized]
  · rintro ⟨rfl, rfl⟩
    -- And back, by the line's own reading.
    induction lines with
    | nil => exact .nil
    | cons line lines ih =>
        obtain ⟨hm, hrest⟩ := List.forall_mem_cons.mp h
        have hih := ih hrest
        rw [fixupsOf, unrecognizedOf, List.filterMap_cons, List.filter_cons]
        cases he : errorLine? line with
        | none =>
            rw [read_eq_silent hm he]
            exact .silent (errorLine?_eq_none_iff.mp he) hih
        | some e =>
            have hline := errorLine?_eq_some_iff.mp he
            cases hu : understand? e.message with
            | none =>
                rw [read_eq_unrecognized hm he hu]
                exact .verbatim hline hu hih
            | some verdict =>
                rw [read_eq_fixable hm he hu]
                exact .fixup hline hu hih

/-- **What parsing an output does.** -/
theorem parse_spec (registry : Registry) (lines : List Text) :
    ((∃ header, (parse registry lines).1 = .aborted header) ↔
      ∃ line ∈ lines, missingHeader.occursIn line = true) ∧
    (parse registry lines).2 = (parse registry (beforeHeader lines)).2 ∧
    (∀ fixups unrecognized, (parse registry lines).1 = .completed fixups unrecognized ↔
      (∀ line ∈ lines, missingHeader.occursIn line = false) ∧
        Contributes lines fixups unrecognized) ∧
    ∀ name origin, (parse registry lines).2.get? name = some origin ↔
      registry.get? name = some origin ∨
      registry.get? name = none ∧
        ∃ file, origin = .file file ∧ FirstNamed (beforeHeader lines) name file := by
  refine ⟨?_, ?_, fun fixups unrecognized => ?_, fun name origin => ?_⟩
  -- The first header line decides between the two outcomes, wherever it stands.
  · rw [parse_fst]
    cases hm : lines.findSome? missingHeader? with
    | none =>
        rw [List.findSome?_eq_none_iff] at hm
        refine ⟨fun ⟨header, h⟩ => (nomatch h), fun ⟨line, hline, hoccurs⟩ => ?_⟩
        rw [missingHeader?_eq_none_iff.mp (hm line hline)] at hoccurs
        cases hoccurs
    | some header =>
        obtain ⟨line, hline, hsome⟩ := List.exists_of_findSome?_eq_some hm
        refine ⟨fun _ => ⟨line, hline, ?_⟩, fun _ => ⟨header, rfl⟩⟩
        rw [occursIn_missingHeader, hsome, Option.isSome_some]
  · rw [parse_snd, parse_snd, beforeHeader_beforeHeader]
  -- Without a header the reader has gone through all lines, with one it has reported nothing.
  · simp only [← missingHeader?_eq_none_iff, ← List.findSome?_eq_none_iff]
    rw [parse_fst]
    cases hm : lines.findSome? missingHeader? with
    | none =>
        rw [contributes_iff (List.findSome?_eq_none_iff.mp hm)]
        simp [eq_comm]
    | some header => simp
  · rw [parse_snd, Registry.get?_insertAll, Option.or_eq_some_iff, lookup_namings_eq_some_iff]

/-- A fixup, a line that says nothing and a line that is kept. -/
example : (parse .empty ["F.swift:3:5: error: use of protocol 'P' as a type".toList,
      "F.swift:3:5: note: declared here".toList, "F.swift:4: error: expected declaration".toList]).1 =
    .completed [⟨"F.swift".toList, 3, some 5, .addAny "P".toList⟩]
      ["F.swift:4: error: expected declaration".toList] := by
  repeat rewrite [String.toList_ofList]
  decide +kernel

end SwiftExistential.Diagnostic
