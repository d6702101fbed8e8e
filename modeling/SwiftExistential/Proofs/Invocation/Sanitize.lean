import SwiftExistential.Proofs.Invocation.Flags

/-!
# Commands that are made runnable

A command of the build system is made runnable by three sweeps that take out flags, one that renames
bridging headers, and a feature that is switched on behind the option to compile. On a command line
with its arguments in order all this is done to the arguments (`sanitize_eq`).

The outcome depends on the last argument (`sanitize_iff`): a flag is taken out, and an option to
compile is seen, only where a blank stands behind it. A captured line is trimmed, so a flag at its
end is never followed by a blank; it stays, and an option to compile at the end does not switch the
feature on (`sanitize_misses_last_argument`).
-/

set_option autoImplicit false

namespace SwiftExistential.Invocation

open Pattern Text Unicode
open Cursor (Reads)

/-! ## The names of bridging headers

A name is changed inside an argument, with no blank in it, so the arguments stay apart. -/

/-- How a sweep renames bridging headers: the longest run of word characters behind the stem becomes
a star. -/
def Renames (x y r : Text) : Prop :=
  y = headerStem ++ "*".toList ∧ startsWord r = false ∧
    ∃ run, run ≠ [] ∧ (∀ c ∈ run, isWord c = true) ∧ x = headerStem ++ run

theorem spans_header_iff {a b : Cursor} :
    header.Spans a b ↔
      ∃ run, run ≠ [] ∧ (∀ c ∈ run, isWord c = true) ∧ Reads (headerStem ++ run) a b := by
  constructor
  · rintro ⟨u, hliteral, hrun⟩
    obtain ⟨c, x, hc, hx, hread⟩ := spans_plus_one_iff.mp hrun
    exact ⟨c :: x, List.cons_ne_nil c x, List.forall_mem_cons.mpr ⟨hc, hx⟩,
      (spans_literal_iff.mp hliteral).trans hread⟩
  · rintro ⟨run, hne, hrun, hread⟩
    obtain ⟨c, x, rfl⟩ := List.exists_cons_of_ne_nil hne
    obtain ⟨u, hliteral, hrest⟩ := hread.exists_between
    obtain ⟨hc, hx⟩ := List.forall_mem_cons.mp hrun
    exact ⟨u, spans_literal_iff.mpr hliteral, spans_plus_one_iff.mpr ⟨c, x, hc, hx, hrest⟩⟩

theorem startsWord_after_header {c : Cursor} {m : Match} (h : header.matchAt? c = some m) :
    startsWord m.stop.after = false := by
  rw [matchAt?_eq_head?, Option.map_eq_some_iff] at h
  obtain ⟨t, ht, rfl⟩ := h
  obtain ⟨u, -, hrun⟩ := head?_ways_seq ht
  exact (head?_ways_plus_one hrun).2

theorem neverEmpty_header : NeverEmpty header := by
  intro m hm
  obtain ⟨run, hne, -, hread⟩ := spans_header_iff.mp hm.spans
  exact ⟨_, List.append_ne_nil_of_right_ne_nil _ hne, hread⟩

theorem isSweep_header :
    IsSweep Renames (header.sweep (replacement fun _ => some (headerStem ++ "*".toList))) := by
  refine isSweep_sweep neverEmpty_header rfl fun before x y r => ?_
  have hx : Reads x ⟨before, x ++ r⟩ ⟨x.reverse ++ before, r⟩ := ⟨rfl, rfl⟩
  constructor
  · rintro ⟨rfl, hend, run, hne, hrun, hstem⟩
    have hspans : header.Spans ⟨before, x ++ r⟩ ⟨x.reverse ++ before, r⟩ :=
      spans_header_iff.mpr ⟨run, hne, hrun, by rw [← hstem]; exact hx⟩
    obtain ⟨m, hm⟩ := exists_matchAt?_eq_some hspans
    obtain ⟨hstart, hmatch⟩ := matchAt?_eq_some hm
    obtain ⟨run', -, hrun', hread⟩ := spans_header_iff.mp hmatch.spans
    rw [hstart] at hread
    -- both runs are the longest one
    have hafter := hread.after
    simp only [hstem, List.append_assoc, List.append_cancel_left_eq] at hafter
    obtain ⟨-, hr⟩ := append_inj_of_forall hafter hrun hrun' hend (startsWord_after_header hm)
    exact ⟨m, hm, hread.eq_of_length_eq hx (by rw [← hr]), rfl⟩
  · rintro ⟨m, hm, hstop, rfl⟩
    obtain ⟨hstart, hmatch⟩ := matchAt?_eq_some hm
    obtain ⟨run, hne, hrun, hread⟩ := spans_header_iff.mp hmatch.spans
    have hend := startsWord_after_header hm
    rw [hstop] at hend
    rw [hstart, hstop] at hread
    exact ⟨rfl, hend, run, hne, hrun, hx.textTo_eq.symm.trans hread.textTo_eq⟩

/-- An argument with the changing part of a bridging header replaced. -/
def renamed (w : Text) : Text :=
  (header.substitute (fun _ => some (headerStem ++ "*".toList)) w).1

/-- A text without the letter that a stem begins with and without a star is no renamed header. -/
theorem renamed_eq_iff {v w : Text} (hB : 'B' ∉ v) (hstar : '*' ∉ v) : renamed w = v ↔ w = v :=
  IsSweep.eq_iff_of_not_mem isSweep_header
    (by rintro x y r ⟨-, -, run, -, -, rfl⟩; exact List.mem_append_left run (by decide))
    (by rintro x y r ⟨rfl, -⟩; decide) hB hstar

theorem isField_renamed {w : Text} (hw : IsField w) : IsField (renamed w) where
  ne_nil hnil := hw.ne_nil ((renamed_eq_iff List.not_mem_nil List.not_mem_nil).mp hnil)
  not_blank := by
    have hput : ∀ c ∈ headerStem ++ "*".toList, isBlank c = false := by
      unfold headerStem
      repeat rewrite [String.toList_ofList]
      decide
    refine IsSweep.forall_mem isSweep_header ?_ hw.not_blank
    rintro x y r ⟨rfl, -⟩
    exact hput

/-- A name ends where a blank stands, so the arguments are renamed one by one. -/
theorem renamed_append_space (w t : Text) :
    renamed (w ++ ' ' :: t) = renamed w ++ ' ' :: renamed t := by
  refine IsSweep.append_cons isSweep_header ?_ ?_ [] w
  · rintro x y r ⟨-, -, run, -, hrun, rfl⟩ hmem
    rcases List.mem_append.mp hmem with hmem | hmem
    · revert hmem
      decide
    · exact Bool.false_ne_true ((isWord_eq_false_of_isBlank isBlank_space).symm.trans (hrun ' ' hmem))
  · intro x y r
    have hstarts : startsWord (r ++ ' ' :: t) = startsWord r := by
      cases r with
      | nil => exact isWord_eq_false_of_isBlank isBlank_space
      | cons c r => rfl
    rw [Renames, Renames, hstarts]

theorem renamed_joined (ws : List Text) : renamed (joined ws) = joined (ws.map renamed) := by
  induction ws with
  | nil => exact IsSweep.nil isSweep_header []
  | cons w rest ih =>
      cases rest with
      | nil => rfl
      | cons v rest =>
          rw [joined_cons_cons, renamed_append_space, ih]
          exact (joined_cons_cons _ _ _).symm

theorem renamed_eq_flag_iff {v w : Text} (hv : v ∈ dashes :: flags) : renamed w = v ↔ w = v := by
  have hlacks : ∀ v ∈ dashes :: flags, 'B' ∉ v ∧ '*' ∉ v := by
    unfold dashes flags launcher parseable outputMapFlag
    repeat rewrite [String.toList_ofList]
    decide
  exact renamed_eq_iff (hlacks v hv).1 (hlacks v hv).2

theorem isCleared_map_renamed {ws : List Text} : IsCleared (ws.map renamed) ↔ IsCleared ws := by
  have hdashes {w : Text} : renamed w = dashes ↔ w = dashes := renamed_eq_flag_iff (by simp)
  have hlauncher {w : Text} : renamed w = launcher ↔ w = launcher :=
    renamed_eq_flag_iff (by simp [flags])
  have hparseable {w : Text} : renamed w = parseable ↔ w = parseable :=
    renamed_eq_flag_iff (by simp [flags])
  have hmap {w : Text} : renamed w = outputMapFlag ↔ w = outputMapFlag :=
    renamed_eq_flag_iff (by simp [flags])
  induction ws with
  | nil => rfl
  | cons w ws ih =>
      have hhead : (ws.map renamed).head? = some dashes ↔ ws.head? = some dashes := by
        cases ws with
        | nil => rfl
        | cons v rest =>
            rw [List.map_cons, List.head?_cons, List.head?_cons, Option.some_inj, Option.some_inj,
              hdashes]
      simp only [List.map_cons, isCleared_cons, ih, hhead, ne_eq, hlauncher, hparseable, hmap]

/-! ## The whole command -/

/-- **A command line with its arguments in order**: single blanks between the arguments, and none at
the ends. -/
structure IsCommandLine (line : Text) : Prop where
  joined : joined (fields line) = line
  orderly : IsOrderly (fields line)

theorem isCommandLine_joined {ws : List Text} (hfields : ∀ w ∈ ws, IsField w) (h : IsOrderly ws) :
    IsCommandLine (joined ws) where
  joined := by rw [fields_joined hfields]
  orderly := by rwa [fields_joined hfields]

def remaining (ws : List Text) : List Text := (kept ws).map renamed

/-- **What is done to a command line is done to its arguments.** -/
theorem sanitize_eq {line : Text} (h : IsCommandLine line) :
    sanitize [] line = addFeature (joined (remaining (fields line))) := by
  have hkept := withoutFlags_joined (fun w hw => isField_of_mem_fields hw) h.orderly
  rw [h.joined] at hkept
  rw [remaining, ← renamed_joined, ← hkept]
  rfl

/-! ## The feature

Whether the feature is on already is a question about the text, and it is answered by the arguments:
two of them in a row. -/

/-- What the feature is switched on with, before what is compiled. -/
def compile : Text := "-c".toList

/-- The two arguments that switch the feature on. -/
def upcoming : Text := "-enable-upcoming-feature".toList

def feature : Text := "ExistentialAny".toList

theorem isField_compile : IsField compile := by decide

theorem isField_upcoming : IsField upcoming := by
  unfold upcoming
  rw [String.toList_ofList]
  decide

theorem isField_feature : IsField feature := by
  unfold feature
  rw [String.toList_ofList]
  decide

theorem spaced_compile : " -c ".toList = ' ' :: (compile ++ [' ']) := by decide

theorem featureFlag_eq : featureFlag = upcoming ++ ' ' :: feature := by
  unfold featureFlag upcoming feature
  repeat rewrite [String.toList_ofList]
  rfl

/-- The feature is switched on where the option to compile stands between blanks. -/
theorem infix_addFeature_iff {t : Text} :
    featureFlag <:+: addFeature t ↔ featureFlag <:+: t ∨ " -c ".toList <:+: t := by
  rw [addFeature]
  split
  · rename_i h
    have hflag := hasPart_iff.mp h
    exact ⟨.inl, fun _ => hflag⟩
  · rename_i h
    rw [hasPart_iff] at h
    split
    · rename_i hcut
      exact ⟨.inl, fun hor => hor.resolve_right (splitAtPart?_eq_none_iff.mp hcut)⟩
    · rename_i before after hcut
      have ht := eq_append_of_splitAtPart? hcut
      refine ⟨fun _ => .inr ⟨before, after, ht.symm⟩, fun _ => ?_⟩
      exact ⟨before ++ " -c ".toList, " ".toList ++ after, by simp only [List.append_assoc]⟩

theorem isCleared_cons_of_not_mem {w : Text} {ws : List Text} (hw : w ∉ dashes :: flags) :
    IsCleared (w :: ws) ↔ IsCleared ws := by
  rw [List.mem_cons, not_or, not_mem_flags_iff] at hw
  rw [isCleared_cons]
  simp [hw]

theorem isCleared_append_cons {w : Text} {l r : List Text} (hw : w ∉ dashes :: flags) :
    IsCleared (l ++ w :: r) ↔ IsCleared l ∧ IsCleared r := by
  induction l with
  | nil =>
      rw [List.nil_append, isCleared_cons_of_not_mem hw]
      simp [IsCleared]
  | cons u l ih =>
      have hhead : (l ++ w :: r).head? = some dashes ↔ l.head? = some dashes := by
        cases l with
        | nil =>
            rw [List.mem_cons, not_or] at hw
            simp [hw.1]
        | cons v l => rfl
      rw [List.cons_append, isCleared_cons, isCleared_cons, hhead, ih, ← and_assoc]

theorem fields_compile (l r : Text) :
    fields (l ++ " -c ".toList ++ r) = fields l ++ compile :: fields r := by
  have hspaced : l ++ " -c ".toList ++ r = l ++ ' ' :: (compile ++ ' ' :: r) := by
    simp only [spaced_compile, List.append_assoc, List.cons_append, List.nil_append]
  rw [hspaced, fields_append_field isField_compile]

theorem fields_switchedOn (l r : Text) :
    fields (l ++ " -c ".toList ++ featureFlag ++ " ".toList ++ r) =
      fields l ++ compile :: upcoming :: feature :: fields r := by
  have hspaced : l ++ " -c ".toList ++ featureFlag ++ " ".toList ++ r =
      l ++ " -c ".toList ++ (upcoming ++ ' ' :: (feature ++ ' ' :: r)) := by
    simp only [featureFlag_eq, List.append_assoc, List.cons_append]
    rfl
  rw [hspaced, fields_compile, fields_append_blank upcoming _ isBlank_space,
    fields_append_blank feature _ isBlank_space, isField_upcoming.fields_eq, isField_feature.fields_eq,
    List.singleton_append, List.singleton_append]

/-- Switching the feature on brings in no flag of the build system. -/
theorem isCleared_addFeature {t : Text} :
    IsCleared (fields (addFeature t)) ↔ IsCleared (fields t) := by
  have hother : ∀ w ∈ [compile, upcoming, feature], w ∉ dashes :: flags := by
    unfold compile upcoming feature dashes flags launcher parseable outputMapFlag
    repeat rewrite [String.toList_ofList]
    decide
  have hcompile := hother compile (by simp)
  have hupcoming := hother upcoming (by simp)
  have hfeature := hother feature (by simp)
  rw [addFeature]
  split
  · rfl
  · split
    · rfl
    · rename_i before after hcut
      rw [eq_append_of_splitAtPart? hcut, fields_compile, fields_switchedOn,
        isCleared_append_cons hcompile, isCleared_append_cons hcompile,
        isCleared_cons_of_not_mem hupcoming, isCleared_cons_of_not_mem hfeature]

/-! ## What the command has, and what it lacks -/

/-- **A command that is made runnable** has none of the flags of the build system if and only if the
command line does not end in one, and it switches the feature on if and only if that was done before
or the option to compile stands between other arguments. -/
theorem sanitize_iff {line : Text} (h : IsCommandLine line) :
    (IsCleared (fields (sanitize [] line)) ↔ ¬ EndsInFlag (fields line)) ∧
      (featureFlag <:+: sanitize [] line ↔
        featureFlag <:+: joined (remaining (fields line)) ∨
          ∃ x y, [x, compile, y] <:+: remaining (fields line)) := by
  have hfields : ∀ w ∈ remaining (fields line), IsField w := by
    intro w hw
    obtain ⟨v, hv, rfl⟩ := List.mem_map.mp hw
    exact isField_renamed (isField_of_mem_fields (mem_of_mem_kept hv))
  rw [sanitize_eq h, isCleared_addFeature, fields_joined hfields, infix_addFeature_iff, spaced_compile,
    infix_joined_iff isField_compile hfields]
  exact ⟨isCleared_map_renamed.trans (isCleared_kept_iff h.orderly), Iff.rfl⟩

/-- The arguments of a command of the build system with all of its flags. -/
def captured : List Text :=
  [launcher, dashes, "/usr/bin/swift-frontend".toList, "-frontend".toList, compile, "/p/A.swift".toList,
    "-primary-file".toList, "/p/B.swift".toList, outputMapFlag, "/tmp/map.yaml".toList, parseable,
    "-import-objc-header".toList, "/d/App-Bridging-Header-swift_3KQ1-clang_9Z.pch".toList]

theorem sanitize_iff_of_captured :
    capture [joined captured] = [joined captured] ∧ IsCommandLine (joined captured) ∧
      IsCleared (fields (sanitize [] (joined captured))) ∧
        featureFlag <:+: sanitize [] (joined captured) := by
  obtain ⟨hfields, horderly, hcapture, hcompile, hcleared⟩ : (∀ w ∈ captured, IsField w) ∧
      IsOrderly captured ∧ capture [joined captured] = [joined captured] ∧
        ["-frontend".toList, compile, "/p/A.swift".toList] <:+: remaining captured ∧
          ¬ EndsInFlag captured := by
    unfold captured launcher dashes compile parseable outputMapFlag
    -- the literals are read once, and not in each of the parts
    repeat rewrite [String.toList_ofList]
    decide +kernel
  have hline : IsCommandLine (joined captured) := isCommandLine_joined hfields horderly
  have hresult := sanitize_iff hline
  rw [fields_joined hfields] at hresult
  exact ⟨hcapture, hline, hresult.1.mpr hcleared, hresult.2.mpr (.inr ⟨_, _, hcompile⟩)⟩

/-- The arguments of a command with a flag in the last place. -/
def endingInFlag : List Text :=
  ["/usr/bin/swift-frontend".toList, "-frontend".toList, compile, "/p/A.swift".toList,
    "-primary-file".toList, "/p/B.swift".toList, parseable]

/-- The arguments of a command with the option to compile in the last place. -/
def endingInCompile : List Text :=
  ["/usr/bin/swift-frontend".toList, "-frontend".toList, "-primary-file".toList, "/p/B.swift".toList,
    compile]

/-- No blank stands behind the last argument: a flag that stands there stays, and an option to
compile does not switch the feature on. -/
theorem sanitize_misses_last_argument :
    (capture [joined endingInFlag] = [joined endingInFlag] ∧
        parseable ∈ fields (sanitize [] (joined endingInFlag))) ∧
      capture [joined endingInCompile] = [joined endingInCompile] ∧
        compile ∈ fields (joined endingInCompile) ∧
          ¬ featureFlag <:+: sanitize [] (joined endingInCompile) := by
  unfold endingInFlag endingInCompile parseable compile
  repeat rewrite [String.toList_ofList]
  decide +kernel

end SwiftExistential.Invocation
