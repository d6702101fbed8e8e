import SwiftExistential.Proofs.Shell.Plans
import SwiftExistential.Proofs.Shell.Tokens
import SwiftExistential.Shell.Expand
import SwiftExistential.Toolchain

/-!
# What the commands of a toolchain say

A toolchain puts the paths of its tools and of the project into the commands that it runs. Whatever
these paths are, the shell reads the script of a command as the plan that is meant (`capturePlan`,
`buildPlan`), and each path in it as one word, which is expanded to the path (`paths_stay_words`).

A word whose parts are in quotes, or have no character that means something, is expanded to the one
field that it says: its items stay together (`splitItems_none`), none of them belongs to a pattern
(`isPattern_glyphs`), and neither the variables nor the files of the shell have a say in it
(`run_expandFields`). So what the shell runs is the program that was named, with the arguments that
were given, for every path without a zero.
-/

set_option autoImplicit false

namespace SwiftExistential

namespace Shell

variable {word : Word} {substitute : Substitute} {mode : Mode} {s : State}

/-! ## Parts

An inert part is expanded without a look at the state of the shell. -/

/-- A part that stands for its own characters: they are in quotes, or mean nothing. -/
inductive Part.IsInert : Part → Prop where
  | quoted (t : Text) : IsInert (.quoted t)
  | plain (t : Text) (h : ∀ c ∈ t, isBare c = true) : IsInert (.plain t)

theorem run_expandParts (h : ∀ part ∈ word, part.IsInert) :
    (expandParts substitute mode word).run s = .ok (literalItems mode word) s := by
  induction word generalizing mode with
  | nil => rfl
  | cons part rest ih =>
      obtain ⟨hpart, hrest⟩ := List.forall_mem_cons.mp h
      have hothers : (expandParts substitute { mode with tilde := false } rest).run s =
          .ok (literalItems { mode with tilde := false } rest) s := ih hrest
      have hfirst : (expandPart substitute mode part).run s = .ok (literalItems mode [part]) s := by
        cases hpart with
        | quoted t => simp [expandPart, literalItems]
        | plain t ht => simp [expandPart, literalItems]
      have hitems : literalItems mode (part :: rest) =
          literalItems mode [part] ++ literalItems { mode with tilde := false } rest := by
        rw [literalItems, literalItems, List.flatMap_cons, List.flatMap_singleton]
        rfl
      unfold expandParts
      split
      · next chars =>
          cases hpart with
          | plain t ht => exact absurd (ht '~' List.mem_cons_self) (by decide)
      · rw [run_bind hfirst, run_bind hothers, hitems]
        rfl

/-! ## Fields

Expansion goes in stages: parts become items, items become fields, and fields may become names of
files. A joined row of items passes all of them. -/

/-- Items that stay together in one field: characters, and marks that there is one. -/
inductive Item.IsJoined : Item → Prop where
  | glyph (g : Glyph) : IsJoined (.glyph g)
  | mark : IsJoined .mark

theorem splitItems_some {separators : Text} {items : List Item} (h : ∀ item ∈ items, item.IsJoined)
    (begun : List Glyph) (afterBlank : Bool) :
    splitItems separators [] (some begun) afterBlank items = [begun.reverse ++ itemGlyphs items] := by
  induction items generalizing begun afterBlank with
  | nil => simp [splitItems, itemGlyphs]
  | cons item rest ih =>
      obtain ⟨hitem, hrest⟩ := List.forall_mem_cons.mp h
      cases hitem with
      | glyph g => simp [splitItems, ih hrest, itemGlyphs]
      | mark => simp [splitItems, ih hrest, itemGlyphs]

theorem splitItems_none {separators : Text} {items : List Item} (h : ∀ item ∈ items, item.IsJoined)
    (hne : items ≠ []) : splitItems separators [] none false items = [itemGlyphs items] := by
  obtain ⟨item, rest, rfl⟩ := List.exists_cons_of_ne_nil hne
  obtain ⟨hitem, hrest⟩ := List.forall_mem_cons.mp h
  cases hitem with
  | glyph g => simp [splitItems, splitItems_some hrest, itemGlyphs]
  | mark => simp [splitItems, splitItems_some hrest, itemGlyphs]

theorem isJoined_literalItems (h : ∀ part ∈ word, part.IsInert) (hmode : mode.isValue = false) :
    ∀ item ∈ literalItems mode word, item.IsJoined := by
  intro item hitem
  obtain ⟨part, hpart, hitem⟩ := List.mem_flatMap.mp hitem
  cases h part hpart with
  | quoted t =>
      obtain rfl | hitem := List.mem_cons.mp hitem
      · exact .mark
      · obtain ⟨c, -, rfl⟩ := List.mem_map.mp hitem
        exact .glyph _
  | plain t ht =>
      simp only [plainItems, hmode, Bool.false_eq_true, if_false] at hitem
      obtain ⟨c, -, rfl⟩ := List.mem_map.mp hitem
      exact .glyph _

/-- The glyphs of a part that stands for its own characters. -/
def Part.glyphs : Part → List Glyph
  | .plain t => t.map fun c => ⟨c, false⟩
  | .quoted t => t.map fun c => ⟨c, true⟩
  | _ => []

theorem itemGlyphs_literalItems (h : ∀ part ∈ word, part.IsInert) (hmode : mode.isValue = false) :
    itemGlyphs (literalItems mode word) = word.flatMap Part.glyphs := by
  induction word with
  | nil => rfl
  | cons part rest ih =>
      obtain ⟨hpart, hrest⟩ := List.forall_mem_cons.mp h
      have hothers := ih hrest
      simp only [itemGlyphs, literalItems] at hothers ⊢
      rw [List.flatMap_cons, List.filterMap_append, hothers, List.flatMap_cons]
      congr 1
      cases hpart with
      | quoted t => simp [quotedItems, Part.glyphs]
      | plain t ht => simp [plainItems, hmode, Part.glyphs]

/-- Only quoted characters of such parts could stand for other text. -/
theorem isPattern_glyphs (h : ∀ part ∈ word, part.IsInert) :
    Glob.isPattern (word.flatMap Part.glyphs) = false := by
  refine List.any_eq_false.mpr fun g hg => ?_
  obtain ⟨part, hpart, hg⟩ := List.mem_flatMap.mp hg
  cases h part hpart with
  | quoted t =>
      obtain ⟨c, -, rfl⟩ := List.mem_map.mp hg
      simp
  | plain t ht =>
      obtain ⟨c, hc, rfl⟩ := List.mem_map.mp hg
      have hbare := ht c hc
      have hne : c ≠ '*' ∧ c ≠ '?' ∧ c ≠ '[' := by
        refine ⟨?_, ?_, ?_⟩ <;> rintro rfl <;> exact absurd hbare (by decide)
      simp [hne]

theorem glyphText_glyphs {t : Text} (ht : word.literal? = some t) :
    glyphText (word.flatMap Part.glyphs) = t := by
  induction word generalizing t with
  | nil => exact Option.some.inj ht
  | cons part rest ih =>
      cases part with
      | plain x | quoted x =>
          obtain ⟨t', ht', rfl⟩ := Option.map_eq_some_iff.mp ht
          simp [glyphText, Part.glyphs, Function.comp_def, ← ih ht']
      | _ => cases ht

/-- **A word that stands for its own characters is one field**, and nothing happens. -/
theorem run_expandFields {t : Text} (h : ∀ part ∈ word, part.IsInert) (ht : word.literal? = some t)
    (hne : literalItems ⟨true, false, true⟩ word ≠ []) :
    (expandFields substitute word).run s = .ok [t] s := by
  have hfields :
      ∀ separators, splitItems separators [] none false (literalItems ⟨true, false, true⟩ word) =
      [word.flatMap Part.glyphs] := fun separators => by
    rw [splitItems_none (isJoined_literalItems h rfl) hne, itemGlyphs_literalItems h rfl]
  have hseparators : ∃ separators, Action.separators.run s = .ok separators s := ⟨_, rfl⟩
  have hon : (Action.isOn 'f').run s = .ok (s.shell.options.contains 'f') s := rfl
  have htree : ∃ tree, Action.tree.run s = .ok tree s := ⟨_, rfl⟩
  obtain ⟨separators, hseparators⟩ := hseparators
  obtain ⟨tree, htree⟩ := htree
  unfold expandFields
  rw [run_bind (run_expandParts h), run_bind hseparators, hfields, run_bind hon]
  have hpath : Glob.paths tree (word.flatMap Part.glyphs) = [t] := by
    rw [Glob.paths, isPattern_glyphs h, if_neg Bool.false_ne_true, glyphText_glyphs ht]
  split
  · rw [List.map_singleton, glyphText_glyphs ht]
    rfl
  · rw [run_bind htree, List.flatMap_singleton, hpath]
    rfl

/-! ## Arguments -/

theorem isInert_quotedWord (t : Text) : ∀ part ∈ quotedWord t, part.IsInert := by
  induction t using Text.induction_of_mem (c := '\'') with
  | last x hx =>
      rw [quotedWord_of_not_mem hx]
      exact List.forall_mem_singleton.mpr (.quoted x)
  | cons x t hx ih =>
      rw [quotedWord_append hx]
      exact List.forall_mem_cons.mpr ⟨.quoted x, List.forall_mem_cons.mpr ⟨.quoted _, ih⟩⟩

/-- **A quoted text is expanded to that text.** -/
theorem run_expandFields_quotedWord (t : Text) :
    (expandFields substitute (quotedWord t)).run s = .ok [t] s := by
  have hne : literalItems ⟨true, false, true⟩ (quotedWord t) ≠ [] := by
    obtain ⟨x, rest, hword⟩ := exists_quotedWord_eq t
    rw [hword]
    exact List.cons_ne_nil _ _
  exact run_expandFields (isInert_quotedWord t) (literal?_quotedWord t) hne

namespace Argument

/-- **An argument is expanded to its value.** -/
theorem run_expandFields (a : Argument) :
    (expandFields substitute a.word).run s = .ok [a.value] s := by
  obtain ⟨bare, quoted, hbare, hsome⟩ := a
  cases bare with
  | nil =>
      obtain ⟨t, rfl⟩ := Option.isSome_iff_exists.mp (hsome.resolve_left fun h => h rfl)
      exact run_expandFields_quotedWord t
  | cons c bare =>
      have hplain : (Part.plain (c :: bare)).IsInert := .plain _ hbare
      cases quoted with
      | none =>
          exact Shell.run_expandFields (List.forall_mem_singleton.mpr hplain) rfl (List.cons_ne_nil _ _)
      | some t =>
          have hliteral :
              Word.literal? (.plain (c :: bare) :: quotedWord t) = some (c :: bare ++ t) := by
            rw [Word.literal?, literal?_quotedWord]
            rfl
          exact Shell.run_expandFields (List.forall_mem_cons.mpr ⟨hplain, isInert_quotedWord t⟩) hliteral
            (List.cons_ne_nil _ _)

end Argument

theorem run_expandAll_callWords (program : Text) (arguments : List Argument) :
    (expandAll substitute (callWords program arguments)).run s =
      .ok (program :: arguments.map Argument.value) s := by
  have harguments : (expandAll substitute (arguments.map Argument.word)).run s =
      .ok (arguments.map Argument.value) s := by
    induction arguments with
    | nil => rfl
    | cons a rest ih =>
        rw [List.map_cons, expandAll, run_bind a.run_expandFields, run_bind ih]
        rfl
  rw [callWords, expandAll, run_bind (run_expandFields_quotedWord program), run_bind harguments]
  rfl

end Shell

namespace Shell.Plan

/-! ## Plans that run -/

/-- A command runs as a plan in every shell that is started for it, however commands run there: with
its messages among its output, and as a line of its own. -/
def IsRunBy (p : Plan) (command : Text) : Prop :=
  ∀ (run : Runner) (s : State),
    (runScript run ["-c".toList, Octets.ofText ('(' :: command ++ ") 2>&1".toList)]).run s =
      (run ⟨false, false⟩ p.scriptCommand).run { s with shell := { s.shell with line := 1 } }

/-- The script of a plan runs as the command that the plan stands for. -/
theorem run_runScript_script (p : Plan) (h : p.depth < Reader.maxNesting) (run : Runner)
    (s : State) :
    (runScript run ["-c".toList, p.script]).run s =
      (run ⟨false, false⟩ p.scriptCommand).run { s with shell := { s.shell with line := 1 } } := by
  have htake : (takeArguments ["-c".toList, p.script]).run s = .ok (.text p.script) s := rfl
  have hline : (Action.change fun s => { s with line := 1 }).run s =
      .ok ⟨⟩ { s with shell := { s.shell with line := 1 } } := rfl
  unfold runScript
  rw [run_bind htake, run_bind hline]
  generalize { s with shell := { s.shell with line := 1 } } = s'
  have haliases : (Action.ask (·.aliases)).run s' = .ok s'.shell.aliases s' := rfl
  have hread :
      Reader.readLine.run { Source.ofText p.script [] with aliases := s'.shell.aliases } = _ :=
    Reader.run_readLine_script p h
  show (runText run ⟨false, false⟩ p.script).run s' = _
  unfold runText runLines
  rw [run_bind haliases, hread]
  -- the line is the last one, and its command is not the empty one
  show (run ⟨false, false⟩ p.scriptCommand >>= pure).run s' = _
  rw [bind_pure]

theorem isRunBy_of_eq_shown {p : Plan} {command : Text} (h : p.depth < Reader.maxNesting)
    (hshown : Octets.ofText command = p.shown) : p.IsRunBy command := by
  have hscript : Octets.ofText ('(' :: command ++ ") 2>&1".toList) = p.script := by
    rw [Octets.ofText_append, ← List.singleton_append, Octets.ofText_append, hshown]
    rfl
  intro run s
  rw [hscript]
  exact run_runScript_script p h run s

end Shell.Plan

namespace Toolchain

open Shell (Argument Plan)

/-! ## Plans of toolchains

The commands are those of the program, character by character; that they are scripts of plans is an
equation of texts. -/

/-- The setting that switches the feature on in a bundle. -/
def flags : Argument :=
  ⟨"OTHER_SWIFT_FLAGS=".toList, some "-DDEBUG -enable-upcoming-feature ExistentialAny".toList,
    by decide, Or.inr rfl⟩

/-- What is to run for a clean, verbose build. -/
def capturePlan (t : Toolchain) (tree : FileTree) : Plan :=
  match t.project.kind with
  | .package =>
      let driver := Octets.ofText (t.driver tree)
      .join .andThen
        (.call driver [.plain "package".toList (by decide), .plain "clean".toList (by decide)])
        (.call driver [.plain "build".toList (by decide), .plain "-v".toList (by decide)])
  | .xcode =>
      let tool := Octets.ofText t.buildTool
      let bundle :=
        [.plain "-project".toList (by decide), .quotation (Octets.ofText t.project.path)]
      .join .sequence (.call tool (.plain "clean".toList (by decide) :: bundle)) (.call tool bundle)

/-- What is to run for a build with the feature switched on. -/
def buildPlan (t : Toolchain) (tree : FileTree) : Plan :=
  match t.project.kind with
  | .package =>
      .call (Octets.ofText (t.driver tree))
        [.plain "build".toList (by decide), .plain "-Xswiftc".toList (by decide),
          .plain "-enable-upcoming-feature".toList (by decide), .plain "-Xswiftc".toList (by decide),
          .plain "ExistentialAny".toList (by decide)]
  | .xcode =>
      let tool := Octets.ofText t.buildTool
      let build := .call tool
        [flags, .plain "-project".toList (by decide), .quotation (Octets.ofText t.project.path)]
      .join .orElse build (.join .andThen (.call tool [.plain "clean".toList (by decide)]) build)

theorem shown_flags : flags.shown =
    "OTHER_SWIFT_FLAGS=".toList ++ Shell.quote "-DDEBUG -enable-upcoming-feature ExistentialAny".toList :=
  rfl

theorem ofText_captureCommand (t : Toolchain) (tree : FileTree) :
    Octets.ofText (t.captureCommand tree) = (t.capturePlan tree).shown := by
  unfold captureCommand capturePlan
  cases t.project.kind
  all_goals
    simp only [Octets.ofText_append, Shell.ofText_quote, Plan.shown, Plan.grouped,
      Shell.Connector.shown_andThen, Shell.Connector.shown_sequence, Shell.shownArguments,
      List.flatMap_cons, List.flatMap_nil, Argument.shown_plain, Argument.shown_quotation,
      List.append_assoc, List.cons_append, List.append_nil]
    -- what is left is ASCII, and cheap to compare as lists of characters
    repeat rewrite [String.toList_ofList]
    rfl

theorem ofText_buildCommand (t : Toolchain) (tree : FileTree) :
    Octets.ofText (t.buildCommand tree) = (t.buildPlan tree).shown := by
  unfold buildCommand buildPlan
  cases t.project.kind
  all_goals
    simp only [Octets.ofText_append, Shell.ofText_quote, Plan.shown, Plan.grouped,
      Shell.Connector.shown_andThen, Shell.Connector.shown_orElse, Shell.shownArguments,
      List.flatMap_cons, List.flatMap_nil, Argument.shown_plain, Argument.shown_quotation, shown_flags,
      List.append_assoc, List.cons_append, List.append_nil]
    repeat rewrite [String.toList_ofList]
    rfl

theorem isRunBy_captureCommand (t : Toolchain) (tree : FileTree) :
    (t.capturePlan tree).IsRunBy (t.captureCommand tree) := by
  refine Plan.isRunBy_of_eq_shown ?_ (t.ofText_captureCommand tree)
  unfold capturePlan
  cases t.project.kind <;> simp [Plan.depth, Shell.Reader.maxNesting]

theorem isRunBy_buildCommand (t : Toolchain) (tree : FileTree) :
    (t.buildPlan tree).IsRunBy (t.buildCommand tree) := by
  refine Plan.isRunBy_of_eq_shown ?_ (t.ofText_buildCommand tree)
  unfold buildPlan
  cases t.project.kind <;> simp [Plan.depth, Shell.Reader.maxNesting]

/-- **No path gets out of its quotes.** Whatever a path is, the shell reads it in quotes as one
word, all of it quoted text, which says the path and is expanded to the path alone. The commands
that a toolchain runs are read as they are planned, for all paths, and each call in a plan gets the
arguments that it says. -/
theorem paths_stay_words :
    (∀ path r : Text, Shell.Reader.EndsWord r →
      Shell.readWord (Shell.quote path ++ r) = some (Shell.quotedWord path, r)) ∧
    (∀ path : Text, Shell.quotedWord path ≠ [] ∧ (Shell.quotedWord path).isQuoted = true ∧
      (Shell.quotedWord path).literal? = some path) ∧
    (∀ (substitute : Shell.Substitute) (s : Shell.State) (path : Text),
      (Shell.expandFields substitute (Shell.quotedWord path)).run s = .ok [path] s) ∧
    (∀ (substitute : Shell.Substitute) (s : Shell.State) (program : Text) (arguments : List Argument),
      (Shell.expandAll substitute (Shell.callWords program arguments)).run s =
        .ok (program :: arguments.map Argument.value) s) ∧
    (∀ (t : Toolchain) (tree : FileTree), (t.capturePlan tree).IsRunBy (t.captureCommand tree) ∧
      (t.buildPlan tree).IsRunBy (t.buildCommand tree)) := by
  refine ⟨fun path r hr => Shell.readWord_quote path hr, fun path => ⟨?_, ?_, ?_⟩, ?_, ?_, ?_⟩
  · obtain ⟨x, rest, hword⟩ := Shell.exists_quotedWord_eq path
    rw [hword]
    exact List.cons_ne_nil _ _
  · exact Shell.isQuoted_quotedWord path
  · exact Shell.literal?_quotedWord path
  · exact fun substitute s path => Shell.run_expandFields_quotedWord path
  · exact fun substitute s program arguments => Shell.run_expandAll_callWords program arguments
  · exact fun t tree => ⟨t.isRunBy_captureCommand tree, t.isRunBy_buildCommand tree⟩

/-- A path with a quote and a blank in it, before the first argument of a build. -/
theorem paths_stay_words_of_quote :
    Shell.Reader.EndsWord " build".toList ∧
      Shell.readWord (Shell.quote "/it's a/swift".toList ++ " build".toList) =
        some (Shell.quotedWord "/it's a/swift".toList, " build".toList) := by
  have hends : Shell.Reader.EndsWord " build".toList := by
    rintro c ⟨⟩
    decide
  exact ⟨hends, paths_stay_words.1 _ _ hends⟩

end Toolchain

end SwiftExistential
