import SwiftExistential.Invocation
import SwiftExistential.Proofs.Pattern.Locality
import SwiftExistential.Proofs.Text.Tokens

/-!
# The flags of the build system

`kept` takes the flags of the build system out of a list of arguments, as far as another argument
stands behind them. What it leaves has none of the flags unless the arguments end in one
(`isCleared_kept_iff`).

In the text of a command three sweeps take the flags out, each of them together with the blank
behind it (`Removes`). `withoutFlags` is what the three leave. From the left it takes out a flag,
with what belongs to it, or passes over an argument, and so it is `kept` on the arguments of the
command (`withoutFlags_joined`).

The three sweeps go over the text one after the other, and the pass goes over the arguments once.
That they agree is due to the flags: none of them is a part of another one, and none can stand
across the blank between two arguments.
-/

set_option autoImplicit false

namespace SwiftExistential.Invocation

open Pattern Text Unicode
open Cursor (Reads)

/-! ## The flags

One flag stands alone, one is followed by two dashes, and one by the path of a map. What belongs to
a flag goes with it. -/

/-- The argument that introduces a command of the build system, followed by two dashes. -/
def launcher : Text := "builtin-swiftTaskExecution".toList

def dashes : Text := "--".toList

def parseable : Text := "-frontend-parseable-output".toList

/-- The flag that is followed by the map of further outputs. -/
def outputMapFlag : Text := "-supplementary-output-file-map".toList

def flags : List Text := [launcher, parseable, outputMapFlag]

theorem isField_of_mem_flags : ∀ flag ∈ flags, IsField flag := by
  -- literals are cheap to look at once they are lists of characters
  unfold flags launcher parseable outputMapFlag
  repeat rewrite [String.toList_ofList]
  decide

theorem nodup_flags : (dashes :: flags).Nodup := by
  unfold dashes flags launcher parseable outputMapFlag
  repeat rewrite [String.toList_ofList]
  decide

theorem parseable_ne_launcher : parseable ≠ launcher := by
  have h := nodup_flags
  simp [flags] at h
  exact Ne.symm h.2.1.1

theorem parseable_ne_outputMapFlag : parseable ≠ outputMapFlag := by
  have h := nodup_flags
  simp [flags] at h
  exact h.2.2

theorem launcher_ne_outputMapFlag : launcher ≠ outputMapFlag := by
  have h := nodup_flags
  simp [flags] at h
  exact h.2.1.2

theorem not_mem_flags_dashes : dashes ∉ flags := (List.nodup_cons.mp nodup_flags).1

theorem launcher_mem_flags : launcher ∈ flags := by simp [flags]

theorem parseable_mem_flags : parseable ∈ flags := by simp [flags]

theorem outputMapFlag_mem_flags : outputMapFlag ∈ flags := by simp [flags]

theorem not_mem_flags_iff {w : Text} :
    w ∉ flags ↔ w ≠ launcher ∧ w ≠ parseable ∧ w ≠ outputMapFlag := by
  simp [flags]

/-- The arguments have no flag of the build system. -/
def IsCleared (ws : List Text) : Prop :=
  parseable ∉ ws ∧ outputMapFlag ∉ ws ∧ ¬ [launcher, dashes] <:+: ws

/-- The arguments end in a flag of the build system. -/
def EndsInFlag (ws : List Text) : Prop :=
  [parseable] <:+ ws ∨ [launcher, dashes] <:+ ws ∨ [outputMapFlag] <:+ ws ∨
    [outputMapFlag] <:+ ws.dropLast

/-- What may stand behind an argument: dashes behind the launcher, and no flag in the place of the
map. -/
def MayFollow (w v : Text) : Prop :=
  (w = launcher → v = dashes) ∧ (w = outputMapFlag → v ∉ flags)

/-- The argument is a flag, or it does not end in one. -/
def IsWhole (w : Text) : Prop := ∀ flag ∈ flags, flag <:+ w → w = flag

/-- **Arguments in order**: a flag is an argument of its own, and followed by what belongs to it. -/
structure IsOrderly (ws : List Text) : Prop where
  whole : ∀ w ∈ ws, IsWhole w
  follows : ws.IsChain MayFollow

instance (ws : List Text) : Decidable (IsCleared ws) := inferInstanceAs (Decidable (_ ∧ _))

instance (ws : List Text) : Decidable (EndsInFlag ws) := inferInstanceAs (Decidable (_ ∨ _))

instance (w v : Text) : Decidable (MayFollow w v) := inferInstanceAs (Decidable (_ ∧ _))

instance (w : Text) : Decidable (IsWhole w) :=
  inferInstanceAs (Decidable (∀ flag ∈ flags, flag <:+ w → w = flag))

instance (ws : List Text) : Decidable (IsOrderly ws) :=
  decidable_of_iff ((∀ w ∈ ws, IsWhole w) ∧ ws.IsChain MayFollow)
    ⟨fun h => ⟨h.1, h.2⟩, fun h => ⟨h.1, h.2⟩⟩

theorem isWhole_of_mem_flags : ∀ flag ∈ flags, IsWhole flag := by
  unfold IsWhole flags launcher parseable outputMapFlag
  repeat rewrite [String.toList_ofList]
  decide

theorem IsOrderly.tail {w : Text} {ws : List Text} (h : IsOrderly (w :: ws)) : IsOrderly ws where
  whole v hv := h.whole v (List.mem_cons_of_mem w hv)
  follows := h.follows.tail

/-! ## The pass over the arguments -/

/-- **The arguments without the flags of the build system**, as far as something stands behind them.
-/
def kept : List Text → List Text
  | w :: v :: rest =>
      if w = parseable then kept (v :: rest)
      else if (w = outputMapFlag ∨ w = launcher ∧ v = dashes) ∧ rest ≠ [] then kept rest
      else w :: kept (v :: rest)
  | ws => ws

theorem kept_ne_nil {ws : List Text} (h : ws ≠ []) : kept ws ≠ [] := by
  fun_induction kept ws with
  | case1 v rest ih => exact ih (List.cons_ne_nil v rest)
  | case2 w v rest hw hflag ih => exact ih hflag.2
  | case3 w v rest hw hflag ih => exact List.cons_ne_nil w _
  | case4 ws hws => exact h

theorem mem_of_mem_kept {ws : List Text} {w : Text} (h : w ∈ kept ws) : w ∈ ws := by
  fun_induction kept ws with
  | case1 v rest ih => exact List.mem_cons_of_mem _ (ih h)
  | case2 u v rest hu hflag ih => exact List.mem_cons_of_mem _ (List.mem_cons_of_mem _ (ih h))
  | case3 u v rest hu hflag ih =>
      rcases List.mem_cons.mp h with rfl | h
      · exact List.mem_cons_self
      · exact List.mem_cons_of_mem _ (ih h)
  | case4 ws hws => exact h

/-! ## What the pass leaves -/

theorem endsInFlag_singleton {w : Text} : EndsInFlag [w] ↔ w = parseable ∨ w = outputMapFlag := by
  simp only [EndsInFlag, List.suffix_cons_iff, List.suffix_nil, List.dropLast_singleton]
  grind

/-- The flags that the last arguments are depend on the last two. -/
theorem endsInFlag_cons_cons {w v : Text} {rest : List Text} :
    EndsInFlag (w :: v :: rest) ↔
      EndsInFlag (v :: rest) ∨ rest = [] ∧ (w = outputMapFlag ∨ w = launcher ∧ v = dashes) := by
  cases rest with
  | nil =>
      have hpair : EndsInFlag [w, v] ↔
          (v = parseable ∨ v = outputMapFlag) ∨ w = launcher ∧ v = dashes ∨ w = outputMapFlag := by
        simp only [EndsInFlag, List.suffix_cons_iff, List.suffix_nil, List.dropLast_cons_of_ne_nil, ne_eq,
          List.cons_ne_nil, not_false_eq_true, List.dropLast_singleton]
        grind
      rw [hpair, endsInFlag_singleton]
      simp [or_comm]
  | cons u rest => simp [EndsInFlag, List.suffix_cons_iff]

theorem isCleared_cons {w : Text} {ws : List Text} :
    IsCleared (w :: ws) ↔
      (w ≠ parseable ∧ w ≠ outputMapFlag ∧ ¬ (w = launcher ∧ ws.head? = some dashes)) ∧
        IsCleared ws := by
  have hpair : [launcher, dashes] <+: w :: ws ↔ w = launcher ∧ ws.head? = some dashes := by
    cases ws <;> simp [eq_comm]
  rw [IsCleared, IsCleared, List.infix_cons_iff, hpair, List.mem_cons, List.mem_cons]
  grind

theorem isCleared_singleton {w : Text} : IsCleared [w] ↔ w ≠ parseable ∧ w ≠ outputMapFlag := by
  rw [isCleared_cons]
  simp [IsCleared]

/-- **The pass clears the arguments** if and only if they do not end in a flag. -/
theorem isCleared_kept_iff {ws : List Text} (h : IsOrderly ws) :
    IsCleared (kept ws) ↔ ¬ EndsInFlag ws := by
  fun_induction kept ws with
  | case1 v rest ih =>
      rw [ih h.tail, endsInFlag_cons_cons]
      simp [parseable_ne_launcher, parseable_ne_outputMapFlag]
  | case2 w v rest hw hflag ih =>
      obtain ⟨u, rest, rfl⟩ := List.exists_cons_of_ne_nil hflag.2
      -- what belongs to a flag is none itself
      have hv : v ∉ flags := by
        have hfollows := (List.isChain_cons_cons.mp h.follows).1
        rcases hflag.1 with hmap | ⟨-, rfl⟩
        · exact hfollows.2 hmap
        · exact not_mem_flags_dashes
      rw [not_mem_flags_iff] at hv
      rw [ih h.tail.tail, endsInFlag_cons_cons, endsInFlag_cons_cons]
      simp [hv]
  | case3 w v rest hw hflag ih =>
      rw [isCleared_cons, ih h.tail, endsInFlag_cons_cons]
      cases rest with
      | nil =>
          rw [kept, List.head?_cons, Option.some_inj]
          · grind
          · simp
      | cons u rest =>
          have hfollows := (List.isChain_cons_cons.mp h.follows).1
          have hlauncher : w ≠ launcher :=
            fun hw => hflag ⟨.inr ⟨hw, hfollows.1 hw⟩, List.cons_ne_nil u rest⟩
          have hmap : w ≠ outputMapFlag := fun hw => hflag ⟨.inl hw, List.cons_ne_nil u rest⟩
          simp [hw, hlauncher, hmap]
  | case4 ws hws =>
      cases ws with
      | nil => simp [IsCleared, EndsInFlag]
      | cons w rest =>
          cases rest with
          | nil => rw [isCleared_singleton, endsInFlag_singleton, not_or]
          | cons v rest => exact absurd rfl (hws w v rest)

/-! ## A sweep that takes out a flag

What is taken out ends with a blank, so a sweep acts on whole arguments: it takes the next one out
or passes over it. -/

/-- What a sweep takes out of a command: a flag, the blank behind it and what belongs to the flag.
-/
def Removes (flag : Text) (belongs : Text → Prop) (x y _r : Text) : Prop :=
  y = [] ∧ ∃ z, belongs z ∧ x = flag ++ ' ' :: z

section

variable {flag v w : Text} {belongs : Text → Prop} {f : Text → Text → Text}

theorem sweep_flag (hf : IsSweep (Removes flag belongs) f) {z r t : Text} (hz : belongs z)
    (ht : t = z ++ r) (before : Text) : f before (flag ++ ' ' :: t) = f before r := by
  have hreplace : f before ((flag ++ ' ' :: z) ++ r) = [] ++ f _ r := hf.replace ⟨rfl, z, hz, rfl⟩
  rw [List.append_assoc, List.cons_append, ← ht, List.nil_append] at hreplace
  rw [hreplace]
  exact hf.congr_before _ _ r

/-- An argument is passed over unless it ends in the flag and what stands behind it belongs to the
flag. -/
theorem sweep_argument (hf : IsSweep (Removes flag belongs) f) (hflag : IsField flag)
    (hw : IsField w)
    {r : Text} (h : flag <:+ w → ∀ z r', belongs z → r ≠ z ++ r') (before : Text) :
    f before (w ++ ' ' :: r) = w ++ ' ' :: f before r := by
  rw [hf.append_of_forall _ before before, hf.keep, hf.congr_before (' ' :: before) before]
  · rintro x y r' ⟨-, z, -, rfl⟩ heq
    obtain ⟨c, rest, rfl⟩ := List.exists_cons_of_ne_nil hflag.ne_nil
    obtain rfl : ' ' = c := (List.cons.inj heq).1
    exact hflag.space_not_mem List.mem_cons_self
  · rintro s hne hs x y r' ⟨-, z, hz, rfl⟩ heq
    have hs' : IsField s := ⟨hne, fun c hc => hw.not_blank c (hs.subset hc)⟩
    rw [List.append_assoc, List.cons_append] at heq
    obtain ⟨rfl, hr⟩ := hs'.append_space_inj hflag heq
    exact h hs z r' hz hr

theorem sweep_other (hf : IsSweep (Removes flag belongs) f) (hflag : flag ∈ flags) (hw : IsField w)
    (hwhole : IsWhole w) (hne : w ≠ flag) (before r : Text) :
    f before (w ++ ' ' :: r) = w ++ ' ' :: f before r :=
  sweep_argument hf (isField_of_mem_flags flag hflag) hw (fun hs => absurd (hwhole flag hflag hs) hne)
    before

theorem sweep_last (hf : IsSweep (Removes flag belongs) f) (hw : IsField w) (before : Text) :
    f before w = w := by
  have hkeep := hf.append_of_forall (w := w) (r := []) ?_ before before
  · rwa [hf.nil, List.append_nil] at hkeep
  · rintro s - hs x y r' ⟨-, z, -, rfl⟩ heq
    have hmem : ' ' ∈ s := by
      rw [List.append_nil] at heq
      simp [heq]
    exact hw.space_not_mem (hs.subset hmem)

/-- Behind the last argument but one nothing is left that belongs to a flag and has a blank in it.
-/
theorem sweep_last_two (hf : IsSweep (Removes flag belongs) f) (hflag : flag ∈ flags)
    (hbelongs : ∀ z, belongs z → ' ' ∈ z) (hw : IsField w) (hv : IsField v) (before : Text) :
    f before (w ++ ' ' :: v) = w ++ ' ' :: v := by
  rw [sweep_argument hf (isField_of_mem_flags flag hflag) hw, sweep_last hf hv]
  rintro - z r' hz rfl
  exact hv.space_not_mem (List.mem_append_left r' (hbelongs z hz))

end

/-! ## The three sweeps

Two of the searches are for plain texts and one is for a pattern; all three are sweeps of the same
kind. -/

/-- What belongs to a flag may be a text that is known. -/
theorem removes_eq (flag z : Text) :
    Removes flag (· = z) = fun x y _ => x = flag ++ ' ' :: z ∧ y = [] := by
  funext x y r
  simp [Removes, and_comm]

theorem isSweep_launcher :
    IsSweep (Removes launcher (· = dashes ++ [' '])) fun _ =>
      replacePart "builtin-swiftTaskExecution -- ".toList [] := by
  have hpart : "builtin-swiftTaskExecution -- ".toList = launcher ++ ' ' :: (dashes ++ [' ']) := by
    unfold launcher dashes
    repeat rewrite [String.toList_ofList]
    rfl
  rw [removes_eq, hpart]
  exact isSweep_replacePart (List.append_ne_nil_of_right_ne_nil _ (List.cons_ne_nil _ _)) []

theorem isSweep_parseable :
    IsSweep (Removes parseable (· = [])) fun _ => replacePart "-frontend-parseable-output ".toList [] := by
  have hpart : "-frontend-parseable-output ".toList = parseable ++ ' ' :: [] := by
    unfold parseable
    repeat rewrite [String.toList_ofList]
    rfl
  rw [removes_eq, hpart]
  exact isSweep_replacePart (List.append_ne_nil_of_right_ne_nil _ (List.cons_ne_nil _ _)) []

theorem spans_plus_notBlank_iff {a b : Cursor} :
    (plus (one .notBlank)).Spans a b ↔ ∃ v, IsField v ∧ Reads v a b := by
  have hholds {c : Char} : CharClass.holds .notBlank c = true ↔ isBlank c = false := by
    rw [CharClass.holds, Bool.not_eq_true']
  simp only [spans_plus_one_iff, hholds]
  constructor
  · rintro ⟨c, x, hc, hx, hread⟩
    exact ⟨c :: x, ⟨List.cons_ne_nil c x, List.forall_mem_cons.mpr ⟨hc, hx⟩⟩, hread⟩
  · rintro ⟨v, hv, hread⟩
    obtain ⟨c, x, rfl⟩ := List.exists_cons_of_ne_nil hv.ne_nil
    obtain ⟨hc, hx⟩ := List.forall_mem_cons.mp hv.not_blank
    exact ⟨c, x, hc, hx, hread⟩

theorem spans_outputMap_iff {a b : Cursor} :
    outputMap.Spans a b ↔ ∃ v, IsField v ∧ Reads (outputMapFlag ++ ' ' :: (v ++ [' '])) a b := by
  have hflag : "-supplementary-output-file-map ".toList = outputMapFlag ++ [' '] := by
    unfold outputMapFlag
    repeat rewrite [String.toList_ofList]
    rfl
  have hsplit (v : Text) :
      outputMapFlag ++ ' ' :: (v ++ [' ']) = (outputMapFlag ++ [' ']) ++ (v ++ [' ']) := by
    simp
  simp only [hsplit]
  constructor
  · rintro ⟨u, hliteral, w, hrun, hspace⟩
    obtain ⟨v, hv, hread⟩ := spans_plus_notBlank_iff.mp hrun
    rw [hflag, spans_literal_iff] at hliteral
    exact ⟨v, hv, hliteral.trans (hread.trans hspace)⟩
  · rintro ⟨v, hv, hread⟩
    obtain ⟨u, hliteral, hrest⟩ := hread.exists_between
    obtain ⟨w, hrun, hspace⟩ := hrest.exists_between
    rw [← spans_literal_iff, ← hflag] at hliteral
    exact ⟨u, hliteral, w, spans_plus_notBlank_iff.mpr ⟨v, hv, hrun⟩, hspace⟩

theorem neverEmpty_outputMap : NeverEmpty outputMap := by
  intro m hm
  obtain ⟨v, -, hread⟩ := spans_outputMap_iff.mp hm.spans
  exact ⟨_, List.append_ne_nil_of_right_ne_nil _ (List.cons_ne_nil _ _), hread⟩

theorem isSweep_outputMap :
    IsSweep (Removes outputMapFlag fun z => ∃ v, IsField v ∧ z = v ++ [' '])
      (outputMap.sweep (replacement fun _ => some [])) := by
  refine isSweep_sweep neverEmpty_outputMap rfl fun before x y r => ?_
  have hx : Reads x ⟨before, x ++ r⟩ ⟨x.reverse ++ before, r⟩ := ⟨rfl, rfl⟩
  constructor
  · rintro ⟨rfl, z, ⟨v, hv, rfl⟩, hflag⟩
    have hspans : outputMap.Spans ⟨before, x ++ r⟩ ⟨x.reverse ++ before, r⟩ :=
      spans_outputMap_iff.mpr ⟨v, hv, by rw [← hflag]; exact hx⟩
    obtain ⟨m, hm⟩ := exists_matchAt?_eq_some hspans
    obtain ⟨hstart, hmatch⟩ := matchAt?_eq_some hm
    obtain ⟨v', hv', hread⟩ := spans_outputMap_iff.mp hmatch.spans
    rw [hstart] at hread
    -- the blank behind the map says where the match ends
    have hafter := hread.after
    simp only [hflag, List.append_assoc, List.cons_append, List.nil_append,
      List.append_cancel_left_eq, List.cons.injEq, true_and] at hafter
    obtain ⟨-, hr⟩ := hv.append_space_inj hv' hafter
    exact ⟨m, hm, hread.eq_of_length_eq hx (by rw [← hr]), rfl⟩
  · rintro ⟨m, hm, hstop, rfl⟩
    obtain ⟨hstart, hmatch⟩ := matchAt?_eq_some hm
    obtain ⟨v, hv, hread⟩ := spans_outputMap_iff.mp hmatch.spans
    rw [hstart, hstop] at hread
    exact ⟨rfl, _, ⟨v, hv, rfl⟩, hx.textTo_eq.symm.trans hread.textTo_eq⟩

/-! ## What the three leave

By induction on the arguments, with the first argument or the first two in front. -/

/-- **A command without the flags of the build system**, as far as the sweeps take them out. -/
def withoutFlags (t : Text) : Text :=
  (outputMap.substitute (fun _ => some []) (removeAll buildSystemFlags t)).1

theorem withoutFlags_eq (t : Text) :
    withoutFlags t = outputMap.sweep (replacement fun _ => some []) []
      (replacePart "-frontend-parseable-output ".toList []
        (replacePart "builtin-swiftTaskExecution -- ".toList [] t)) := rfl

section

variable {v w : Text}

theorem withoutFlags_launcher (r : Text) :
    withoutFlags (launcher ++ ' ' :: (dashes ++ ' ' :: r)) = withoutFlags r := by
  rw [withoutFlags_eq, sweep_flag isSweep_launcher rfl (List.append_cons dashes ' ' r) [],
    ← withoutFlags_eq]

theorem withoutFlags_parseable (r : Text) :
    withoutFlags (parseable ++ ' ' :: r) = withoutFlags r := by
  have hfield := isField_of_mem_flags parseable parseable_mem_flags
  have hwhole := isWhole_of_mem_flags parseable parseable_mem_flags
  rw [withoutFlags_eq, sweep_other isSweep_launcher launcher_mem_flags hfield hwhole
    parseable_ne_launcher [], sweep_flag isSweep_parseable rfl (List.nil_append _).symm [],
    ← withoutFlags_eq]

/-- The first two sweeps pass over an argument that is none of their flags. -/
theorem removeAll_other (hw : IsField w) (hwhole : IsWhole w) (hlauncher : w ≠ launcher)
    (hparseable : w ≠ parseable) (r : Text) :
    removeAll buildSystemFlags (w ++ ' ' :: r) = w ++ ' ' :: removeAll buildSystemFlags r := by
  have hfirst := sweep_other isSweep_launcher launcher_mem_flags hw hwhole hlauncher [] r
  have hsecond := sweep_other isSweep_parseable parseable_mem_flags hw hwhole hparseable []
    (replacePart "builtin-swiftTaskExecution -- ".toList [] r)
  exact (congrArg (replacePart "-frontend-parseable-output ".toList []) hfirst).trans hsecond

theorem withoutFlags_other (hw : IsField w) (hwhole : IsWhole w) (hne : w ∉ flags) (r : Text) :
    withoutFlags (w ++ ' ' :: r) = w ++ ' ' :: withoutFlags r := by
  rw [not_mem_flags_iff] at hne
  rw [withoutFlags, removeAll_other hw hwhole hne.1 hne.2.1, substitute_fst,
    sweep_other isSweep_outputMap outputMapFlag_mem_flags hw hwhole hne.2.2 []]
  rfl

theorem withoutFlags_outputMap (hv : IsField v) (hwhole : IsWhole v) (hne : v ∉ flags) (r : Text) :
    withoutFlags (outputMapFlag ++ ' ' :: (v ++ ' ' :: r)) = withoutFlags r := by
  have hmap := isField_of_mem_flags outputMapFlag outputMapFlag_mem_flags
  have hmapWhole := isWhole_of_mem_flags outputMapFlag outputMapFlag_mem_flags
  rw [not_mem_flags_iff] at hne
  rw [withoutFlags, removeAll_other hmap hmapWhole launcher_ne_outputMapFlag.symm
    parseable_ne_outputMapFlag.symm, removeAll_other hv hwhole hne.1 hne.2.1, substitute_fst,
    sweep_flag isSweep_outputMap ⟨v, hv, rfl⟩ (List.append_cons v ' ' _) []]
  rfl

theorem withoutFlags_last (hw : IsField w) : withoutFlags w = w := by
  rw [withoutFlags_eq, sweep_last isSweep_launcher hw [], sweep_last isSweep_parseable hw [],
    sweep_last isSweep_outputMap hw]

/-- Of the last two arguments both stay, unless the first is a flag that nothing belongs to. -/
theorem withoutFlags_last_two (hw : IsField w) (hv : IsField v) (hwhole : IsWhole w)
    (hne : w ≠ parseable) : withoutFlags (w ++ ' ' :: v) = w ++ ' ' :: v := by
  have hlaunched := sweep_last_two isSweep_launcher launcher_mem_flags (by simp) hw hv []
  have hmapped := sweep_last_two isSweep_outputMap outputMapFlag_mem_flags
    (by rintro z ⟨u, -, rfl⟩; simp) hw hv []
  rw [withoutFlags_eq, hlaunched, sweep_other isSweep_parseable parseable_mem_flags hw hwhole hne [],
    sweep_last isSweep_parseable hv [], hmapped]

end

/-- **What the sweeps leave of a command is what the pass keeps** of its arguments. -/
theorem withoutFlags_joined {ws : List Text} (hfields : ∀ w ∈ ws, IsField w) (h : IsOrderly ws) :
    withoutFlags (joined ws) = joined (kept ws) := by
  fun_induction kept ws with
  | case1 v rest ih =>
      rw [joined_cons_cons, withoutFlags_parseable]
      exact ih (fun u hu => hfields u (List.mem_cons_of_mem _ hu)) h.tail
  | case2 w v rest hw hflag ih =>
      obtain ⟨u, rest, rfl⟩ := List.exists_cons_of_ne_nil hflag.2
      have hv : v ∈ w :: v :: u :: rest := List.mem_cons_of_mem w List.mem_cons_self
      have hrest := ih (fun u hu => hfields u (List.mem_cons_of_mem _ (List.mem_cons_of_mem _ hu)))
        h.tail.tail
      rw [joined_cons_cons, joined_cons_cons]
      rcases hflag.1 with rfl | ⟨rfl, rfl⟩
      · have hbelongs : v ∉ flags := (List.isChain_cons_cons.mp h.follows).1.2 rfl
        rw [withoutFlags_outputMap (hfields v hv) (h.whole v hv) hbelongs, hrest]
      · rw [withoutFlags_launcher, hrest]
  | case3 w v rest hw hflag ih =>
      have hfield : IsField w := hfields w List.mem_cons_self
      have hwhole : IsWhole w := h.whole w List.mem_cons_self
      have hrest := ih (fun u hu => hfields u (List.mem_cons_of_mem _ hu)) h.tail
      cases rest with
      | nil =>
          have hv : IsField v := hfields v (List.mem_cons_of_mem w List.mem_cons_self)
          have hkept : kept [v] = [v] := by simp [kept]
          rw [hkept, joined_cons_cons]
          exact withoutFlags_last_two hfield hv hwhole hw
      | cons u rest =>
          -- a flag would have been taken out, since something stands behind it
          have hfollows := (List.isChain_cons_cons.mp h.follows).1
          have hne : w ∉ flags := by
            rw [not_mem_flags_iff]
            exact ⟨fun hw => hflag ⟨.inr ⟨hw, hfollows.1 hw⟩, List.cons_ne_nil u rest⟩, hw,
              fun hw => hflag ⟨.inl hw, List.cons_ne_nil u rest⟩⟩
          obtain ⟨k, ks, hk⟩ :=
            List.exists_cons_of_ne_nil (kept_ne_nil (List.cons_ne_nil v (u :: rest)))
          rw [joined_cons_cons, withoutFlags_other hfield hwhole hne, hrest, hk, joined_cons_cons]
  | case4 ws hws =>
      cases ws with
      | nil => exact isSweep_outputMap.nil []
      | cons w rest =>
          cases rest with
          | nil => exact withoutFlags_last (hfields w List.mem_cons_self)
          | cons v rest => exact absurd rfl (hws w v rest)

end SwiftExistential.Invocation
