import SwiftExistential.Proofs.Cleanup.Reading
import SwiftExistential.Proofs.SitePatch.Simultaneous

/-!
# Rewrites touch annotations only

Every pass replaces the matches of a pattern. A replacement that keeps the bare tokens wherever its
match stands is `Faithful`, and a pass that makes only such replacements keeps the bare tokens of
every text (`bare_substitute`). So each pass comes down to a look at one match.

The patches of a file put keywords before words, and the cleanup passes move, change and drop
keywords and put parentheses around types. Together nothing else in the file changes: the tokens
that are no part of an annotation are those of the file as it was (`bare_rewrite`). The bound on the
sweeps, the order of the passes and the switches of the policy play no part in this.
-/

set_option autoImplicit false

namespace SwiftExistential

open Pattern Text
open Cursor (Reads)

namespace Cleanup

/-! ## Faithful replacements

The text before a match is not the one of the file but the one that was written so far. It ends like
the one of the file, so a replacement is asked for behind every text that ends alike. -/

/-- **A replacement that keeps the bare tokens**, behind every text that ends like the one before
the match. -/
def Faithful (m : Match) (new : Text) : Prop :=
  ∀ l, endsWord l = endsWord m.start.before.reverse →
    bare (l ++ new ++ m.stop.after) = bare (l ++ m.start.after) ∧
      endsWord (l ++ new) = endsWord m.stop.before.reverse

theorem faithful_text {p : Pattern} {m : Match} (h : IsMatch p m) : Faithful m m.text := by
  obtain ⟨x, hread⟩ := h.exists_reads
  intro l hl
  rw [Match.text, hread.textTo_eq]
  refine ⟨by rw [hread.after, List.append_assoc], ?_⟩
  rw [hread.reverse_before]
  exact endsWord_append_congr hl x

theorem faithful_replacement {p : Pattern} {new : Match → Option Text}
    (h : ∀ m, p.matchAt? m.start = some m → ∀ y, new m = some y → Faithful m y) {m : Match}
    (hm : p.matchAt? m.start = some m) : Faithful m (Pattern.replacement new m) := by
  rw [Pattern.replacement]
  cases hy : new m with
  | none => exact faithful_text (matchAt?_eq_some hm).2
  | some y => exact h m hm y hy

/-- **Faithful replacements keep the bare tokens of a text.** -/
theorem bare_substitute {p : Pattern} {new : Match → Option Text}
    (h : ∀ m, p.matchAt? m.start = some m → ∀ y, new m = some y → Faithful m y) (t : Text) :
    bare (p.substitute new t).1 = bare t := by
  refine splice_induction (fun t' => bare t' = bare t) (matchesFrom_successive p (.start t)) ?_ []
    rfl rfl
  intro m hm l hl hbare
  obtain ⟨hsame, hend⟩ := faithful_replacement h (matchAt?_of_mem_matchesFrom hm) l hl
  exact ⟨hsame.trans hbare, hend⟩

/-- An annotation inside a match may be replaced by another one. -/
theorem faithful_of_replace {m : Match} {a u v b : Text}
    (hread : Reads (a ++ u ++ b) m.start m.stop) (hu : bare u = []) (hv : bare v = [])
    (ha : endsWord (m.start.before.reverse ++ a) = false) (huv : endsWord u = endsWord v)
    (hur : Apart u (b ++ m.stop.after)) (hvr : Apart v (b ++ m.stop.after)) :
    Faithful m (a ++ v ++ b) := by
  intro l hl
  have hla : endsWord (l ++ a) = false := by rw [endsWord_append_congr hl a, ha]
  constructor
  · calc bare (l ++ (a ++ v ++ b) ++ m.stop.after)
        = bare (l ++ a ++ v ++ (b ++ m.stop.after)) := by simp only [List.append_assoc]
      _ = bare (l ++ a ++ u ++ (b ++ m.stop.after)) :=
          bare_replace hv hu (.inl hla) hvr (.inl hla) hur
      _ = bare (l ++ m.start.after) := by
          rw [hread.after]
          simp only [List.append_assoc]
  · have hends : endsWord (l ++ a ++ v) = endsWord (m.start.before.reverse ++ a ++ u) := by
      have hplain : endsWord (l ++ a ++ v) = endsWord ([] ++ v) := endsWord_append_congr hla v
      have hplain' : endsWord (m.start.before.reverse ++ a ++ u) = endsWord ([] ++ u) :=
        endsWord_append_congr ha u
      rw [hplain, hplain', List.nil_append, List.nil_append, huv]
    rw [hread.reverse_before]
    simpa only [List.append_assoc] using endsWord_append_congr hends b

theorem bare_keyword (k : Keyword) : bare k.word = [] := by
  cases k <;> decide

/-! ## The passes

One lemma for a match of each pass, and from it one for the pass. -/

variable {protocol : Pattern} {m : Match}

theorem faithful_forbiddenSome (hm : IsMatch (forbiddenSome protocol) m) :
    Faithful m ("any ".toList ++ m.groupText 1 ++ m.groupText 2) := by
  obtain ⟨a, b, x, z, hsome, htype, hrest, hstart, -, -, hone, htwo⟩ := reads_of_forbiddenSome hm
  have hread : Reads ([] ++ "some ".toList ++ (x ++ z)) m.start m.stop :=
    hsome.trans (htype.trans hrest)
  rw [hone, htwo, List.append_assoc]
  exact faithful_of_replace hread (by decide) (by decide)
    (by rwa [List.append_nil]) rfl (.inl rfl) (.inl rfl)

/-- **`some` becomes `any`.** -/
theorem bare_revertForbiddenSome (protocol : Pattern) (t : Text) :
    bare (revertForbiddenSome protocol t).1 = bare t := by
  refine bare_substitute (fun m hm y hy => ?_) t
  cases hy
  exact faithful_forbiddenSome (matchAt?_eq_some hm).2

theorem faithful_constraintKeyword (hm : IsMatch constraintKeyword m) :
    Faithful m ("<".toList ++ m.groupText 1 ++ ": ".toList) := by
  obtain ⟨x, k, hread, -, -, hone⟩ := reads_of_constraintKeyword hm
  -- the keyword goes with the blanks on both sides of it, and one blank is put back
  have hread : Reads (("<".toList ++ x ++ ":".toList) ++ (' ' :: k.word ++ [' ']) ++ [])
      m.start m.stop := by rwa [List.append_nil]
  have hdropped : bare (' ' :: k.word ++ [' ']) = [] := by
    cases k <;> decide
  have hbefore : endsWord (m.start.before.reverse ++ ("<".toList ++ x ++ ":".toList)) = false := by
    rw [← List.append_assoc]
    exact endsWord_concat _ ':'
  have hspaces : endsWord (' ' :: k.word ++ [' ']) = endsWord " ".toList := by
    rw [endsWord_concat]
    rfl
  have hblank : endsWord (' ' :: k.word ++ [' ']) = false := endsWord_concat _ ' '
  have hnew := faithful_of_replace (v := " ".toList) hread hdropped (by decide) hbefore
    hspaces (.inl hblank) (.inl rfl)
  rw [hone]
  simpa using hnew

/-- **A keyword in a constraint is dropped.** -/
theorem bare_stripConstraints (t : Text) : bare (stripConstraints t).1 = bare t := by
  refine bare_substitute (fun m hm y hy => ?_) t
  cases hy
  exact faithful_constraintKeyword (matchAt?_eq_some hm).2

theorem faithful_cast (hprotocol : protocol.hasGroup = false)
    (hm : (cast protocol).matchAt? m.start = some m) :
    Faithful m (m.groupText 1 ++ "any ".toList ++ m.groupText 2) := by
  obtain ⟨a, b, c, hcast⟩ := exists_castReading hprotocol hm
  obtain ⟨x, y, z, hoperator, -, -, hz, hblank⟩ := hcast.operator
  obtain ⟨w, htype⟩ := hcast.exists_reads_type
  -- nothing is replaced: the keyword is put between operator and type
  have hread : Reads ((x ++ (y ++ z)) ++ [] ++ w) m.start m.stop := by
    rw [List.append_nil]
    exact hoperator.trans htype
  have hbefore : endsWord (m.start.before.reverse ++ (x ++ (y ++ z))) = false := by
    rw [← List.append_assoc, ← List.append_assoc, endsWord_append_of_ne_nil _ hz,
      endsWord_blanks hblank]
  rw [hcast.operatorText, hcast.typeText, hoperator.textTo_eq, htype.textTo_eq]
  exact faithful_of_replace hread rfl (by decide) hbefore rfl (.inl rfl) (.inl rfl)

/-- **A cast takes `any`** between its operator and its type. -/
theorem bare_annotateCasts (policy : Policy) (hprotocol : protocol.hasGroup = false) (t : Text) :
    bare (annotateCasts policy protocol t).1 = bare t := by
  refine bare_substitute (fun m hm y hy => ?_) t
  split at hy
  · cases hy
    exact faithful_cast hprotocol hm
  · cases hy

theorem faithful_anyReturn (hprotocol : protocol.hasGroup = false)
    (hm : IsMatch (anyReturn protocol) m) :
    Faithful m ("-> some ".toList ++ m.groupText 1 ++ " \x7b".toList) := by
  obtain ⟨a, b, x, harrow, hname, hbrace, -, hone⟩ := reads_of_anyReturn hprotocol hm
  have hread : Reads ("-> ".toList ++ "any ".toList ++ (x ++ " \x7b".toList)) m.start m.stop :=
    harrow.trans (hname.trans hbrace)
  have hbefore : endsWord (m.start.before.reverse ++ "-> ".toList) = false := by
    rw [endsWord_append_of_ne_nil _ (by decide)]
    rfl
  have hnew := faithful_of_replace (v := "some ".toList) hread (by decide)
    (by decide) hbefore rfl (.inl rfl) (.inl rfl)
  rw [hone]
  simpa using hnew

/-- **A returned `any` becomes `some`.** -/
theorem bare_promoteReturns (keep : List Text) (hprotocol : protocol.hasGroup = false) (t : Text) :
    bare (promoteReturns keep protocol t).1 = bare t := by
  refine bare_substitute (fun m hm y hy => ?_) t
  split at hy
  · cases hy
    exact faithful_anyReturn hprotocol (matchAt?_eq_some hm).2
  · cases hy

/-- A match on a plain line with its last word replaced. -/
theorem text_someOnPlainLine {a : Cursor} {x : Text} (hline : Reads x m.start a)
    (hsome : Reads "some".toList a m.stop) :
    m.text.take (m.text.length - Keyword.some.word.length) ++ Keyword.any.word =
      x ++ "any".toList := by
  rw [Match.text, (hline.trans hsome).textTo_eq, List.length_append]
  simp only [Keyword.word_any, Keyword.word_some, Nat.add_sub_cancel, List.take_left]

theorem faithful_someOnPlainLine (hm : IsMatch someOnPlainLine m) :
    Faithful m (m.text.take (m.text.length - Keyword.some.word.length) ++ Keyword.any.word) := by
  obtain ⟨a, x, hline, hsome, hbefore, hafter⟩ := reads_of_someOnPlainLine hm
  have hread : Reads (x ++ "some".toList ++ []) m.start m.stop := by
    rw [List.append_nil]
    exact hline.trans hsome
  rw [hline.reverse_before] at hbefore
  have hnew := faithful_of_replace (v := "any".toList) hread (by decide)
    (by decide) hbefore rfl (.inr hafter) (.inr hafter)
  rwa [List.append_nil, ← text_someOnPlainLine hline hsome] at hnew

/-- **The last `some` of a plain line becomes `any`.** -/
theorem bare_revertPlainLines (t : Text) : bare (revertPlainLines t).1 = bare t := by
  refine bare_substitute (fun m hm y hy => ?_) t
  cases hy
  exact faithful_someOnPlainLine (matchAt?_eq_some hm).2

theorem faithful_bareOptional (hm : IsMatch (bareOptional protocol) m) :
    Faithful m ("(any ".toList ++ m.groupText 1 ++ ")".toList ++ m.groupText 2) := by
  obtain ⟨k, blank, x, mark, a, b, hkeyword, htype, hmarked, hstart, ⟨hne, hblank⟩, hmark, -, hone,
    htwo⟩ := reads_of_bareOptional hm
  have hread : Reads (k.word ++ blank ++ (x ++ [mark])) m.start m.stop :=
    hkeyword.trans (htype.trans hmarked)
  have hmarkWord : Unicode.isWord mark = false := by
    rcases hmark with rfl | rfl <;> decide
  have hkeywordBlank : bare (k.word ++ blank) = [] := by
    rw [bare_append (.inr (startsWord_blanks hblank)), bare_keyword, bare_blanks hblank,
      List.append_nil]
  have hkeywordEnd : endsWord (k.word ++ blank) = false := by
    rw [endsWord_append_of_ne_nil _ hne, endsWord_blanks hblank]
  rw [hone, htwo]
  -- two places change, so one replacement does not do
  intro l hl
  rw [hstart] at hl
  constructor
  · -- the keyword goes behind a parenthesis, and the other parenthesis before the mark
    have hfirst := bare_replace (l := l) (r := x ++ [mark] ++ m.stop.after) hkeywordBlank
      (v := "(any ".toList) (by decide) (.inl hl) (.inl hkeywordEnd) (.inl hl) (.inl rfl)
    have hsecond := bare_replace (l := l ++ "(any ".toList ++ x) (u := []) (v := ")".toList)
      (r := [mark] ++ m.stop.after) rfl (by decide) (.inr hmarkWord) (.inl rfl) (.inr rfl)
      (.inl rfl)
    calc bare (l ++ ("(any ".toList ++ x ++ ")".toList ++ [mark]) ++ m.stop.after)
        = bare (l ++ "(any ".toList ++ x ++ ")".toList ++ ([mark] ++ m.stop.after)) := by
          simp only [List.append_assoc]
      _ = bare (l ++ "(any ".toList ++ (x ++ [mark] ++ m.stop.after)) := by
          rw [← hsecond]
          simp only [List.append_assoc, List.nil_append]
      _ = bare (l ++ (k.word ++ blank) ++ (x ++ [mark] ++ m.stop.after)) := hfirst.symm
      _ = bare (l ++ m.start.after) := by
          rw [hread.after]
          simp only [List.append_assoc]
  · have hmarkEnd (z : Text) : endsWord (z ++ [mark]) = false := by rw [endsWord_concat, hmarkWord]
    have hbefore : m.stop.before.reverse =
        m.start.before.reverse ++ (k.word ++ blank ++ x) ++ [mark] := by
      rw [hread.reverse_before]
      simp only [List.append_assoc]
    rw [hbefore, hmarkEnd, ← List.append_assoc, hmarkEnd]

/-- **An annotated optional stands in parentheses.** -/
theorem bare_parenthesise (protocol : Pattern) (t : Text) :
    bare (parenthesise protocol t).1 = bare t := by
  refine bare_substitute (fun m hm y hy => ?_) t
  cases hy
  exact faithful_bareOptional (matchAt?_eq_some hm).2

theorem faithful_doubledKeyword (hm : IsMatch doubledKeyword m) :
    Faithful m (mergedKeyword (m.groupText 1) (m.groupText 2)).word := by
  obtain ⟨first, second, blank, hread, hstart, hafter, ⟨hne, hspaces⟩, -, -⟩ :=
    reads_of_doubledKeyword hm
  have hblank : ∀ c ∈ blank, Unicode.isBlank c = true := by
    intro c hc
    rw [hspaces c hc]
    decide
  have hread : Reads ([] ++ (first.word ++ (blank ++ second.word)) ++ []) m.start m.stop := by
    rwa [List.append_nil]
  -- both keywords and the blanks between them go, whichever keyword is put in their place
  have hnothing : bare (first.word ++ (blank ++ second.word)) = [] := by
    have hapart : startsWord (blank ++ second.word) = false := by
      rw [startsWord_append_of_ne_nil hne, startsWord_blanks hblank]
    rw [bare_append (.inr hapart), bare_append (.inl (endsWord_blanks hblank)), bare_keyword,
      bare_blanks hblank, bare_keyword]
    rfl
  have hends (k : Keyword) :
      endsWord (first.word ++ (blank ++ second.word)) = endsWord k.word := by
    rw [← List.append_assoc, endsWord_append_of_ne_nil _ (ne_nil_of_endsWord (endsWord_keyword _)),
      endsWord_keyword, endsWord_keyword]
  simpa only [List.nil_append, List.append_nil] using faithful_of_replace hread hnothing
    (bare_keyword _) (by rwa [List.append_nil]) (hends _) (.inr hafter) (.inr hafter)

/-- **One keyword for two.** -/
theorem bare_collapseOnce (t : Text) : bare (collapseOnce t).1 = bare t := by
  refine bare_substitute (fun m hm y hy => ?_) t
  cases hy
  exact faithful_doubledKeyword (matchAt?_eq_some hm).2

/-! ## The passes in turn -/

theorem bare_repeatPass {pass : Text → Text × Nat} (h : ∀ t, bare (pass t).1 = bare t) (n : Nat)
    (t : Text) : bare (repeatPass pass n t).1 = bare t := by
  induction n generalizing t with
  | zero => rfl
  | succ n ih =>
      have hpass := h t
      rw [repeatPass]
      rcases hrun : pass t with ⟨t', count⟩
      rw [hrun] at hpass
      have hpass : bare t' = bare t := hpass
      simp only
      split
      · exact hpass
      · exact (ih t').trans hpass

theorem bare_runPasses {passes : List (Text → Text × Nat)}
    (h : ∀ pass ∈ passes, ∀ t, bare (pass t).1 = bare t) (t : Text) :
    bare (runPasses passes t).1 = bare t := by
  unfold runPasses
  refine List.foldlRecOn (motive := fun state : Text × Nat => bare state.1 = bare t) passes _ rfl ?_
  intro state hstate pass hpass
  exact (h pass hpass state.1).trans hstate

/-- **The cleanup keeps the bare tokens.** -/
theorem bare_run (registry : Registry) (policy : Policy) (options : Options) (t : Text) :
    bare (run registry policy options t).1 = bare t := by
  rw [run, Registry.pattern?]
  cases registry.isEmpty with
  | true => rfl
  | false =>
      refine bare_runPasses (fun pass hpass t => ?_) t
      have hprotocol := hasGroup_wholeName registry.names
      simp only [passes, List.mem_cons, List.not_mem_nil, or_false] at hpass
      rcases hpass with rfl | rfl | rfl | rfl | rfl | rfl | rfl
      · exact bare_revertForbiddenSome _ t
      · exact bare_stripConstraints t
      · exact bare_annotateCasts policy hprotocol t
      · exact bare_promoteReturns _ hprotocol t
      · exact bare_repeatPass bare_revertPlainLines _ t
      · exact bare_parenthesise _ t
      · exact bare_repeatPass bare_collapseOnce _ t

end Cleanup

/-! ## Patches and passes

Keywords before words are an annotated form of a text, and a keyword with its blank has no bare
tokens. -/

namespace SitePatch

/-- **Keywords before words are no bare tokens**, whatever text stands before. -/
theorem Annotated.bare_eq {previous : Option Char} {t t' : Text} (h : Annotated previous t t')
    (l : Text) (hl : l.getLast? = previous) : bare (l ++ t') = bare (l ++ t) := by
  induction h generalizing l with
  | nil => rfl
  | @keep previous c t t' tail ih =>
      have hrest := ih (l ++ [c]) List.getLast?_concat
      rwa [List.append_assoc, List.append_assoc] at hrest
  | @insert previous c t t' k hprevious hc tail ih =>
      have hrest := ih (l ++ [c]) List.getLast?_concat
      rw [List.append_assoc, List.append_assoc] at hrest
      -- the keyword is apart from what stands before it, and ends in a blank
      have hend : endsWord l = false := by
        rw [endsWord, hl]
        cases previous with
        | none => rfl
        | some d =>
            rw [Option.all_some, canPrecede, Bool.and_eq_true, Bool.not_eq_true'] at hprevious
            rw [Option.any_some, hprevious.1]
      have hlead : bare k.lead = [] := by cases k <;> decide
      have hblank : endsWord k.lead = false := by cases k <;> rfl
      calc bare (l ++ (k.lead ++ c :: t'))
          = bare (l ++ k.lead ++ c :: t') := by rw [List.append_assoc]
        _ = bare l ++ bare (c :: t') := bare_append_append hlead (.inl hend) (.inl hblank)
        _ = bare (l ++ c :: t') := (bare_append (.inl hend)).symm
        _ = bare (l ++ c :: t) := hrest

/-- **A batch of patches keeps the bare tokens.** -/
theorem bare_applyAll (content : Text) (patches : List SitePatch)
    (hnames : ∀ p ∈ patches, IsName p.identifier) :
    bare (applyAll content patches).1 = bare content := by
  obtain ⟨progress, done, hreached, -, happlied⟩ := reached_applyAll content patches hnames
  have hannotated : Annotated none content (insertInto (textAt done) 0 content) :=
    annotated_insertInto hreached.uses hreached.nodup (List.nil_append content).symm
  rw [happlied, hreached.output_eq, insertAll_eq_insertInto hreached.uses]
  exact hannotated.bare_eq [] rfl

end SitePatch

namespace Cleanup

/-- **A rewrite touches nothing but annotations**: after patches and cleanup the bare tokens are
those of the file before. -/
theorem bare_rewrite (content : Text) (patches : List SitePatch)
    (hnames : ∀ p ∈ patches, SitePatch.IsName p.identifier) (registry : Registry) (policy : Policy)
    (options : Options) :
    bare (run registry policy options (SitePatch.applyAll content patches).1).1 = bare content := by
  rw [bare_run, SitePatch.bare_applyAll content patches hnames]

def optionalParameter : Text := "func f(x: Worker?) -> any Worker \x7b".toList

def parameterSites : List SitePatch := [⟨9, "Worker".toList, some .some⟩]

/-- The registry that knows the protocol of the parameter. -/
def workerRegistry : Registry := Registry.empty.insert "Worker".toList (.file "Worker.swift".toList)

/-- Its name is a word, and none that the passes read as a keyword or an operator. -/
theorem isName_of_mem_workerRegistry : ∀ n ∈ workerRegistry.names,
    SitePatch.IsName n ∧ n ∉ ["any".toList, "some".toList, "is".toList, "as".toList] := by
  unfold workerRegistry
  repeat rewrite [String.toList_ofList]
  decide +kernel

/-- A rewrite that inserts a keyword, changes both and adds parentheses. -/
theorem bare_rewrite_of_optional_parameter :
    (∀ p ∈ parameterSites, SitePatch.IsName p.identifier) ∧
      (run workerRegistry (.ofClasses []) ⟨[], 1⟩
        (SitePatch.applyAll optionalParameter parameterSites).1).1 =
          "func f(x: (any Worker)?) -> some Worker \x7b".toList ∧
      bare "func f(x: (any Worker)?) -> some Worker \x7b".toList = bare optionalParameter := by
  obtain ⟨hnames, hrun⟩ : (∀ p ∈ parameterSites, SitePatch.IsName p.identifier) ∧
      (run workerRegistry (.ofClasses []) ⟨[], 1⟩
        (SitePatch.applyAll optionalParameter parameterSites).1).1 =
          "func f(x: (any Worker)?) -> some Worker \x7b".toList := by
    unfold workerRegistry parameterSites optionalParameter
    repeat rewrite [String.toList_ofList]
    decide +kernel
  have hbare := bare_rewrite optionalParameter parameterSites hnames workerRegistry
    (.ofClasses []) ⟨[], 1⟩
  rw [hrun] at hbare
  exact ⟨hnames, hrun, hbare⟩

end Cleanup

end SwiftExistential
