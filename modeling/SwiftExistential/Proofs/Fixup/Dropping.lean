import SwiftExistential.Proofs.Cleanup.Places
import SwiftExistential.Proofs.Diagnostic.Parsing
import SwiftExistential.Proofs.Fixup.PerLine

/-!
# Keywords that are dropped

A diagnostic may ask for a keyword to be removed from before a type. Each removal takes one keyword
and the blank behind it from a place where the type follows, maybe qualified (`applyAll_dropped`).
The patterns that look for the place do not ask for word boundaries, so the keyword may be the end
of a longer word and the type the start of one: a removal takes just the keyword out of the tokens
of the text exactly where it stands apart on both sides (`Removal.dropsToken_iff`).

A batch of fixups is a chain of removals from one text to the next. The statement is about every
chain that an output of a compiler can ask for, and about each of its links, so it says of every
removal when it does what was meant.
-/

set_option autoImplicit false

namespace SwiftExistential

open Pattern Text Unicode
open Cleanup (Qualifiers isName_word parts_lead spans_qualifiers_iff)
open Cursor (Reads)
open SitePatch (IsName)

/-! ## Tokens of joined texts

If a word goes on over a cut, the two parts share a token, and the text has one token less than its
parts. -/

namespace Text

theorem tokens_eq_filter_parts (t : Text) :
    tokens t = (parts t).filter fun part => !part.all isBlank := rfl

theorem tokens_name {w : Text} (hw : IsName w) : tokens w = [w] := by
  have hblank : w.all isBlank = false := by
    obtain ⟨c, rest, rfl⟩ := List.exists_cons_of_ne_nil hw.1
    have hc : isBlank c = false := by
      refine Bool.eq_false_iff.mpr fun hblank => ?_
      have hword := hw.2 c List.mem_cons_self
      rw [isWord_eq_false_of_isBlank hblank] at hword
      cases hword
    rw [List.all_cons, hc, Bool.false_and]
  rw [tokens_eq_filter_parts, parts_name hw, List.filter_cons_of_pos (by rw [hblank]; rfl),
    List.filter_nil]

theorem tokens_lead (k : Keyword) (r : Text) : tokens (k.lead ++ r) = k.word :: tokens r := by
  rw [tokens_eq_filter_parts, parts_lead]
  cases k <;> rfl

/-- **Two texts that are not apart share a token**: the word that goes on from one to the other. -/
theorem length_tokens_append {l r : Text} (h : ¬ Apart l r) :
    (tokens (l ++ r)).length + 1 = (tokens l).length + (tokens r).length := by
  rw [Apart, not_or, Bool.not_eq_false, Bool.not_eq_false] at h
  obtain ⟨hends, hstarts⟩ := h
  obtain ⟨v, r, hv, rfl, hr⟩ := exists_word_of_startsWord hstarts
  obtain ⟨u, l', hu, hl, hl'⟩ := exists_word_of_startsWord (t := l.reverse)
    (by rw [← endsWord_reverse, List.reverse_reverse, hends])
  have hl : l = l'.reverse ++ u.reverse := by
    rw [← List.reverse_append, ← hl, List.reverse_reverse]
  have hu : IsName u.reverse :=
    ⟨mt List.reverse_eq_nil_iff.mp hu.1, fun c hc => hu.2 c (List.mem_reverse.mp hc)⟩
  have hjoined : IsName (u.reverse ++ v) :=
    ⟨List.append_ne_nil_of_left_ne_nil hu.1 v, List.forall_mem_append.mpr ⟨hu.2, hv.2⟩⟩
  have hbefore (r : Text) : Apart l'.reverse r := .inl (by rw [endsWord_reverse, hl'])
  have hbehind (l : Text) : Apart l r := .inr hr
  have hwhole : l ++ (v ++ r) = l'.reverse ++ ((u.reverse ++ v) ++ r) := by
    rw [hl]
    simp only [List.append_assoc]
  rw [hwhole, hl, tokens_append (hbefore _), tokens_append (hbefore _), tokens_append (hbehind _),
    tokens_append (hbehind _), tokens_name hjoined, tokens_name hu, tokens_name hv]
  simp only [List.length_append, List.length_singleton]
  omega

theorem length_tokens_append_le (l r : Text) :
    (tokens (l ++ r)).length ≤ (tokens l).length + (tokens r).length := by
  by_cases h : Apart l r
  · rw [tokens_append h, List.length_append]
  · have hlen := length_tokens_append h
    omega

end Text

/-! ## Removals

A removal is told by what stands before it, the keyword, the qualifiers, the type and the rest of
the line. Nothing of a pattern is left in it. -/

/-- The keyword that a fix removes, and the type that it is removed from. -/
def LineFix.dropped? : LineFix → Option (Keyword × Text)
  | dropAny name => some (.any, name)
  | dropSome type => some (.some, type)
  | _ => none

/-- A keyword before a type, with the text around them. -/
structure Removal where
  keyword : Keyword
  before : Text
  /-- What the type is qualified by. -/
  qualifiers : List Text
  type : Text
  after : Text

namespace Removal

variable (r : Removal)

/-- The type with its qualifiers, and what stands behind it. -/
def rest : Text := r.qualifiers.flatten ++ (r.type ++ r.after)

/-- The text before the removal. -/
def source : Text := r.before ++ (r.keyword.lead ++ r.rest)

/-- The text after the removal. -/
def target : Text := r.before ++ r.rest

/-- **A removal that a fixup asks for**: of its keyword, from before its type, on its line. Only
`any` may stand before a qualified type. -/
structure IsOf (fixup : Fixup) : Prop where
  dropped : fixup.fix.dropped? = some (r.keyword, r.type)
  qualifiers : Qualifiers (fun _ => True) r.qualifiers
  unqualified : r.keyword = .some → r.qualifiers = []
  line : (lines r.before).length = fixup.line
  inLine : '\n' ∉ r.qualifiers.flatten ++ r.type

/-- **Just the keyword is gone** from the tokens of the text. -/
def DropsToken : Prop :=
  tokens r.source = tokens r.before ++ r.keyword.word ::
      (tokens (r.qualifiers.flatten ++ r.type) ++ tokens r.after) ∧
    tokens r.target = tokens r.before ++
      (tokens (r.qualifiers.flatten ++ r.type) ++ tokens r.after)

variable {r}

/-- **The keyword is taken out as a whole word from before the whole type** exactly if no word goes
on to it, and none behind the type. -/
theorem dropsToken_iff (htype : r.type ≠ []) :
    r.DropsToken ↔ endsWord r.before = false ∧ Apart r.type r.after := by
  have hends : endsWord (r.qualifiers.flatten ++ r.type) = endsWord r.type :=
    endsWord_append_of_ne_nil _ htype
  have hrest : r.rest = (r.qualifiers.flatten ++ r.type) ++ r.after :=
    (List.append_assoc _ _ _).symm
  constructor
  · rintro ⟨hsource, -⟩
    have hlen := congrArg List.length hsource
    rw [List.length_append, List.length_cons, List.length_append, source] at hlen
    have hlead : (tokens (r.keyword.lead ++ r.rest)).length = (tokens r.rest).length + 1 := by
      rw [tokens_lead, List.length_cons]
    have hle : (tokens r.rest).length ≤ (tokens (r.qualifiers.flatten ++ r.type)).length +
        (tokens r.after).length := hrest ▸ length_tokens_append_le _ _
    -- where two texts are not apart, a token is missing
    have hbefore : Apart r.before (r.keyword.lead ++ r.rest) := by
      by_contra hjoined
      have hshort := length_tokens_append hjoined
      omega
    have hafter : Apart (r.qualifiers.flatten ++ r.type) r.after := by
      by_contra hjoined
      have hshort := length_tokens_append hjoined
      rw [tokens_append hbefore, List.length_append, hlead, hrest] at hlen
      omega
    have hstarts : startsWord (r.keyword.lead ++ r.rest) = true := by
      cases r.keyword <;> rfl
    refine ⟨hbefore.resolve_right (by rw [hstarts]; decide), ?_⟩
    rwa [Apart, hends] at hafter
  · rintro ⟨hbefore, hafter⟩
    have hapart : Apart (r.qualifiers.flatten ++ r.type) r.after := by
      rwa [Apart, hends]
    rw [DropsToken, source, target, tokens_append (.inl hbefore), tokens_append (.inl hbefore),
      tokens_lead, hrest, tokens_append hapart]
    exact ⟨rfl, rfl⟩

end Removal

/-! ## On a line -/

section OnLine

variable {m : Match} {name type : Text} {k : Keyword}

/-- A match for `any` before a name reads the two with the qualifiers between them, which it keeps.
-/
theorem reads_of_dropAny (h : IsMatch (LineFix.dropAny name).pattern m) :
    ∃ g qs, m.group? 1 = some g ∧ g.start = m.start ∧ Qualifiers (fun _ => True) qs ∧
      Reads ("any ".toList ++ (qs.flatten ++ name)) g.start g.stop ∧
      (LineFix.dropAny name).replacement m = qs.flatten ++ name := by
  obtain ⟨t, ht, hstop, hgroups⟩ := h
  obtain ⟨t', ht', htcursor, htgroups⟩ := mem_ways_group ht
  obtain ⟨u, hu, ht'⟩ := mem_ways_seq ht'
  obtain ⟨hkeyword, -⟩ : Reads "any ".toList m.start u.cursor ∧ _ := mem_ways_literal hu
  obtain ⟨v, hv, hvcursor, hvgroups⟩ := mem_ways_group ht'
  obtain ⟨c, hqualifiers, hname⟩ := spans_of_mem_ways _ hv
  obtain ⟨qs, hqs, hfirst⟩ := spans_qualifiers_iff.mp hqualifiers
  have htype : Reads (qs.flatten ++ name) u.cursor t'.cursor := by
    rw [hvcursor]
    exact hfirst.trans (spans_literal_iff.mp hname)
  have hone : m.groups.find? (·.index == 1) = some ⟨1, m.start, t'.cursor⟩ := by
    rw [hgroups, htgroups]
    rfl
  have htwo : m.groups.find? (·.index == 2) = some ⟨2, u.cursor, t'.cursor⟩ := by
    rw [hgroups, htgroups, hvgroups, hvcursor]
    rfl
  exact ⟨_, qs, hone, rfl, hqs, hkeyword.trans htype, groupText_eq htwo htype⟩

/-- A match for `some` before a type reads the two and keeps the type. -/
theorem reads_of_dropSome (h : IsMatch (LineFix.dropSome type).pattern m) :
    ∃ g, m.group? 1 = some g ∧ g.start = m.start ∧ Reads "some ".toList g.start g.stop ∧
      Reads type g.stop m.stop := by
  obtain ⟨t, ht, hstop, hgroups⟩ := h
  obtain ⟨u, hu, ht⟩ := mem_ways_seq ht
  obtain ⟨u', hu', hucursor, hugroups⟩ := mem_ways_group hu
  obtain ⟨hsome, -⟩ := mem_ways_literal hu'
  obtain ⟨htype, htgroups⟩ := mem_ways_literal ht
  have hone : m.groups.find? (·.index == 1) = some ⟨1, m.start, u'.cursor⟩ := by
    rw [hgroups, htgroups, hugroups]
    rfl
  refine ⟨_, hone, rfl, hsome, ?_⟩
  rw [hstop, ← hucursor]
  exact htype

/-- **A line that a fixup changes** loses a keyword before the type. -/
theorem exists_removal_onLine {fixup : Fixup} {line : Text} (h : fixup.target? line = some m)
    (hdropped : fixup.fix.dropped? = some (k, type)) :
    ∃ r : Removal, r.keyword = k ∧ r.type = type ∧ Qualifiers (fun _ => True) r.qualifiers ∧
      (k = .some → r.qualifiers = []) ∧ line = r.source ∧ fixup.onLine line = r.target := by
  -- The target is one of the successive matches, so the line is what was read before it, the match,
  -- and the rest.
  have hmem := List.mem_of_find?_eq_some h
  have hchain := matchesFrom_successive fixup.fix.pattern
    ((Cursor.start line).skip fixup.skipped)
  obtain ⟨x, hx⟩ := hchain.exists_reads m hmem
  obtain ⟨w, hw⟩ := Reads.skip fixup.skipped (Cursor.start line)
  have hread := hw.trans hx
  have hbefore : m.start.before.reverse = w ++ x := hread.reverse_before
  have hmatch := hchain.isMatch m hmem
  rw [Fixup.onLine, h]
  -- Only two kinds of fixups remove a keyword.
  cases hfix : fixup.fix with
  | dropAny name =>
      rw [hfix] at hdropped hmatch
      cases hdropped
      obtain ⟨g, qs, hgroup, hstart, hqs, htype, hnew⟩ := reads_of_dropAny hmatch
      refine ⟨⟨.any, w ++ x, qs, type, g.stop.after⟩, rfl, rfl, hqs, (fun hk => by cases hk), ?_,
        ?_⟩
      · have hline := (hread.trans (hstart ▸ htype)).after
        simpa [Removal.source, Removal.rest, Keyword.lead, Keyword.word_any, Cursor.start] using hline
      · simp only [Match.textWith, hgroup, hnew, hstart, hbefore, Removal.target, Removal.rest,
          List.append_assoc]
  | dropSome name =>
      rw [hfix] at hdropped hmatch
      cases hdropped
      obtain ⟨g, hgroup, hstart, hkeyword, htype⟩ := reads_of_dropSome hmatch
      refine ⟨⟨.some, w ++ x, [], type, m.stop.after⟩, rfl, rfl, .nil, fun _ => rfl, ?_, ?_⟩
      · have hline := (hread.trans ((hstart ▸ hkeyword).trans htype)).after
        simpa [Removal.source, Removal.rest, Keyword.lead, Keyword.word_some, Cursor.start] using hline
      · simp only [Match.textWith, hgroup, LineFix.replacement_dropSome, hstart, hbefore, htype.after,
          Removal.target, Removal.rest, List.flatten_nil, List.nil_append, List.append_nil]
  | addAny name =>
      rw [hfix] at hdropped
      cases hdropped
  | anyForParameter =>
      rw [hfix] at hdropped
      cases hdropped
  | anyForReturn =>
      rw [hfix] at hdropped
      cases hdropped

end OnLine

/-! ## In a text -/

namespace Fixup

variable {fixup : Fixup} {k : Keyword} {type : Text}

/-- **A fixup that drops a keyword** changes nothing, or removes it from before the type on its
line. -/
theorem apply_dropped (hdropped : fixup.fix.dropped? = some (k, type)) (t : Text) :
    fixup.apply t = (t, false) ∨
      ∃ r : Removal, r.IsOf fixup ∧ t = r.source ∧ fixup.apply t = (r.target, true) := by
  cases hsplit : splitLine? fixup.line t with
  | none => exact .inl (apply_of_no_line (splitLine?_eq_none_iff.mp hsplit))
  | some parts =>
      obtain ⟨before, rest⟩ := parts
      obtain ⟨ht, earlier, hlen, hlines⟩ := splitLine?_eq_some hsplit
      rw [apply_eq hsplit]
      cases htarget : fixup.target? (rest.takeWhile (· != '\n')) with
      | none =>
          refine .inl ?_
          rw [onLine, fits, htarget, ht, List.append_assoc, List.takeWhile_append_dropWhile]
          rfl
      | some m =>
          obtain ⟨r, rfl, rfl, hqs, hnone, hline, hnew⟩ := exists_removal_onLine htarget hdropped
          -- The removal inside the line is one inside the text, with the lines around it.
          have hnewline := not_mem_takeWhile_line rest
          rw [hline, Removal.source, Removal.rest] at hnewline
          simp only [List.mem_append, not_or] at hnewline
          refine .inr ⟨⟨r.keyword, before ++ r.before, r.qualifiers, r.type,
            r.after ++ rest.dropWhile (· != '\n')⟩, ⟨hdropped, hqs, hnone, ?_, ?_⟩, ?_, ?_⟩
          · rw [hlines, lines_of_not_mem hnewline.1, List.length_append, List.length_singleton,
              hlen]
          · simp only [List.mem_append, not_or]
            exact ⟨hnewline.2.2.1, hnewline.2.2.2.1⟩
          · have hrest : rest = r.source ++ rest.dropWhile (· != '\n') := by
              rw [← hline, List.takeWhile_append_dropWhile]
            rw [ht]
            conv_lhs => rw [hrest]
            simp only [Removal.source, Removal.rest, List.append_assoc]
          · rw [hnew, fits, htarget]
            simp only [Removal.target, Removal.rest, List.append_assoc, Option.isSome_some]

end Fixup

/-! ## What a message asks for

The type that a message names is not empty; this is what a removal needs to be sure of a word behind
the keyword. -/

namespace Diagnostic

/-- A message about a keyword without effect names a type. -/
theorem groupText_noEffect_ne_nil {m : Match} (h : IsMatch noEffect m) : m.groupText 1 ≠ [] := by
  obtain ⟨t, ht, hstop, hgroups⟩ := h
  obtain ⟨u, -, ht⟩ := mem_ways_inOrder_cons ht
  obtain ⟨v, -, ht⟩ := mem_ways_inOrder_cons ht
  obtain ⟨w, -, ht⟩ := mem_ways_inOrder_cons ht
  obtain ⟨x, -, ht⟩ := mem_ways_inOrder_cons ht
  obtain ⟨y, hy, ht⟩ := mem_ways_inOrder_cons ht
  obtain ⟨y', hy', hycursor, hygroups⟩ := mem_ways_group hy
  obtain ⟨z, hz, hmark⟩ := mem_ways_seq hy'
  obtain ⟨c, run, -, -, hword, -⟩ := mem_ways_plus_one hz
  obtain ⟨mark, hmark, -⟩ := reads_of_mem_ways rfl hmark
  have htGroups : t.groups = y.groups :=
    groups_eq_of_mem_ways (p := inOrder [SitePatch.metatype, char '\'']) rfl ht
  rw [groupText_eq (by rw [hgroups, htGroups, hygroups]; rfl) (hword.trans hmark)]
  exact List.cons_ne_nil c _

/-- A message about `some` before something else names a type. -/
theorem groupText_constrainedSome_ne_nil {m : Match} (h : IsMatch constrainedSome m) :
    m.groupText 1 ≠ [] := by
  obtain ⟨t, ht, hstop, hgroups⟩ := h
  obtain ⟨u, -, ht⟩ := mem_ways_inOrder_cons ht
  obtain ⟨v, hv, ht⟩ := mem_ways_inOrder_cons ht
  obtain ⟨x, hx, hread, hvgroups⟩ := @mem_ways_group_run _ _ _ (.noneOf ['\'']) hv
  obtain ⟨-, htgroups⟩ := mem_ways_literal ht
  rw [groupText_eq (by rw [hgroups, htgroups, hvgroups]; rfl) hread]
  exact hx.1

/-- **A message that asks for a removal names the type.** -/
theorem ne_nil_of_dropped? {message type : Text} {verdict : Verdict} {k : Keyword}
    (h : understand? message = some verdict) (hdropped : verdict.fix.dropped? = some (k, type)) :
    type ≠ [] := by
  -- Only two messages make a fixup that drops a keyword.
  rcases understand?_cases h with ⟨m, -, rfl⟩ |
    ⟨-, ⟨m, heffect, rfl⟩ | ⟨-, ⟨-, rfl⟩ | ⟨-, rfl⟩ | ⟨m, hsome, rfl⟩⟩⟩ <;> cases hdropped
  · exact groupText_noEffect_ne_nil (find?_eq_some heffect).2
  · exact groupText_constrainedSome_ne_nil (find?_eq_some hsome).2

/-- The fixups of an output come from messages that were understood. -/
theorem exists_understand? {registry : Registry} {lines unrecognized : List Text}
    {fixups : List Fixup} (h : (parse registry lines).1 = .completed fixups unrecognized)
    {fixup : Fixup} (hmem : fixup ∈ fixups) :
    ∃ message verdict, understand? message = some verdict ∧ verdict.fix = fixup.fix := by
  rw [parse_fst] at h
  split at h
  · cases h
  · cases h
    obtain ⟨line, -, hline⟩ := List.mem_filterMap.mp hmem
    rw [read] at hline
    split at hline
    · cases hline
    · split at hline
      · cases hline
      · rename_i e _
        split at hline
        · cases hline
        · rename_i verdict hverdict
          cases hline
          exact ⟨e.message, verdict, hverdict, rfl⟩

end Diagnostic

/-! ## Many fixups -/

/-- One removal after the other, from a text to another one. -/
def Removal.Leads : Text → List Removal → Text → Prop
  | t, [], t' => t = t'
  | t, r :: rs, t' => t = r.source ∧ Removal.Leads r.target rs t'

namespace Fixup

theorem foldl_apply_dropped {fixups : List Fixup}
    (hdropped : ∀ fixup ∈ fixups, fixup.fix.dropped?.isSome = true) (t : Text) (n : Nat) :
    ∃ rs : List Removal,
      Removal.Leads t rs (fixups.foldl (fun (text, count) fixup =>
        let (text', changed) := fixup.apply text
        (text', if changed then count + 1 else count)) (t, n)).1 ∧
      (fixups.foldl (fun (text, count) fixup =>
        let (text', changed) := fixup.apply text
        (text', if changed then count + 1 else count)) (t, n)).2 = n + rs.length ∧
      ∀ r ∈ rs, ∃ fixup ∈ fixups, r.IsOf fixup := by
  induction fixups generalizing t n with
  | nil => exact ⟨[], rfl, rfl, by simp⟩
  | cons fixup fixups ih =>
      obtain ⟨hfirst, hrest⟩ := List.forall_mem_cons.mp hdropped
      obtain ⟨⟨k, type⟩, hfirst⟩ := Option.isSome_iff_exists.mp hfirst
      simp only [List.foldl_cons]
      -- Each fixup removes one keyword more, or leaves the text and the count as they are.
      rcases apply_dropped hfirst t with happly | ⟨r, hr, rfl, happly⟩
      · obtain ⟨rs, hleads, hcount, hrs⟩ := ih hrest t n
        simp only [happly]
        exact ⟨rs, hleads, hcount, fun r hr => by
          obtain ⟨f, hf, hof⟩ := hrs r hr
          exact ⟨f, List.mem_cons_of_mem _ hf, hof⟩⟩
      · obtain ⟨rs, hleads, hcount, hrs⟩ := ih hrest r.target (n + 1)
        simp only [happly, if_true]
        refine ⟨r :: rs, ⟨rfl, hleads⟩, hcount.trans ?_, ?_⟩
        · rw [List.length_cons]
          omega
        · rintro r' hr'
          rcases List.mem_cons.mp hr' with rfl | hr'
          · exact ⟨fixup, List.mem_cons_self, hr⟩
          · obtain ⟨f, hf, hof⟩ := hrs r' hr'
            exact ⟨f, List.mem_cons_of_mem _ hf, hof⟩

/-- **Fixups that drop keywords**, which a diagnosed output asked for, make removals and nothing
else, one for each of them that is counted. A removal takes just the keyword out of the tokens of
the text exactly where no word goes on to it and none goes on behind the type. -/
theorem applyAll_dropped {registry : Registry} {lines unrecognized : List Text}
    {fixups chosen : List Fixup}
    (hparse : (Diagnostic.parse registry lines).1 = .completed fixups unrecognized)
    (hchosen : ∀ fixup ∈ chosen, fixup ∈ fixups ∧ fixup.fix.dropped?.isSome = true)
    (content : Text) :
    ∃ rs : List Removal, Removal.Leads content rs (applyAll content chosen).1 ∧
      (applyAll content chosen).2 = rs.length ∧
      ∀ r ∈ rs, (∃ fixup ∈ chosen, r.IsOf fixup) ∧
        (r.DropsToken ↔ endsWord r.before = false ∧ Apart r.type r.after) := by
  have hsorted : ∀ fixup ∈ chosen.mergeSort fun a b => decide (b.line ≤ a.line),
      fixup.fix.dropped?.isSome = true :=
    fun fixup hfixup => (hchosen fixup (List.mem_mergeSort.mp hfixup)).2
  obtain ⟨rs, hleads, hcount, hrs⟩ := foldl_apply_dropped hsorted content 0
  refine ⟨rs, hleads, hcount.trans (Nat.zero_add _), fun r hr => ?_⟩
  obtain ⟨fixup, hfixup, hof⟩ := hrs r hr
  have hmem := List.mem_mergeSort.mp hfixup
  obtain ⟨message, verdict, hunderstood, hfix⟩ :=
    Diagnostic.exists_understand? hparse (hchosen fixup hmem).1
  have htype := Diagnostic.ne_nil_of_dropped? hunderstood (hfix ▸ hof.dropped)
  exact ⟨⟨fixup, hmem, hof⟩, Removal.dropsToken_iff htype⟩

/-- A diagnostic about a keyword without effect. -/
def noEffectLine : Text :=
  "F.swift:1:8: error: 'any' has no effect on concrete type 'Worker'".toList

def noEffectFixup : Fixup := ⟨"F.swift".toList, 1, some 8, .dropAny "Worker".toList⟩

theorem parse_noEffectLine :
    (Diagnostic.parse .empty [noEffectLine]).1 = .completed [noEffectFixup] [] := by
  unfold noEffectLine noEffectFixup
  repeat rewrite [String.toList_ofList]
  decide +kernel

/-- The keyword is removed from before a qualified type. -/
theorem applyAll_dropped_of_noEffectLine :
    applyAll "let w: any App.Worker\n".toList [noEffectFixup] = ("let w: App.Worker\n".toList, 1) ∧
      ∃ r : Removal, r.source = "let w: any App.Worker\n".toList ∧
        r.target = "let w: App.Worker\n".toList ∧ r.IsOf noEffectFixup ∧
        (r.DropsToken ↔ endsWord r.before = false ∧ Apart r.type r.after) := by
  have happlied : applyAll "let w: any App.Worker\n".toList [noEffectFixup] =
      ("let w: App.Worker\n".toList, 1) := by
    rw [applyAll, List.mergeSort_singleton]
    unfold noEffectFixup
    repeat rewrite [String.toList_ofList]
    decide +kernel
  have hchosen : ∀ fixup ∈ [noEffectFixup],
      fixup ∈ [noEffectFixup] ∧ fixup.fix.dropped?.isSome = true := by decide
  obtain ⟨rs, hleads, hcount, hrs⟩ :=
    applyAll_dropped parse_noEffectLine hchosen "let w: any App.Worker\n".toList
  rw [happlied] at hleads hcount
  obtain ⟨r, rfl⟩ := List.length_eq_one_iff.mp hcount.symm
  obtain ⟨⟨fixup, hfixup, hof⟩, hdrops⟩ := hrs r (List.mem_singleton_self r)
  obtain rfl := List.mem_singleton.mp hfixup
  exact ⟨happlied, r, hleads.1.symm, hleads.2, hof, hdrops⟩

/-- **No boundary is asked for**: the keyword is removed from before a longer name, and the end of a
longer word is removed for the keyword. -/
theorem applyAll_noEffectFixup :
    (Diagnostic.parse .empty [noEffectLine]).1 = .completed [noEffectFixup] [] ∧
      applyAll "let w: any Workers\n".toList [noEffectFixup] = ("let w: Workers\n".toList, 1) ∧
      "Worker".toList ∉ tokens "let w: any Workers\n".toList ∧
      applyAll "let w: many Worker\n".toList [noEffectFixup] = ("let w: mWorker\n".toList, 1) ∧
      "any".toList ∉ tokens "let w: many Worker\n".toList := by
  refine ⟨parse_noEffectLine, ?_⟩
  rw [applyAll, List.mergeSort_singleton, applyAll, List.mergeSort_singleton]
  unfold noEffectFixup
  repeat rewrite [String.toList_ofList]
  decide +kernel

end Fixup

end SwiftExistential
