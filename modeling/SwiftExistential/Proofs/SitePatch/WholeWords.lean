import SwiftExistential.Proofs.Cleanup.Places
import SwiftExistential.Proofs.SitePatch.Simultaneous
import SwiftExistential.Proofs.Text.Tokens

/-!
# Whole words

An annotation is put before an occurrence of an identifier as a whole word. What counts as one is
settled in the window of a patch, and the window may end inside a word: the offset above it need not
be the start of one. There the end of the window passes for the end of the word.

So an annotation stands before a whole word of the text unless its window cuts a longer word there
(`applyAll_delimited_iff`). The condition is exact: an annotation whose window cuts a longer word
stands before no whole word, and if all offsets are outside words, no window cuts one. The line `let
w: Workers` with two patches for `Worker` is the smallest example (`applyAll_clippedSites`).
-/

set_option autoImplicit false

namespace SwiftExistential.SitePatch

open Pattern Text Unicode
open Cleanup (Qualifiers spans_qualifiers_iff spans_metatype_iff)
open Cursor (Reads exists_reads_of_after)

/-! ## Dotted names

An occurrence may be qualified: the identifier is then the last or an inner component of a dotted
name. -/

/-- **The components of the dotted name that a text begins with.** -/
def components (t : Text) : List Text :=
  (splitOn '.' (t.takeWhile fun c => isWord c || c == '.')).takeWhile fun w => !w.isEmpty

section Components

variable {w r t identifier : Text}

theorem dot_not_mem_of_isName (hw : IsName w) : '.' ∉ w := fun hmem =>
  absurd (hw.2 '.' hmem) (by decide)

/-- A text that begins with no word begins with no dotted name. -/
theorem components_eq_nil (h : startsWord t = false) : components t = [] := by
  cases t with
  | nil => rfl
  | cons c rest =>
      have hc : isWord c = false := h
      rw [components, List.takeWhile_cons, hc, Bool.false_or]
      by_cases hdot : c = '.'
      · subst hdot
        rw [if_pos (by rfl), splitOn, if_pos rfl]
        rfl
      · rw [if_neg (by simpa using hdot)]
        rfl

theorem takeWhile_dotted (hw : IsName w) (r : Text) :
    (w ++ r).takeWhile (fun c => isWord c || c == '.') =
      w ++ r.takeWhile fun c => isWord c || c == '.' :=
  List.takeWhile_append_of_pos fun c hc => by rw [hw.2 c hc, Bool.true_or]

/-- A word without a dot behind it is the last component. -/
theorem components_last (hw : IsName w) (hr : startsWord r = false) (hdot : r.head? ≠ some '.') :
    components (w ++ r) = [w] := by
  have hend : r.takeWhile (fun c => isWord c || c == '.') = [] := by
    cases r with
    | nil => rfl
    | cons c rest =>
        have hc : isWord c = false := hr
        have hne : (c == '.') = false := by simpa using hdot
        rw [List.takeWhile_cons, hc, hne, Bool.or_self, if_neg Bool.false_ne_true]
  rw [components, takeWhile_dotted hw, hend, List.append_nil,
    splitOn_of_not_mem (dot_not_mem_of_isName hw), List.takeWhile_cons,
    List.isEmpty_eq_false_iff.mpr hw.1]
  rfl

theorem components_dot (hw : IsName w) : components (w ++ '.' :: r) = w :: components r := by
  have hstep : ('.' :: r).takeWhile (fun c => isWord c || c == '.') =
      '.' :: r.takeWhile fun c => isWord c || c == '.' := by
    rw [List.takeWhile_cons, beq_self_eq_true, Bool.or_true, if_pos rfl]
  rw [components, takeWhile_dotted hw, hstep, splitOn_append_cons (dot_not_mem_of_isName hw),
    List.takeWhile_cons, List.isEmpty_eq_false_iff.mpr hw.1]
  rfl

/-- **A component is reached over qualifiers**, and no word goes on behind it. -/
theorem mem_components_iff (hname : IsName identifier) :
    identifier ∈ components t ↔ ∃ qs r, Qualifiers (fun _ => True) qs ∧
      t = qs.flatten ++ (identifier ++ r) ∧ startsWord r = false := by
  constructor
  · intro h
    -- By induction on the length: behind a word and a dot a shorter text begins.
    induction hlen : t.length using Nat.strong_induction_on generalizing t with
    | _ n ih =>
    cases hstarts : startsWord t with
    | false =>
        rw [components_eq_nil hstarts] at h
        cases h
    | true =>
        obtain ⟨w, r, hw, rfl, hr⟩ := exists_word_of_startsWord hstarts
        by_cases hdot : r.head? = some '.'
        · obtain ⟨r, rfl⟩ := List.head?_eq_some_iff.mp hdot
          rw [components_dot hw] at h
          rcases List.mem_cons.mp h with rfl | h
          · exact ⟨[], '.' :: r, .nil, rfl, hr⟩
          · have hlt : r.length < n := by
              rw [← hlen, List.length_append, List.length_cons]
              omega
            obtain ⟨qs, r', hqs, rfl, hr'⟩ := ih _ hlt h rfl
            exact ⟨w :: ['.'] :: qs, r', .cons hw trivial hqs, by simp, hr'⟩
        · rw [components_last hw hr hdot] at h
          rw [List.mem_singleton.mp h]
          exact ⟨[], r, .nil, rfl, hr⟩
  · rintro ⟨qs, r, hqs, rfl, hr⟩
    -- Back, by induction on the qualifiers before the name.
    induction hqs with
    | nil =>
        by_cases hdot : r.head? = some '.'
        · obtain ⟨r, rfl⟩ := List.head?_eq_some_iff.mp hdot
          exact List.mem_of_mem_head? (by rw [List.flatten_nil, List.nil_append, components_dot hname]; rfl)
        · rw [List.flatten_nil, List.nil_append, components_last hname hr hdot]
          exact List.mem_singleton_self _
    | @cons w qs hw _ _ ih =>
        have hflat : (w :: ['.'] :: qs).flatten ++ (identifier ++ r) =
            w ++ '.' :: (qs.flatten ++ (identifier ++ r)) := by simp
        rw [hflat, components_dot hw]
        exact List.mem_cons_of_mem w ih

end Components

/-! ## Whole words

The notion is about the text alone. It mentions the identifier and a byte offset, but no window and
no pattern. -/

section Delimited

variable {content identifier before after : Text} {position : Nat}

/-- **An occurrence of the identifier as a whole word** begins at a byte offset of the text. -/
def Delimited (content identifier : Text) (position : Nat) : Prop :=
  ∃ before after, content = before ++ after ∧ byteLength before = position ∧
    ∃ stop, (occurrence identifier).Spans ⟨before.reverse, after⟩ stop

/-- The identifier occurs where no word goes on and a dotted name begins of which it is a component.
-/
theorem exists_spans_occurrence_iff (hname : IsName identifier) {a : Cursor} :
    (∃ stop, (occurrence identifier).Spans a stop) ↔
      endsWord a.before.reverse = false ∧ identifier ∈ components a.after := by
  rw [mem_components_iff hname]
  -- With or without qualifiers the occurrence starts and ends with a word, so the two boundaries
  -- are about its neighbours alone.
  have hstarts {qs : List Text} (hqs : Qualifiers (fun _ => True) qs) :
      startsWord (qs.flatten ++ identifier) = true := by
    cases hqs with
    | nil => exact hname.startsWord
    | cons hw _ _ =>
        rw [List.flatten_cons, List.append_assoc, startsWord_append_of_ne_nil hw.1, hw.startsWord]
  constructor
  · rintro ⟨stop, _, ⟨rfl, hstart⟩, b, ⟨c, hqualifiers, d, hidentifier, hmetatype⟩, rfl, hstop⟩
    obtain ⟨qs, hqs, hfirst⟩ := spans_qualifiers_iff.mp hqualifiers
    have hidentifier := spans_literal_iff.mp hidentifier
    refine ⟨(hfirst.trans hidentifier).endsWord_before hstart (hstarts hqs), qs, d.after, hqs, ?_,
      ?_⟩
    · rw [hfirst.after, hidentifier.after]
    · rcases spans_metatype_iff.mp hmetatype with htype | rfl
      · rw [htype.after]
        rfl
      · exact hidentifier.startsWord_after hstop hname.endsWord
  · rintro ⟨hbefore, qs, r, hqs, hafter, hr⟩
    obtain ⟨c, hfirst, hc⟩ := exists_reads_of_after hafter
    obtain ⟨d, hidentifier, hd⟩ := exists_reads_of_after hc
    have hstart : a.atBoundary = true :=
      (hfirst.trans hidentifier).atBoundary_start hbefore (hstarts hqs)
    have hstop : d.atBoundary = true := hidentifier.atBoundary_stop (hd ▸ hr) hname.endsWord
    exact ⟨d, a, ⟨rfl, hstart⟩, d, ⟨c, spans_qualifiers_iff.mpr ⟨qs, hqs, hfirst⟩, d,
      spans_literal_iff.mpr hidentifier, .inr rfl⟩, rfl, hstop⟩

theorem delimited_append_iff (hname : IsName identifier) :
    Delimited (before ++ after) identifier (byteLength before) ↔
      endsWord before = false ∧ identifier ∈ components after := by
  have hspans : (∃ stop, (occurrence identifier).Spans ⟨before.reverse, after⟩ stop) ↔
      endsWord before = false ∧ identifier ∈ components after := by
    rw [exists_spans_occurrence_iff hname, List.reverse_reverse]
  rw [← hspans]
  constructor
  · rintro ⟨before', after', heq, hlen, hspans⟩
    obtain ⟨rfl, rfl⟩ := eq_of_byteLength_eq heq hlen.symm
    exact hspans
  · exact fun hspans => ⟨before, after, rfl, rfl, hspans⟩

end Delimited

/-! ## Annotations

An annotation of a batch is an insertion that one of its patches asks for, so it can be traced back
to the window that it was found in. -/

section Annotations

variable {content : Text} {patches : List SitePatch} {p : SitePatch} {e : Nat × Text}

/-- **The patch puts the annotation there**: it is the one that counts at its offset, and the
insertion is one of its window. -/
def Annotates (content : Text) (patches : List SitePatch) (p : SitePatch) (e : Nat × Text) : Prop :=
  leader? content patches p.offset = some p ∧
    e ∈ insertionsOf content p (windowEnd content patches p.offset)

theorem mem_insertions_iff :
    e ∈ insertions content patches ↔ ∃ p ∈ patches, Annotates content patches p e := by
  rw [insertions, List.mem_flatMap]
  constructor
  · rintro ⟨offset, -, he⟩
    rw [insertionsAt] at he
    split at he
    · cases he
    · rename_i p hleader
      have hp := List.find?_some hleader
      obtain rfl : p.offset = offset := eq_of_beq (Bool.and_eq_true_iff.mp hp).2
      exact ⟨p, List.mem_of_find?_eq_some hleader, hleader, he⟩
  · rintro ⟨p, hp, hleader, he⟩
    have heffective := List.find?_some hleader
    refine ⟨p.offset, mem_offsets.mpr (List.mem_map_of_mem (List.mem_filter.mpr
      ⟨mem_ordered.mpr hp, (Bool.and_eq_true_iff.mp heffective).1⟩)), ?_⟩
    rw [insertionsAt, hleader]
    exact he

/-- The window of a patch ends at the end of the text or at a larger offset that takes part. -/
theorem windowEnd_cases (content : Text) (patches : List SitePatch) (offset : Nat) :
    windowEnd content patches offset = content.byteLength ∨
      offset < windowEnd content patches offset ∧
        windowEnd content patches offset ∈ offsets content patches := by
  rw [windowEnd]
  cases hmin : ((offsets content patches).filter (offset < ·)).min? with
  | none => exact .inl rfl
  | some stop =>
      obtain ⟨hmem, -⟩ := List.min?_eq_some_iff.mp hmin
      obtain ⟨hmem, hlt⟩ := List.mem_filter.mp hmem
      exact .inr ⟨of_decide_eq_true hlt, hmem⟩

theorem exists_cut_windowEnd (patches : List SitePatch) (hp : isEffective content p = true) :
    ∃ before mid suf, content = before ++ (mid ++ suf) ∧ byteLength before = p.offset ∧
      windowEnd content patches p.offset = byteLength before + byteLength mid := by
  obtain ⟨-, before, after, -, hcontent, hoffset⟩ := exists_cut hp
  rcases windowEnd_cases content patches p.offset with hend | ⟨hlt, hend⟩
  · refine ⟨before, after, [], by rw [List.append_nil, hcontent], hoffset, ?_⟩
    rw [hend, hcontent, byteLength_append]
  · obtain ⟨q, hq, hstop⟩ := List.mem_map.mp (mem_offsets.mp hend)
    obtain ⟨-, pre, suf, -, hpre, hlen⟩ := exists_cut (mem_effective hq).2
    have hle : byteLength before ≤ byteLength pre := by omega
    obtain ⟨mid, rfl, rfl⟩ := exists_of_byteLength_le (hcontent.symm.trans hpre) hle
    refine ⟨before, mid, suf, hcontent, hoffset, ?_⟩
    rw [← hstop, ← hlen, byteLength_append]

/-- **What stands where an annotation is put**: the identifier over qualifiers, with no word before
it. A word goes on behind it only if the window ends there. -/
theorem exists_of_mem_insertionsOf {before mid suf : Text} {stop : Nat}
    (hcut : content = before ++ (mid ++ suf)) (hoffset : byteLength before = p.offset)
    (hstop : stop = byteLength before + byteLength mid) (hname : IsName p.identifier)
    (he : e ∈ insertionsOf content p stop) :
    ∃ a qs r, content = a ++ (qs.flatten ++ (p.identifier ++ r)) ∧ byteLength a = e.1 ∧
      endsWord a = false ∧ Qualifiers (fun _ => True) qs ∧
      (startsWord r = false ∨ e.1 + byteLength (qs.flatten ++ p.identifier) = stop) := by
  obtain ⟨huse, -, -⟩ := mem_insertionsOf hcut hoffset hstop hname he
  rw [insertionsOf, ← hoffset] at he
  split at he
  · cases he
  rename_i keyword hkeyword
  obtain ⟨inside, more, tail, rfl, -, hw, hmore⟩ := windowAt_between before mid suf
  rw [hcut, hstop, hw] at he
  obtain ⟨m, hm, rfl⟩ := List.mem_map.mp he
  obtain ⟨hfound, -⟩ := Window.mem_uses hm
  have hchain := matchesFrom_successive (occurrence p.identifier)
    (Window.start ⟨before.reverse.takeWhile (· != '\n'), inside, tail⟩)
  obtain ⟨x, hread⟩ := hchain.exists_reads m hfound
  -- in the window, the match is delimited
  obtain ⟨-, hcomponent⟩ := (exists_spans_occurrence_iff hname).mp
    ⟨m.stop, (hchain.isMatch m hfound).spans⟩
  obtain ⟨qs, r, hqs, hafter, hr⟩ := (mem_components_iff hname).mp hcomponent
  have hinside : inside = x ++ (qs.flatten ++ (p.identifier ++ r)) := hafter ▸ hread.after
  have hplace : content =
      (before ++ x) ++ (qs.flatten ++ (p.identifier ++ (r ++ (more ++ suf)))) := by
    rw [hcut, hinside]
    simp only [List.append_assoc]
  have hlen : byteLength (before ++ x) = byteLength before + byteLength x := byteLength_append _ _
  rw [Window.position, hread.textTo_eq] at huse ⊢
  obtain ⟨a, b, -, hab, ha, -, hprevious, -⟩ := huse
  obtain ⟨rfl, -⟩ := eq_of_byteLength_eq (hplace.symm.trans hab) (hlen.trans ha.symm)
  refine ⟨before ++ x, qs, r ++ (more ++ suf), hplace, hlen, ?_, hqs, ?_⟩
  · cases hends : endsWord (before ++ x) with
    | false => rfl
    | true =>
        rw [all_canPrecede_eq_false hends] at hprevious
        cases hprevious
  · cases r with
    | cons c r => exact .inl hr
    | nil =>
        rcases hmore with ⟨rest, rfl, -⟩ | ⟨rfl, -⟩
        · exact .inl (by decide : startsWord ['\n'] = false)
        · refine .inr ?_
          rw [hstop, hinside]
          simp only [List.append_nil, byteLength_append]
          omega

/-! ## Cut words

In a window that cuts a word the text up to the end of the window reads as the identifier. The word
that goes on behind it shows that the offset of another patch lies inside it. -/

/-- An offset with word characters on both sides. -/
def InsideWord (content : Text) (offset : Nat) : Prop :=
  ∃ before after, content = before ++ after ∧ byteLength before = offset ∧
    endsWord before = true ∧ startsWord after = true

/-- **The window cuts a longer word**: the text up to its end reads as the identifier over
qualifiers, and a word goes on there, though no component of the dotted name is the identifier. -/
def CutsWord (content identifier : Text) (position stop : Nat) : Prop :=
  ∃ before qs rest, content = before ++ (qs.flatten ++ (identifier ++ rest)) ∧
    byteLength before = position ∧ Qualifiers (fun _ => True) qs ∧
    position + byteLength (qs.flatten ++ identifier) = stop ∧ startsWord rest = true ∧
    identifier ∉ components (qs.flatten ++ (identifier ++ rest))

theorem CutsWord.insideWord {identifier : Text} {position stop : Nat} (hname : IsName identifier)
    (h : CutsWord content identifier position stop) : InsideWord content stop := by
  obtain ⟨before, qs, rest, hcontent, rfl, -, rfl, hrest, -⟩ := h
  refine ⟨before ++ (qs.flatten ++ identifier), rest, ?_, byteLength_append _ _, ?_, hrest⟩
  · simp only [hcontent, List.append_assoc]
  · rw [← List.append_assoc, endsWord_append_of_ne_nil _ hname.1, hname.endsWord]

/-- **An annotation stands before a whole word** unless its window cuts a longer one there. -/
theorem Annotates.delimited_iff (hname : IsName p.identifier) (h : Annotates content patches p e) :
    Delimited content p.identifier e.1 ↔
      ¬ CutsWord content p.identifier e.1 (windowEnd content patches p.offset) := by
  obtain ⟨hleader, he⟩ := h
  have hp := List.find?_some hleader
  obtain ⟨before, mid, suf, hcut, hoffset, hstop⟩ :=
    exists_cut_windowEnd patches (Bool.and_eq_true_iff.mp hp).1
  obtain ⟨a, qs, r, hcontent, hlen, ha, hqs, hr⟩ :=
    exists_of_mem_insertionsOf hcut hoffset hstop hname he
  rw [← hlen] at hr ⊢
  constructor
  · rintro hdelimited ⟨a', qs', r', hcontent', hlen', -, -, -, hnot⟩
    rw [hcontent', ← hlen', delimited_append_iff hname] at hdelimited
    exact hnot hdelimited.2
  · intro hcuts
    rw [hcontent, delimited_append_iff hname]
    refine ⟨ha, ?_⟩
    by_contra hnot
    rcases hr with hr | hstop'
    · exact hnot ((mem_components_iff hname).mpr ⟨qs, r, hqs, rfl, hr⟩)
    · cases hrest : startsWord r with
      | false => exact hnot ((mem_components_iff hname).mpr ⟨qs, r, hqs, rfl, hrest⟩)
      | true => exact hcuts ⟨a, qs, r, hcontent, rfl, hqs, hstop', hrest, hnot⟩

/-- A window that cuts a word ends at the offset of another patch. -/
theorem CutsWord.exists_patch {position : Nat} (hname : IsName p.identifier)
    (h : CutsWord content p.identifier position (windowEnd content patches p.offset)) :
    ∃ q ∈ patches, isEffective content q = true ∧ p.offset < q.offset ∧
      InsideWord content q.offset := by
  have hinside := h.insideWord hname
  rcases windowEnd_cases content patches p.offset with hend | ⟨hlt, hend⟩
  · obtain ⟨before, after, rfl, hlen, -, hafter⟩ := hinside
    have hpos := byteLength_pos (ne_nil_of_startsWord hafter)
    rw [hend, byteLength_append] at hlen
    omega
  · obtain ⟨q, hq, hstop⟩ := List.mem_map.mp (mem_offsets.mp hend)
    obtain ⟨hmem, heffective⟩ := mem_effective hq
    exact ⟨q, hmem, heffective, hstop ▸ hlt, hstop ▸ hinside⟩

end Annotations

/-- **Every annotation of a batch stands before a whole word**, except where a window cuts a longer
one: there another patch that takes part has a larger offset, inside a word. -/
theorem applyAll_delimited_iff (content : Text) (patches : List SitePatch)
    (hnames : ∀ p ∈ patches, IsName p.identifier) :
    applyAll content patches =
        (insertAll (insertions content patches) content, (insertions content patches).length) ∧
      (∀ e, e ∈ insertions content patches ↔ ∃ p ∈ patches, Annotates content patches p e) ∧
      ∀ p ∈ patches, ∀ e, Annotates content patches p e →
        (Delimited content p.identifier e.1 ↔
          ¬ CutsWord content p.identifier e.1 (windowEnd content patches p.offset)) ∧
        (CutsWord content p.identifier e.1 (windowEnd content patches p.offset) →
          ∃ q ∈ patches, isEffective content q = true ∧ p.offset < q.offset ∧
            InsideWord content q.offset) := by
  refine ⟨(applyAll_eq_insertAll content patches hnames).1, fun e => mem_insertions_iff, ?_⟩
  exact fun p hp e he => ⟨he.delimited_iff (hnames p hp), CutsWord.exists_patch (hnames p hp)⟩

/-- The keyword of the second site stands before its qualified name. -/
theorem applyAll_delimited_iff_of_workerSites :
    (∀ p ∈ workerSites, IsName p.identifier) ∧
      Annotates workerLine workerSites ⟨15, "Worker".toList, some .some⟩ (18, "some ".toList) ∧
      Delimited workerLine "Worker".toList 18 := by
  have hnames : ∀ p ∈ workerSites, IsName p.identifier := fun p hp =>
    (isName_of_mem_workerSites p hp).1
  obtain ⟨hannotates, hlast⟩ : Annotates workerLine workerSites ⟨15, "Worker".toList, some .some⟩
        (18, "some ".toList) ∧
      ∀ q ∈ workerSites, isEffective workerLine q = true → q.offset ≤ 15 := by
    unfold Annotates workerLine workerSites
    repeat rewrite [String.toList_ofList]
    decide +kernel
  refine ⟨hnames, hannotates, ?_⟩
  obtain ⟨hiff, hcuts⟩ := (applyAll_delimited_iff workerLine workerSites hnames).2.2
    ⟨15, "Worker".toList, some .some⟩ (by decide) _ hannotates
  refine hiff.mpr fun hcut => ?_
  obtain ⟨q, hq, heffective, hlt, -⟩ := hcuts hcut
  exact Nat.not_lt.mpr (hlast q hq heffective) hlt

/-- A line that names a longer word. -/
def workersLine : Text := "let w: Workers\n".toList

/-- A patch for the line, and one whose offset is inside the longer word. -/
def clippedSites : List SitePatch :=
  [⟨0, "Worker".toList, some .any⟩, ⟨13, "Worker".toList, some .any⟩]

/-- **A window that ends inside a word annotates it**, though the identifier is no word of the line.
-/
theorem applyAll_clippedSites :
    (∀ p ∈ clippedSites, IsName p.identifier) ∧
      applyAll workersLine clippedSites = ("let w: any Workers\n".toList, 1) ∧
      Annotates workersLine clippedSites ⟨0, "Worker".toList, some .any⟩ (7, "any ".toList) ∧
      ∀ position, ¬ Delimited workersLine "Worker".toList position := by
  obtain ⟨hnames, hinsertions, hout, hannotates, hnowhere, hname⟩ :
      (∀ p ∈ clippedSites, IsName p.identifier) ∧
        insertions workersLine clippedSites = [(7, "any ".toList)] ∧
        insertAll [(7, "any ".toList)] workersLine = "let w: any Workers\n".toList ∧
        Annotates workersLine clippedSites ⟨0, "Worker".toList, some .any⟩ (7, "any ".toList) ∧
        (∀ k < 16, "Worker".toList ∉ components (workersLine.drop k)) ∧ IsName "Worker".toList := by
    unfold Annotates workersLine clippedSites
    repeat rewrite [String.toList_ofList]
    decide +kernel
  have happlied : applyAll workersLine clippedSites = ("let w: any Workers\n".toList, 1) := by
    rw [(applyAll_eq_insertAll workersLine clippedSites hnames).1, hinsertions, hout,
      List.length_singleton]
  refine ⟨hnames, happlied, hannotates, ?_⟩
  rintro position ⟨before, after, hcut, -, hspans⟩
  obtain ⟨-, hcomponent⟩ := (exists_spans_occurrence_iff hname).mp hspans
  have hafter : workersLine.drop before.length = after := by rw [hcut, List.drop_left]
  -- A delimited place would be one of the positions of the line, and they have been gone through.
  have hlen : before.length < 16 := by
    have hsum := congrArg List.length hcut
    rw [List.length_append] at hsum
    have hline : workersLine.length = 15 := by decide
    omega
  exact hnowhere before.length hlen (hafter ▸ hcomponent)

end SwiftExistential.SitePatch
