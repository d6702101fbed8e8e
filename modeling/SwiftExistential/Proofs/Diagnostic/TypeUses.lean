import SwiftExistential.Proofs.Diagnostic.Parsing
import SwiftExistential.Proofs.SitePatch.Occurrence
import SwiftExistential.Text.Number

/-!
# Uses of a protocol as a type

A compiler reports a protocol that is used as a type by a line with the path of the type in quotes.
`ErrorLine.text` and `TypeUse.message` write such a line. Reading it gives the place and the last
component of the path (`parse_typeUse`), however deep the path is: the parts before the name are
taken lazily, so as few of them as possible are passed over, and at each of them that is passed over
the rest of the message does not match.

So the printer comes first and the reader is shown to be its inverse. The path may be followed by an
alias and end in a metatype, its components are arbitrary as long as a message can name them
(`TypeUse.IsNamed`), and line and column are any numbers of 64 bits.
-/

set_option autoImplicit false

namespace SwiftExistential

open Text Unicode
open Cursor (Reads exists_reads_of_after)
open SitePatch (IsName)

/-! ## Lazy repetitions

The preferred way through a lazy repetition is the shortest one behind which the rest matches.
`LazyReach` goes on only where it does not. -/

namespace Pattern

variable {p q : Pattern} {s t : State}

/-- **Where a lazy repetition of `p` can stop** if `q` has to match behind it: it goes on from a
place only if `q` does not match there. -/
inductive LazyReach (p q : Pattern) : State → State → Prop
  | stop (s : State) : LazyReach p q s s
  | next {s u t : State} (hq : q.ways s = []) (hstep : u ∈ p.ways s) (rest : LazyReach p q u t) :
      LazyReach p q s t

theorem lazyReach_of_head?_fewWays {left : Text}
    (h : ((fewWays p.ways left s).flatMap q.ways).head? = some t) :
    ∃ u, LazyReach p q s u ∧ (q.ways u).head? = some t := by
  induction left generalizing s with
  | nil =>
      rw [fewWays, List.flatMap_singleton] at h
      exact ⟨s, .stop s, h⟩
  | cons c left ih =>
      rw [fewWays, List.flatMap_cons, List.head?_append] at h
      cases hq : (q.ways s).head? with
      | some u =>
          rw [hq, Option.some_or] at h
          exact ⟨s, .stop s, hq.trans h⟩
      | none =>
          rw [hq, Option.none_or, List.flatMap_assoc, List.head?_flatMap] at h
          obtain ⟨u, hu, ht⟩ := List.exists_of_findSome?_eq_some h
          obtain ⟨v, hreach, hv⟩ := ih ht
          exact ⟨v, .next (List.head?_eq_none_iff.mp hq) (List.mem_filter.mp hu).1 hreach, hv⟩

/-- **The preferred way through a lazy repetition** stops where what follows can match. -/
theorem lazyReach_of_head?_ways (h : ((seq (lazyStar p) q).ways s).head? = some t) :
    ∃ u, LazyReach p q s u ∧ (q.ways u).head? = some t :=
  lazyReach_of_head?_fewWays h

end Pattern

namespace Diagnostic

open Pattern

/-! ## Written lines -/

/-- The line that names an error. -/
def ErrorLine.text (e : ErrorLine) : Text :=
  e.file ++ (':' :: (Number.digits 10 e.line ++
    (columnText (e.column.map (Number.digits 10)) ++ (": error: ".toList ++ e.message))))

/-- A use of a protocol as a type, as a compiler names it. -/
structure TypeUse where
  /-- What the type is qualified by. -/
  qualifiers : List Text
  /-- The last component of the type's path. -/
  name : Text
  isMetatype : Bool
  /-- Whether the message calls the type a protocol. -/
  isProtocol : Bool
  /-- What the type is also known as. -/
  otherName : Option Text
deriving DecidableEq, Repr

namespace TypeUse

/-- The rest of a path behind some qualifiers. -/
def pathBehind (use : TypeUse) : List Text → Text
  | [] => use.name ++ if use.isMetatype then ".Type".toList else []
  | q :: qs => q ++ ('.' :: pathBehind use qs)

/-- **The path of the type.** -/
def path (use : TypeUse) : Text := use.pathBehind use.qualifiers

/-- The word by which the message calls the type a protocol. -/
def protocolText (use : TypeUse) : Text := if use.isProtocol then "protocol ".toList else []

/-- The name that the type is also known by. -/
def aliasText (use : TypeUse) : Text :=
  use.otherName.elim [] fun a => "(aka '".toList ++ (a ++ "') ".toList)

/-- What stands behind the path, from the quote on. -/
def ending (use : TypeUse) : Text := "' ".toList ++ (use.aliasText ++ "as a type".toList)

/-- **The message about the use.** -/
def message (use : TypeUse) : Text :=
  "use of ".toList ++ (use.protocolText ++ ('\'' :: (use.path ++ use.ending)))

/-- **A use that a message can name**: no component is empty or holds a character that would end it,
the name is a word, and behind a qualifier it is not taken for a metatype. -/
structure IsNamed (use : TypeUse) : Prop where
  qualifiers : ∀ q ∈ use.qualifiers, q ≠ [] ∧ '\'' ∉ q ∧ '.' ∉ q ∧ '\n' ∉ q
  name : IsName use.name
  isMetatype : use.qualifiers ≠ [] → use.isMetatype = false → use.name ≠ "Type".toList
  otherName : ∀ a ∈ use.otherName, a ≠ [] ∧ '\'' ∉ a ∧ '\n' ∉ a

end TypeUse

/-! ## Reading a path

Before each qualifier the pattern for the name fails, since it would have to take what is behind the
dot for a metatype. At the name it matches. -/

def typeName : Pattern :=
  inOrder [group 1 wordRun, SitePatch.metatype, literal "' ".toList,
    optional (cluster (inOrder [literal "(aka '".toList, runWithout ['\''],
      literal "') ".toList])),
    literal "as a type".toList]

/-- The characters that a component of a path is made of. -/
def inComponent (c : Char) : Bool := c != '\'' && c != '.'

section Path

variable {use : TypeUse} {s t : State}

theorem inComponent_of_isWord {c : Char} (h : isWord c = true) : inComponent c = true := by
  have hother (d : Char) (hd : isWord d = false) : c ≠ d := by
    rintro rfl
    rw [h] at hd
    cases hd
  simp [inComponent, hother '\'' (by decide), hother '.' (by decide)]

/-- **What the pattern reads from the name on**: a word, which it remembers, and maybe the end of a
metatype, up to a quote. -/
theorem reads_of_typeName (h : t ∈ typeName.ways s) :
    ∃ (w mt r : Text) (b : Cursor), IsName w ∧ (mt = [] ∨ mt = ".Type".toList) ∧
      s.cursor.after = w ++ (mt ++ '\'' :: r) ∧ Reads w s.cursor b ∧
      t.groups = ⟨1, s.cursor, b⟩ :: s.groups := by
  obtain ⟨u, hu, ht⟩ := mem_ways_inOrder_cons h
  obtain ⟨w, hw, hread, hgroups⟩ := @mem_ways_group_run _ _ _ .word hu
  obtain ⟨v, hv, ht⟩ := mem_ways_inOrder_cons ht
  obtain ⟨mt, hmt, hmtRead⟩ : ∃ mt : Text, (mt = [] ∨ mt = ".Type".toList) ∧
      Reads mt u.cursor v.cursor := by
    rcases mem_ways_optional hv with hv | rfl
    · exact ⟨_, .inr rfl, (mem_ways_literal hv).1⟩
    · exact ⟨[], .inl rfl, Reads.refl _⟩
  have hvGroups : v.groups = u.groups := groups_eq_of_mem_ways rfl hv
  obtain ⟨x, hx, ht⟩ := mem_ways_inOrder_cons ht
  obtain ⟨hquote, hxGroups⟩ := mem_ways_literal hx
  have htGroups : t.groups = x.groups := groups_eq_of_mem_ways rfl ht
  refine ⟨w, mt, ' ' :: x.cursor.after, u.cursor, hw, hmt, ?_, hread, ?_⟩
  · rw [hread.after, hmtRead.after, hquote.after]
    rfl
  · rw [htGroups, hxGroups, hvGroups, hgroups]

theorem after_of_qualifyingPart {q r : Text} (hq : ∀ c ∈ q, inComponent c = true)
    (hs : s.cursor.after = q ++ '.' :: r)
    (h : t ∈ (cluster (seq (runWithout ['\'', '.']) (char '.'))).ways s) :
    t.cursor.after = r ∧ t.groups = s.groups := by
  obtain ⟨u, hu, ht⟩ := mem_ways_seq (show t ∈ (seq _ _).ways s from h)
  obtain ⟨c, x, hc, hx, hread, hgroups⟩ := mem_ways_plus_one hu
  obtain ⟨hdot, hsame⟩ := mem_ways_char ht
  have hcomponent : ∀ d ∈ c :: x, inComponent d = true := by
    intro d hd
    have hholds : (CharClass.noneOf ['\'', '.']).holds d = true := by
      rcases List.mem_cons.mp hd with rfl | hd
      · exact hc
      · exact hx d hd
    simpa [CharClass.holds, inComponent] using hholds
  have heq : (c :: x) ++ '.' :: t.cursor.after = q ++ '.' :: r := by
    rw [← hs, hread.after, hdot.after]
    rfl
  obtain ⟨-, hrest⟩ := append_inj_of_forall heq hcomponent hq rfl rfl
  exact ⟨(List.cons.inj hrest).2, hsame.trans hgroups⟩

theorem TypeUse.IsNamed.inComponent_name (h : use.IsNamed) :
    ∀ c ∈ use.name, inComponent c = true :=
  fun c hc => inComponent_of_isWord (h.name.2 c hc)

theorem TypeUse.IsNamed.inComponent_qualifier (h : use.IsNamed) {q : Text}
    (hq : q ∈ use.qualifiers) : ∀ c ∈ q, inComponent c = true := by
  obtain ⟨-, hquote, hdot, -⟩ := h.qualifiers q hq
  intro c hc
  have hother (d : Char) (hd : d ∉ q) : c ≠ d := fun heq => hd (heq ▸ hc)
  simp [inComponent, hother '\'' hquote, hother '.' hdot]

/-- **Before a qualifier no name is read**: the part behind it would have to be a metatype. -/
theorem ways_typeName_of_qualifier (huse : use.IsNamed) {q : Text} {qs : List Text}
    (hqs : q :: qs <:+ use.qualifiers)
    (hs : s.cursor.after = use.pathBehind (q :: qs) ++ use.ending) : typeName.ways s = [] := by
  refine List.eq_nil_iff_forall_not_mem.mpr fun t ht => ?_
  obtain ⟨w, mt, r', b, hw, hmt, hafter, -, -⟩ := reads_of_typeName ht
  have hne : use.qualifiers ≠ [] := List.ne_nil_of_mem (hqs.subset List.mem_cons_self)
  have hword : ∀ c ∈ w, inComponent c = true := fun c hc => inComponent_of_isWord (hw.2 c hc)
  have heq : w ++ (mt ++ '\'' :: r') = q ++ '.' :: (use.pathBehind qs ++ use.ending) := by
    rw [← hafter, hs, TypeUse.pathBehind, List.append_assoc, List.cons_append]
  have hq := huse.inComponent_qualifier (hqs.subset List.mem_cons_self)
  rcases hmt with rfl | rfl
  · -- the word is the qualifier, and no quote stands behind it
    obtain ⟨-, hrest⟩ := append_inj_of_forall heq hword hq rfl rfl
    cases hrest
  · obtain ⟨-, hrest⟩ := append_inj_of_forall heq hword hq rfl rfl
    have htype : "Type".toList ++ '\'' :: r' = use.pathBehind qs ++ use.ending :=
      (List.cons.inj hrest).2
    have hletters : ∀ c ∈ "Type".toList, inComponent c = true := by decide
    cases qs with
    | nil =>
        rw [TypeUse.pathBehind] at htype
        cases hmeta : use.isMetatype with
        | false =>
            rw [hmeta, if_neg Bool.false_ne_true, List.append_nil] at htype
            obtain ⟨hname, -⟩ := append_inj_of_forall htype hletters huse.inComponent_name rfl rfl
            exact huse.isMetatype hne hmeta hname.symm
        | true =>
            rw [hmeta, if_pos rfl, List.append_assoc] at htype
            obtain ⟨-, hquote⟩ := append_inj_of_forall htype hletters huse.inComponent_name rfl rfl
            cases hquote
    | cons q' qs =>
        have hq' : ∀ c ∈ q', inComponent c = true :=
          huse.inComponent_qualifier (hqs.subset (List.mem_cons_of_mem q List.mem_cons_self))
        rw [TypeUse.pathBehind, List.append_assoc] at htype
        obtain ⟨-, hquote⟩ := append_inj_of_forall htype hletters hq' rfl rfl
        cases hquote

theorem ways_typeName_ne_nil (huse : use.IsNamed)
    (hs : s.cursor.after = use.pathBehind [] ++ use.ending) : typeName.ways s ≠ [] := by
  have hafter : s.cursor.after = use.name ++ ((if use.isMetatype then ".Type".toList else []) ++
      ("' ".toList ++ (use.aliasText ++ "as a type".toList))) := by
    rw [hs, TypeUse.pathBehind, TypeUse.ending, List.append_assoc]
  -- The text is cut where the pattern has its parts; that there is a way through it follows from
  -- the places alone.
  obtain ⟨a, hname, ha⟩ := exists_reads_of_after hafter
  obtain ⟨b, hmetatype, hb⟩ := exists_reads_of_after ha
  obtain ⟨c, hquote, hc⟩ := exists_reads_of_after hb
  obtain ⟨d, halias, hd⟩ := exists_reads_of_after hc
  obtain ⟨e, hend, -⟩ := exists_reads_of_after (hd.trans (List.append_nil _).symm)
  have hspans : typeName.Spans s.cursor e := by
    refine ⟨a, spans_run .word huse.name hname, b, ?_, c, spans_literal_iff.mpr hquote, d, ?_,
      spans_literal_iff.mpr hend⟩
    · cases hmeta : use.isMetatype with
      | false =>
          rw [hmeta] at hmetatype
          exact .inr hmetatype.eq_of_nil
      | true =>
          rw [hmeta] at hmetatype
          exact .inl (spans_literal_iff.mpr hmetatype)
    · rw [TypeUse.aliasText] at halias
      cases hother : use.otherName with
      | none =>
          rw [hother] at halias
          exact .inr halias.eq_of_nil
      | some x =>
          rw [hother, Option.elim_some] at halias
          obtain ⟨hne, hnoQuote, -⟩ := huse.otherName x hother
          obtain ⟨f, hopen, halias⟩ := halias.exists_between
          obtain ⟨g, hx, hclose⟩ := halias.exists_between
          refine .inl ⟨f, spans_literal_iff.mpr hopen, g, spans_run (.noneOf ['\'']) ⟨hne, ?_⟩ hx,
            spans_literal_iff.mpr hclose⟩
          intro c hc
          have hne' : c ≠ '\'' := fun heq => hnoQuote (heq ▸ hc)
          simpa [CharClass.holds] using hne'
  obtain ⟨t, ht, -⟩ := exists_mem_ways typeName s e hspans
  exact List.ne_nil_of_mem ht

/-- **The qualifying parts end before the name**, from any of the qualifiers on. -/
theorem after_of_lazyReach (huse : use.IsNamed) {qs : List Text} (hqs : qs <:+ use.qualifiers)
    (hs : s.cursor.after = use.pathBehind qs ++ use.ending)
    (hreach : LazyReach (cluster (seq (runWithout ['\'', '.']) (char '.'))) typeName s t)
    (ht : typeName.ways t ≠ []) :
    t.cursor.after = use.pathBehind [] ++ use.ending ∧ t.groups = s.groups := by
  induction hreach generalizing qs with
  | stop s =>
      cases qs with
      | nil => exact ⟨hs, rfl⟩
      | cons q qs => exact absurd (ways_typeName_of_qualifier huse hqs hs) ht
  | @next s u t hq hstep rest ih =>
      cases qs with
      | nil => exact absurd hq (ways_typeName_ne_nil huse hs)
      | cons q qs =>
          rw [TypeUse.pathBehind, List.append_assoc, List.cons_append] at hs
          obtain ⟨hu, hgroups⟩ := after_of_qualifyingPart
            (huse.inComponent_qualifier (hqs.subset List.mem_cons_self)) hs hstep
          obtain ⟨hafter, hsame⟩ := ih ((List.suffix_cons q qs).trans hqs) hu ht
          exact ⟨hafter, hsame.trans hgroups⟩

end Path

/-! ## Reading a message

The alternatives of the message are tried in turn; the words at the start of the text tell them
apart. -/

section Message

variable {use : TypeUse}

/-- Whether the message calls the type a protocol is read before the quote. -/
theorem after_of_protocolWord {s t : State} {q : Pattern} {r : Text}
    (hs : s.cursor.after = use.protocolText ++ '\'' :: r)
    (h : ((seq (optional (cluster (literal "protocol ".toList))) (seq (char '\'') q)).ways s).head? =
      some t) :
    ∃ u, u.cursor.after = r ∧ u.groups = s.groups ∧ (q.ways u).head? = some t := by
  -- The word is read or left out, and the quote behind it says which of the two the message has.
  rcases head?_ways_seq_optional h with ⟨u, hu, ht⟩ | ⟨hnone, ht⟩
  · obtain ⟨hword, huGroups⟩ := mem_ways_literal hu
    obtain ⟨v, hv, ht⟩ := head?_ways_seq ht
    obtain ⟨hquote, hvGroups⟩ := mem_ways_char hv
    refine ⟨v, ?_, hvGroups.trans huGroups, ht⟩
    rw [hword.after, hquote.after, TypeUse.protocolText] at hs
    cases hprotocol : use.isProtocol with
    | false =>
        rw [hprotocol] at hs
        cases hs
    | true =>
        rw [hprotocol] at hs
        exact (List.cons.inj (List.append_cancel_left hs)).2
  · obtain ⟨v, hv, ht⟩ := head?_ways_seq ht
    obtain ⟨hquote, hvGroups⟩ := mem_ways_char hv
    refine ⟨v, ?_, hvGroups, ht⟩
    rw [hquote.after, TypeUse.protocolText] at hs
    cases hprotocol : use.isProtocol with
    | false =>
        rw [hprotocol] at hs
        exact (List.cons.inj hs).2
    | true =>
        rw [hprotocol] at hs
        cases hs

/-- The way through the pattern that is preferred at the start of a message remembers the name. -/
theorem groups_of_useAsType (huse : use.IsNamed) {t : State}
    (h : (useAsType.ways (.start (.start use.message))).head? = some t) :
    ∃ a b, Reads use.name a b ∧ t.groups = [⟨1, a, b⟩] := by
  obtain ⟨u, hu, ht⟩ := head?_ways_seq h
  obtain ⟨hopening, huGroups⟩ := mem_ways_literal hu
  have hu : u.cursor.after = use.protocolText ++ '\'' :: (use.path ++ use.ending) :=
    List.append_cancel_left hopening.after.symm
  obtain ⟨v, hv, hvGroups, ht⟩ := after_of_protocolWord hu ht
  obtain ⟨x, hreach, ht⟩ := lazyReach_of_head?_ways (q := typeName) ht
  have hmem := List.mem_of_head? ht
  obtain ⟨hx, hxGroups⟩ :=
    after_of_lazyReach huse List.suffix_rfl hv hreach (List.ne_nil_of_mem hmem)
  -- the word behind the qualifying parts is the name: no other character of a component follows it
  obtain ⟨w, mt, r, b, hw, hmt, hafter, hread, hgroups⟩ := reads_of_typeName hmem
  have hends {mt r : Text} (hmt : mt = [] ∨ mt = ".Type".toList) :
      (mt ++ '\'' :: r).head?.any inComponent = false := by
    rcases hmt with rfl | rfl <;> rfl
  have hmeta : (if use.isMetatype then ".Type".toList else []) = [] ∨
      (if use.isMetatype then ".Type".toList else []) = ".Type".toList := by
    cases use.isMetatype
    · exact .inl rfl
    · exact .inr rfl
  have heq : w ++ (mt ++ '\'' :: r) =
      use.name ++ ((if use.isMetatype then ".Type".toList else []) ++ use.ending) := by
    rw [← hafter, hx, TypeUse.pathBehind, List.append_assoc]
  obtain ⟨rfl, -⟩ := append_inj_of_forall heq (fun c hc => inComponent_of_isWord (hw.2 c hc))
    huse.inComponent_name (hends hmt) (hends hmeta)
  exact ⟨x.cursor, b, hread, by rw [hgroups, hxGroups, hvGroups, huGroups]; rfl⟩

theorem exists_spans_qualifyingParts (huse : use.IsNamed) {qs : List Text}
    (hqs : qs <:+ use.qualifiers) {a : Cursor} (ha : a.after = use.pathBehind qs ++ use.ending) :
    ∃ b, qualifyingParts.Spans a b ∧ b.after = use.pathBehind [] ++ use.ending := by
  induction qs generalizing a with
  | nil => exact ⟨a, .refl, ha⟩
  | cons q qs ih =>
      rw [TypeUse.pathBehind, List.append_assoc, List.cons_append] at ha
      have hmem : q ∈ use.qualifiers := hqs.subset List.mem_cons_self
      obtain ⟨c, hq, hc⟩ := exists_reads_of_after ha
      obtain ⟨d, hdot, hd⟩ := exists_reads_of_after (x := ['.']) hc
      obtain ⟨b, hrest, hb⟩ := ih ((List.suffix_cons q qs).trans hqs) hd
      have hrun : ∀ e ∈ q, (CharClass.noneOf ['\'', '.']).holds e = true := by
        intro e he
        have hcomponent := huse.inComponent_qualifier hmem e he
        simpa [CharClass.holds, inComponent] using hcomponent
      exact ⟨b, .head ⟨c, spans_run _ ⟨(huse.qualifiers q hmem).1, hrun⟩ hq, hdot⟩ hrest, hb⟩

theorem ways_useAsType_ne_nil (huse : use.IsNamed) :
    useAsType.ways (.start (.start use.message)) ≠ [] := by
  have hafter : (Cursor.start use.message).after = "use of ".toList ++
      (use.protocolText ++ ('\'' :: (use.path ++ use.ending))) := rfl
  obtain ⟨a, hopening, ha⟩ := exists_reads_of_after hafter
  obtain ⟨b, hprotocol, hb⟩ := exists_reads_of_after ha
  obtain ⟨c, hquote, hc⟩ := exists_reads_of_after (x := ['\'']) hb
  obtain ⟨d, hparts, hd⟩ := exists_spans_qualifyingParts huse List.suffix_rfl hc
  obtain ⟨t, ht⟩ := List.exists_mem_of_ne_nil _ (ways_typeName_ne_nil huse (s := .start d) hd)
  have hspans : useAsType.Spans (.start use.message) t.cursor := by
    refine ⟨a, spans_literal_iff.mpr hopening, b, ?_, c, hquote, d, hparts, spans_of_mem_ways _ ht⟩
    rw [TypeUse.protocolText] at hprotocol
    cases hword : use.isProtocol with
    | false =>
        rw [hword] at hprotocol
        exact .inr hprotocol.eq_of_nil
    | true =>
        rw [hword] at hprotocol
        exact .inl (spans_literal_iff.mpr hprotocol)
  obtain ⟨v, hv, -⟩ := exists_mem_ways useAsType (.start _) t.cursor hspans
  exact List.ne_nil_of_mem hv

/-- **A message about a use names the last component of its path.** -/
theorem understand?_message (huse : use.IsNamed) :
    understand? use.message = some ⟨.addAny use.name, some use.name⟩ := by
  obtain ⟨t, ht⟩ : ∃ t, (useAsType.ways (.start (.start use.message))).head? = some t := by
    refine Option.ne_none_iff_exists'.mp fun hnone => ?_
    exact ways_useAsType_ne_nil huse (List.head?_eq_none_iff.mp hnone)
  obtain ⟨a, b, hread, hgroups⟩ := groups_of_useAsType huse ht
  have hmatch : useAsType.findIn? use.message = some ⟨.start use.message, t.cursor, t.groups⟩ :=
    find?_of_matchAt? (by rw [matchAt?_eq_head?, ht]; rfl)
  have hname : (Match.mk (.start use.message) t.cursor t.groups).groupText 1 = use.name :=
    groupText_eq (by rw [hgroups]; rfl) hread
  rw [understand?, hmatch]
  simp only [hname]

theorem newline_not_mem_message (huse : use.IsNamed) : '\n' ∉ use.message := by
  have hname : '\n' ∉ use.name := fun hmem =>
    absurd (huse.name.2 '\n' hmem) (by decide)
  have hpath (qs : List Text) (hqs : qs <:+ use.qualifiers) : '\n' ∉ use.pathBehind qs := by
    induction qs with
    | nil => cases hmeta : use.isMetatype <;> simp [TypeUse.pathBehind, hname, hmeta]
    | cons q qs ih =>
        obtain ⟨-, -, -, hq⟩ := huse.qualifiers q (hqs.subset List.mem_cons_self)
        simp [TypeUse.pathBehind, hq, ih ((List.suffix_cons q qs).trans hqs)]
  have halias : '\n' ∉ use.aliasText := by
    cases hother : use.otherName with
    | none => simp [TypeUse.aliasText, hother]
    | some x =>
        obtain ⟨-, -, hx⟩ := huse.otherName x hother
        simp [TypeUse.aliasText, hother, hx]
  have hword : '\n' ∉ use.protocolText := by
    cases hprotocol : use.isProtocol <;> simp [TypeUse.protocolText, hprotocol]
  have hmessage : use.message =
      "use of ".toList ++ (use.protocolText ++ ('\'' :: (use.path ++ use.ending))) := rfl
  simp [hmessage, TypeUse.ending, TypeUse.path, hpath _ List.suffix_rfl, halias, hword]

end Message

/-! ## Written numbers

Decimal digits in ASCII are digits for the pattern, and they are read as the number that they write.
-/

theorem isDigit_of_ascii {c : Char} (h : c.isDigit = true) : Unicode.isDigit c = true := by
  obtain ⟨hlo, hhi⟩ : 0x30 ≤ c.toNat ∧ c.toNat ≤ 0x39 := by
    simpa [Char.isDigit, UInt32.le_iff_toNat_le] using h
  rw [Unicode.isDigit, Unicode.digitRanges, Unicode.Ranges.holds, if_neg (by omega), if_pos hhi]

theorem isDigits_digits (n : Nat) : IsDigits (Number.digits 10 n) :=
  ⟨Nat.toDigits_ne_nil, fun _ hc =>
    isDigit_of_ascii (Nat.isDigit_of_mem_toDigits (by decide) (by decide) hc)⟩

/-- **A written number is read back** if it has 64 bits. -/
theorem number?_digits {n : Nat} (hn : n < UInt64.size) :
    number? (Number.digits 10 n) = some n := by
  have hall : (Number.digits 10 n).all Char.isDigit = true := List.all_eq_true.mpr fun c hc =>
    Nat.isDigit_of_mem_toDigits (by decide) (by decide) hc
  have hne : (Number.digits 10 n).isEmpty = false :=
    List.isEmpty_eq_false_iff.mpr Nat.toDigits_ne_nil
  have hvalue : (Number.digits 10 n).foldl (fun n c => 10 * n + (c.toNat - '0'.toNat)) 0 = n :=
    Nat.ofDigitChars_toDigits (b := 10) (by decide) (by decide)
  simp only [number?, hne, hall, hvalue, Bool.not_false, Bool.and_self, if_true, if_pos hn]

/-- **A written error line names its place.** -/
theorem located_text {e : ErrorLine} (hfile : e.file ≠ [] ∧ ':' ∉ e.file)
    (hline : e.line < UInt64.size) (hcolumn : ∀ n ∈ e.column, n < UInt64.size)
    (hmessage : '\n' ∉ e.message) : Located e.text e := by
  refine ⟨Number.digits 10 e.line, e.column.map (Number.digits 10),
    ⟨rfl, hfile, isDigits_digits e.line, ?_, hmessage⟩, number?_digits hline, ?_⟩
  · intro x hx
    obtain ⟨n, -, rfl⟩ := Option.map_eq_some_iff.mp hx
    exact isDigits_digits n
  · cases hsome : e.column with
    | none => rfl
    | some n =>
        rw [Option.map_some, Option.bind_some, number?_digits (hcolumn n hsome)]

/-! ## Written patterns

The fixup is handed on with the source of its pattern, in which the name stands as it is, since a
word has no character that a pattern would take for something else. -/

/-- A word stands for itself in a written pattern. -/
theorem source_literal {x : Text} (hx : ∀ c ∈ x, isWord c = true) : (literal x).source = x := by
  have hmeta : ∀ c ∈ metaCharacters, isWord c = false := by
    unfold metaCharacters
    rewrite [String.toList_ofList]
    decide
  have hchar {c : Char} (hc : isWord c = true) : (char c).source = [c] := by
    have hnot : metaCharacters.contains c = false := by
      refine Bool.eq_false_iff.mpr fun hmem => ?_
      rw [hmeta c (List.contains_iff_mem.mp hmem)] at hc
      cases hc
    have hsource : (char c).source = escapeText [c] := rfl
    rw [hsource, escapeText, List.flatMap_singleton, hnot, if_neg Bool.false_ne_true]
  induction x with
  | nil => rfl
  | cons c rest ih =>
      obtain ⟨hc, hrest⟩ := List.forall_mem_cons.mp hx
      cases rest with
      | nil => exact hchar hc
      | cons d rest =>
          have hstep : (literal (c :: d :: rest)).source =
              (char c).source ++ (literal (d :: rest)).source := rfl
          rw [hstep, ih hrest, hchar hc, List.singleton_append]

theorem patternSource_addAny {name : Text} (hname : IsName name) :
    (LineFix.addAny name).patternSource =
      "\\b((?:\\w+\\.)?".toList ++ (name ++ ")\\b".toList) := by
  have hqualifier :
      (optional (cluster (seq wordRun (char '.')))).source = "(?:\\w+\\.)?".toList := by
    decide
  have hsource : (LineFix.addAny name).patternSource =
      boundary.source ++ ("(".toList ++ ((optional (cluster (seq wordRun (char '.')))).source ++
        (literal name).source) ++ ")".toList ++ boundary.source) := rfl
  rw [hsource, hqualifier, source_literal hname.2]
  simp only [List.append_assoc]
  repeat rewrite [String.toList_ofList]
  rfl

/-! ## Reading a line -/

/-- **A line about a use of a protocol as a type** gives one fixup at its place, which writes `any`
before the last component of the path, and nothing else. This component is known afterwards: with
its origin if it was known before, and with the file if not. -/
theorem parse_typeUse (registry : Registry) {file : Text} {line : Nat} {column : Option Nat}
    {use : TypeUse} (hfile : file ≠ [] ∧ ':' ∉ file) (hline : line < UInt64.size)
    (hcolumn : ∀ n ∈ column, n < UInt64.size) (huse : use.IsNamed)
    (hheader : missingHeader.occursIn (ErrorLine.text ⟨file, line, column, use.message⟩) = false) :
    (parse registry [ErrorLine.text ⟨file, line, column, use.message⟩]).1 =
        .completed [⟨file, line, column, .addAny use.name⟩] [] ∧
      (LineFix.addAny use.name).patternSource =
        "\\b((?:\\w+\\.)?".toList ++ (use.name ++ ")\\b".toList) ∧
      (LineFix.addAny use.name).template = "any $\x7b1\x7d".toList ∧
      ∀ name, (parse registry [ErrorLine.text ⟨file, line, column, use.message⟩]).2.get? name =
        if name = use.name then some ((registry.get? name).getD (.file file))
        else registry.get? name := by
  -- The line is read back as the place and the message that it was made of.
  have hread : read (ErrorLine.text ⟨file, line, column, use.message⟩) =
      .fixable ⟨file, line, column, .addAny use.name⟩ (some use.name) :=
    read_eq_fixable (missingHeader?_eq_none_iff.mpr hheader)
      (errorLine?_eq_some_iff.mpr
        (located_text hfile hline hcolumn (newline_not_mem_message huse)))
      (understand?_message huse)
  refine ⟨?_, patternSource_addAny huse.name, rfl, fun name => ?_⟩
  · simp only [parse, hread]
    rfl
  · simp only [parse, hread, register, Registry.get?_insert_eq_or]
    by_cases hname : name = use.name
    · subst hname
      cases registry.get? use.name <;> simp
    · cases registry.get? name <;> simp [hname]

/-- A metatype two parts deep, the second of which is no word, with another name behind it. -/
def nestedWorker : TypeUse :=
  ⟨["App".toList, "Work space".toList], "Worker".toList, true, true, some "App.Job".toList⟩

theorem parse_typeUse_of_nestedWorker :
    "F.swift:3:5: error: use of protocol 'App.Work space.Worker.Type' (aka 'App.Job') as a type".toList =
        ErrorLine.text ⟨"F.swift".toList, 3, some 5, nestedWorker.message⟩ ∧
      (parse .empty [ErrorLine.text ⟨"F.swift".toList, 3, some 5, nestedWorker.message⟩]).1 =
        .completed [⟨"F.swift".toList, 3, some 5, .addAny "Worker".toList⟩] [] := by
  have hnamed : nestedWorker.IsNamed := by
    unfold nestedWorker
    repeat rewrite [String.toList_ofList]
    refine ⟨by decide, by decide, fun _ _ => by decide, ?_⟩
    rintro a ⟨⟩
    decide
  have hcolumn : ∀ n ∈ some 5, n < UInt64.size := by
    rintro n ⟨⟩
    decide
  obtain ⟨hfile, htext, hheader⟩ : ("F.swift".toList ≠ [] ∧ ':' ∉ "F.swift".toList) ∧
      "F.swift:3:5: error: use of protocol 'App.Work space.Worker.Type' (aka 'App.Job') as a type".toList =
        ErrorLine.text ⟨"F.swift".toList, 3, some 5, nestedWorker.message⟩ ∧
      missingHeader.occursIn
        (ErrorLine.text ⟨"F.swift".toList, 3, some 5, nestedWorker.message⟩) = false := by
    unfold nestedWorker
    repeat rewrite [String.toList_ofList]
    decide +kernel
  exact ⟨htext, (parse_typeUse .empty hfile (by decide) hcolumn hnamed hheader).1⟩

end Diagnostic

end SwiftExistential
