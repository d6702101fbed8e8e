import SwiftExistential.Cleanup
import SwiftExistential.Proofs.Pattern.Spans

/-!
# What the matches of the passes read

For the pattern of each pass: the texts that a match reads one after the other, and which of them
its groups remember. What a pass writes in place of a match is made of these.

Each lemma goes through one pattern from the left and names what it meets. Most say no more than
that. The cast is different, since its pattern can match in several ways and the pass asks for the
preferred one: `CastReading` has the operator, the qualifier, the protocol and the metatype of that
match.
-/

set_option autoImplicit false

namespace SwiftExistential.Cleanup

open Pattern Text
open Cursor (Reads)

variable {protocol : Pattern} {m : Match} {s t : State}

/-! ## Parts of the patterns

Keywords, blanks and names occur in all patterns, so what they read is said once. -/

theorem startsWord_keyword (k : Keyword) : startsWord k.word = true := by
  cases k <;> rfl

theorem endsWord_keyword (k : Keyword) : endsWord k.word = true := by
  cases k <;> rfl

theorem mem_ways_eitherText {spelled : Keyword → Text}
    (h : t ∈ (either [literal (spelled .any), literal (spelled .some)]).ways s) :
    ∃ k, Reads (spelled k) s.cursor t.cursor ∧ t.groups = s.groups := by
  obtain ⟨p, hp, ht⟩ := mem_ways_either h (List.cons_ne_nil _ _)
  rcases List.mem_cons.mp hp with rfl | hp
  · exact ⟨.any, mem_ways_literal ht⟩
  · obtain rfl := List.mem_singleton.mp hp
    exact ⟨.some, mem_ways_literal ht⟩

theorem mem_ways_eitherKeyword (h : t ∈ eitherKeyword.ways s) :
    ∃ k : Keyword, Reads k.word s.cursor t.cursor ∧ t.groups = s.groups :=
  mem_ways_eitherText h

theorem mem_ways_blanks (h : t ∈ blanks.ways s) :
    ∃ x, IsBlanks x ∧ Reads x s.cursor t.cursor ∧ t.groups = s.groups := by
  obtain ⟨c, x, hc, hx, hread, hgroups⟩ := mem_ways_plus_one h
  exact ⟨c :: x, ⟨List.cons_ne_nil c x, List.forall_mem_cons.mpr ⟨hc, hx⟩⟩, hread, hgroups⟩

theorem mem_ways_spaces (h : t ∈ (plus (char ' ')).ways s) :
    ∃ x : Text, x ≠ [] ∧ (∀ c ∈ x, c = ' ') ∧ Reads x s.cursor t.cursor ∧ t.groups = s.groups := by
  obtain ⟨u, hu, ht⟩ := List.mem_flatMap.mp h
  obtain ⟨hread, hgroups⟩ := mem_ways_char hu
  refine manyWays_induction (fun v => ∃ x : Text, x ≠ [] ∧ (∀ c ∈ x, c = ' ') ∧
    Reads x s.cursor v.cursor ∧ v.groups = s.groups) ?_ ?_ ht
  · rintro v w ⟨x, hne, hspaces, hv, hvgroups⟩ hw
    obtain ⟨hc, hwgroups⟩ := mem_ways_char hw
    refine ⟨x ++ [' '], by simp, ?_, hv.trans hc, hwgroups.trans hvgroups⟩
    intro d hd
    rcases List.mem_append.mp hd with hd | hd
    · exact hspaces d hd
    · exact List.mem_singleton.mp hd
  · exact ⟨[' '], List.cons_ne_nil _ _, fun d hd => List.mem_singleton.mp hd, hread, hgroups⟩

theorem hasGroup_wholeName (names : List Text) : (Registry.wholeName names).hasGroup = false := by
  have heither : (either (names.map literal)).hasGroup = false := by
    refine hasGroup_either fun p hp => ?_
    obtain ⟨x, -, rfl⟩ := List.mem_map.mp hp
    exact hasGroup_literal x
  simp only [Registry.wholeName, inOrder, hasGroup, heither, Bool.or_self]

/-! ## The matches -/

/-- What `some` cannot stand before. -/
def forbiddenTail : Pattern :=
  either [literal "...".toList, literal " =".toList, literal ".Type".toList,
    literal ") in".toList]

theorem reads_of_forbiddenSome (hm : IsMatch (forbiddenSome protocol) m) :
    ∃ a b x z, Reads "some ".toList m.start a ∧ Reads x a b ∧ Reads z b m.stop ∧
      endsWord m.start.before.reverse = false ∧
      (seq (qualified protocol) (star (one .blank))).Spans a b ∧ forbiddenTail.Spans b m.stop ∧
      m.groupText 1 = x ∧ m.groupText 2 = z := by
  obtain ⟨t, ht, hstop, hgroups⟩ := hm
  obtain ⟨u, hu, ht⟩ := mem_ways_inOrder_cons ht
  obtain ⟨rfl, hboundary⟩ : _ ∧ m.start.atBoundary = true := mem_ways_boundary hu
  obtain ⟨u, hu, ht⟩ := mem_ways_inOrder_cons ht
  obtain ⟨hsome, -⟩ : Reads "some ".toList m.start u.cursor ∧ _ := mem_ways_literal hu
  obtain ⟨v, hv, ht⟩ := mem_ways_inOrder_cons ht
  obtain ⟨x, gs, htype, hvgroups⟩ := reads_of_mem_ways_group hv
  obtain ⟨z, hrest, htgroups⟩ := reads_of_mem_ways_single (by rfl) ht
  refine ⟨u.cursor, v.cursor, x, z, hsome, htype, hstop ▸ hrest,
    hsome.endsWord_before hboundary rfl, spans_of_mem_ways (group 1 _) hv,
    hstop ▸ spans_of_mem_ways (group 2 _) ht,
    ?_, ?_⟩
  · exact groupText_eq (g := ⟨1, u.cursor, v.cursor⟩) (by rw [hgroups, htgroups, hvgroups]; rfl)
      htype
  · exact groupText_eq (g := ⟨2, v.cursor, t.cursor⟩) (by rw [hgroups, htgroups]; rfl) hrest

theorem reads_of_constraintKeyword (hm : IsMatch constraintKeyword m) :
    ∃ (x : Text) (k : Keyword),
      Reads ("<".toList ++ x ++ ":".toList ++ (' ' :: k.word ++ [' '])) m.start m.stop ∧
        x ≠ [] ∧ (∀ c ∈ x, Unicode.isWord c = true) ∧ m.groupText 1 = x := by
  obtain ⟨t, ht, hstop, hgroups⟩ := hm
  -- The bracket, the name as the first group, the colon, and the keyword between its two blanks.
  obtain ⟨u, hu, ht⟩ := mem_ways_inOrder_cons ht
  obtain ⟨hopen, hugroups⟩ : Reads ['<'] m.start u.cursor ∧ _ := mem_ways_char hu
  obtain ⟨v, hv, ht⟩ := mem_ways_inOrder_cons ht
  obtain ⟨v', hv', hvcursor, hvgroups⟩ := mem_ways_group hv
  obtain ⟨c, x, hc, hx, hname, hv'groups⟩ := mem_ways_plus_one hv'
  obtain ⟨w, hw, ht⟩ := mem_ways_inOrder_cons ht
  obtain ⟨hcolon, hwgroups⟩ := mem_ways_char hw
  obtain ⟨r, hr, ht⟩ := mem_ways_inOrder_cons ht
  obtain ⟨r', hr', hrcursor, hrgroups⟩ := mem_ways_group hr
  obtain ⟨hspace, htgroups⟩ := mem_ways_char ht
  obtain ⟨k, hkeyword, hr'groups⟩ : ∃ k : Keyword,
      Reads (' ' :: k.word) w.cursor r'.cursor ∧ r'.groups = w.groups := mem_ways_eitherText hr'
  rw [hrcursor] at hspace
  rw [hvcursor] at hcolon
  refine ⟨c :: x, k, ?_, List.cons_ne_nil c x, List.forall_mem_cons.mpr ⟨hc, hx⟩, ?_⟩
  · rw [hstop]
    simpa using hopen.trans (hname.trans (hcolon.trans (hkeyword.trans hspace)))
  · refine groupText_eq (g := ⟨1, u.cursor, v'.cursor⟩) ?_ hname
    rw [hgroups, htgroups, hrgroups, hr'groups, hwgroups, hvgroups]
    rfl

def castOperators : List Text := ["is".toList, "as?".toList, "as!".toList, "as".toList]

theorem reads_of_castOperator {u v w : State} (hu : u ∈ blanks.ways s)
    (hv : v ∈ castOperator.ways u) (hw : w ∈ blanks.ways v) :
    ∃ x y z : Text, Reads (x ++ (y ++ z)) s.cursor w.cursor ∧ w.groups = s.groups ∧
      IsBlanks x ∧ y ∈ castOperators ∧ IsBlanks z := by
  obtain ⟨x, hx, hbefore, hugroups⟩ := mem_ways_blanks hu
  obtain ⟨z, hz, hafter, hwgroups⟩ := mem_ways_blanks hw
  suffices ∃ y ∈ castOperators, Reads y u.cursor v.cursor ∧ v.groups = u.groups by
    obtain ⟨y, hy, hoperator, hvgroups⟩ := this
    exact ⟨x, y, z, hbefore.trans (hoperator.trans hafter),
      hwgroups.trans (hvgroups.trans hugroups), hx, hy, hz⟩
  rcases List.mem_append.mp hv with hv | hv
  · exact ⟨"is".toList, by decide, mem_ways_literal hv⟩
  · obtain ⟨r, hr, hv⟩ := mem_ways_seq hv
    obtain ⟨has, hrgroups⟩ := mem_ways_literal hr
    rcases mem_ways_optional hv with hv | rfl
    · obtain ⟨c, hc, hmark, hvgroups⟩ := mem_ways_one hv
      refine ⟨"as".toList ++ [c], ?_, has.trans hmark, hvgroups.trans hrgroups⟩
      rcases List.mem_cons.mp (List.contains_iff_mem.mp hc) with rfl | hc
      · decide
      · rw [List.mem_singleton.mp hc]
        decide
    · exact ⟨"as".toList, by decide, has, hrgroups⟩

/-- What is left behind a type when its metatype is read too. -/
def behindMetatype (r : Text) : Text := if ".Type".toList.isPrefixOf r then r.drop 5 else r

theorem after_of_head?_metatype (h : (SitePatch.metatype.ways s).head? = some t) :
    t.cursor.after = behindMetatype s.cursor.after ∧ t.groups = s.groups := by
  rw [SitePatch.metatype] at h
  rcases head?_ways_optional h with h | ⟨hnone, rfl⟩
  · obtain ⟨hread, hgroups⟩ := mem_ways_literal (List.mem_of_head? h)
    refine ⟨?_, hgroups⟩
    rw [behindMetatype, hread.after, if_pos (by simp), List.drop_left']
    rfl
  · refine ⟨?_, rfl⟩
    rw [behindMetatype, if_neg]
    intro hstarts
    obtain ⟨r, hr⟩ := List.isPrefixOf_iff_prefix.mp hstarts
    have hread : Reads ".Type".toList t.cursor ⟨".Type".toList.reverse ++ t.cursor.before, r⟩ :=
      ⟨hr.symm, rfl⟩
    obtain ⟨u, hu, -⟩ := exists_mem_ways _ t _ (spans_literal_iff.mpr hread)
    rw [show (literal ".Type".toList).ways t = [] from hnone] at hu
    cases hu

/-- **What the preferred match of a cast reads**: the operator up to `a`, a qualifier up to `b` if
one can be read, the protocol up to `c`, and a metatype if it is there. -/
structure CastReading (protocol : Pattern) (m : Match) (a b c : Cursor) : Prop where
  operator : ∃ x y z : Text, Reads (x ++ (y ++ z)) m.start a ∧ IsBlanks x ∧ y ∈ castOperators ∧
    IsBlanks z
  qualifier : (seq wordRun (char '.')).Spans a b ∨
    b = a ∧ ∀ b' c', (seq wordRun (char '.')).Spans a b' → ¬ protocol.Spans b' c'
  protocol : protocol.Spans b c
  metatype : SitePatch.metatype.Spans c m.stop
  behind : m.stop.after = behindMetatype c.after
  operatorText : m.groupText 1 = m.start.textTo a
  typeText : m.groupText 2 = a.textTo m.stop
  protocolText : m.groupText 3 = b.textTo c

theorem CastReading.exists_reads_type {a b c : Cursor} (h : CastReading protocol m a b c) :
    ∃ w, Reads w a m.stop := by
  obtain ⟨q, hq⟩ : ∃ q, Reads q a b := by
    rcases h.qualifier with hq | ⟨rfl, -⟩
    · exact hq.exists_reads
    · exact ⟨[], Reads.refl _⟩
  obtain ⟨n, hn⟩ := h.protocol.exists_reads
  obtain ⟨w, hw⟩ := h.metatype.exists_reads
  exact ⟨q ++ (n ++ w), hq.trans (hn.trans hw)⟩

theorem exists_castReading (hprotocol : protocol.hasGroup = false)
    (hm : (cast protocol).matchAt? m.start = some m) : ∃ a b c, CastReading protocol m a b c := by
  rw [matchAt?_eq_head?, Option.map_eq_some_iff] at hm
  obtain ⟨t, ht, hm⟩ := hm
  have hstop : m.stop = t.cursor := by rw [← hm]
  have hgroups : m.groups = t.groups := by rw [← hm]
  obtain ⟨u, hu, ht⟩ := head?_ways_seq ht
  obtain ⟨u', hu', hucursor, hugroups⟩ := mem_ways_group hu
  obtain ⟨r, hr, hu'⟩ := mem_ways_inOrder_cons hu'
  obtain ⟨r', hr', hu'⟩ := mem_ways_inOrder_cons hu'
  obtain ⟨x, y, z, hoperator, -, hx, hy, hz⟩ := reads_of_castOperator hr hr' hu'
  have hoperator : Reads (x ++ (y ++ z)) m.start u'.cursor := hoperator
  obtain ⟨t', ht', htcursor, htgroups⟩ := head?_ways_group ht
  -- the qualifier is read wherever a protocol can be read behind it
  obtain ⟨v, hv, hqualifier⟩ : ∃ v : State, ((inOrder [group 3 protocol, SitePatch.metatype]).ways
      v).head? = some t' ∧ v.groups = u.groups ∧
        ((seq wordRun (char '.')).Spans u.cursor v.cursor ∨ v.cursor = u.cursor ∧
          ∀ b c, (seq wordRun (char '.')).Spans u.cursor b → ¬ protocol.Spans b c) := by
    rcases head?_ways_seq_optional ht' with ⟨v, hv, ht'⟩ | ⟨hnone, ht'⟩
    · exact ⟨v, ht', groups_eq_of_mem_ways (by rfl) hv, .inl (spans_of_mem_ways (cluster _) hv)⟩
    · refine ⟨u, ht', rfl, .inr ⟨rfl, fun b c hb hc => ?_⟩⟩
      obtain ⟨v, hv, rfl⟩ := exists_mem_ways _ u b hb
      have hrest : (seq (group 3 protocol) SitePatch.metatype).Spans v.cursor c :=
        ⟨c, hc, .inr rfl⟩
      obtain ⟨w, hw, -⟩ := exists_mem_ways _ v c hrest
      have hnil : (seq (group 3 protocol) SitePatch.metatype).ways v = [] := hnone v hv
      rw [hnil] at hw
      cases hw
  obtain ⟨hvgroups, hqualifier⟩ := hqualifier
  obtain ⟨w, hw, hmetatype⟩ := head?_ways_seq hv
  obtain ⟨n, hname, hwgroups⟩ := reads_of_mem_ways_single hprotocol hw
  obtain ⟨hbehind, ht'groups⟩ := after_of_head?_metatype hmetatype
  have hmetatype := spans_of_mem_ways _ (List.mem_of_head? hmetatype)
  obtain ⟨q, hq⟩ : ∃ q, Reads q u.cursor v.cursor := by
    rcases hqualifier with h | ⟨h, -⟩
    · exact h.exists_reads
    · exact ⟨[], h ▸ Reads.refl _⟩
  obtain ⟨k, hk⟩ := hmetatype.exists_reads
  refine ⟨u.cursor, v.cursor, w.cursor, ⟨x, y, z, ?_, hx, hy, hz⟩, hqualifier,
    spans_of_mem_ways (group 3 _) hw, ?_, ?_, ?_, ?_, ?_⟩
  · rw [hucursor]
    exact hoperator
  · rw [hstop, htcursor]
    exact hmetatype
  · rw [hstop, htcursor]
    exact hbehind
  · rw [hucursor, hoperator.textTo_eq]
    refine groupText_eq (g := ⟨1, m.start, u'.cursor⟩) ?_ hoperator
    rw [hgroups, htgroups, ht'groups, hwgroups, hvgroups, hugroups]
    rfl
  · have hread := hq.trans (hname.trans hk)
    rw [hstop, htcursor, hread.textTo_eq]
    refine groupText_eq (g := ⟨2, u.cursor, t'.cursor⟩) ?_ hread
    rw [hgroups, htgroups]
    rfl
  · rw [hname.textTo_eq]
    refine groupText_eq (g := ⟨3, v.cursor, w.cursor⟩) ?_ hname
    rw [hgroups, htgroups, ht'groups, hwgroups]
    rfl

theorem reads_of_anyReturn (hprotocol : protocol.hasGroup = false)
    (hm : IsMatch (anyReturn protocol) m) :
    ∃ a b x, Reads "-> any ".toList m.start a ∧ Reads x a b ∧ Reads " \x7b".toList b m.stop ∧
      protocol.Spans a b ∧ m.groupText 1 = x := by
  obtain ⟨t, ht, hstop, hgroups⟩ := hm
  obtain ⟨u, hu, ht⟩ := mem_ways_inOrder_cons ht
  obtain ⟨harrow, -⟩ : Reads "-> any ".toList m.start u.cursor ∧ _ := mem_ways_literal hu
  obtain ⟨v, hv, ht⟩ := mem_ways_inOrder_cons ht
  obtain ⟨x, hname, hvgroups⟩ := reads_of_mem_ways_single hprotocol hv
  obtain ⟨hbrace, htgroups⟩ := mem_ways_literal ht
  refine ⟨u.cursor, v.cursor, x, harrow, hname, hstop ▸ hbrace, spans_of_mem_ways (group 1 _) hv,
    ?_⟩
  refine groupText_eq (g := ⟨1, u.cursor, v.cursor⟩) ?_ hname
  rw [hgroups, htgroups, hvgroups]
  rfl

theorem reads_of_someOnPlainLine (hm : IsMatch someOnPlainLine m) :
    ∃ a x, Reads x m.start a ∧ Reads "some".toList a m.stop ∧
      endsWord a.before.reverse = false ∧ startsWord m.stop.after = false := by
  obtain ⟨t, ht, hstop, -⟩ := hm
  obtain ⟨a, ha, ht⟩ := mem_ways_inOrder_cons ht
  obtain ⟨b, hb, ht⟩ := mem_ways_inOrder_cons ht
  obtain ⟨c, hc, ht⟩ := mem_ways_inOrder_cons ht
  obtain ⟨u, hu, ht⟩ := mem_ways_inOrder_cons ht
  obtain ⟨v, hv, ht⟩ := mem_ways_inOrder_cons ht
  obtain ⟨hsame, hboundary⟩ := mem_ways_boundary hv
  rw [hsame] at ht
  obtain ⟨w, hw, ht⟩ := mem_ways_inOrder_cons ht
  obtain ⟨rfl, hboundary'⟩ := mem_ways_boundary ht
  obtain ⟨w', hw', htcursor, -⟩ := mem_ways_group hw
  obtain ⟨hsome, -⟩ := mem_ways_literal hw'
  -- the line up to its last `some` is read in one piece
  obtain ⟨x, -, hline, -⟩ : HasRead (.start m.start) u :=
    (hasRead_of_mem_ways _ ha).trans ((hasRead_of_mem_ways _ hb).trans
      ((hasRead_of_mem_ways _ hc).trans (hasRead_of_mem_ways _ hu)))
  rw [htcursor] at hboundary'
  rw [hstop, htcursor]
  exact ⟨u.cursor, x, hline, hsome, hsome.endsWord_before hboundary rfl,
    hsome.startsWord_after hboundary' rfl⟩

theorem reads_of_bareOptional (hm : IsMatch (bareOptional protocol) m) :
    ∃ (k : Keyword) (x y : Text) (mark : Char) (a b : Cursor),
      Reads (k.word ++ x) m.start a ∧ Reads y a b ∧ Reads [mark] b m.stop ∧
        endsWord m.start.before.reverse = false ∧ IsBlanks x ∧ (mark = '?' ∨ mark = '!') ∧
        (qualified protocol).Spans a b ∧ m.groupText 1 = y ∧ m.groupText 2 = [mark] := by
  obtain ⟨t, ht, hstop, hgroups⟩ := hm
  -- The pattern part by part, with the two groups that the replacement writes back.
  obtain ⟨u, hu, ht⟩ := mem_ways_inOrder_cons ht
  obtain ⟨rfl, hboundary⟩ : _ ∧ m.start.atBoundary = true := mem_ways_boundary hu
  obtain ⟨u, hu, ht⟩ := mem_ways_inOrder_cons ht
  obtain ⟨k, hkeyword, -⟩ : ∃ k : Keyword, Reads k.word m.start u.cursor ∧ _ :=
    mem_ways_eitherKeyword hu
  obtain ⟨v, hv, ht⟩ := mem_ways_inOrder_cons ht
  obtain ⟨x, hx, hspace, -⟩ := mem_ways_blanks hv
  obtain ⟨w, hw, ht⟩ := mem_ways_inOrder_cons ht
  obtain ⟨y, gs, htype, hwgroups⟩ := reads_of_mem_ways_group hw
  obtain ⟨t', ht', htcursor, htgroups⟩ := mem_ways_group ht
  obtain ⟨mark, hmark, hmarked, ht'groups⟩ := mem_ways_one ht'
  rw [← htcursor] at hmarked
  refine ⟨k, x, y, mark, v.cursor, w.cursor, hkeyword.trans hspace, htype, hstop ▸ hmarked,
    hkeyword.endsWord_before hboundary (startsWord_keyword k), hx, ?_,
    spans_of_mem_ways (group 1 _) hw, ?_, ?_⟩
  · rcases List.mem_cons.mp (List.contains_iff_mem.mp hmark) with rfl | hmark
    · exact .inl rfl
    · exact .inr (List.mem_singleton.mp hmark)
  · refine groupText_eq (g := ⟨1, v.cursor, w.cursor⟩) ?_ htype
    rw [hgroups, htgroups, ht'groups, hwgroups]
    rfl
  · refine groupText_eq (g := ⟨2, w.cursor, t.cursor⟩) ?_ hmarked
    rw [hgroups, htgroups, htcursor]
    rfl

theorem reads_of_doubledKeyword (hm : IsMatch doubledKeyword m) :
    ∃ (first second : Keyword) (x : Text),
      Reads (first.word ++ (x ++ second.word)) m.start m.stop ∧
        endsWord m.start.before.reverse = false ∧ startsWord m.stop.after = false ∧
        (x ≠ [] ∧ ∀ c ∈ x, c = ' ') ∧ m.groupText 1 = first.word ∧
        m.groupText 2 = second.word := by
  obtain ⟨t, ht, hstop, hgroups⟩ := hm
  -- The pattern part by part: a boundary, a keyword, blanks, a keyword, a boundary.
  obtain ⟨u, hu, ht⟩ := mem_ways_inOrder_cons ht
  obtain ⟨rfl, hboundary⟩ : _ ∧ m.start.atBoundary = true := mem_ways_boundary hu
  obtain ⟨u, hu, ht⟩ := mem_ways_inOrder_cons ht
  obtain ⟨u', hu', hucursor, hugroups⟩ := mem_ways_group hu
  obtain ⟨first, hfirst, hu'groups⟩ : ∃ k : Keyword, Reads k.word m.start u'.cursor ∧ _ :=
    mem_ways_eitherKeyword hu'
  obtain ⟨v, hv, ht⟩ := mem_ways_inOrder_cons ht
  obtain ⟨x, hne, hspaces, hspace, hvgroups⟩ := mem_ways_spaces hv
  obtain ⟨w, hw, ht⟩ := mem_ways_inOrder_cons ht
  obtain ⟨w', hw', hwcursor, hwgroups⟩ := mem_ways_group hw
  obtain ⟨second, hsecond, hw'groups⟩ := mem_ways_eitherKeyword hw'
  obtain ⟨rfl, hboundary'⟩ := mem_ways_boundary ht
  rw [hucursor] at hspace
  have hread := hfirst.trans (hspace.trans hsecond)
  rw [hwcursor] at hboundary'
  rw [hstop, hwcursor]
  refine ⟨first, second, x, hread, hfirst.endsWord_before hboundary (startsWord_keyword first),
    hsecond.startsWord_after hboundary' (endsWord_keyword second), ⟨hne, hspaces⟩, ?_, ?_⟩
  · refine groupText_eq (g := ⟨1, m.start, u'.cursor⟩) ?_ hfirst
    rw [hgroups, hwgroups, hw'groups, hvgroups, hugroups]
    rfl
  · refine groupText_eq (g := ⟨2, v.cursor, w'.cursor⟩) ?_ hsecond
    rw [hgroups, hwgroups]
    rfl

end SwiftExistential.Cleanup
