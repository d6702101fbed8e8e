import SwiftExistential.Proofs.Cleanup.Places
import SwiftExistential.Proofs.Registry.FirstWriter
import SwiftExistential.Site

/-!
# The protocol that a site names

The type of a site is searched for the known names by a pattern that tries them in their order,
between word boundaries. The order of the names and the order of the places could lead to different
results: the pattern prefers a name that comes early in the order, the reader of a type expects the
one that stands furthest to the left, and one name may begin like another.

The search finds the first known word of the type, where a word is a longest run of word characters,
so a name that begins like another one never takes its place (`Registry.findIn?_names`). From this
the patches of a file can be read off its sites: each site whose type names a known protocol gets a
patch, in the order of the sites (`patches_eq_filterMap`).
-/

set_option autoImplicit false

namespace SwiftExistential

open Pattern Text Unicode
open Cursor (Reads)
open SitePatch (IsName)

/-! ## Words

Words are said twice: as the parts of a text, computed, and as a place with a run that no word goes
on to (`WordAt`). The second form is what a pattern with boundaries matches. -/

namespace Text

/-- **The words of a text**: its longest runs of word characters, from the left. -/
def words (t : Text) : List Text := (parts t).filter startsWord

/-- A word of a text, with what stands before and after it. -/
structure WordAt (t before word after : Text) : Prop where
  text : t = before ++ (word ++ after)
  name : IsName word
  before : endsWord before = false
  after : startsWord after = false

/-- **The first word of a kind**: none of the kind begins further to the left. -/
def FirstWord (ok : Text → Bool) (t word : Text) : Prop :=
  ∃ before after, WordAt t before word after ∧ ok word = true ∧
    ∀ before' word' after', WordAt t before' word' after' → ok word' = true →
      before.length ≤ before'.length

variable {ok : Text → Bool} {t before word after : Text}

theorem WordAt.parts_eq (h : WordAt t before word after) :
    parts t = parts before ++ word :: parts after := by
  rw [h.text, parts_append (.inl h.before), parts_name_append h.name h.after]

theorem wordAt_of_parts {A B : List Text} (h : parts t = A ++ word :: B)
    (hword : startsWord word = true) : WordAt t A.flatten word B.flatten := by
  have hmem : word ∈ parts t := by
    rw [h]
    exact List.mem_append_right A List.mem_cons_self
  have hname : IsName word := by
    rcases isName_or_of_mem_parts hmem with hname | ⟨c, hc, rfl⟩
    · exact hname
    · have hno : startsWord [c] = false := hc
      rw [hno] at hword
      cases hword
  refine ⟨?_, hname, endsWord_before h hname, startsWord_behind h hname⟩
  rw [← flatten_parts t, h, List.flatten_append, List.flatten_cons]

/-- Of two words of a text, the one with the shorter text before it is the earlier part. -/
theorem length_flatten_le_of_append_eq {A B A' B' : List Text} (h : A ++ B = A' ++ B')
    (hle : A.length ≤ A'.length) : A.flatten.length ≤ A'.flatten.length := by
  obtain ⟨C, rfl⟩ : A <+: A' :=
    List.prefix_of_prefix_length_le ⟨B, h⟩ (List.prefix_append A' B') hle
  rw [List.flatten_append, List.length_append]
  exact Nat.le_add_right _ _

/-- **The first of the words of a kind** stands furthest to the left. -/
theorem find?_words_eq_some_iff : (words t).find? ok = some word ↔ FirstWord ok t word := by
  rw [words, List.find?_filter, List.find?_eq_some_iff_append]
  constructor
  · rintro ⟨hword, A, B, hparts, hA⟩
    obtain ⟨hstarts, hok⟩ : startsWord word = true ∧ ok word = true := by
      simpa using hword
    refine ⟨A.flatten, B.flatten, wordAt_of_parts hparts hstarts, hok, ?_⟩
    intro before' word' after' hat hok'
    have hparts' := hat.parts_eq
    rw [← flatten_parts before']
    refine length_flatten_le_of_append_eq (hparts.symm.trans hparts') (Nat.le_of_not_lt fun hlt => ?_)
    -- an earlier word of the kind would have been found
    have hmem : word' ∈ A := by
      have hget : (parts t)[(parts before').length]? = some word' := by
        rw [hparts', List.getElem?_append_right (Nat.le_refl _), Nat.sub_self]
        rfl
      rw [hparts, List.getElem?_append_left hlt] at hget
      exact List.mem_of_getElem? hget
    have hno := hA word' hmem
    rw [hat.name.startsWord, hok'] at hno
    cases hno
  · rintro ⟨before, after, hat, hok, hfirst⟩
    refine ⟨by simp [hat.name.startsWord, hok], parts before, parts after, hat.parts_eq, ?_⟩
    intro word' hmem
    by_contra hyes
    obtain ⟨hstarts, hok'⟩ : startsWord word' = true ∧ ok word' = true := by
      simpa using hyes
    obtain ⟨A, C, hbefore⟩ := List.append_of_mem hmem
    have hparts : parts t = A ++ word' :: (C ++ word :: parts after) := by
      rw [hat.parts_eq, hbefore, List.append_assoc, List.cons_append]
    have hle := hfirst _ _ _ (wordAt_of_parts hparts hstarts) hok'
    have hlen : before.length = A.flatten.length + (word'.length + C.flatten.length) := by
      rw [← flatten_parts before, hbefore, List.flatten_append, List.flatten_cons,
        List.length_append, List.length_append]
    have hpos := List.length_pos_iff.mpr (ne_nil_of_startsWord hstarts)
    omega

theorem find?_words_isSome_iff :
    ((words t).find? ok).isSome = true ↔
      ∃ before word after, WordAt t before word after ∧ ok word = true := by
  rw [List.find?_isSome]
  constructor
  · rintro ⟨word, hmem, hok⟩
    obtain ⟨hmem, hstarts⟩ := List.mem_filter.mp hmem
    obtain ⟨A, B, hparts⟩ := List.append_of_mem hmem
    exact ⟨_, _, _, wordAt_of_parts hparts hstarts, hok⟩
  · rintro ⟨before, word, after, hat, hok⟩
    refine ⟨word, List.mem_filter.mpr ⟨?_, hat.name.startsWord⟩, hok⟩
    rw [hat.parts_eq]
    exact List.mem_append_right _ List.mem_cons_self

end Text

/-! ## Known names

The pattern for all known names is a choice between them. It matches between two places if and only
if a known word stands there, so the choice among the names plays no part. -/

namespace Registry

variable {registry : Registry} {t name : Text}

theorem mem_names_iff : name ∈ registry.names ↔ registry.contains name = true :=
  Std.TreeMap.mem_keys.trans Std.TreeMap.mem_iff_contains

theorem names_eq_nil_iff : registry.names = [] ↔ registry.isEmpty = true := by
  rw [names, isEmpty, ← List.isEmpty_iff, Std.TreeMap.isEmpty_keys]

/-- **The names match where a known word stands.** -/
theorem spans_names_iff (hnames : ∀ n ∈ registry.names, IsName n) (hne : registry.names ≠ [])
    {a b : Cursor} :
    (wholeName registry.names).Spans a b ↔
      ∃ n, registry.contains n = true ∧ Reads n a b ∧ WordAt a.text a.before.reverse n b.after := by
  rw [Cleanup.spans_wholeName_iff hnames hne]
  constructor
  · rintro ⟨n, hn, hread, hbefore, hafter⟩
    exact ⟨n, mem_names_iff.mp hn, hread, by rw [Cursor.text, hread.after], hnames n hn, hbefore,
      hafter⟩
  · rintro ⟨n, hn, hread, hat⟩
    exact ⟨n, mem_names_iff.mpr hn, hread, hat.before, hat.after⟩

/-- A word of a text stands between two places of it. -/
theorem exists_spans_of_wordAt (hnames : ∀ n ∈ registry.names, IsName n)
    (hne : registry.names ≠ []) {before after : Text} (hat : WordAt t before name after)
    (hname : registry.contains name = true) :
    ∃ a b, Reads before (.start t) a ∧ a.after = name ++ after ∧
      (wholeName registry.names).Spans a b := by
  obtain ⟨a, hbefore, ha⟩ := Cursor.exists_reads_of_after (a := .start t) hat.text
  obtain ⟨b, hread, rfl⟩ := Cursor.exists_reads_of_after ha
  have hreverse : a.before.reverse = before := hbefore.reverse_before
  refine ⟨a, b, hbefore, ha, (spans_names_iff hnames hne).mpr ⟨name, hname, hread, ?_⟩⟩
  rw [Cursor.text, ha, hreverse, ← hat.text]
  exact hat

/-- **The search for a name finds the first known word.** -/
theorem findIn?_names (hnames : ∀ n ∈ registry.names, IsName n) (hne : registry.names ≠ [])
    (t : Text) :
    ((wholeName registry.names).findIn? t).map Match.text = (words t).find? registry.contains := by
  cases hfind : (wholeName registry.names).findIn? t with
  | none =>
      cases hword : (words t).find? registry.contains with
      | none => rfl
      | some name =>
          obtain ⟨before, after, hat, hname, -⟩ := find?_words_eq_some_iff.mp hword
          obtain ⟨a, b, hread, -, hspans⟩ := exists_spans_of_wordAt hnames hne hat hname
          obtain ⟨m, hm, -⟩ := find?_complete hread hspans
          rw [findIn?, hm] at hfind
          cases hfind
  | some m =>
      obtain ⟨⟨x, hx⟩, hmatch⟩ := find?_eq_some hfind
      obtain ⟨n, hn, hread, hat⟩ := (spans_names_iff hnames hne).mp hmatch.spans
      have hreverse : m.start.before.reverse = x := hx.reverse_before
      have htext : m.start.text = t := by rw [Cursor.text, hreverse, ← hx.after]; rfl
      rw [htext, hreverse] at hat
      rw [Option.map_some, Match.text, hread.textTo_eq, eq_comm, find?_words_eq_some_iff]
      refine ⟨x, m.stop.after, hat, hn, fun before' word' after' hat' hok' => ?_⟩
      -- where another known word stands the names match, so it is not further to the left
      obtain ⟨a, b, hread', -, hspans⟩ := exists_spans_of_wordAt hnames hne hat' hok'
      obtain ⟨m', hm', hle⟩ := find?_complete hread' hspans
      obtain rfl : m = m' := Option.some.inj (hfind.symm.trans hm')
      have hlen := hx.length_eq
      have hlen' := hread'.length_eq
      omega

end Registry

/-! ## Patches

A site without a known word in its type gets no patch, whatever else the type holds. -/

namespace Site

/-- **Each site whose type names a known protocol gets a patch**, in the order of the sites, and no
other does. The patch is for the first known word of the type, whatever other names it begins like
or holds, and its keyword is the one that the policy decides on for this word. -/
theorem patches_eq_filterMap (registry : Registry) (hnames : ∀ n ∈ registry.names, IsName n)
    (policy : Policy) (sites : List Site) :
    patches registry policy sites =
        sites.filterMap (fun site => site.typeText.bind fun typeText =>
          ((words typeText).find? registry.contains).map fun name =>
            ⟨site.offset, name, policy.keywordFor? registry name site.kind typeText⟩) ∧
      ∀ typeText,
        (∀ name, (words typeText).find? registry.contains = some name ↔
          FirstWord registry.contains typeText name) ∧
        (((words typeText).find? registry.contains).isSome = true ↔
          ∃ before name after, WordAt typeText before name after ∧
            registry.contains name = true) := by
  refine ⟨?_, fun typeText => ⟨fun name => find?_words_eq_some_iff, find?_words_isSome_iff⟩⟩
  rw [patches, Registry.pattern?]
  by_cases hempty : registry.isEmpty = true
  · -- without names no word is known
    have hnone (t : Text) : (words t).find? registry.contains = none := by
      refine List.find?_eq_none.mpr fun word _ hword => ?_
      have hmem := Registry.mem_names_iff.mpr hword
      rw [Registry.names_eq_nil_iff.mpr hempty] at hmem
      cases hmem
    rw [if_pos hempty]
    symm
    rw [List.filterMap_eq_nil_iff]
    intro site _
    simp [hnone]
  · have hne : registry.names ≠ [] := mt Registry.names_eq_nil_iff.mp hempty
    rw [if_neg hempty]
    refine List.filterMap_congr fun site _ => ?_
    rw [patch?]
    cases site.typeText with
    | none => rfl
    | some typeText =>
        rw [Option.bind_some, Option.bind_some, ← Registry.findIn?_names hnames hne, Option.map_map]
        rfl

/-- A registry with a name that begins like another one. -/
def workRegistry : Registry :=
  Registry.empty.insertAll [("Work".toList, .file "Work.swift".toList),
    ("Worker".toList, .file "Worker.swift".toList)]

/-- Types that hold the names in words, in longer words, and behind one another. -/
def workSites : List Site := [
  ⟨4, "source.lang.swift.decl.var.parameter".toList, some "App.Worker & Work".toList⟩,
  ⟨9, "source.lang.swift.decl.var.local".toList, some "Workers".toList⟩,
  ⟨12, "source.lang.swift.decl.var.local".toList, none⟩,
  ⟨15, "source.lang.swift.decl.var.local".toList, some "[Work]".toList⟩]

/-- The shorter name takes no place of the longer one, and neither is found in a longer word. -/
theorem patches_eq_filterMap_of_workSites :
    (∀ n ∈ workRegistry.names, IsName n) ∧
      patches workRegistry (.ofClasses []) workSites =
        [⟨4, "Worker".toList, some .some⟩, ⟨15, "Work".toList, some .any⟩] := by
  have hnames : ∀ n ∈ workRegistry.names, IsName n := by
    unfold workRegistry
    repeat rewrite [String.toList_ofList]
    decide +kernel
  refine ⟨hnames, ?_⟩
  rw [(patches_eq_filterMap workRegistry hnames (.ofClasses []) workSites).1]
  unfold workRegistry workSites
  repeat rewrite [String.toList_ofList]
  decide +kernel

end Site

end SwiftExistential
