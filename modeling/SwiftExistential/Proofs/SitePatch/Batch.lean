import Mathlib.Data.List.Dedup
import SwiftExistential.Proofs.SitePatch.Window

/-!
# Batches of patches

A batch is applied from the highest offset down, one window after the other, to a text that holds
the keywords of the windows above. The outcome is that of one insertion into the unpatched text
(`insertions`), and this file has the loop for it: what the loop has reached is always the unpatched
text up to the last window, and behind it the text with all insertions so far (`Reached`).

One step of the loop is one patch. It is passed over if it asks for nothing, or cannot be made, or
if a patch with the same offset came before it; otherwise it makes its insertions below all others
(`Reached.step`). A run of the loop makes the insertions of a sweep over the patches
(`Reached.foldl`). That the sweep makes the insertions of the batch is shown in the next file, from
the order of the patches.
-/

set_option autoImplicit false

namespace SwiftExistential.SitePatch

open Pattern Text Unicode

/-! ## What a batch asks for

Of the patches at one offset the first one counts. Its window goes up to the next larger offset of a
patch that takes part, or to the end of the line. -/

/-- Whether a patch takes part: it has a keyword, and its offset is a place of the text. -/
def isEffective (content : Text) (p : SitePatch) : Bool :=
  p.keyword.isSome && (content.splitAtByte? p.offset).isSome

/-- The offsets of the patches that take part, each once. -/
def offsets (content : Text) (patches : List SitePatch) : List Nat :=
  ((patches.filter (isEffective content)).map (·.offset)).dedup

/-- The patch that counts at an offset: the first one there that takes part. -/
def leader? (content : Text) (patches : List SitePatch) (offset : Nat) : Option SitePatch :=
  patches.find? fun p => isEffective content p && p.offset == offset

/-- Where the window of an offset ends at the latest: at the next larger offset, or with the
text. -/
def windowEnd (content : Text) (patches : List SitePatch) (offset : Nat) : Nat :=
  ((offsets content patches).filter (offset < ·)).min?.getD content.byteLength

def insertionsOf (content : Text) (p : SitePatch) (stop : Nat) : List (Nat × Text) :=
  match p.keyword with
  | none => []
  | some keyword => (windowAt content p.offset stop).insertions p.offset p.identifier keyword

def insertionsAt (content : Text) (patches : List SitePatch) (offset : Nat) : List (Nat × Text) :=
  match leader? content patches offset with
  | none => []
  | some p => insertionsOf content p (windowEnd content patches offset)

/-- **The insertions that a batch asks for**, offset by offset. -/
def insertions (content : Text) (patches : List SitePatch) : List (Nat × Text) :=
  (offsets content patches).flatMap (insertionsAt content patches)

def ordered (patches : List SitePatch) : List SitePatch :=
  patches.mergeSort fun a b => decide (b.offset ≤ a.offset)

/-- The state before the first patch. -/
def Progress.start (content : Text) : Progress := ⟨content, 0, content.byteLength⟩

/-! ## Uses

An insertion goes before a word, so the texts before and after an insertion are annotated forms of
one another in the sense of occurrences and their guards. -/

/-- Keywords at uses are keywords before words. -/
theorem annotated_insertInto {content : Text} {done : List (Nat × Text)}
    (huses : ∀ e ∈ done, IsUse content e) (hnodup : (done.map Prod.fst).Nodup) {a b : Text}
    (h : content = a ++ b) :
    Annotated a.getLast? b (insertInto (textAt done) (byteLength a) b) := by
  induction b generalizing a with
  | nil => exact .nil _
  | cons c rest ih =>
      have htail := ih (a := a ++ [c]) (by rw [h, List.append_assoc, List.singleton_append])
      rw [List.getLast?_concat, byteLength_append, byteLength_cons, byteLength_nil,
        Nat.add_zero] at htail
      rw [insertInto]
      rcases textAt_eq_nil_or hnodup (byteLength a) with hnil | ⟨e, he, hoffset, htext⟩
      · rw [hnil, List.nil_append]
        exact .keep htail
      · -- the use cuts the text where `a` ends, so the word that it stands before is here
        obtain ⟨a', b', k, hcut, hlen, hlead, hprevious, hword⟩ := huses e he
        obtain ⟨rfl, rfl⟩ := eq_of_byteLength_eq (h.symm.trans hcut) (hoffset.symm.trans hlen.symm)
        rw [htext, hlead]
        exact .insert k hprevious hword htail

theorem IsUse.lt_byteLength {content : Text} {e : Nat × Text} (h : IsUse content e) :
    e.1 < byteLength content := by
  obtain ⟨a, b, k, rfl, hlen, -, -, hword⟩ := h
  have hpos := byteLength_pos (ne_nil_of_startsWord hword)
  rw [byteLength_append]
  omega

theorem insertAll_eq_insertInto {content : Text} {done : List (Nat × Text)}
    (huses : ∀ e ∈ done, IsUse content e) :
    insertAll done content = insertInto (textAt done) 0 content := by
  have hend : textAt done content.byteLength = [] :=
    textAt_eq_nil fun e he => Nat.ne_of_lt (huses e he).lt_byteLength
  rw [insertAll, hend, List.append_nil]

/-! ## The loop

The invariant has a ceiling: the offset of the last window. Below it nothing was changed, so the
next patch reads the unpatched text there. -/

/-- **What the loop has reached**: below the ceiling the text is unpatched, and above it has all
insertions so far. -/
structure Reached (content : Text) (progress : Progress) (done : List (Nat × Text)) : Prop where
  uses : ∀ e ∈ done, IsUse content e
  ceiling_le : ∀ e ∈ done, progress.ceiling ≤ e.1
  nodup : (done.map Prod.fst).Nodup
  count : progress.inserted = done.length
  output : ∃ pre suf, content = pre ++ suf ∧ byteLength pre = progress.ceiling ∧
    progress.output = pre ++ insertInto (textAt done) progress.ceiling suf

theorem reached_start (content : Text) : Reached content (Progress.start content) [] where
  uses := by simp
  ceiling_le := by simp
  nodup := .nil
  count := rfl
  output := ⟨content, [], (List.append_nil content).symm, rfl, (List.append_nil content).symm⟩

theorem Reached.output_eq {content : Text} {progress : Progress} {done : List (Nat × Text)}
    (h : Reached content progress done) : progress.output = insertAll done content := by
  obtain ⟨pre, suf, hcontent, hlen, houtput⟩ := h.output
  have hpre : insertInto (textAt done) 0 pre = pre := by
    refine insertInto_eq_self fun i _ hhi => textAt_eq_nil fun e he => ?_
    have hle := h.ceiling_le e he
    omega
  calc progress.output
      = pre ++ insertInto (textAt done) progress.ceiling suf := houtput
    _ = insertInto (textAt done) 0 (pre ++ suf) := by
        rw [insertInto_append, hpre, Nat.zero_add, hlen]
    _ = insertAll done content := by rw [← hcontent, insertAll_eq_insertInto h.uses]

theorem exists_cut {content : Text} {p : SitePatch} (h : isEffective content p = true) :
    ∃ keyword before after, p.keyword = some keyword ∧ content = before ++ after ∧
      byteLength before = p.offset := by
  obtain ⟨hkeyword, hcut⟩ := Bool.and_eq_true_iff.mp h
  obtain ⟨keyword, hkeyword⟩ := Option.isSome_iff_exists.mp hkeyword
  obtain ⟨⟨before, after⟩, hcut⟩ := Option.isSome_iff_exists.mp hcut
  obtain ⟨hcontent, hlen⟩ := eq_append_of_splitAtByte? hcut
  exact ⟨keyword, before, after, hkeyword, hcontent, hlen⟩

theorem offset_le_byteLength {content : Text} {p : SitePatch} (h : isEffective content p = true) :
    p.offset ≤ content.byteLength := by
  obtain ⟨keyword, before, after, -, rfl, hoffset⟩ := exists_cut h
  rw [byteLength_append]
  omega

theorem step_of_not_effective {content : Text} {p : SitePatch} (h : isEffective content p = false)
    (progress : Progress) : step content progress p = progress := by
  rw [isEffective] at h
  rw [step]
  cases hkeyword : p.keyword with
  | none => rfl
  | some keyword =>
      cases hcut : content.splitAtByte? p.offset with
      | none => rfl
      | some parts =>
          rw [hkeyword, hcut] at h
          cases h

/-- What a patch below the ceiling finds: the unpatched text up to the ceiling, cut at its
offset. -/
theorem Reached.exists_cut {content : Text} {progress : Progress} {done : List (Nat × Text)}
    (h : Reached content progress done) {before after : Text} (hcontent : content = before ++ after)
    (hle : byteLength before ≤ progress.ceiling) :
    ∃ mid suf, content = before ++ (mid ++ suf) ∧
      progress.ceiling = byteLength before + byteLength mid ∧
      progress.output = before ++ (mid ++ insertInto (textAt done) progress.ceiling suf) ∧
      Annotated (before ++ mid).getLast? suf (insertInto (textAt done) progress.ceiling suf) := by
  obtain ⟨pre, suf, hpre, hlen, houtput⟩ := h.output
  rw [← hlen] at hle
  obtain ⟨mid, rfl, rfl⟩ := exists_of_byteLength_le (hcontent.symm.trans hpre) hle
  have hannotated := annotated_insertInto h.uses h.nodup hpre
  rw [hlen] at hannotated
  rw [byteLength_append] at hlen
  refine ⟨mid, suf, hcontent, hlen.symm, ?_, hannotated⟩
  rw [houtput, List.append_assoc]

/-- The insertions of one patch lie between its offset and the end of its window. -/
theorem mem_insertionsOf {content before mid suf : Text} {p : SitePatch} {stop : Nat}
    (hcut : content = before ++ (mid ++ suf)) (hoffset : byteLength before = p.offset)
    (hstop : stop = byteLength before + byteLength mid) (hname : IsName p.identifier)
    {e : Nat × Text} (he : e ∈ insertionsOf content p stop) :
    IsUse content e ∧ p.offset ≤ e.1 ∧ e.1 < stop := by
  subst hcut hstop
  rw [insertionsOf, ← hoffset] at he
  split at he
  · cases he
  · obtain ⟨huse, hlo, hhi⟩ := mem_insertions hname he
    obtain ⟨inside, more, tail, hmid, -, hw, -⟩ := windowAt_between before mid suf
    have hinside : byteLength inside ≤ byteLength mid := by
      rw [hmid, byteLength_append]
      exact Nat.le_add_right _ _
    rw [hw] at hhi
    exact ⟨huse, hoffset ▸ hlo, Nat.lt_of_lt_of_le hhi (Nat.add_le_add_left hinside _)⟩

theorem nodup_insertionsOf (content : Text) {p : SitePatch} (stop : Nat)
    (hname : IsName p.identifier) : ((insertionsOf content p stop).map Prod.fst).Nodup := by
  rw [insertionsOf]
  split
  · exact .nil
  · exact Window.nodup_insertions hname _ _ _

/-- What one patch does with a text that is unpatched up to the ceiling. -/
theorem step_eq {content before mid suf suf' : Text} {p : SitePatch} {progress : Progress}
    (hp : isEffective content p = true) (hname : IsName p.identifier)
    (hcut : content = before ++ (mid ++ suf)) (hoffset : byteLength before = p.offset)
    (hceiling : progress.ceiling = byteLength before + byteLength mid)
    (houtput : progress.output = before ++ (mid ++ suf'))
    (hannotated : Annotated (before ++ mid).getLast? suf suf') :
    step content progress p =
      ⟨before ++
          (insertInto (textAt (insertionsOf content p progress.ceiling)) p.offset mid ++ suf'),
        progress.inserted + (insertionsOf content p progress.ceiling).length, p.offset⟩ := by
  obtain ⟨keyword, -, -, hkeyword, -, -⟩ := exists_cut hp
  have hsplit : content.splitAtByte? p.offset = some (before, mid ++ suf) :=
    splitAtByte?_eq_some_iff.mpr ⟨hcut, hoffset⟩
  have hpatched := patchWindow_eq hname hannotated hceiling keyword
  rw [← hcut, hoffset] at hpatched
  have hmax : max progress.ceiling p.offset = progress.ceiling := max_eq_left (by omega)
  simp only [step, insertionsOf, hkeyword, hsplit, hmax, houtput, hpatched]

/-- **One patch makes its insertions**, below all others. -/
theorem Reached.step {content : Text} {progress : Progress} {done : List (Nat × Text)}
    (h : Reached content progress done) {p : SitePatch} (hp : isEffective content p = true)
    (hname : IsName p.identifier) (hle : p.offset ≤ progress.ceiling) :
    Reached content (step content progress p)
      (insertionsOf content p progress.ceiling ++ done) ∧
      (SitePatch.step content progress p).ceiling = p.offset := by
  obtain ⟨keyword, before, after, -, hcontent, hoffset⟩ := SitePatch.exists_cut hp
  obtain ⟨mid, suf, hcut, hceiling, houtput, hannotated⟩ :=
    h.exists_cut hcontent (hoffset.symm ▸ hle)
  have hin (e : Nat × Text) (he : e ∈ insertionsOf content p progress.ceiling) :=
    mem_insertionsOf hcut hoffset hceiling hname he
  rw [step_eq hp hname hcut hoffset hceiling houtput hannotated]
  refine ⟨⟨?uses, ?ceiling_le, ?nodup, ?count, ?output⟩, rfl⟩
  case uses =>
    intro e he
    rcases List.mem_append.mp he with he | he
    · exact (hin e he).1
    · exact h.uses e he
  case ceiling_le =>
    intro e he
    rcases List.mem_append.mp he with he | he
    · exact (hin e he).2.1
    · exact Nat.le_trans hle (h.ceiling_le e he)
  case nodup =>
    -- the new offsets are below the ceiling, the old ones are not
    rw [List.map_append, List.nodup_append]
    refine ⟨nodup_insertionsOf content _ hname, h.nodup, ?_⟩
    intro x hx y hy
    obtain ⟨e, he, rfl⟩ := List.mem_map.mp hx
    obtain ⟨e', he', rfl⟩ := List.mem_map.mp hy
    exact Nat.ne_of_lt (Nat.lt_of_lt_of_le (hin e he).2.2 (h.ceiling_le e' he'))
  case count => rw [List.length_append, h.count, Nat.add_comm]
  case output =>
    have hend : p.offset + byteLength mid = progress.ceiling := by omega
    refine ⟨before, mid ++ suf, hcut, hoffset, ?_⟩
    rw [insertInto_textAt_append (fun e he => hend ▸ (hin e he).2.2)
      (fun e he => hend ▸ h.ceiling_le e he), hend]

/-- The insertions of patches one below the other, from a ceiling down. -/
def sweep (content : Text) : Nat → List SitePatch → List (Nat × Text)
  | _, [] => []
  | ceiling, p :: rest => sweep content p.offset rest ++ insertionsOf content p ceiling

/-- **The loop makes the insertions of a sweep.** -/
theorem Reached.foldl {content : Text} {progress : Progress} {done : List (Nat × Text)}
    (h : Reached content progress done) {patches : List SitePatch}
    (heffective : ∀ p ∈ patches, isEffective content p = true)
    (hnames : ∀ p ∈ patches, IsName p.identifier)
    (hsorted : patches.Pairwise fun a b => b.offset ≤ a.offset)
    (hle : ∀ p ∈ patches, p.offset ≤ progress.ceiling) :
    Reached content (patches.foldl (SitePatch.step content) progress)
      (sweep content progress.ceiling patches ++ done) := by
  induction patches generalizing progress done with
  | nil => exact h
  | cons p rest ih =>
      obtain ⟨hstep, hceiling⟩ := h.step (heffective p List.mem_cons_self)
        (hnames p List.mem_cons_self) (hle p List.mem_cons_self)
      obtain ⟨hfirst, hrest⟩ := List.pairwise_cons.mp hsorted
      have hloop := ih hstep (fun q hq => heffective q (List.mem_cons_of_mem _ hq))
        (fun q hq => hnames q (List.mem_cons_of_mem _ hq)) hrest
        (fun q hq => hceiling ▸ hfirst q hq)
      rw [hceiling] at hloop
      rw [List.foldl_cons, sweep, List.append_assoc]
      exact hloop

/-- Patches that take no part are passed over. -/
theorem foldl_step_filter (content : Text) (patches : List SitePatch) (progress : Progress) :
    patches.foldl (step content) progress =
      (patches.filter (isEffective content)).foldl (step content) progress := by
  rw [List.foldl_filter]
  congr 1
  funext progress p
  split
  · rfl
  · rename_i hp
    exact step_of_not_effective (Bool.eq_false_iff.mpr hp) progress

end SwiftExistential.SitePatch
