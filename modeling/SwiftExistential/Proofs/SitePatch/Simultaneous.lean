import Mathlib.Data.List.Perm.Basic
import SwiftExistential.Proofs.SitePatch.Batch

/-!
# A batch is one insertion

Patches are applied from the highest offset down, and patches at one offset in the order of the
list. So the first patch at an offset is the one that counts there, its window ends at the next
larger offset, and the windows of the others are empty: a sweep over all patches makes the
insertions of the batch, in another order (`Below.sweep_perm`).

The loop over the patches of a batch, taken as a whole, has the outcome of one insertion into the
unpatched text (`applyAll_eq_insertAll`). The statement mentions no loop. It says which insertions
are made, that no two of them share an offset, and how many there are; and it says that the text
which each patch finds can be cut wherever the patch cuts it, so that no step of the program fails
on the way.
-/

set_option autoImplicit false

namespace SwiftExistential.SitePatch

open Pattern Text Unicode

/-! ## The order of the patches

The order is by offset only. Patches at one offset stay as they are in the list, so the first of
them in the list is the first one that the loop meets. -/

theorem atOrAbove_trans (a b c : SitePatch) (hab : decide (b.offset ≤ a.offset) = true)
    (hbc : decide (c.offset ≤ b.offset) = true) : decide (c.offset ≤ a.offset) = true :=
  decide_eq_true (Nat.le_trans (of_decide_eq_true hbc) (of_decide_eq_true hab))

theorem atOrAbove_total (a b : SitePatch) :
    (decide (b.offset ≤ a.offset) || decide (a.offset ≤ b.offset)) = true := by
  rw [Bool.or_eq_true, decide_eq_true_eq, decide_eq_true_eq]
  exact Nat.le_total b.offset a.offset

theorem pairwise_ordered (patches : List SitePatch) :
    (ordered patches).Pairwise fun a b => b.offset ≤ a.offset := by
  have hsorted := List.pairwise_mergeSort atOrAbove_trans atOrAbove_total patches
  exact hsorted.imp fun hab => of_decide_eq_true hab

theorem mem_ordered {patches : List SitePatch} {p : SitePatch} :
    p ∈ ordered patches ↔ p ∈ patches :=
  List.mem_mergeSort

theorem filter_ordered {patches : List SitePatch} {q : SitePatch → Bool} {offset : Nat}
    (hq : ∀ p, q p = true → p.offset = offset) :
    (ordered patches).filter q = patches.filter q := by
  have hpairwise : (patches.filter q).Pairwise fun a b => decide (b.offset ≤ a.offset) = true := by
    refine List.pairwise_of_forall_mem_list fun a ha b hb => ?_
    rw [hq a (List.mem_filter.mp ha).2, hq b (List.mem_filter.mp hb).2]
    exact decide_eq_true (Nat.le_refl offset)
  -- sorting is stable, so the patches at the offset are a sublist, and no other patch is there
  have hsublist : (patches.filter q).Sublist (ordered patches) :=
    List.sublist_mergeSort atOrAbove_trans atOrAbove_total hpairwise List.filter_sublist
  have hfiltered := hsublist.filter q
  rw [List.filter_filter] at hfiltered
  simp only [Bool.and_self] at hfiltered
  exact (hfiltered.eq_of_length (List.mergeSort_perm patches _ |>.filter q).length_eq.symm).symm

/-- The patch that counts at an offset is the first one there in the order of application. -/
theorem leader?_eq (content : Text) (patches : List SitePatch) (offset : Nat) :
    leader? content patches offset =
      ((ordered patches).filter (isEffective content)).find? fun p => p.offset == offset := by
  have hq : ∀ p, (isEffective content p && p.offset == offset) = true → p.offset = offset :=
    fun p hp => eq_of_beq (Bool.and_eq_true_iff.mp hp).2
  rw [leader?, ← List.head?_filter, ← filter_ordered hq, ← List.head?_filter, List.filter_filter]
  congr 2
  funext p
  exact Bool.and_comm _ _

theorem mem_offsets {content : Text} {patches : List SitePatch} {offset : Nat} :
    offset ∈ offsets content patches ↔
      offset ∈ ((ordered patches).filter (isEffective content)).map (·.offset) := by
  simp only [offsets, List.mem_dedup, List.mem_map, List.mem_filter, mem_ordered]

/-! ## The sweep and the insertions of the batch

The sweep goes over the patches with the offset of the last one as its ceiling. A patch at the
ceiling itself has an empty window. -/

/-- Where a sweep stands: some patches that take part are done, and the ceiling is the offset of the
last of them, or the end of the text if there is none. -/
structure Below (content : Text) (patches done rest : List SitePatch) (ceiling : Nat) : Prop where
  split : (ordered patches).filter (isEffective content) = done ++ rest
  ceiling_eq : (done = [] ∧ ceiling = content.byteLength) ∨ ∃ q ∈ done, q.offset = ceiling
  done_above : ∀ q ∈ done, ceiling ≤ q.offset
  rest_below : ∀ q ∈ rest, q.offset ≤ ceiling

theorem Below.next {content : Text} {patches done rest : List SitePatch} {p : SitePatch}
    {ceiling : Nat} (h : Below content patches done (p :: rest) ceiling) :
    Below content patches (done ++ [p]) rest p.offset where
  split := by rw [h.split, List.append_assoc, List.singleton_append]
  ceiling_eq := .inr ⟨p, List.mem_append_right _ (List.mem_singleton_self p), rfl⟩
  done_above := by
    intro q hq
    rcases List.mem_append.mp hq with hq | hq
    · exact Nat.le_trans (h.rest_below p List.mem_cons_self) (h.done_above q hq)
    · rw [List.mem_singleton.mp hq]
  rest_below := by
    have hsorted := (pairwise_ordered patches).filter (isEffective content)
    rw [h.split] at hsorted
    exact (List.pairwise_cons.mp (List.pairwise_append.mp hsorted).2.1).1

theorem Below.windowEnd_eq {content : Text} {patches done rest : List SitePatch} {p : SitePatch}
    {ceiling : Nat} (h : Below content patches done (p :: rest) ceiling)
    (hfirst : p.offset ∉ done.map (·.offset)) :
    windowEnd content patches p.offset = ceiling := by
  -- the larger offsets are those of the patches that are done
  have hlarger : ∀ x, x ∈ (offsets content patches).filter (p.offset < ·) ↔
      x ∈ done.map (·.offset) := by
    intro x
    rw [List.mem_filter, mem_offsets, h.split, List.map_append, List.mem_append, decide_eq_true_eq]
    constructor
    · rintro ⟨hx | hx, hlt⟩
      · exact hx
      · obtain ⟨q, hq, rfl⟩ := List.mem_map.mp hx
        rcases List.mem_cons.mp hq with rfl | hq
        · exact absurd hlt (Nat.lt_irrefl _)
        · exact absurd hlt (Nat.not_lt.mpr (h.next.rest_below q hq))
    · intro hx
      obtain ⟨q, hq, rfl⟩ := List.mem_map.mp hx
      have hle := Nat.le_trans (h.rest_below p List.mem_cons_self) (h.done_above q hq)
      refine ⟨.inl hx, Nat.lt_of_le_of_ne hle fun heq => hfirst ?_⟩
      rw [heq]
      exact hx
  rw [windowEnd]
  rcases h.ceiling_eq with ⟨rfl, rfl⟩ | ⟨q, hq, rfl⟩
  · have hnone : (offsets content patches).filter (p.offset < ·) = [] :=
      List.eq_nil_iff_forall_not_mem.mpr fun x hx => List.not_mem_nil ((hlarger x).mp hx)
    rw [hnone]
    rfl
  · have hmin : ((offsets content patches).filter (p.offset < ·)).min? = some q.offset := by
      rw [List.min?_eq_some_iff]
      refine ⟨(hlarger _).mpr (List.mem_map_of_mem hq), fun x hx => ?_⟩
      obtain ⟨q', hq', rfl⟩ := List.mem_map.mp ((hlarger x).mp hx)
      exact h.done_above q' hq'
    rw [hmin]
    rfl

theorem Below.insertionsAt_eq {content : Text} {patches done rest : List SitePatch} {p : SitePatch}
    {ceiling : Nat} (h : Below content patches done (p :: rest) ceiling)
    (hfirst : p.offset ∉ done.map (·.offset)) :
    insertionsAt content patches p.offset = insertionsOf content p ceiling := by
  have hleader : leader? content patches p.offset = some p := by
    have hdone : done.find? (fun q => q.offset == p.offset) = none := by
      rw [List.find?_eq_none]
      intro q hq heq
      exact hfirst (List.mem_map.mpr ⟨q, hq, eq_of_beq heq⟩)
    rw [leader?_eq, h.split, List.find?_append, hdone, Option.none_or,
      List.find?_cons_of_pos (by rw [beq_self_eq_true])]
  rw [insertionsAt, hleader, h.windowEnd_eq hfirst]

theorem insertionsOf_eq_nil {content : Text} {p : SitePatch} (hp : isEffective content p = true)
    (hname : IsName p.identifier) : insertionsOf content p p.offset = [] := by
  obtain ⟨keyword, before, after, -, hcontent, hoffset⟩ := exists_cut hp
  refine List.eq_nil_iff_forall_not_mem.mpr fun e he => ?_
  -- a window without text: an insertion would be at or behind its start and before its end
  have hcut : content = before ++ ([] ++ after) := hcontent
  obtain ⟨-, hlo, hhi⟩ := mem_insertionsOf hcut hoffset hoffset.symm hname he
  omega

/-! ## Offsets that are left

The insertions of the batch are listed offset by offset, those of the sweep patch by patch. The two
lists are matched by the offsets below the ceiling that still have a patch to come. -/

/-- The offsets of patches that are left, each once, without those of patches that are done. -/
def fresh (done rest : List SitePatch) : List Nat :=
  (rest.map (·.offset)).dedup.filter (· ∉ done.map (·.offset))

theorem mem_fresh {done rest : List SitePatch} {offset : Nat} :
    offset ∈ fresh done rest ↔
      offset ∈ rest.map (·.offset) ∧ offset ∉ done.map (·.offset) := by
  simp only [fresh, List.mem_filter, List.mem_dedup, decide_eq_true_eq]

theorem nodup_fresh (done rest : List SitePatch) : (fresh done rest).Nodup :=
  (List.nodup_dedup _).filter _

theorem fresh_perm_offsets (content : Text) (patches : List SitePatch) :
    (fresh [] ((ordered patches).filter (isEffective content))).Perm (offsets content patches) := by
  refine (List.perm_ext_iff_of_nodup (nodup_fresh _ _) (List.nodup_dedup _)).mpr fun x => ?_
  rw [mem_fresh, ← offsets, mem_offsets, List.map_nil, and_iff_left List.not_mem_nil]

theorem mem_fresh_next {done rest : List SitePatch} {p : SitePatch} {offset : Nat} :
    offset ∈ fresh (done ++ [p]) rest ↔ offset ∈ fresh done (p :: rest) ∧ offset ≠ p.offset := by
  simp only [mem_fresh, List.map_append, List.mem_append, List.map_cons, List.map_nil,
    List.mem_cons, List.not_mem_nil, or_false, not_or]
  constructor
  · rintro ⟨hrest, hdone, hp⟩
    exact ⟨⟨.inr hrest, hdone⟩, hp⟩
  · rintro ⟨⟨heq | hrest, hdone⟩, hp⟩
    · exact absurd heq hp
    · exact ⟨hrest, hdone, hp⟩

/-- A patch at an offset that is done leaves as many offsets as before. -/
theorem fresh_perm_of_mem {done : List SitePatch} {p : SitePatch}
    (h : p.offset ∈ done.map (·.offset)) (rest : List SitePatch) :
    (fresh (done ++ [p]) rest).Perm (fresh done (p :: rest)) := by
  refine (List.perm_ext_iff_of_nodup (nodup_fresh _ _) (nodup_fresh _ _)).mpr fun x => ?_
  rw [mem_fresh_next, and_iff_left_of_imp]
  rintro hx rfl
  exact (mem_fresh.mp hx).2 h

/-- The first patch at an offset takes the offset away. -/
theorem fresh_perm_of_not_mem {done : List SitePatch} {p : SitePatch}
    (h : p.offset ∉ done.map (·.offset)) (rest : List SitePatch) :
    (p.offset :: fresh (done ++ [p]) rest).Perm (fresh done (p :: rest)) := by
  have hout : p.offset ∉ fresh (done ++ [p]) rest := fun hin => (mem_fresh_next.mp hin).2 rfl
  have hin : p.offset ∈ fresh done (p :: rest) := mem_fresh.mpr ⟨List.mem_cons_self, h⟩
  refine (List.perm_ext_iff_of_nodup (List.nodup_cons.mpr ⟨hout, nodup_fresh _ _⟩)
    (nodup_fresh _ _)).mpr fun x => ?_
  rw [List.mem_cons, mem_fresh_next]
  by_cases hx : x = p.offset
  · subst hx
    exact iff_of_true (.inl rfl) hin
  · rw [or_iff_right hx, and_iff_left hx]

/-- **A sweep makes the insertions of the offsets that are left.** -/
theorem Below.sweep_perm {content : Text} {patches done rest : List SitePatch} {ceiling : Nat}
    (h : Below content patches done rest ceiling) (hnames : ∀ p ∈ patches, IsName p.identifier) :
    (sweep content ceiling rest).Perm
      ((fresh done rest).flatMap (insertionsAt content patches)) := by
  induction rest generalizing done ceiling with
  | nil => exact .refl _
  | cons p rest ih =>
      have hrest := ih h.next
      have hmem : p ∈ (ordered patches).filter (isEffective content) := by
        rw [h.split]
        exact List.mem_append_right _ List.mem_cons_self
      obtain ⟨hordered, heffective⟩ := List.mem_filter.mp hmem
      have hname := hnames p (mem_ordered.mp hordered)
      rw [sweep]
      by_cases hfirst : p.offset ∈ done.map (·.offset)
      · -- the patch comes after another one at its offset, and its window is empty
        have hceiling : ceiling = p.offset := by
          obtain ⟨q, hq, heq⟩ := List.mem_map.mp hfirst
          have hlo := h.done_above q hq
          have hhi := h.rest_below p List.mem_cons_self
          omega
        rw [hceiling, insertionsOf_eq_nil heffective hname, List.append_nil]
        exact hrest.trans ((fresh_perm_of_mem hfirst rest).flatMap_right _)
      · -- the patch is the first at its offset, and adds the insertions there
        have hperm := (fresh_perm_of_not_mem hfirst rest).flatMap_right
          (insertionsAt content patches)
        rw [List.flatMap_cons, h.insertionsAt_eq hfirst] at hperm
        exact List.perm_append_comm.trans ((hrest.append_left _).trans hperm)

/-! ## The batch as a whole

The loop begins with the unpatched text and no ceiling, and what it has reached at the end has
everything. -/

theorem mem_effective {content : Text} {patches : List SitePatch} {p : SitePatch}
    (hp : p ∈ (ordered patches).filter (isEffective content)) :
    p ∈ patches ∧ isEffective content p = true :=
  (List.mem_filter.mp hp).imp_left mem_ordered.mp

/-- **The loop over a batch makes the insertions of one sweep.** -/
theorem reached_sweep (content : Text) (patches : List SitePatch)
    (hnames : ∀ p ∈ patches, IsName p.identifier) :
    Reached content ((ordered patches).foldl (step content) (Progress.start content))
      (sweep content content.byteLength ((ordered patches).filter (isEffective content))) := by
  have hloop := (reached_start content).foldl (fun p hp => (mem_effective hp).2)
    (fun p hp => hnames p (mem_effective hp).1) ((pairwise_ordered patches).filter _)
    (fun p hp => offset_le_byteLength (mem_effective hp).2)
  rw [List.append_nil] at hloop
  rw [foldl_step_filter]
  exact hloop

theorem sweep_perm_insertions (content : Text) (patches : List SitePatch)
    (hnames : ∀ p ∈ patches, IsName p.identifier) :
    (sweep content content.byteLength ((ordered patches).filter (isEffective content))).Perm
      (insertions content patches) := by
  have hbelow : Below content patches [] ((ordered patches).filter (isEffective content))
      content.byteLength :=
    ⟨rfl, .inl ⟨rfl, rfl⟩, by simp, fun p hp => offset_le_byteLength (mem_effective hp).2⟩
  exact (hbelow.sweep_perm hnames).trans ((fresh_perm_offsets content patches).flatMap_right _)

/-- **What a batch has reached at its end.** -/
theorem reached_applyAll (content : Text) (patches : List SitePatch)
    (hnames : ∀ p ∈ patches, IsName p.identifier) :
    ∃ progress done, Reached content progress done ∧ done.Perm (insertions content patches) ∧
      applyAll content patches = (progress.output, progress.inserted) :=
  ⟨_, _, reached_sweep content patches hnames, sweep_perm_insertions content patches hnames, rfl⟩

/-- A patch leaves the ceiling where it is or lowers it to its own offset. -/
theorem le_ceiling_foldl (content : Text) {patches : List SitePatch} {progress : Progress}
    {offset : Nat} (hle : ∀ p ∈ patches, offset ≤ p.offset) (h : offset ≤ progress.ceiling) :
    offset ≤ (patches.foldl (step content) progress).ceiling := by
  induction patches generalizing progress with
  | nil => exact h
  | cons p rest ih =>
      refine ih (fun q hq => hle q (List.mem_cons_of_mem _ hq)) ?_
      rw [step]
      split
      · exact hle p List.mem_cons_self
      · exact h

/-- Whether a text can be cut at an offset, at the end of the line there, and at `stop` or the end
of the line, whichever comes first. -/
def IsCut (t : Text) (offset stop : Nat) : Prop :=
  ∃ before inside tail rest, t = before ++ (inside ++ (tail ++ rest)) ∧
    byteLength before = offset ∧
    byteLength inside = min (stop - offset) (byteLength (inside ++ tail)) ∧
    (∀ c ∈ inside ++ tail, (c != '\n') = true) ∧ (rest = [] ∨ rest.head? = some '\n')

/-- A text that goes on behind a window can be cut at its line's end. -/
theorem isCut_append {before mid : Text} (behind : Text) {offset stop : Nat}
    (hoffset : byteLength before = offset) (hstop : stop = byteLength before + byteLength mid) :
    IsCut (before ++ (mid ++ behind)) offset stop := by
  obtain ⟨inside, more, tail, rfl, hline, -, hmore⟩ := windowAt_between before mid behind
  -- The line ends inside the window or goes on behind it.
  rcases hmore with ⟨rest, rfl, rfl⟩ | ⟨rfl, rfl⟩
  · refine ⟨before, inside, [], '\n' :: rest ++ behind, ?_, hoffset, ?_, ?_, .inr rfl⟩
    · rw [List.nil_append, List.append_assoc]
    · rw [List.append_nil, byteLength_append] at *
      omega
    · rwa [List.append_nil]
  · refine ⟨before, inside, behind.takeWhile (· != '\n'), behind.dropWhile (· != '\n'), ?_,
      hoffset, ?_, ?_, ?_⟩
    · rw [List.append_nil, List.takeWhile_append_dropWhile]
    · rw [List.append_nil] at hstop
      rw [byteLength_append]
      omega
    · intro c hc
      rcases List.mem_append.mp hc with hc | hc
      · exact hline c hc
      · exact List.mem_takeWhile_imp (p := (· != '\n')) hc
    · cases hdrop : behind.dropWhile (· != '\n') with
      | nil => exact .inl rfl
      | cons c rest =>
          rw [eq_newline_of_dropWhile hdrop]
          exact .inr rfl

/-- **Every patch cuts the text at places of it**, whatever was patched before. -/
theorem isCut_of_ordered {content : Text} {patches earlier later : List SitePatch} {p : SitePatch}
    (hnames : ∀ p ∈ patches, IsName p.identifier) (h : ordered patches = earlier ++ p :: later)
    (hp : isEffective content p = true) :
    IsCut (earlier.foldl (step content) (Progress.start content)).output p.offset
      (max (earlier.foldl (step content) (Progress.start content)).ceiling p.offset) := by
  obtain ⟨keyword, before, after, -, hcontent, hoffset⟩ := exists_cut hp
  have hsorted := pairwise_ordered patches
  rw [h] at hsorted
  obtain ⟨hearlier, -, habove⟩ := List.pairwise_append.mp hsorted
  have hceiling : p.offset ≤ (earlier.foldl (step content) (Progress.start content)).ceiling :=
    le_ceiling_foldl content (fun q hq => habove q hq p List.mem_cons_self)
      (offset_le_byteLength hp)
  have hreached : Reached content
      ((earlier.filter (isEffective content)).foldl (step content) (Progress.start content)) _ :=
    (reached_start content).foldl (fun q hq => (List.mem_filter.mp hq).2)
    (fun q hq => hnames q (mem_ordered.mp (by
      rw [h]
      exact List.mem_append_left _ (List.mem_filter.mp hq).1)))
    (hearlier.filter _) (fun q hq => offset_le_byteLength (List.mem_filter.mp hq).2)
  -- the patches before take part or are passed over, so this is what the loop has reached
  rw [← foldl_step_filter] at hreached
  obtain ⟨mid, suf, -, hstop, houtput, -⟩ :=
    hreached.exists_cut hcontent (hoffset.symm ▸ hceiling)
  rw [max_eq_left hceiling, houtput]
  exact isCut_append _ hoffset hstop

/-- **A batch is one simultaneous insertion into the unpatched text.** Every insertion has an offset
of its own, no cut is made outside the text or inside a character, and each search goes on behind
the match before it. -/
theorem applyAll_eq_insertAll (content : Text) (patches : List SitePatch)
    (hnames : ∀ p ∈ patches, IsName p.identifier) :
    applyAll content patches =
        (insertAll (insertions content patches) content, (insertions content patches).length) ∧
      ((insertions content patches).map Prod.fst).Nodup ∧
      (∀ earlier p later, ordered patches = earlier ++ p :: later →
        isEffective content p = true →
          IsCut (earlier.foldl (step content) (Progress.start content)).output p.offset
            (max (earlier.foldl (step content) (Progress.start content)).ceiling p.offset)) ∧
      ∀ p ∈ patches, ∀ c, ∀ m ∈ (occurrence p.identifier).matchesFrom c,
        m.stop.after.length < m.start.after.length := by
  obtain ⟨progress, done, hreached, hperm, happlied⟩ := reached_applyAll content patches hnames
  refine ⟨?_, ?_, fun earlier p later h hp => isCut_of_ordered hnames h hp, ?_⟩
  · rw [happlied, hreached.output_eq, hreached.count, insertAll_perm hperm hreached.nodup,
      hperm.length_eq]
  · exact (hperm.map Prod.fst).nodup_iff.mp hreached.nodup
  · intro p hp c m hm
    have hmatch := (matchesFrom_successive (occurrence p.identifier) c).isMatch m hm
    obtain ⟨x, hne, hread⟩ := neverEmpty_occurrence (hnames p hp) m hmatch
    have hpos := List.length_pos_iff.mpr hne
    rw [hread.length_eq]
    omega

def workerLine : Text := "let a: Worker, b: Foo.Worker".toList

/-- Patches for the two sites, one of which is named twice, and a patch beside the text. -/
def workerSites : List SitePatch :=
  [⟨7, "Worker".toList, some .any⟩, ⟨15, "Worker".toList, some .some⟩,
    ⟨7, "Foo".toList, some .some⟩, ⟨99, "Foo".toList, some .any⟩]

theorem isName_of_mem_workerSites : ∀ p ∈ workerSites,
    IsName p.identifier ∧ p.identifier ≠ "any".toList ∧ p.identifier ≠ "some".toList := by
  unfold workerSites
  repeat rewrite [String.toList_ofList]
  decide +kernel

theorem insertions_workerSites :
    insertions workerLine workerSites = [(18, "some ".toList), (7, "any ".toList)] := by
  unfold workerLine workerSites
  repeat rewrite [String.toList_ofList]
  decide +kernel

theorem insertAll_workerLine : insertAll [(18, "some ".toList), (7, "any ".toList)] workerLine =
    "let a: any Worker, b: some Foo.Worker".toList := by
  unfold workerLine
  repeat rewrite [String.toList_ofList]
  decide

/-- The first patch at a site counts, and the one beside the text does not. -/
theorem applyAll_eq_insertAll_of_workerSites :
    (∀ p ∈ workerSites, IsName p.identifier) ∧
      insertions workerLine workerSites = [(18, "some ".toList), (7, "any ".toList)] ∧
      applyAll workerLine workerSites = ("let a: any Worker, b: some Foo.Worker".toList, 2) := by
  have hnames : ∀ p ∈ workerSites, IsName p.identifier := fun p hp =>
    (isName_of_mem_workerSites p hp).1
  refine ⟨hnames, insertions_workerSites, ?_⟩
  rw [(applyAll_eq_insertAll workerLine workerSites hnames).1, insertions_workerSites,
    insertAll_workerLine, List.length_cons, List.length_singleton]

end SwiftExistential.SitePatch
