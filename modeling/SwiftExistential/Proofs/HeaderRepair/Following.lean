import SwiftExistential.Proofs.FileTree.Frame

/-!
# What a repaired header leads to

A repair changes nothing but the place of the missing header, where nothing stood, and leaves a link
to a sibling there (`IsSibling`). The sibling is chosen by its name, and the link holds its path as
it was listed. So the header leads to a file exactly when this path, read from the directory of the
link, led to the file before (`repair_iff`).

It does not if the sibling is itself a link to nothing, or if the path of the header is not absolute
and so is read from another directory than it was listed in (`repaired_headers_lead_nowhere`).

For the statement as an equivalence, walks in the new tree are compared with walks in the old one in
both directions. A walk either never comes to the new link, and then it is the same in both trees,
or it comes there and goes on over the parts of the target.
-/

set_option autoImplicit false

namespace SwiftExistential.FileTree

variable {t : FileTree} {follow : Bool} {n : Nat} {location spot : Location} {place : Place}
  {target : Text} {ps : List Text}

theorem get?_set_of_none (hspot : t.get? spot = none) (node : Node) (other : Location) :
    (t.set spot node).get? other = if spot = other then some node else t.get? other :=
  get?_set t other node fun hroot => by rw [hroot] at hspot; cases hspot

theorem get?_set_of_ne (hspot : t.get? spot = none) (node : Node) {other : Location}
    (hne : spot ≠ other) : (t.set spot node).get? other = t.get? other := by
  rw [get?_set_of_none hspot, if_neg hne]

theorem get?_set_of_some (hspot : t.get? spot = none) (node : Node) {other : Location} {old : Node}
    (hget : t.get? other = some old) : (t.set spot node).get? other = some old := by
  rw [get?_set_of_ne hspot node, hget]
  rintro rfl
  rw [hspot] at hget
  cases hget

theorem IsWalkable.set (hspot : t.get? spot = none) (node : Node) (h : IsWalkable t location) :
    IsWalkable (t.set spot node) location :=
  fun above habove => get?_set_of_some hspot node (h above habove)

/-- **A walk that led elsewhere leads there still.** -/
theorem Walks.set_link (hspot : t.get? spot = none) (target : Text)
    (h : Walks t follow n location ps place) (hplace : place.location ≠ spot) :
    Walks (t.set spot (.link target)) follow n location ps place := by
  induction h with
  | here n location =>
      rw [← get?_set_of_ne hspot (.link target) hplace.symm]
      exact .here n location
  | dot tail ih => exact .dot (ih hplace)
  | up tail ih => exact .up (ih hplace)
  | last n location hname hend =>
      rw [← get?_set_of_ne hspot (.link target) hplace.symm] at hend ⊢
      exact .last n location hname hend
  | enter hname hget tail ih =>
      exact .enter hname (get?_set_of_some hspot _ hget) (ih hplace)
  | jump hname hget hon htarget tail ih =>
      exact .jump hname (get?_set_of_some hspot _ hget) hon htarget (ih hplace)

/-- A walk that leads elsewhere led there before, or it comes to the link and goes on behind it. -/
theorem Walks.avoids_or_passes (hspot : t.get? spot = none)
    (h : Walks (t.set spot (.link target)) true n location ps place) (hplace : place.location ≠ spot) :
    Walks t true n location ps place ∨ ∃ m rest, m < n ∧
      Walks (t.set spot (.link target)) true m (linkBase target spot.dropLast) (parts target ++ rest)
        place := by
  -- By induction on the walk: up to the new link it is a walk of the old tree, and at the link it
  -- goes on from the link's target with fewer links to follow.
  induction h with
  | here n location =>
      rw [get?_set_of_ne hspot _ hplace.symm]
      exact .inl (.here n location)
  | dot tail ih => exact (ih hplace).imp_left .dot
  | up tail ih => exact (ih hplace).imp_left .up
  | last n location hname hend =>
      rw [get?_set_of_ne hspot _ hplace.symm] at hend ⊢
      exact .inl (.last n location hname hend)
  | @enter n location part rest place hname hget tail ih =>
      have hne : spot ≠ location ++ [part] := by
        rintro rfl
        rw [get?_set_of_none hspot, if_pos rfl] at hget
        cases hget
      rw [get?_set_of_ne hspot _ hne] at hget
      exact (ih hplace).imp_left (.enter hname hget)
  | @jump n location part next rest place hname hget hon htarget tail ih =>
      by_cases hpart : spot = location ++ [part]
      · subst hpart
        rw [get?_set_of_none hspot, if_pos rfl] at hget
        cases hget
        exact .inr ⟨n, rest, Nat.lt_succ_self n, by rwa [List.dropLast_concat]⟩
      · rw [get?_set_of_ne hspot _ hpart] at hget
        rcases ih hplace with hold | ⟨m, others, hm, hpass⟩
        · exact .inl (.jump hname hget hon htarget hold)
        · exact .inr ⟨m, others, Nat.lt_succ_of_lt hm, hpass⟩

/-- **What is found behind the link was found there before.** -/
theorem Walks.of_set_link (hspot : t.get? spot = none) (hwalkable : IsWalkable t spot.dropLast)
    (h : Walks (t.set spot (.link target)) true n (linkBase target spot.dropLast) (parts target) place)
    (hplace : place.location ≠ spot) (hnode : place.node ≠ some .directory) :
    Walks t true n (linkBase target spot.dropLast) (parts target) place := by
  induction n using Nat.strong_induction_on with
  | _ n ih =>
      rcases h.avoids_or_passes hspot hplace with hold | ⟨m, rest, hm, hpass⟩
      · exact hold
      by_cases hrest : rest = []
      · -- the same way again, with fewer links
        rw [hrest, List.append_nil] at hpass
        exact (ih m hm hpass).mono hm.le
      · -- the way goes on behind the target, so the target is a directory
        obtain ⟨middle, k, hmiddle⟩ :=
          hpass.exists_directory ((hwalkable.linkBase target).set hspot _) hrest
        exact absurd (congrArg Place.node (h.unique hmiddle)) hnode

/-- A walk to the place that does not stop before it leads to the link. -/
theorem Walks.set_link_here (hspot : t.get? spot = none) (target : Text)
    (h : Walks t false n location ps ⟨spot, none⟩) :
    Walks (t.set spot (.link target)) false n location ps ⟨spot, some (.link target)⟩ := by
  have hlink : (t.set spot (.link target)).get? spot = some (.link target) := by
    rw [get?_set_of_none hspot, if_pos rfl]
  generalize hend : (⟨spot, none⟩ : Place) = stop at h
  induction h with
  | here n location =>
      obtain ⟨rfl, -⟩ := Place.mk.inj hend
      rw [← hlink]
      exact .here n spot
  | dot tail ih => exact .dot (ih hend)
  | up tail ih => exact .up (ih hend)
  | @last n location part hname _ =>
      obtain ⟨rfl, -⟩ := Place.mk.inj hend
      have hends :
          EndsAt false ((t.set (location ++ [part]) (.link target)).get? (location ++ [part])) := by
        rw [hlink]
        rfl
      have hstop := Walks.last n location hname hends
      rwa [hlink] at hstop
  | enter hname hget tail ih => exact .enter hname (get?_set_of_some hspot _ hget) (ih hend)
  | jump hname hget hon htarget tail ih =>
      exact .jump hname (get?_set_of_some hspot _ hget) hon htarget (ih hend)

/-- **A walk to the new link** goes on from the directory of the link over the parts of its target,
with the links that are left. -/
theorem Walks.exists_way (hspot : t.get? spot = none) (htarget : target ≠ [])
    (h : Walks t false n location ps ⟨spot, none⟩) (hwalkable : IsWalkable t location) :
    ∃ k ≤ n, Walks t false k location ps ⟨spot, none⟩ ∧ ∀ (m : Nat) (other : Place),
      Walks (t.set spot (.link target)) true m location ps other ↔
        ∃ l, m = k + l + 1 ∧ Walks (t.set spot (.link target)) true l
          (linkBase target spot.dropLast) (parts target) other := by
  -- By induction on the walk to the free place. With the link there, a walk along the same parts
  -- can only take the same way and then continue behind the link.
  generalize hend : (⟨spot, none⟩ : Place) = stop at h
  induction h with
  | here n location =>
      rw [hwalkable.get?] at hend
      cases hend
  | dot tail ih =>
      obtain ⟨k, hk, hto, hway⟩ := ih hwalkable hend
      exact ⟨k, hk, .dot hto, fun m other => ⟨fun h => (hway m other).mp h.of_dot,
        fun h => .dot ((hway m other).mpr h)⟩⟩
  | up tail ih =>
      obtain ⟨k, hk, hto, hway⟩ := ih hwalkable.dropLast hend
      exact ⟨k, hk, .up hto, fun m other => ⟨fun h => (hway m other).mp h.of_up,
        fun h => .up ((hway m other).mpr h)⟩⟩
  -- Here the link is met, and costs one of the links that may be followed.
  | @last n location part hname hstop =>
      obtain ⟨rfl, hnone⟩ := Place.mk.inj hend
      have hlink : (t.set (location ++ [part]) (.link target)).get? (location ++ [part]) =
          some (.link target) := by rw [get?_set_of_none hspot, if_pos rfl]
      rw [List.dropLast_concat]
      refine ⟨0, Nat.zero_le n, hnone ▸ .last 0 location hname hstop,
        fun m other => ⟨fun h => ?_, ?_⟩⟩
      · obtain ⟨l, rfl, htail⟩ := h.of_link_succ hname hlink (.inr rfl)
        rw [List.append_nil] at htail
        exact ⟨l, by omega, htail⟩
      · rintro ⟨l, rfl, htail⟩
        rw [Nat.zero_add]
        exact .jump hname hlink (.inr rfl) htarget (by rwa [List.append_nil])
  | enter hname hget tail ih =>
      obtain ⟨k, hk, hto, hway⟩ := ih (hwalkable.concat hget) hend
      have hkept := get?_set_of_some hspot (.link target) hget
      exact ⟨k, hk, .enter hname hget hto,
        fun m other => ⟨fun h => (hway m other).mp (h.of_directory hname hkept),
          fun h => .enter hname hkept ((hway m other).mpr h)⟩⟩
  -- A link that stood there before costs one as well, on both sides.
  | jump hname hget hon hnext tail ih =>
      obtain ⟨k, hk, hto, hway⟩ := ih (hwalkable.linkBase _) hend
      have hkept := get?_set_of_some hspot (.link target) hget
      refine ⟨k + 1, Nat.succ_le_succ hk, .jump hname hget hon hnext hto,
        fun m other => ⟨fun h => ?_, ?_⟩⟩
      · obtain ⟨i, rfl, htail⟩ := h.of_link_succ hname hkept (.inr rfl)
        obtain ⟨l, rfl, hrest⟩ := (hway i other).mp htail
        exact ⟨l, by omega, hrest⟩
      · rintro ⟨l, rfl, hrest⟩
        have htail := (hway (k + l + 1) other).mpr ⟨l, rfl, hrest⟩
        rw [show k + 1 + l + 1 = k + l + 1 + 1 by omega]
        exact .jump hname hkept (.inr rfl) hnext htail

end SwiftExistential.FileTree

namespace SwiftExistential.HeaderRepair

open Diagnostic (MissingHeader)
open FileTree (Walks IsWalkable linkBase parts maxLinks)

variable {tree tree' : FileTree} {header : MissingHeader} {target : Text}

/-- The tree after an attempt to repair a header. -/
def treeAfter (tree : FileTree) (header : MissingHeader) : FileTree :=
  match repair tree header with
  | .ok (_, tree') => tree'
  | .error _ => tree

/-- **Another header like the missing one**, by its name in the directory that the stem leads to. -/
def IsSibling (tree : FileTree) (header : MissingHeader) (target : Text) : Prop :=
  ∃ directory names stemName name, Path.parent? header.stem = some directory ∧
    Path.fileName? header.stem = some stemName ∧ tree.list directory = .ok names ∧ name ∈ names ∧
    stemName <+: name ∧ header.ending <:+ name ∧ target = Path.join directory name ∧
    Path.components target ≠ Path.components header.path

/-- Where the look-up of a path begins. -/
def startOf (tree : FileTree) (path : Text) : Location :=
  if Path.isAbsolute path then [] else tree.current

theorem isSibling_of_repair (h : repair tree header = .ok (target, tree')) :
    IsSibling tree header target := by
  obtain ⟨⟨directory, stemName, names, hdirectory, hstem, hlist, hmem⟩, -⟩ :=
    FileTree.repair_eq_ok h
  obtain ⟨hmem, hother⟩ := List.mem_filter.mp hmem
  obtain ⟨name, hname, rfl⟩ := List.mem_map.mp hmem
  obtain ⟨hname, hlike⟩ := List.mem_filter.mp hname
  rw [Bool.and_eq_true, List.isPrefixOf_iff_prefix, List.isSuffixOf_iff_suffix] at hlike
  exact ⟨directory, names, stemName, name, hdirectory, hstem, hlist, hname, hlike.1, hlike.2, rfl,
    bne_iff_ne.mp hother⟩

theorem ne_nil_of_fileName? {path name : Text} (h : Path.fileName? path = some name) :
    name ≠ [] := by
  rw [Path.fileName?] at h
  split at h
  · rename_i last hlast
    obtain rfl := Option.some.inj h
    have hmem := List.mem_of_getLast? hlast
    -- a component that is a name is made from a part that is not empty
    have hinner :
        Path.Component.named last ∈ (Text.splitOn '/' path).filterMap Path.component? := by
      rw [Path.components] at hmem
      split at hmem
      · simpa using hmem
      · split at hmem <;> simpa using hmem
    obtain ⟨part, -, hpart⟩ := List.mem_filterMap.mp hinner
    rintro rfl
    rw [Path.component?] at hpart
    split at hpart
    · cases hpart
    · rename_i hmeans
      split at hpart
      · cases hpart
      · obtain rfl := Path.Component.named.inj (Option.some.inj hpart)
        exact hmeans (.inl rfl)
  · cases h

theorem IsSibling.ne_nil (h : IsSibling tree header target) : target ≠ [] := by
  obtain ⟨directory, -, stemName, name, -, hstem, -, -, hstarts, -, rfl, -⟩ := h
  have hname : name ≠ [] := fun heq =>
    ne_nil_of_fileName? hstem (List.prefix_nil.mp (heq ▸ hstarts))
  rw [Path.join]
  split
  · exact hname
  · split <;> simp [hname]

/-- **What a repair leaves behind.** -/
theorem repair_iff (tree : FileTree) (header : MissingHeader)
    (hcurrent : IsWalkable tree tree.current) :
    (∀ error, repair tree header = .error error → treeAfter tree header = tree) ∧
    ∀ target tree', repair tree header = .ok (target, tree') →
      treeAfter tree header = tree' ∧ IsSibling tree header target ∧
      ∃ location, tree.locate false header.path = .ok ⟨location, none⟩ ∧
        tree'.locate false header.path = .ok ⟨location, some (.link target)⟩ ∧
        (∀ other, other ≠ location → tree'.get? other = tree.get? other) ∧
        ∀ found bytes mode, tree'.find header.path = .ok (found, .file bytes mode) ↔
          ∃ m n, m + n + 1 = maxLinks ∧
            Walks tree false m (startOf tree header.path) (parts header.path) ⟨location, none⟩ ∧
            Walks tree true n (linkBase target location.dropLast) (parts target)
              ⟨found, some (.file bytes mode)⟩ := by
  refine ⟨fun error h => by rw [treeAfter, h], fun target tree' h => ?_⟩
  have hsibling := isSibling_of_repair h
  refine ⟨by rw [treeAfter, h], hsibling, ?_⟩
  obtain ⟨-, location, hlocate, hnone, rfl⟩ := FileTree.repair_eq_ok h
  -- The header's path leads to a free place in a directory, and the link is put there.
  obtain ⟨hpath, hshort, hto⟩ := FileTree.locate_eq_ok_iff.mp hlocate
  have hstart : IsWalkable tree (startOf tree header.path) :=
    FileTree.isWalkable_base hcurrent header.path
  have hdirectory : IsWalkable tree location.dropLast :=
    hto.isWalkable_dropLast hstart fun heq => by cases heq
  have hlink : (tree.set location (.link target)).get? location = some (.link target) := by
    rw [FileTree.get?_set_of_none hnone, if_pos rfl]
  refine ⟨location, hlocate,
    FileTree.locate_eq_ok_iff.mpr ⟨hpath, hshort, hto.set_link_here hnone target⟩,
    fun other hother => FileTree.get?_set_of_ne hnone _ hother.symm, fun found bytes mode => ⟨?_, ?_⟩⟩
  -- What is found behind the link is found by a walk that passes it once. It cannot pass it again:
  -- it would come back with fewer links to follow and still end at a file.
  · intro hfind
    obtain ⟨-, -, hfound⟩ := FileTree.locate_eq_ok_iff.mp (FileTree.find_eq_ok_iff.mp hfind)
    obtain ⟨m, -, hway, hbehind⟩ := hto.exists_way hnone hsibling.ne_nil hstart
    obtain ⟨n, hn, hfrom⟩ := (hbehind _ _).mp hfound
    have hother : found ≠ location := by
      rintro rfl
      cases hfrom.node_eq.trans hlink
    exact ⟨m, n, hn.symm, hway, hfrom.of_set_link hnone hdirectory hother fun heq => by cases heq⟩
  -- In the other direction the shortest way to the place is taken, which leaves at least as many
  -- links for the rest.
  · rintro ⟨m, n, hlinks, hway, hfrom⟩
    obtain ⟨k, hk, -, hbehind⟩ := hway.exists_way hnone hsibling.ne_nil hstart
    have hother : found ≠ location := by
      rintro rfl
      cases hfrom.node_eq.trans hnone
    have hfound := (hbehind (k + n + 1) _).mpr ⟨n, rfl, hfrom.set_link hnone target hother⟩
    exact FileTree.find_eq_ok_iff.mpr (FileTree.locate_eq_ok_iff.mpr
      ⟨hpath, hshort, hfound.mono (by omega)⟩)

/-! ## Three repairs

The first sibling is a header, and the repair is one. The second is a link to nothing. The third is
a header, but its path is relative. -/

deriving instance DecidableEq for FileTree.Place

/-- A header that was there in an earlier build, in a directory. -/
def earlier (directory : Text) : Text := directory ++ "/App-Bridging-Header-swift_A-clang_X.pch".toList

def missing (directory : Text) : MissingHeader where
  path := directory ++ "/App-Bridging-Header-swift_B-clang_X.pch".toList
  stem := directory ++ "/App-Bridging-Header-swift_".toList
  ending := "-clang_X.pch".toList

def missingLine (directory : Text) : Text :=
  "PCH file '".toList ++ (missing directory).path ++ "' not found:".toList

/-- A tree with this node for the earlier header. -/
def treeWith (node : Node) : FileTree := .ofEntries [(parts (earlier "/pch".toList), node)]

/-- The missing header leads to the file that is its sibling. -/
theorem repair_iff_of_file :
    IsWalkable (treeWith (.file .empty 0o644)) (treeWith (.file .empty 0o644)).current ∧
    Diagnostic.missingHeader? (missingLine "/pch".toList) = some (missing "/pch".toList) ∧
    ∃ tree', repair (treeWith (.file .empty 0o644)) (missing "/pch".toList) =
        .ok (earlier "/pch".toList, tree') ∧
      tree'.find (missing "/pch".toList).path =
        .ok (parts (earlier "/pch".toList), .file .empty 0o644) := by
  have hcurrent :
      IsWalkable (treeWith (.file .empty 0o644)) (treeWith (.file .empty 0o644)).current :=
    FileTree.isWalkable_nil
  obtain ⟨htarget, hmissing, hplace⟩ :
      (repair (treeWith (.file .empty 0o644)) (missing "/pch".toList)).map Prod.fst =
        .ok (earlier "/pch".toList) ∧
      Diagnostic.missingHeader? (missingLine "/pch".toList) = some (missing "/pch".toList) ∧
      FileTree.locate (treeWith (.file .empty 0o644)) false (missing "/pch".toList).path =
        .ok ⟨parts (missing "/pch".toList).path, none⟩ := by
    unfold missingLine missing treeWith earlier
    repeat rewrite [String.toList_ofList]
    decide +kernel
  refine ⟨hcurrent, hmissing, ?_⟩
  cases hrepair : repair (treeWith (.file .empty 0o644)) (missing "/pch".toList) with
  | error error => rw [hrepair] at htarget; cases htarget
  | ok result =>
      obtain ⟨target, tree'⟩ := result
      rw [hrepair] at htarget
      obtain rfl : target = earlier "/pch".toList := Except.ok.inj htarget
      obtain ⟨-, -, location, hlocate, -, -, hfollow⟩ := (repair_iff _ _ hcurrent).2 _ _ hrepair
      obtain rfl : parts (missing "/pch".toList).path = location :=
        congrArg FileTree.Place.location (Except.ok.inj (hplace.symm.trans hlocate))
      -- The link is as good as the file it names: forty links may be followed, and this costs one.
      refine ⟨tree', rfl, (hfollow _ _ _).mpr ⟨0, 39, rfl, ?_, ?_⟩⟩
      all_goals
        refine FileTree.walk_eq_ok_iff.mp ?_
        unfold missing treeWith earlier
        repeat rewrite [String.toList_ofList]
        decide +kernel

/-- **Headers that were repaired and lead nowhere**: a sibling that is a link to nothing is taken
for a header, and the path of a sibling that is not absolute is written into a link that is read
elsewhere. -/
theorem repaired_headers_lead_nowhere :
    Diagnostic.missingHeader? (missingLine "/pch".toList) = some (missing "/pch".toList) ∧
    ((repair (treeWith (.link "/gone".toList)) (missing "/pch".toList)).map fun result =>
      result.2.find (missing "/pch".toList).path) = .ok (.error .notFound) ∧
    Diagnostic.missingHeader? (missingLine "pch".toList) = some (missing "pch".toList) ∧
    ((repair (treeWith (.file .empty 0o644)) (missing "pch".toList)).map fun result =>
      result.2.find (missing "pch".toList).path) = .ok (.error .notFound) := by
  unfold missingLine missing treeWith earlier
  repeat rewrite [String.toList_ofList]
  decide +kernel

end SwiftExistential.HeaderRepair
