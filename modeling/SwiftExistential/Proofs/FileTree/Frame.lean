import SwiftExistential.HeaderRepair
import SwiftExistential.Proofs.FileTree.Canonical

/-!
# What operations write and leave alone

A file is replaced where its path leads without following a link at the end, so a link there gives
way to the new file. A path that passed through this link before would lead nowhere then; but a link
that a path passes through leads to a directory, and so does a path that ends with it. So a path
that led to a file before leads to the new file (`find_replaceFile`), and its text is read back
(`readText_replaceFile`).

To replace a file changes one location, and to link a header changes one where nothing stood. To set
the mode of a file changes all locations that are names of the file, but not their bytes
(`get?_setModeAt`). Which location this is, the path alone does not tell: it may lead through links.
But the path of a location without links leads to the location itself, so an operation on it changes
no other file, and puts no link in the way of a later operation on the same path (`OnlyAt`,
`setMode_render`).
-/

set_option autoImplicit false

namespace SwiftExistential.FileTree

variable {t t' : FileTree} {n : Nat} {location : Location} {place : Place}

theorem decode?_encode (content : Text) : decode? (encode content) = some content := by
  have hvalid : (String.ofList content).toUTF8.IsValidUTF8 := (String.ofList content).isValidUTF8
  rw [decode?, encode, String.fromUTF8?, dif_pos hvalid]
  exact congrArg some String.toList_ofList

/-! ## Links at the end of a path

A walk that follows links comes to a place behind the last of them; this may be another location
than the one that the path names. -/

/-- A walk that does not stop at the link at its end goes on over the parts of the link. -/
theorem Walks.behind_last {ps : List Text} {target : Text}
    (hstop : Walks t false n location ps place) (hwalkable : IsWalkable t location)
    (hlink : place.node = some (.link target)) {m : Nat} {other : Place}
    (hgo : Walks t true m location ps other) :
    ∃ k, Walks t true k (linkBase target place.location.dropLast) (parts target) other := by
  induction hstop generalizing m with
  | here n location => cases hwalkable.get?.symm.trans hlink
  | dot tail ih => exact ih hwalkable hlink hgo.of_dot
  | up tail ih => exact ih hwalkable.dropLast hlink hgo.of_up
  | last n location hname hend =>
      obtain ⟨k, htail⟩ := hgo.of_link hname hlink (.inr rfl)
      rw [List.append_nil] at htail
      exact ⟨k, by rwa [List.dropLast_concat]⟩
  | enter hname hget tail ih =>
      exact ih (hwalkable.concat hget) hlink (hgo.of_directory hname hget)
  | jump hname hget hon htarget tail ih =>
      obtain ⟨k, htail⟩ := hgo.of_link hname hget (.inr rfl)
      exact ih (hwalkable.linkBase _) hlink htail

/-- A link that leads to a directory, from where it stands. -/
def LeadsToDirectory (t : FileTree) (location : Location) : Prop :=
  ∃ target, t.get? location = some (.link target) ∧
    ∃ middle k, Walks t true k (linkBase target location.dropLast) (parts target)
      ⟨middle, some .directory⟩

theorem Walks.leadsToDirectory {part target : Text} {rest : List Text}
    (hwalkable : IsWalkable t location)
    (hget : t.get? (location ++ [part]) = some (.link target)) (hrest : rest ≠ [])
    (tail : Walks t false n (linkBase target location) (parts target ++ rest) place) :
    LeadsToDirectory t (location ++ [part]) := by
  obtain ⟨middle, k, hmiddle⟩ := tail.exists_directory (hwalkable.linkBase target) hrest
  exact ⟨target, hget, middle, k, by rwa [List.dropLast_concat]⟩

/-- **A walk is not led astray by a file that is put at its end**, unless it passes through this
place on its way, as it may where a link to a directory stands. -/
theorem Walks.putNew {ps : List Text} (hstop : Walks t false n location ps place)
    (hwalkable : IsWalkable t location) (hnode : t.get? place.location ≠ some .directory)
    (hlink : ¬ LeadsToDirectory t place.location) (bytes : ByteArray) (mode : Nat) :
    Walks (t.putNew place.location bytes mode) true n location ps
      ⟨place.location, some (.file bytes mode)⟩ := by
  have hput : ∀ other, (t.putNew place.location bytes mode).get? other =
      if place.location = other then some (.file bytes mode) else t.get? other :=
    fun other => get?_putNew t other _ _ fun hroot => hnode (by rw [hroot]; rfl)
  -- The walk to the place meets the place itself at its end only, so it finds the new file there
  -- and what it found before everywhere else.
  induction hstop with
  | here n location => exact absurd hwalkable.get? hnode
  | dot tail ih => exact .dot (ih hwalkable hnode hlink hput)
  | up tail ih => exact .up (ih hwalkable.dropLast hnode hlink hput)
  | @last n location part hname hend =>
      have hfile := hput (location ++ [part])
      rw [if_pos rfl] at hfile
      rw [← hfile]
      exact .last n location hname (by rw [hfile]; trivial)
  | @enter n location part rest place hname hget tail ih =>
      have hother : place.location ≠ location ++ [part] := by
        intro heq
        exact hnode (heq ▸ hget)
      refine .enter hname ?_ (ih (hwalkable.concat hget) hnode hlink hput)
      rw [hput, if_neg hother, hget]
  | @jump n location part target rest place hname hget hon htarget tail ih =>
      have hrest : rest ≠ [] := hon.resolve_right Bool.false_ne_true
      have hother : place.location ≠ location ++ [part] := by
        intro heq
        exact hlink (heq ▸ Walks.leadsToDirectory hwalkable hget hrest tail)
      refine .jump hname ?_ (.inr rfl) htarget (ih (hwalkable.linkBase target) hnode hlink hput)
      rw [hput, if_neg hother, hget]

/-! ## Replacing files

The new file is put where the path leads without following a link at its end. -/

theorem isWalkable_base (hcurrent : IsWalkable t t.current) (path : Text) :
    IsWalkable t (if Path.isAbsolute path then [] else t.current) := by
  split
  · exact isWalkable_nil
  · exact hcurrent

theorem replaceFile_eq_ok {path content : Text} (h : t.replaceFile path content = .ok t') :
    ∃ place mode, t.locate false path = .ok place ∧ place.node ≠ some .directory ∧
      t' = t.putNew place.location (encode content) mode := by
  rw [replaceFile] at h
  split at h
  · cases h
  · cases h
  · rename_i location node hnode hlocate
    cases h
    exact ⟨_, _, hlocate, hnode, rfl⟩

/-- **A path that leads to a file leads to the new file when it is replaced.** -/
theorem find_replaceFile {path content : Text} {node : Node} (hcurrent : IsWalkable t t.current)
    (hfind : t.find path = .ok (location, node)) (hnode : node ≠ .directory)
    (h : t.replaceFile path content = .ok t') :
    (∃ place mode, t'.find path = .ok (place, .file (encode content) mode)) ∧
      IsWalkable t' t'.current := by
  obtain ⟨place, mode, hlocate, hplace, rfl⟩ := replaceFile_eq_ok h
  obtain ⟨hne, hshort, hstop⟩ := locate_eq_ok_iff.mp hlocate
  obtain ⟨-, -, hgo⟩ := locate_eq_ok_iff.mp (find_eq_ok_iff.mp hfind)
  rw [hstop.node_eq] at hplace
  have hbase := isWalkable_base hcurrent path
  refine ⟨⟨place.location, mode, ?_⟩, ?_⟩
  · rw [find_eq_ok_iff, locate_eq_ok_iff]
    refine ⟨hne, hshort, hstop.putNew hbase hplace ?_ _ _⟩
    -- if a link to a directory stood at the end, the path would have led to this directory
    rintro ⟨target, hlink, middle, k, hmiddle⟩
    obtain ⟨k', hfound⟩ := hstop.behind_last hbase (hstop.node_eq.trans hlink) hgo
    have heq := hmiddle.unique hfound
    rw [Place.mk.injEq, Option.some.injEq] at heq
    exact hnode heq.2.symm
  · intro above habove
    have hdirectory := hcurrent above habove
    rw [get?_putNew t above _ _ fun hroot => hplace (by rw [hroot]; rfl), if_neg, hdirectory]
    rintro rfl
    exact hplace hdirectory

/-- **What was written is read back.** -/
theorem readText_replaceFile {path content loaded : Text} (hcurrent : IsWalkable t t.current)
    (hread : t.readText path = .ok loaded) (h : t.replaceFile path content = .ok t') :
    t'.readText path = .ok content ∧ IsWalkable t' t'.current := by
  obtain ⟨location, node, hfind, hnode⟩ : ∃ location node,
      t.find path = .ok (location, node) ∧ node ≠ .directory := by
    rw [readText, readBytes] at hread
    cases hfind : t.find path with
    | error e => rw [hfind] at hread; cases hread
    | ok found =>
        obtain ⟨location, node⟩ := found
        refine ⟨location, node, rfl, ?_⟩
        rintro rfl
        rw [hfind] at hread
        cases hread
  obtain ⟨⟨place, mode, hfound⟩, hwalkable⟩ := find_replaceFile hcurrent hfind hnode h
  refine ⟨?_, hwalkable⟩
  simp only [readText, readBytes, hfound, decode?_encode]

/-! ## Changes of one location

A file may have several names. When it is replaced, the name takes leave of the others, which keep
the old file; so it is one location that changes, whatever names there are. -/

variable {t'' : FileTree} {mode : Nat}

/-- **What stands at a location is the same in both trees**, with its mode. -/
structure SameAt (t t' : FileTree) (location : Location) : Prop where
  get?_eq : t'.get? location = t.get? location
  modeAt_eq : t'.modeAt location = t.modeAt location

theorem SameAt.refl (t : FileTree) (location : Location) : SameAt t t location := ⟨rfl, rfl⟩

theorem SameAt.trans (h : SameAt t t' location) (h' : SameAt t' t'' location) :
    SameAt t t'' location :=
  ⟨h'.get?_eq.trans h.get?_eq, h'.modeAt_eq.trans h.modeAt_eq⟩

/-- The mode of a location is told by what stands there, and by its record if this is a directory.
-/
theorem SameAt.of_recordAt (hget : t'.get? location = t.get? location)
    (hrecord : t'.recordAt location = t.recordAt location) : SameAt t t' location := by
  refine ⟨hget, ?_⟩
  rw [modeAt, modeAt, hget, hrecord]

/-- **Trees that differ at one location at most.** -/
def OnlyAt (location : Location) (t t' : FileTree) : Prop :=
  ∀ other, other ≠ location → SameAt t t' other

theorem OnlyAt.refl (location : Location) (t : FileTree) : OnlyAt location t t :=
  fun other _ => .refl t other

theorem namesOf_filter {groups : List (List Location)} (h : location ∉ groups.flatten)
    (ht : t.twins = groups) : t.namesOf location = [location] := by
  have hnone : groups.find? (fun group => group.contains location) = none := by
    refine List.find?_eq_none.mpr fun group hgroup hmem => ?_
    exact h (List.mem_flatten.mpr ⟨group, hgroup, List.contains_iff_mem.mp hmem⟩)
  rw [namesOf, ht, hnone, Option.getD_none]

theorem recordAt_putNew (t : FileTree) {other : Location} (bytes : ByteArray) (mode : Nat)
    (h : other ≠ location) : (t.putNew location bytes mode).recordAt other = t.recordAt other := by
  let alone : FileTree := { t with twins := t.twins.map (·.filter (· != location)) }
  have hnames : (alone.set location (.file bytes mode)).namesOf location = [location] := by
    refine namesOf_filter ?_ rfl
    simp [alone, set]
  rw [putNew, stampNew, setRecord]
  simp only [recordAt]
  rw [hnames, List.foldl_cons, List.foldl_nil, Std.TreeMap.getElem?_insert, if_neg]
  · rfl
  · rw [Std.LawfulEqCmp.compare_eq_iff_eq]
    exact fun heq => h heq.symm

theorem onlyAt_putNew (t : FileTree) (h : location ≠ []) (bytes : ByteArray) (mode : Nat) :
    OnlyAt location t (t.putNew location bytes mode) := by
  intro other hne
  refine .of_recordAt ?_ (recordAt_putNew t bytes mode hne)
  rw [get?_putNew t other _ _ h, if_neg fun heq => hne heq.symm]

/-- **Replacing a file changes no other.** -/
theorem onlyAt_replaceFile {content : Text} (hplain : ∀ name ∈ location, IsPlain name)
    (hlink : HasNoLink t location) (h : t.replaceFile (render location) content = .ok t') :
    OnlyAt location t t' := by
  obtain ⟨place, mode, hlocate, hnode, rfl⟩ := replaceFile_eq_ok h
  obtain ⟨-, -, hwalks⟩ := locate_eq_ok_iff.mp hlocate
  rw [hwalks.node_eq] at hnode
  rw [location_of_locate_render hplain hlink hlocate] at hnode ⊢
  exact onlyAt_putNew t (fun hroot => hnode (by rw [hroot]; rfl)) _ _

/-! ## Modes

The mode is set name by name over the names that the file had at the start. No name is added or lost
by this, so the order does not matter. -/

/-- A node with another mode, if it has one. The mode of a directory is in its record. -/
def withMode (mode : Nat) : Node → Node
  | .file bytes _ => .file bytes mode
  | node => node

/-- **The mode alone was set at a location**: what stands there is of the same kind, with the same
bytes. -/
def OnlyModeSet (mode : Nat) (t t' : FileTree) (location : Location) : Prop :=
  t'.get? location = (t.get? location).map (withMode mode)

theorem get?_setModeOf (mode : Nat) (t : FileTree) (name other : Location) :
    (t.setModeOf mode name).get? other =
      if name = other then (t.get? other).map (withMode mode) else t.get? other := by
  rw [setModeOf]
  -- A mode belongs to a file; anything else at `name` is left as it is, and so is nothing at all.
  cases hnode : t.get? name with
  | none =>
      by_cases heq : name = other
      · rw [if_pos heq, ← heq, hnode]
        rfl
      · rw [if_neg heq]
  | some node =>
      have hroot : ∀ bytes old, node = .file bytes old → name ≠ [] := by
        rintro bytes old rfl rfl
        cases hnode
      by_cases heq : name = other
      · subst heq
        rw [if_pos rfl, hnode]
        cases node with
        | file bytes old =>
            rw [get?_set t name _ (hroot bytes old rfl), if_pos rfl]
            rfl
        | directory => exact hnode
        | link target => exact hnode
        | device => exact hnode
      · rw [if_neg heq]
        cases node with
        | file bytes old => rw [get?_set t other _ (hroot bytes old rfl), if_neg heq]
        | directory => rfl
        | link target => rfl
        | device => rfl

theorem recordAt_setModeOf (mode : Nat) (t : FileTree) {name other : Location}
    (h : name ≠ other) : (t.setModeOf mode name).recordAt other = t.recordAt other := by
  rw [setModeOf]
  split
  · rfl
  · simp only [recordAt]
    rw [Std.TreeMap.getElem?_insert, if_neg]
    rwa [Std.LawfulEqCmp.compare_eq_iff_eq]
  · rfl

theorem withMode_withMode (mode : Nat) (node : Node) :
    withMode mode (withMode mode node) = withMode mode node := by
  cases node <;> rfl

theorem get?_foldl_setModeOf (mode : Nat) (names : List Location) (t : FileTree)
    (other : Location) :
    (names.foldl (setModeOf mode) t).get? other =
      if other ∈ names then (t.get? other).map (withMode mode) else t.get? other := by
  induction names generalizing t with
  | nil => simp
  | cons name names ih =>
      rw [List.foldl_cons, ih, get?_setModeOf]
      by_cases hname : name = other
      · -- the mode may be set again under the same name
        have hmem : other ∈ name :: names := hname ▸ List.mem_cons_self
        have htwice : ((t.get? other).map (withMode mode)).map (withMode mode) =
            (t.get? other).map (withMode mode) := by
          cases t.get? other with
          | none => rfl
          | some node => exact congrArg some (withMode_withMode mode node)
        rw [if_pos hname, if_pos hmem, htwice, ite_self]
      · have hmem : other ∈ name :: names ↔ other ∈ names := by
          rw [List.mem_cons, or_iff_right fun heq => hname heq.symm]
        simp only [if_neg hname, hmem]

theorem recordAt_foldl_setModeOf (mode : Nat) {names : List Location} (t : FileTree)
    {other : Location} (h : other ∉ names) :
    (names.foldl (setModeOf mode) t).recordAt other = t.recordAt other := by
  induction names generalizing t with
  | nil => rfl
  | cons name names ih =>
      obtain ⟨hname, hnames⟩ := not_or.mp (mt List.mem_cons.mpr h)
      rw [List.foldl_cons, ih _ hnames, recordAt_setModeOf mode t fun heq => hname heq.symm]

/-- **Setting a mode sets it at all names of the file**, and changes no bytes. -/
theorem get?_setModeAt (t : FileTree) (location : Location) (mode : Nat) (other : Location) :
    (t.setModeAt location mode).get? other =
      if other ∈ t.namesOf location then (t.get? other).map (withMode mode) else t.get? other :=
  get?_foldl_setModeOf mode _ t other

theorem sameAt_setModeAt {other : Location} (h : other ∉ t.namesOf location) :
    SameAt t (t.setModeAt location mode) other := by
  refine .of_recordAt ?_ (recordAt_foldl_setModeOf mode t h)
  rw [get?_setModeAt, if_neg h]

theorem HasNoLink.setModeAt {other : Location} (h : HasNoLink t other) (mode : Nat) :
    HasNoLink (t.setModeAt location mode) other := by
  intro above habove target hlink
  rw [get?_setModeAt] at hlink
  split at hlink
  · obtain ⟨node, hnode, hmode⟩ := Option.map_eq_some_iff.mp hlink
    cases node with
    | link old => exact h above habove old hnode
    | directory => cases hmode
    | file bytes old => cases hmode
    | device => cases hmode
  · exact h above habove target hlink

/-- **The mode is set where the path of a location without links leads.** -/
theorem setMode_render (hplain : ∀ name ∈ location, IsPlain name) (hlink : HasNoLink t location)
    (h : t.setMode (render location) mode = .ok t') : t' = t.setModeAt location mode := by
  rw [setMode] at h
  cases hfind : t.find (render location) with
  | error e =>
      rw [hfind] at h
      cases h
  | ok found =>
      obtain ⟨place, node⟩ := found
      have hplace : place = location :=
        location_of_locate_render hplain hlink (find_eq_ok_iff.mp hfind)
      rw [hfind, hplace] at h
      cases h
      rfl

/-! ## Links to headers

A repair is the one step that may put a link into the tree. It puts it where nothing stood, so all
that was there is spared. -/

/-- A link is made where its path leads, and nothing stood there. -/
theorem makeLink_eq_ok {target path : Text} (h : t.makeLink target path = .ok t') :
    ∃ location, t.locate false path = .ok ⟨location, none⟩ ∧ t.get? location = none ∧
      t' = t.set location (.link target) := by
  rw [makeLink] at h
  split at h
  · cases h
  · cases h
  · rename_i location hlocate
    cases h
    obtain ⟨-, -, hwalks⟩ := locate_eq_ok_iff.mp hlocate
    exact ⟨location, hlocate, hwalks.node_eq.symm, rfl⟩

/-- A link that the repair of a header puts where nothing stood. -/
def IsHeaderLink (location : Location) (target : Text) : Prop :=
  ∃ (before : FileTree) (header : Diagnostic.MissingHeader),
    before.get? location = none ∧
      HeaderRepair.repair before header = .ok (target, before.set location (.link target))

/-- What a repair does: a link to one of the candidates is made at the path of the header. -/
theorem repair_eq_ok {header : Diagnostic.MissingHeader} {target : Text}
    (h : HeaderRepair.repair t header = .ok (target, t')) :
    (∃ directory stemName names, Path.parent? header.stem = some directory ∧
      Path.fileName? header.stem = some stemName ∧ t.list directory = .ok names ∧
      target ∈ HeaderRepair.candidates header directory stemName names) ∧
    ∃ location, t.locate false header.path = .ok ⟨location, none⟩ ∧ t.get? location = none ∧
      t' = t.set location (.link target) := by
  rw [HeaderRepair.repair] at h
  split at h
  · rename_i directory stemName hdirectory hname
    split at h
    · cases h
    · rename_i names hlist
      split at h
      · cases h
      · rename_i first others hcandidates
        split at h
        · cases h
        · rename_i hmade
          cases h
          exact ⟨⟨directory, stemName, names, hdirectory, hname, hlist,
            hcandidates ▸ List.mem_cons_self⟩, makeLink_eq_ok hmade⟩
  · cases h

/-- **A location that is as it was**, but for a link to a header where nothing stood. -/
def IsSpared (t t' : FileTree) (location : Location) : Prop :=
  SameAt t t' location ∨
    t.get? location = none ∧
      ∃ target, IsHeaderLink location target ∧ t'.get? location = some (.link target)

theorem IsSpared.refl (t : FileTree) (location : Location) : IsSpared t t location :=
  .inl (.refl t location)

/-- **Repairing a header leaves everything as it was.** -/
theorem isSpared_of_repair {header : Diagnostic.MissingHeader} {target : Text}
    (hrepair : HeaderRepair.repair t header = .ok (target, t')) (location : Location) :
    IsSpared t t' location := by
  obtain ⟨-, linked, -, hnone, rfl⟩ := repair_eq_ok hrepair
  have hroot : linked ≠ [] := by
    rintro rfl
    cases hnone
  have hset := get?_set t location (.link target) hroot
  by_cases heq : linked = location
  · subst heq
    rw [if_pos rfl] at hset
    exact .inr ⟨hnone, target, ⟨t, header, hnone, hrepair⟩, hset⟩
  · rw [if_neg heq] at hset
    exact .inl (.of_recordAt hset rfl)

theorem IsSpared.trans (h : IsSpared t t' location) (h' : IsSpared t' t'' location) :
    IsSpared t t'' location := by
  rcases h' with hsame | ⟨hnone, target, hheader, hlink⟩
  · refine h.imp (·.trans hsame) ?_
    rintro ⟨hnone, target, hheader, hlink⟩
    exact ⟨hnone, target, hheader, hsame.get?_eq.trans hlink⟩
  · rcases h with hsame | ⟨-, other, -, hother⟩
    · exact .inr ⟨hsame.get?_eq ▸ hnone, target, hheader, hlink⟩
    · rw [hnone] at hother
      cases hother

/-- To set a mode twice is to set it once. -/
theorem OnlyModeSet.trans (h : OnlyModeSet mode t t' location)
    (h' : OnlyModeSet mode t' t'' location) : OnlyModeSet mode t t'' location := by
  rw [OnlyModeSet, h', h]
  cases t.get? location with
  | none => rfl
  | some node => exact congrArg some (withMode_withMode mode node)

/-- What is as it was has then got another mode, and nothing else. A link to a header has none. -/
theorem IsSpared.of_onlyModeSet (h : IsSpared t t' location)
    (hmode : OnlyModeSet mode t' t'' location) :
    IsSpared t t'' location ∨ OnlyModeSet mode t t'' location := by
  rcases h with hsame | ⟨hnone, target, hheader, hlink⟩
  · right
    rw [OnlyModeSet, hmode, hsame.get?_eq]
  · left
    refine .inr ⟨hnone, target, hheader, ?_⟩
    rw [hmode, hlink]
    rfl

theorem OnlyModeSet.of_isSpared (h : OnlyModeSet mode t t' location)
    (hspared : IsSpared t' t'' location) :
    IsSpared t t'' location ∨ OnlyModeSet mode t t'' location := by
  rcases hspared with hsame | ⟨hnone, target, hheader, hlink⟩
  · exact .inr (hsame.get?_eq.trans h)
  · -- nothing stood there, so nothing stood there in the beginning
    rw [h, Option.map_eq_none_iff] at hnone
    exact .inl (.inr ⟨hnone, target, hheader, hlink⟩)

end SwiftExistential.FileTree
