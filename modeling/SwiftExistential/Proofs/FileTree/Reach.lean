import SwiftExistential.Proofs.FileTree.Frame

/-!
# Walks in two pieces, and walks in changed trees

A walk over parts that lead to a directory and others behind them is a walk to the directory and one
from there, and the second piece may be put in place of another one (`Walks.cut`). Trees that differ
in the bytes and modes of their files alone have the same walks (`Walks.of_sameShape`), since a walk
asks of a file only whether one is there.

So a path that leads to a file, with no link at its end, leads there whatever is written to files
(`LeadsTo.of_sameShape`), and when the file is replaced it is the one that changes
(`LeadsTo.replaceFile_eq`). A migration writes one file after the other, and with this each of them
is found where it was in the beginning.
-/

set_option autoImplicit false

namespace SwiftExistential.FileTree

variable {t t' : FileTree} {follow : Bool} {n : Nat} {location : Location} {place : Place}

/-! ## Pieces of walks

A link in the middle of a path is followed before the walk goes on, so the cut is behind what the
link leads to. -/

/-- A dot at the end means nothing to a walk that follows links. -/
theorem Walks.of_concat_dot {before : List Text}
    (h : Walks t true n location (before ++ [['.']]) place) : Walks t true n location before place := by
  -- The dot at the end is the last part that is met; up to it both walks are the same.
  generalize hps : before ++ [['.']] = ps at h
  induction h generalizing before with
  | here n location => exact absurd hps (by simp)
  | dot tail ih =>
      cases before with
      | nil =>
          obtain rfl := (List.cons.inj hps).2
          exact tail
      | cons part before =>
          obtain ⟨rfl, hrest⟩ := List.cons.inj hps
          exact .dot (ih hrest)
  | up tail ih =>
      cases before with
      | nil => exact absurd (List.cons.inj hps).1 (by decide)
      | cons part before =>
          obtain ⟨rfl, hrest⟩ := List.cons.inj hps
          exact .up (ih hrest)
  | last n location hname hend =>
      cases before with
      | nil => exact absurd (List.cons.inj hps).1.symm hname.1
      | cons part before => exact absurd (List.cons.inj hps).2 (by simp)
  | enter hname hget tail ih =>
      cases before with
      | nil => exact absurd (List.cons.inj hps).1.symm hname.1
      | cons part before =>
          obtain ⟨rfl, hrest⟩ := List.cons.inj hps
          exact .enter hname hget (ih hrest)
  | @jump n location part target rest place hname hget hon htarget tail ih =>
      cases before with
      | nil => exact absurd (List.cons.inj hps).1.symm hname.1
      | cons first before =>
          obtain ⟨rfl, rfl⟩ := List.cons.inj hps
          exact .jump hname hget (.inr rfl) htarget (ih (List.append_assoc _ _ _))

/-- **A walk through a directory is cut there.** What is walked from the directory may be replaced.
-/
theorem Walks.cut {before after : List Text} {middle : Location} {m : Nat}
    (hbefore : Walks t true m location before ⟨middle, some .directory⟩) (hafter : after ≠ [])
    (h : Walks t follow n location (before ++ after) place) :
    ∃ k, Walks t follow k middle after place ∧ ∀ {follow : Bool} {other : List Text} {place : Place},
      other ≠ [] → Walks t follow k middle other place →
        Walks t follow n location (before ++ other) place := by
  generalize hplace : (⟨middle, some .directory⟩ : Place) = directory at hbefore
  -- By induction on the first walk. The links it follows are paid for by both, so the second may
  -- start with what is left of `n`.
  induction hbefore generalizing n with
  | here m location =>
      obtain ⟨rfl, -⟩ := Place.mk.inj hplace
      exact ⟨n, h, fun _ hother => hother⟩
  | dot tail ih =>
      obtain ⟨k, hk, hother⟩ := ih h.of_dot hplace
      exact ⟨k, hk, fun hne hwalk => .dot (hother hne hwalk)⟩
  | up tail ih =>
      obtain ⟨k, hk, hother⟩ := ih h.of_up hplace
      exact ⟨k, hk, fun hne hwalk => .up (hother hne hwalk)⟩
  | last m location hname hend =>
      rw [← (Place.mk.inj hplace).2] at hend
      cases hend
  | enter hname hget tail ih =>
      obtain ⟨k, hk, hother⟩ := ih (h.of_directory hname hget) hplace
      exact ⟨k, hk, fun hne hwalk => .enter hname hget (hother hne hwalk)⟩
  | @jump m location part target rest place' hname hget hon htarget tail ih =>
      obtain ⟨l, rfl, htail⟩ := h.of_link_succ hname hget (.inl (by simp [hafter]))
      rw [List.append_eq, ← List.append_assoc] at htail
      obtain ⟨k, hk, hother⟩ := ih htail hplace
      refine ⟨k, hk, fun hne hwalk => .jump hname hget (.inl (by simp [hne])) htarget ?_⟩
      rw [List.append_eq, ← List.append_assoc]
      exact hother hne hwalk

/-- A walk that ends at no link ends there too if links are followed. -/
theorem Walks.of_no_link {ps : List Text} (h : Walks t false n location ps place)
    (hlink : ∀ target, place.node ≠ some (.link target)) : Walks t true n location ps place := by
  induction h with
  | here n location => exact .here n location
  | dot tail ih => exact .dot (ih hlink)
  | up tail ih => exact .up (ih hlink)
  | last n location hname hend =>
      refine .last n location hname ?_
      cases hget : t.get? (location ++ [_]) with
      | none => trivial
      | some node =>
          cases node with
          | directory => rw [hget] at hend; cases hend
          | link target => exact absurd hget (hlink target)
          | file bytes mode => trivial
          | device => trivial
  | enter hname hget tail ih => exact .enter hname hget (ih hlink)
  | jump hname hget hon htarget tail ih => exact .jump hname hget (.inr rfl) htarget (ih hlink)

/-- Where a walk leads that follows links, one that does not stops too: there, or at a link on the
way. -/
theorem Walks.exists_stop {ps : List Text} (h : Walks t true n location ps place) :
    ∃ stop, Walks t false n location ps stop ∧
      (stop = place ∨ ∃ target, stop.node = some (.link target)) := by
  induction h with
  | here n location => exact ⟨_, .here n location, .inl rfl⟩
  | dot tail ih =>
      obtain ⟨stop, hstop, hnode⟩ := ih
      exact ⟨stop, .dot hstop, hnode⟩
  | up tail ih =>
      obtain ⟨stop, hstop, hnode⟩ := ih
      exact ⟨stop, .up hstop, hnode⟩
  | last n location hname hend =>
      refine ⟨_, .last n location hname ?_, .inl rfl⟩
      cases hget : t.get? (location ++ [_]) with
      | none => trivial
      | some node =>
          rw [hget] at hend
          cases node with
          | directory => cases hend
          | link target => rfl
          | file bytes mode => trivial
          | device => trivial
  | enter hname hget tail ih =>
      obtain ⟨stop, hstop, hnode⟩ := ih
      exact ⟨stop, .enter hname hget hstop, hnode⟩
  | @jump n location part target rest place hname hget hon htarget tail ih =>
      by_cases hrest : rest = []
      · -- a link at the end is where the walk stops
        subst hrest
        exact ⟨_, .last (n + 1) location hname (by rw [hget]; rfl), .inr ⟨target, hget⟩⟩
      · obtain ⟨stop, hstop, hnode⟩ := ih
        exact ⟨stop, .jump hname hget (.inl hrest) htarget hstop, hnode⟩

/-! ## Trees that differ in their files -/

/-- **Trees that differ in the bytes and modes of their files alone.** -/
structure SameShape (t t' : FileTree) : Prop where
  current : t'.current = t.current
  get? : ∀ location, t'.get? location = t.get? location ∨
    (∃ bytes mode, t.get? location = some (.file bytes mode)) ∧
      ∃ bytes mode, t'.get? location = some (.file bytes mode)

theorem SameShape.refl (t : FileTree) : SameShape t t := ⟨rfl, fun _ => .inl rfl⟩

/-- A walk ends where it does in a tree that differs in its files. -/
theorem SameShape.endsAt (h : SameShape t t') {follow : Bool}
    (hend : EndsAt follow (t.get? location)) : EndsAt follow (t'.get? location) := by
  rcases h.get? location with heq | ⟨-, bytes, mode, hfile⟩
  · rwa [heq]
  · rw [hfile]
    trivial

theorem SameShape.get?_eq (h : SameShape t t') {node : Option Node} (hget : t.get? location = node)
    (hnode : ∀ bytes mode, node ≠ some (.file bytes mode)) : t'.get? location = node := by
  rcases h.get? location with heq | ⟨⟨bytes, mode, hfile⟩, -⟩
  · rw [heq, hget]
  · exact absurd (hget.symm.trans hfile) (hnode bytes mode)

/-- **Walks do not depend on what files hold.** -/
theorem Walks.of_sameShape (hsame : SameShape t t') {ps : List Text}
    (h : Walks t follow n location ps place) :
    Walks t' follow n location ps ⟨place.location, t'.get? place.location⟩ := by
  induction h with
  | here n location => exact .here n location
  | dot tail ih => exact .dot ih
  | up tail ih => exact .up ih
  | last n location hname hend => exact .last n location hname (hsame.endsAt hend)
  | enter hname hget tail ih =>
      exact .enter hname (hsame.get?_eq hget fun _ _ heq => by cases heq) ih
  | jump hname hget hon htarget tail ih =>
      exact .jump hname (hsame.get?_eq hget fun _ _ heq => by cases heq) hon htarget ih

/-! ## Paths that lead to files -/

/-- **A path that leads to a file**, with no link at its end. -/
structure LeadsTo (t : FileTree) (path : Text) (location : Location) : Prop where
  find : ∃ bytes mode, t.find path = .ok (location, .file bytes mode)
  locate : ∃ node, t.locate false path = .ok ⟨location, node⟩

theorem find_eq_ok_get? {path : Text} {node : Node} (h : t.find path = .ok (location, node)) :
    t.get? location = some node := by
  obtain ⟨-, -, hwalks⟩ := locate_eq_ok_iff.mp (find_eq_ok_iff.mp h)
  exact hwalks.node_eq.symm

theorem LeadsTo.exists_file {path : Text} (h : LeadsTo t path location) :
    ∃ bytes mode, t.get? location = some (.file bytes mode) := by
  obtain ⟨bytes, mode, hfind⟩ := h.find
  exact ⟨bytes, mode, find_eq_ok_get? hfind⟩

theorem LeadsTo.unique {path : Text} {other : Location} (h : LeadsTo t path location)
    (h' : LeadsTo t path other) : location = other := by
  obtain ⟨bytes, mode, hfind⟩ := h.find
  obtain ⟨bytes', mode', hfind'⟩ := h'.find
  rw [hfind] at hfind'
  exact congrArg Prod.fst (Except.ok.inj hfind')

/-- Where a path leads does not depend on what files hold. -/
theorem locate_of_sameShape (hsame : SameShape t t') {path : Text}
    (h : t.locate follow path = .ok place) :
    t'.locate follow path = .ok ⟨place.location, t'.get? place.location⟩ := by
  rw [locate_eq_ok_iff] at h ⊢
  rw [hsame.current]
  exact ⟨h.1, h.2.1, h.2.2.of_sameShape hsame⟩

theorem LeadsTo.of_sameShape (hsame : SameShape t t') {path : Text} (h : LeadsTo t path location) :
    LeadsTo t' path location := by
  obtain ⟨bytes, mode, hfind⟩ := h.find
  obtain ⟨node, hlocate⟩ := h.locate
  have hget := find_eq_ok_get? hfind
  have hfound := locate_of_sameShape hsame (find_eq_ok_iff.mp hfind)
  obtain ⟨bytes', mode', hfile⟩ : ∃ bytes mode, t'.get? location = some (.file bytes mode) := by
    rcases hsame.get? location with heq | ⟨-, hfile⟩
    · exact ⟨bytes, mode, by rw [heq, hget]⟩
    · exact hfile
  refine ⟨⟨bytes', mode', ?_⟩, _, locate_of_sameShape hsame hlocate⟩
  rw [find_eq_ok_iff, hfound]
  simp only [hfile]

theorem LeadsTo.find_eq {path : Text} {bytes : ByteArray} {mode : Nat} (h : LeadsTo t path location)
    (hget : t.get? location = some (.file bytes mode)) :
    t.find path = .ok (location, .file bytes mode) := by
  obtain ⟨bytes', mode', hfind⟩ := h.find
  rw [find_eq_ok_get? hfind] at hget
  rw [hfind, Option.some.inj hget]

theorem LeadsTo.readText_eq {path : Text} {bytes : ByteArray} {mode : Nat}
    (h : LeadsTo t path location) (hget : t.get? location = some (.file bytes mode)) :
    t.readText path = match decode? bytes with
      | none => .error .notText
      | some content => .ok content := by
  cases hdecoded : decode? bytes <;> simp only [readText, readBytes, h.find_eq hget, hdecoded]

/-- **A file that a path leads to is replaced there**, and keeps its mode. -/
theorem LeadsTo.replaceFile_eq {path content : Text} {bytes : ByteArray} {mode : Nat}
    (h : LeadsTo t path location) (hget : t.get? location = some (.file bytes mode)) :
    t.replaceFile path content = .ok (t.putNew location (encode content) mode) := by
  obtain ⟨node, hlocate⟩ := h.locate
  obtain ⟨-, -, hwalks⟩ := locate_eq_ok_iff.mp hlocate
  have hnode : node = some (.file bytes mode) := hwalks.node_eq.trans hget
  simp only [replaceFile, hlocate, hnode, h.find_eq hget]

end SwiftExistential.FileTree
