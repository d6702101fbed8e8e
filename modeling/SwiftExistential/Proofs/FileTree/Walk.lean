import SwiftExistential.FileTree.Basic

/-!
# Walks through a file tree

What it means to look up a path, as a relation: `Walks t follow n` leads from a location over some
parts to a place, one rule for each kind of part, behind at most `n` links. `FileTree.walk` computes
exactly this relation (`walk_eq_ok_iff`), so facts about look-ups are shown by induction on the way.

The function goes by recursion on the links that are left and, between two links, on the parts. The
relation needs no such order: each rule takes one part off the path, and a link puts the parts of
its target in front. Two walks over the same parts end at the same place (`Walks.unique`), and a
walk can be cut between two of its parts (`Walks.exists_directory`).
-/

set_option autoImplicit false

namespace SwiftExistential.FileTree

variable {t : FileTree} {follow : Bool} {n : Nat} {location : Location} {place : Place}

/-- Whether a part of a path is looked up as a name. -/
def IsName (part : Text) : Prop := part ≠ ['.'] ∧ part ≠ ['.', '.'] ∧ ¬ byteCount part > maxName

/-- Whether a walk ends at its last part, with this node there. Directories are entered, and links
are followed if they are to be. -/
def EndsAt (follow : Bool) : Option Node → Prop
  | some .directory => False
  | some (.link _) => follow = false
  | _ => True

/-- Where a link leads from the directory that holds it. -/
def linkBase (target : Text) (location : Location) : Location :=
  if Path.isAbsolute target then [] else location

/-- **A walk over parts**, from a location to a place, behind at most so many links. -/
inductive Walks (t : FileTree) (follow : Bool) : Nat → Location → List Text → Place → Prop where
  | here (n : Nat) (location : Location) : Walks t follow n location [] ⟨location, t.get? location⟩
  | dot {n : Nat} {location : Location} {rest : List Text} {place : Place}
      (tail : Walks t follow n location rest place) :
      Walks t follow n location (['.'] :: rest) place
  | up {n : Nat} {location : Location} {rest : List Text} {place : Place}
      (tail : Walks t follow n location.dropLast rest place) :
      Walks t follow n location (['.', '.'] :: rest) place
  | last (n : Nat) (location : Location) {part : Text} (hname : IsName part)
      (hend : EndsAt follow (t.get? (location ++ [part]))) :
      Walks t follow n location [part] ⟨location ++ [part], t.get? (location ++ [part])⟩
  | enter {n : Nat} {location : Location} {part : Text} {rest : List Text} {place : Place}
      (hname : IsName part) (hget : t.get? (location ++ [part]) = some .directory)
      (tail : Walks t follow n (location ++ [part]) rest place) :
      Walks t follow n location (part :: rest) place
  | jump {n : Nat} {location : Location} {part target : Text} {rest : List Text} {place : Place}
      (hname : IsName part) (hget : t.get? (location ++ [part]) = some (.link target))
      (hon : rest ≠ [] ∨ follow = true) (htarget : target ≠ [])
      (tail : Walks t follow n (linkBase target location) (parts target ++ rest) place) :
      Walks t follow (n + 1) location (part :: rest) place

/-! ## The relation and the function

Both directions, part by part. A path that is refused has no walk, whatever the reason of the
refusal. -/

/-- What a walk does behind a link, given the links that are left. -/
def behind (t : FileTree) (follow : Bool) : Nat → Continuation
  | 0 => fun _ _ => .error .tooManyLinks
  | n + 1 => walk t follow n

theorem walk_eq (t : FileTree) (follow : Bool) (n : Nat) :
    walk t follow n = walkParts t follow (behind t follow n) := by
  cases n <;> rfl

theorem walkParts_nil {k : Continuation} :
    walkParts t follow k location [] = .ok ⟨location, t.get? location⟩ := rfl

theorem walkParts_dot {k : Continuation} (rest : List Text) :
    walkParts t follow k location (['.'] :: rest) = walkParts t follow k location rest := rfl

theorem walkParts_up {k : Continuation} (rest : List Text) :
    walkParts t follow k location (['.', '.'] :: rest) =
      walkParts t follow k location.dropLast rest := rfl

theorem walkParts_name {k : Continuation} {part : Text} (hname : IsName part) (rest : List Text) :
    walkParts t follow k location (part :: rest) =
      match t.get? (location ++ [part]) with
      | none => if rest.isEmpty then .ok ⟨location ++ [part], none⟩ else .error .notFound
      | some .directory => walkParts t follow k (location ++ [part]) rest
      | some (.file bytes mode) =>
          if rest.isEmpty then .ok ⟨location ++ [part], some (.file bytes mode)⟩
          else .error .notDirectory
      | some .device =>
          if rest.isEmpty then .ok ⟨location ++ [part], some .device⟩ else .error .notDirectory
      | some (.link target) =>
          if rest.isEmpty && !follow then .ok ⟨location ++ [part], some (.link target)⟩
          else if target.isEmpty then .error .notFound
          else k (linkBase target location) (parts target ++ rest) := by
  obtain ⟨hdot, hup, hlong⟩ := hname
  rw [walkParts, if_neg hdot, if_neg hup, if_neg hlong]
  rfl

/-- Nothing is walked over a part that is too long to be a name. -/
theorem walkParts_long {k : Continuation} {part : Text} (hdot : part ≠ ['.'])
    (hup : part ≠ ['.', '.']) (hlong : byteCount part > maxName) (rest : List Text) :
    walkParts t follow k location (part :: rest) = .error .nameTooLong := by
  rw [walkParts, if_neg hdot, if_neg hup, if_pos hlong]

theorem Walks.walk_eq_ok {ps : List Text} (h : Walks t follow n location ps place) :
    walk t follow n location ps = .ok place := by
  -- The relation follows the function, so each case unfolds one step of it.
  induction h with
  | here n location => rw [walk_eq, walkParts_nil]
  | dot tail ih =>
      rw [walk_eq] at ih ⊢
      rw [walkParts_dot, ih]
  | up tail ih =>
      rw [walk_eq] at ih ⊢
      rw [walkParts_up, ih]
  | last n location hname hend =>
      rw [walk_eq, walkParts_name hname]
      cases hget : t.get? (location ++ [_]) with
      | none => rfl
      | some node =>
          rw [hget] at hend
          cases node with
          | directory => cases hend
          | file bytes mode => rfl
          | device => rfl
          | link target => rw [show follow = false from hend]; rfl
  | enter hname hget tail ih =>
      rw [walk_eq] at ih ⊢
      rw [walkParts_name hname, hget, ih]
  -- The link is followed: it is not the last part, or links at the end are followed too.
  | @jump n location part target rest place hname hget hon htarget tail ih =>
      have hgo : (rest.isEmpty && !follow) = false := by
        rcases hon with hrest | rfl
        · rw [List.isEmpty_eq_false_iff.mpr hrest, Bool.false_and]
        · rw [Bool.not_true, Bool.and_false]
      have htarget : target.isEmpty = false := List.isEmpty_eq_false_iff.mpr htarget
      rw [walk_eq, walkParts_name hname, hget]
      simp only [hgo, htarget, Bool.false_eq_true, if_false]
      exact ih

theorem walks_of_walkParts_eq_ok (hbehind : ∀ location ps place,
      behind t follow n location ps = .ok place → ∃ m, n = m + 1 ∧ Walks t follow m location ps place)
    {ps : List Text} (h : walkParts t follow (behind t follow n) location ps = .ok place) :
    Walks t follow n location ps place := by
  induction ps generalizing location with
  | nil =>
      rw [walkParts_nil, Except.ok.injEq] at h
      subst h
      exact .here n location
  | cons part rest ih =>
      by_cases hdot : part = ['.']
      · subst hdot
        rw [walkParts_dot] at h
        exact .dot (ih h)
      by_cases hup : part = ['.', '.']
      · subst hup
        rw [walkParts_up] at h
        exact .up (ih h)
      by_cases hlong : byteCount part > maxName
      · rw [walkParts_long hdot hup hlong] at h
        cases h
      have hname : IsName part := ⟨hdot, hup, hlong⟩
      rw [walkParts_name hname] at h
      -- what is left is a name: it ends the walk, or is entered, or is a link to follow
      have hlast : ∀ node, t.get? (location ++ [part]) = node → EndsAt follow node → rest = [] →
          place = ⟨location ++ [part], node⟩ → Walks t follow n location (part :: rest) place := by
        rintro node rfl hend rfl rfl
        exact .last n location hname hend
      cases hget : t.get? (location ++ [part]) with
      | none =>
          simp only [hget] at h
          split at h
          · rename_i hrest
            exact hlast _ hget trivial (List.isEmpty_iff.mp hrest) (Except.ok.inj h).symm
          · cases h
      | some node =>
          cases node with
          | directory =>
              simp only [hget] at h
              exact .enter hname hget (ih h)
          | file bytes mode =>
              simp only [hget] at h
              split at h
              · rename_i hrest
                exact hlast _ hget trivial (List.isEmpty_iff.mp hrest) (Except.ok.inj h).symm
              · cases h
          | device =>
              simp only [hget] at h
              split at h
              · rename_i hrest
                exact hlast _ hget trivial (List.isEmpty_iff.mp hrest) (Except.ok.inj h).symm
              · cases h
          | link target =>
              simp only [hget] at h
              split at h
              · rename_i hstop
                rw [Bool.and_eq_true, Bool.not_eq_true'] at hstop
                exact hlast _ hget hstop.2 (List.isEmpty_iff.mp hstop.1) (Except.ok.inj h).symm
              · rename_i hgo
                split at h
                · cases h
                · rename_i htarget
                  obtain ⟨m, rfl, hwalks⟩ := hbehind _ _ _ h
                  refine .jump hname hget ?_ (fun hnil => htarget (List.isEmpty_iff.mpr hnil)) hwalks
                  by_cases hrest : rest = []
                  · subst hrest
                    simpa using hgo
                  · exact .inl hrest

/-- **The function computes the relation.** -/
theorem walk_eq_ok_iff {ps : List Text} :
    walk t follow n location ps = .ok place ↔ Walks t follow n location ps place := by
  refine ⟨fun h => ?_, Walks.walk_eq_ok⟩
  induction n generalizing location ps place with
  | zero =>
      rw [walk_eq] at h
      exact walks_of_walkParts_eq_ok (fun _ _ _ h => by cases h) h
  | succ n ih =>
      rw [walk_eq] at h
      exact walks_of_walkParts_eq_ok (fun _ _ _ h => ⟨n, rfl, ih h⟩) h

/-! ## One part at a time -/

theorem Walks.of_dot {rest : List Text} (h : Walks t follow n location (['.'] :: rest) place) :
    Walks t follow n location rest place := by
  cases h with
  | dot tail => exact tail
  | last _ _ hname _ => exact absurd rfl hname.1
  | enter hname _ _ => exact absurd rfl hname.1
  | jump hname _ _ _ _ => exact absurd rfl hname.1

theorem Walks.of_up {rest : List Text} (h : Walks t follow n location (['.', '.'] :: rest) place) :
    Walks t follow n location.dropLast rest place := by
  cases h with
  | up tail => exact tail
  | last _ _ hname _ => exact absurd rfl hname.2.1
  | enter hname _ _ => exact absurd rfl hname.2.1
  | jump hname _ _ _ _ => exact absurd rfl hname.2.1

theorem Walks.of_directory {part : Text} {rest : List Text} (hname : IsName part)
    (hget : t.get? (location ++ [part]) = some .directory)
    (h : Walks t follow n location (part :: rest) place) :
    Walks t follow n (location ++ [part]) rest place := by
  cases h with
  | dot _ => exact absurd rfl hname.1
  | up _ => exact absurd rfl hname.2.1
  | last _ _ _ hend => rw [hget] at hend; cases hend
  | enter _ _ tail => exact tail
  | jump _ hget' _ _ _ => rw [hget] at hget'; cases hget'

theorem Walks.of_link_succ {part target : Text} {rest : List Text} (hname : IsName part)
    (hget : t.get? (location ++ [part]) = some (.link target)) (hon : rest ≠ [] ∨ follow = true)
    (h : Walks t follow n location (part :: rest) place) :
    ∃ m, n = m + 1 ∧ Walks t follow m (linkBase target location) (parts target ++ rest) place := by
  cases h with
  | dot _ => exact absurd rfl hname.1
  | up _ => exact absurd rfl hname.2.1
  | last _ _ _ hend =>
      rw [hget] at hend
      rcases hon with hnil | rfl
      · exact absurd rfl hnil
      · cases hend
  | enter _ hget' _ => rw [hget] at hget'; cases hget'
  | jump _ hget' _ _ tail =>
      rw [hget] at hget'
      cases hget'
      exact ⟨_, rfl, tail⟩

theorem Walks.of_link {part target : Text} {rest : List Text} (hname : IsName part)
    (hget : t.get? (location ++ [part]) = some (.link target)) (hon : rest ≠ [] ∨ follow = true)
    (h : Walks t follow n location (part :: rest) place) :
    ∃ m, Walks t follow m (linkBase target location) (parts target ++ rest) place :=
  (h.of_link_succ hname hget hon).imp fun _ => And.right

/-! ## Where walks lead

More links that may be followed do not change where a walk leads. -/

theorem Walks.node_eq {ps : List Text} (h : Walks t follow n location ps place) :
    place.node = t.get? place.location := by
  induction h with
  | here n location => rfl
  | last n location hname hend => rfl
  | dot tail ih => exact ih
  | up tail ih => exact ih
  | enter hname hget tail ih => exact ih
  | jump hname hget hon htarget tail ih => exact ih

/-- Walks over the same parts end at the same place, however many links each of them may follow. -/
theorem Walks.unique {ps : List Text} (h : Walks t follow n location ps place) {m : Nat}
    {other : Place} (h' : Walks t follow m location ps other) : place = other := by
  induction h generalizing m with
  | here n location => cases h'; rfl
  | dot tail ih => exact ih h'.of_dot
  | up tail ih => exact ih h'.of_up
  | enter hname hget tail ih => exact ih (h'.of_directory hname hget)
  | jump hname hget hon htarget tail ih =>
      obtain ⟨k, htail⟩ := h'.of_link hname hget hon
      exact ih htail
  | last n location hname hend =>
      cases h' with
      | dot _ => exact absurd rfl hname.1
      | up _ => exact absurd rfl hname.2.1
      | last _ _ _ _ => rfl
      | enter _ hget _ => rw [hget] at hend; cases hend
      | jump _ hget hon _ _ =>
          rw [hget] at hend
          rcases hon with hnil | hfollow
          · exact absurd rfl hnil
          · rw [hfollow] at hend; cases hend

/-- A walk that may follow more links than it does. -/
theorem Walks.mono {ps : List Text} (h : Walks t follow n location ps place) {m : Nat}
    (hle : n ≤ m) :
    Walks t follow m location ps place := by
  induction h generalizing m with
  | here n location => exact .here m location
  | dot tail ih => exact .dot (ih hle)
  | up tail ih => exact .up (ih hle)
  | last n location hname hend => exact .last m location hname hend
  | enter hname hget tail ih => exact .enter hname hget (ih hle)
  | jump hname hget hon htarget tail ih =>
      obtain ⟨k, rfl⟩ : ∃ k, m = k + 1 := ⟨m - 1, by omega⟩
      exact .jump hname hget hon htarget (ih (Nat.le_of_succ_le_succ hle))

/-! ## Chains of directories

A walk stands in a directory before every part, and all directories above it are there. -/

/-- A location that can be reached without links: it and all locations above it are directories. -/
def IsWalkable (t : FileTree) (location : Location) : Prop :=
  ∀ above, above <+: location → t.get? above = some .directory

theorem isWalkable_nil : IsWalkable t [] := by
  intro above h
  rw [List.prefix_nil.mp h]
  rfl

theorem IsWalkable.get? (h : IsWalkable t location) : t.get? location = some .directory :=
  h location (List.prefix_refl location)

theorem IsWalkable.dropLast (h : IsWalkable t location) : IsWalkable t location.dropLast :=
  fun above habove => h above (habove.trans (List.dropLast_prefix location))

theorem IsWalkable.concat {part : Text} (h : IsWalkable t location)
    (hget : t.get? (location ++ [part]) = some .directory) : IsWalkable t (location ++ [part]) := by
  intro above habove
  rcases List.prefix_concat_iff.mp habove with rfl | habove
  · exact hget
  · exact h above habove

theorem IsWalkable.linkBase (h : IsWalkable t location) (target : Text) :
    IsWalkable t (linkBase target location) := by
  rw [FileTree.linkBase]
  split
  · exact isWalkable_nil
  · exact h

/-- What a walk ends at, if it is no directory, stands in one that is reached without links. -/
theorem Walks.isWalkable_dropLast {ps : List Text} (h : Walks t follow n location ps place)
    (hwalkable : IsWalkable t location) (hnode : place.node ≠ some .directory) :
    IsWalkable t place.location.dropLast := by
  induction h with
  | here n location => exact absurd hwalkable.get? hnode
  | dot tail ih => exact ih hwalkable hnode
  | up tail ih => exact ih hwalkable.dropLast hnode
  | last n location hname hend => rwa [List.dropLast_concat]
  | enter hname hget tail ih => exact ih (hwalkable.concat hget) hnode
  | jump hname hget hon htarget tail ih => exact ih (hwalkable.linkBase _) hnode

/-- **A walk passes through directories**: whatever parts come before others lead to one. -/
theorem Walks.exists_directory {before after : List Text} (hwalkable : IsWalkable t location)
    (h : Walks t follow n location (before ++ after) place) (hafter : after ≠ []) :
    ∃ middle m, Walks t true m location before ⟨middle, some .directory⟩ := by
  generalize hps : before ++ after = ps at h
  induction h generalizing before with
  | here n location =>
      exact absurd (List.append_eq_nil_iff.mp hps).2 hafter
  | @dot n location rest place tail ih =>
      cases before with
      | nil => exact ⟨location, n, hwalkable.get? ▸ .here n location⟩
      | cons part before =>
          obtain ⟨rfl, hrest⟩ := List.cons.inj hps
          obtain ⟨middle, m, hmiddle⟩ := ih hwalkable hrest
          exact ⟨middle, m, .dot hmiddle⟩
  | @up n location rest place tail ih =>
      cases before with
      | nil => exact ⟨location, n, hwalkable.get? ▸ .here n location⟩
      | cons part before =>
          obtain ⟨rfl, hrest⟩ := List.cons.inj hps
          obtain ⟨middle, m, hmiddle⟩ := ih hwalkable.dropLast hrest
          exact ⟨middle, m, .up hmiddle⟩
  | last n location hname hend =>
      cases before with
      | nil => exact ⟨location, n, hwalkable.get? ▸ .here n location⟩
      | cons part before =>
          -- the walk is over behind its last part
          obtain ⟨-, hrest⟩ := List.cons.inj hps
          exact absurd (List.append_eq_nil_iff.mp hrest).2 hafter
  | @enter n location part rest place hname hget tail ih =>
      cases before with
      | nil => exact ⟨location, n, hwalkable.get? ▸ .here n location⟩
      | cons first before =>
          obtain ⟨rfl, hrest⟩ := List.cons.inj hps
          obtain ⟨middle, m, hmiddle⟩ := ih (hwalkable.concat hget) hrest
          exact ⟨middle, m, .enter hname hget hmiddle⟩
  | @jump n location part target rest place hname hget hon htarget tail ih =>
      cases before with
      | nil => exact ⟨location, n, hwalkable.get? ▸ .here n location⟩
      | cons first before =>
          obtain ⟨rfl, rfl⟩ := List.cons.inj hps
          -- the parts of the link's target come first, then what was left of the path
          obtain ⟨middle, m, hmiddle⟩ := ih (hwalkable.linkBase target)
            (List.append_assoc (parts target) before after)
          exact ⟨middle, m + 1, .jump hname hget (.inr rfl) htarget hmiddle⟩

/-! ## Trees in writing

Trees for examples are written as lists of locations with what stands there; the directories above
are put in. -/

/-- The location that a path names from the root, if there is no link on the way. -/
def locationOf (path : String) : Location := parts path.toList

/-- Puts a node where names lead from a location, and directories on the way. -/
def setBelow (t : FileTree) (above : Location) : List Text → Node → FileTree
  | [], _ => t
  | [name], node => t.set (above ++ [name]) node
  | name :: rest, node => (t.set (above ++ [name]) .directory).setBelow (above ++ [name]) rest node

/-- The tree with these entries and the directories above them, seen from the root. -/
def ofEntries (entries : List (Location × Node)) : FileTree :=
  entries.foldl (fun t entry => t.setBelow [] entry.1 entry.2) { entries := ∅, current := [] }

end SwiftExistential.FileTree
