import SwiftExistential.Proofs.FileTree.Frame
import SwiftExistential.SourceFile

/-!
# Working on a source file

A file is read, and then edited, set, read again and committed in any order, while nobody else
writes it. A commit compares with the text that was read last, not with the one that was written
last. So after a commit the file holds the text in memory, except if this is the text that was read
and an earlier commit has written another one since (`readText_commit_iff`).

The result is about every list of actions. Reading again is the one action that brings the two texts
together: what is on disk becomes the text that was read, and the next commit compares with that.
Without it, a text that is set back after a commit stays in memory alone
(`undone_edit_stays_on_disk`).
-/

set_option autoImplicit false

namespace SwiftExistential.SourceFile

/-! ## Sessions

What came of each action is kept, so that "has written since" can be said of the outcomes. -/

/-- What can be done with a file that was read. -/
inductive Action where
  | apply (edit : Edit)
  | setContent (content : Text)
  | reread
  | commit

/-- What came of an action. -/
inductive Outcome where
  | edited (result : Except EditError EditResult)
  | replaced
  | reread (result : Except ReadError Unit)
  | committed (result : Except FileError Bool)
deriving DecidableEq

/-- A file in memory and the files on disk. -/
structure Session where
  file : SourceFile
  tree : FileTree

/-- Takes one action. What fails changes nothing. -/
def Session.step (s : Session) : Action → Session × Outcome
  | .apply edit => (⟨(s.file.apply edit).1, s.tree⟩, .edited (s.file.apply edit).2)
  | .setContent content => (⟨s.file.setContent content, s.tree⟩, .replaced)
  | .reread =>
      match read s.tree s.file.path with
      | .ok file => (⟨file, s.tree⟩, .reread (.ok ()))
      | .error e => (s, .reread (.error e))
  | .commit =>
      match s.file.commit s.tree with
      | .ok (tree, written) => (⟨s.file, tree⟩, .committed (.ok written))
      | .error e => (s, .committed (.error e))

/-- **Takes actions in turn**, with what came of each of them. -/
def Session.run (s : Session) : List Action → Session × List Outcome
  | [] => (s, [])
  | action :: rest =>
      let (s', outcome) := s.step action
      let (last, outcomes) := s'.run rest
      (last, outcome :: outcomes)

/-- Whether the file was written since it was read last, after an action that came out so, if that
was or was not the case before. -/
def Outcome.written (before : Bool) : Outcome → Bool
  | committed (.ok true) => true
  | reread (.ok _) => false
  | _ => before

/-- Whether a commit has written the file since it was read last. -/
def writtenSinceRead (outcomes : List Outcome) : Bool := outcomes.foldl Outcome.written false

/-! ## What stands on disk -/

/-- **What is known of a session**: its file can be read, and holds the text that was read last
exactly if it was not written since. -/
structure Session.Tracks (path : Text) (written : Bool) (s : Session) : Prop where
  path_eq : s.file.path = path
  isWalkable : FileTree.IsWalkable s.tree s.tree.current
  disk : ∃ text, s.tree.readText path = .ok text ∧ (text = s.file.loaded ↔ written = false)

variable {path : Text} {written : Bool} {s : Session}

theorem read_eq_ok_iff {tree : FileTree} {file : SourceFile} :
    read tree path = .ok file ↔ ∃ text, tree.readText path = .ok text ∧ file = ofText path text := by
  rw [read]
  cases tree.readText path with
  | error e => simp
  | ok text => simp [eq_comm]

theorem Session.Tracks.withContent (h : s.Tracks path written) (content : Text) :
    Session.Tracks path written ⟨s.file.setContent content, s.tree⟩ :=
  ⟨h.path_eq, h.isWalkable, h.disk⟩

theorem apply_fst (file : SourceFile) (edit : Edit) :
    ∃ content, (file.apply edit).1 = file.setContent content := by
  rw [apply]
  cases edit.apply file.content with
  | error e => exact ⟨file.content, rfl⟩
  | ok applied => exact ⟨applied.2, rfl⟩

/-- A commit writes nothing if the text is the one that was read, and else the text. -/
theorem commit_eq_ok_iff {file : SourceFile} {tree tree' : FileTree} {wrote : Bool} :
    file.commit tree = .ok (tree', wrote) ↔
      file.content = file.loaded ∧ tree' = tree ∧ wrote = false ∨
        file.content ≠ file.loaded ∧ tree.replaceFile file.path file.content = .ok tree' ∧
          wrote = true := by
  rw [commit, isModified]
  by_cases hsame : file.content = file.loaded
  · simp only [hsame, bne_self_eq_false, Bool.false_eq_true, if_false, Except.ok.injEq,
      Prod.mk.injEq, true_and, ne_eq, not_true_eq_false, false_and, or_false]
    exact and_congr eq_comm eq_comm
  · cases hreplaced : tree.replaceFile file.path file.content with
    | error e => simp [hsame, Except.map]
    | ok replaced =>
        simp only [bne_iff_ne.mpr hsame, if_true, Except.map, Except.ok.injEq, Prod.mk.injEq, hsame,
          false_and, ne_eq, not_false_eq_true, true_and, false_or]
        exact and_congr_right' eq_comm

theorem Session.Tracks.commit (h : s.Tracks path written) {tree : FileTree} {wrote : Bool}
    (hcommit : s.file.commit s.tree = .ok (tree, wrote)) :
    Session.Tracks path (written || wrote) ⟨s.file, tree⟩ := by
  obtain ⟨text, hread, htext⟩ := h.disk
  rcases commit_eq_ok_iff.mp hcommit with ⟨-, rfl, rfl⟩ | ⟨hmodified, hreplaced, rfl⟩
  · rw [Bool.or_false]
    exact ⟨h.path_eq, h.isWalkable, h.disk⟩
  · rw [h.path_eq] at hreplaced
    obtain ⟨hback, hwalkable⟩ := FileTree.readText_replaceFile h.isWalkable hread hreplaced
    exact ⟨h.path_eq, hwalkable, s.file.content, hback, by simpa using hmodified⟩

/-- **One action** keeps track of what stands on disk. -/
theorem Session.Tracks.step (h : s.Tracks path written) (action : Action) :
    (s.step action).1.Tracks path ((s.step action).2.written written) := by
  -- Only a commit writes, and only it says whether it did.
  cases action with
  | apply edit =>
      obtain ⟨content, hcontent⟩ := apply_fst s.file edit
      simp only [Session.step, hcontent, Outcome.written]
      exact h.withContent content
  | setContent content => exact h.withContent content
  | reread =>
      obtain ⟨text, hread, -⟩ := h.disk
      have hfile : read s.tree s.file.path = .ok (ofText path text) :=
        read_eq_ok_iff.mpr ⟨text, by rw [h.path_eq]; exact hread, by rw [h.path_eq]⟩
      simp only [Session.step, hfile, Outcome.written]
      exact ⟨rfl, h.isWalkable, text, hread, by simp [ofText]⟩
  | commit =>
      cases hcommit : s.file.commit s.tree with
      | error e =>
          simp only [Session.step, hcommit, Outcome.written]
          exact h
      | ok result =>
          obtain ⟨tree, wrote⟩ := result
          have htracks := h.commit hcommit
          cases wrote with
          | false => simpa only [Session.step, hcommit, Outcome.written, Bool.or_false] using htracks
          | true => simpa only [Session.step, hcommit, Outcome.written, Bool.or_true] using htracks

/-- A session of any length keeps track of what stands on disk. -/
theorem Session.Tracks.run (h : s.Tracks path written) (actions : List Action) :
    (s.run actions).1.Tracks path ((s.run actions).2.foldl Outcome.written written) := by
  induction actions generalizing s written with
  | nil => exact h
  | cons action rest ih => exact ih (h.step action)

/-- **When a commit leaves the text in memory on disk**: after any session with a file that could be
read, exactly if the text is not the one that was read last, or no commit has written another one
since. -/
theorem readText_commit_iff (tree : FileTree) (path : Text) (file : SourceFile)
    (actions : List Action) (s : Session) (outcomes : List Outcome) (tree' : FileTree)
    (wrote : Bool) (hcurrent : FileTree.IsWalkable tree tree.current)
    (hread : read tree path = .ok file)
    (hrun : Session.run ⟨file, tree⟩ actions = (s, outcomes))
    (hcommit : s.file.commit s.tree = .ok (tree', wrote)) :
    tree'.readText path = .ok s.file.content ↔
      s.file.content ≠ s.file.loaded ∨ writtenSinceRead outcomes = false := by
  obtain ⟨text, htext, rfl⟩ := read_eq_ok_iff.mp hread
  have hstart : Session.Tracks path false ⟨ofText path text, tree⟩ :=
    ⟨rfl, hcurrent, text, htext, by simp [ofText]⟩
  have htracks : s.Tracks path (writtenSinceRead outcomes) := by
    have hlast := hstart.run actions
    rwa [hrun] at hlast
  obtain ⟨disk, hdisk, hloaded⟩ := htracks.disk
  rcases commit_eq_ok_iff.mp hcommit with ⟨hsame, rfl, -⟩ | ⟨hmodified, hreplaced, -⟩
  · -- nothing is written, so the disk holds what it held
    rw [hdisk, Except.ok.injEq, hsame, hloaded]
    simp
  · rw [htracks.path_eq] at hreplaced
    have hback := (FileTree.readText_replaceFile htracks.isWalkable hdisk hreplaced).1
    exact ⟨fun _ => .inl hmodified, fun _ => hback⟩

/-! ### A file behind a link -/

def linkedFile : FileTree := .ofEntries [
  (FileTree.locationOf "p/Real.swift", .file "a\n".toUTF8 0o644),
  (FileTree.locationOf "p/Foo.swift", .link "Real.swift".toList)]

def linkedSource : SourceFile := ofText "/p/Foo.swift".toList "a\n".toList

/-- An edit that is committed and, after the file was read again, undone. -/
def undoneAfterReading : Session × List Outcome :=
  Session.run ⟨linkedSource, linkedFile⟩
    [.setContent "b\n".toList, .commit, .reread, .setContent "a\n".toList]

/-- An edit that is committed and undone, with a second commit. -/
def undoneAfterCommit : Session × List Outcome :=
  Session.run ⟨linkedSource, linkedFile⟩
    [.setContent "b\n".toList, .commit, .setContent "a\n".toList, .commit]

/-- A commit that undoes an edit after the file was read again is not lost. -/
theorem readText_commit_iff_of_reread :
    read linkedFile "/p/Foo.swift".toList = .ok linkedSource ∧
    ∃ tree' wrote, undoneAfterReading.1.file.commit undoneAfterReading.1.tree = .ok (tree', wrote) ∧
      tree'.readText "/p/Foo.swift".toList = .ok "a\n".toList := by
  have hread : read linkedFile "/p/Foo.swift".toList = .ok linkedSource := by decide +kernel
  have hcurrent : FileTree.IsWalkable linkedFile linkedFile.current := FileTree.isWalkable_nil
  have hcontent : undoneAfterReading.1.file.content = "a\n".toList ∧
      undoneAfterReading.1.file.loaded = "b\n".toList := by decide +kernel
  have hok : (undoneAfterReading.1.file.commit undoneAfterReading.1.tree).isOk = true := by
    decide +kernel
  refine ⟨hread, ?_⟩
  cases hcommit : undoneAfterReading.1.file.commit undoneAfterReading.1.tree with
  | error e => rw [hcommit] at hok; cases hok
  | ok result =>
      obtain ⟨tree', wrote⟩ := result
      have hback := (readText_commit_iff linkedFile _ linkedSource _ undoneAfterReading.1
        undoneAfterReading.2 tree' wrote hcurrent hread (Prod.eta _).symm hcommit).mpr
          (.inl (by rw [hcontent.1, hcontent.2]; decide))
      exact ⟨tree', wrote, rfl, by rw [hback, hcontent.1]⟩

/-- A commit that undoes an edit committed before leaves the edit on disk. -/
theorem undone_edit_stays_on_disk :
    read linkedFile "/p/Foo.swift".toList = .ok linkedSource ∧
    undoneAfterCommit.2 =
      [.replaced, .committed (.ok true), .replaced, .committed (.ok false)] ∧
    undoneAfterCommit.1.file.content = "a\n".toList ∧
    undoneAfterCommit.1.tree.readText "/p/Foo.swift".toList = .ok "b\n".toList := by
  decide +kernel

end SwiftExistential.SourceFile
