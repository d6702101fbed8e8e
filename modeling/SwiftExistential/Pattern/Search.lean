import SwiftExistential.Pattern.Basic

/-!
# Searching and replacing

The leftmost match of a pattern, the successive matches without overlap, and the replacement of
matches. Of all matches that begin at the leftmost place, the preferred way is taken.

A search that has found nothing at a place goes on with the next one. In one case it may leave
places out: where the pattern begins with a run and no match begins at the start of a run, none
begins further on in it. That this misses no match is shown where searches are.

Replacing keeps what stands between the matches. It counts the matches whose text has changed, and
not those that were replaced by themselves.
-/

set_option autoImplicit false

namespace SwiftExistential

open Pattern (Group State)

/-- One match of a pattern in a text. -/
structure Match where
  start : Cursor
  stop : Cursor
  groups : List Group
deriving DecidableEq, Repr

namespace Match

def text (m : Match) : Text := m.start.textTo m.stop

/-- A remembered group, if it took part in the match. -/
def group? (m : Match) (index : Nat) : Option Group := m.groups.find? (·.index == index)

/-- The text of a group that took part in the match. -/
def groupText? (m : Match) (index : Nat) : Option Text :=
  (m.group? index).map fun g => g.start.textTo g.stop

/-- The text of a group, empty if it took no part. -/
def groupText (m : Match) (index : Nat) : Text := (m.groupText? index).getD []

/-- Where the search goes on: at the end of the match, or one character on if it is empty. -/
def next (m : Match) : Cursor :=
  if m.stop.after.length < m.start.after.length then m.stop else m.stop.skip 1

end Match

namespace Pattern

/-- The preferred match that begins at a place. -/
def matchAt? (p : Pattern) (c : Cursor) : Option Match :=
  (p.run (.start c) some).map fun s => ⟨c, s.cursor, s.groups⟩

/-- A match at a place is the first of the ways to match there. -/
theorem matchAt?_eq_head? (p : Pattern) (c : Cursor) :
    p.matchAt? c = ((p.ways (.start c)).head?).map fun s => ⟨c, s.cursor, s.groups⟩ := by
  rw [matchAt?, run_eq_findSome?]
  cases p.ways (.start c) <;> rfl

/-- The class of the characters in a run that every match begins with. -/
def leadingRun? : Pattern → Option CharClass
  | plus (one cls) => some cls
  | seq p _ => p.leadingRun?
  | group _ p => p.leadingRun?
  | cluster p => p.leadingRun?
  | _ => none

/-- Whether a character can stand in the run that every match begins with. -/
def leadsWith (p : Pattern) (c : Char) : Bool := p.leadingRun?.any (·.holds c)

/-- The leftmost match at or after the place between `before` and `after`. The flag says that there
is no match at the character before and that a leading run could begin there; then there is none
further on in the run either. -/
def findFrom? (p : Pattern) (inRun : Bool) : Text → Text → Option Match
  | before, [] => p.matchAt? ⟨before, []⟩
  | before, c :: rest =>
      if inRun && p.leadsWith c then p.findFrom? true (c :: before) rest
      else match p.matchAt? ⟨before, c :: rest⟩ with
        | some m => some m
        | none => p.findFrom? (p.leadsWith c) (c :: before) rest

/-- **The leftmost match** at or after a place. -/
def find? (p : Pattern) (c : Cursor) : Option Match := p.findFrom? false c.before c.after

def findIn? (p : Pattern) (t : Text) : Option Match := p.find? (.start t)

/-- Whether the pattern matches somewhere in a text. -/
def occursIn (p : Pattern) (t : Text) : Bool := (p.findIn? t).isSome

/-- **The successive matches** from a place on: each is the leftmost one after the end of the match
before it. -/
def matchesFrom (p : Pattern) (c : Cursor) : List Match :=
  match p.find? c with
  | none => []
  | some m =>
      if m.next.after.length < c.after.length then m :: p.matchesFrom m.next else [m]
termination_by c.after.length

/-- The text from a place on, with each of the matches replaced. -/
def splice (new : Match → Text) : Cursor → List Match → Text
  | c, [] => c.after
  | c, m :: ms => c.textTo m.start ++ new m ++ splice new m.stop ms

/-- The text that a match is replaced by: itself if there is no replacement. -/
def replacement (new : Match → Option Text) (m : Match) : Text := (new m).getD m.text

/-- **Replaces the successive matches** in a text. Returns the new text and the number of matches
whose text changed; a match without a replacement stays. -/
def substitute (p : Pattern) (new : Match → Option Text) (t : Text) : Text × Nat :=
  let found := p.matchesFrom (.start t)
  (splice (replacement new) (.start t) found, found.countP fun m => replacement new m != m.text)

end Pattern

end SwiftExistential
