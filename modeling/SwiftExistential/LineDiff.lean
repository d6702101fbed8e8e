import SwiftExistential.Text.Basic
import Std.Data.TreeMap

/-!
# Line differences

What has to be deleted from one text and inserted to get another one, line by line. A shortest way
from one list of lines to the other is found by meeting in the middle: both ends are followed for
more and more changes until the two searches meet, and the two halves are treated alike. The pieces
are then moved up and down, so that changes that belong together join; only insertions pass kept
lines.

The result is for readers. It shows what a migration would do to a file, and no other part of the
program depends on it.
-/

set_option autoImplicit false

namespace SwiftExistential.LineDiff

/-- What happens to lines. -/
inductive Kind where
  | kept
  | deleted
  | inserted
deriving DecidableEq, Repr

/-- Lines that have the same fate. -/
structure Piece where
  kind : Kind
  lines : List Text
deriving DecidableEq, Repr

/-! ## Lines -/

/-- The lines of a text with their ends. A line ends with a line feed, a carriage return, or both.
-/
def splitLines : Text → List Text
  | [] => []
  | '\r' :: '\n' :: rest => ['\r', '\n'] :: splitLines rest
  | c :: rest =>
      if c = '\r' || c = '\n' then [c] :: splitLines rest
      else match splitLines rest with
        | [] => [[c]]
        | line :: lines => (c :: line) :: lines

/-- The number of lines that two lists have in common at their start. -/
def commonStart : List Text → List Text → Nat
  | a :: as, b :: bs => if a = b then commonStart as bs + 1 else 0
  | _, _ => 0

/-- The number of lines that two lists have in common at their end. -/
def commonEnd (as bs : List Text) : Nat := commonStart as.reverse bs.reverse

/-! ## Where two searches meet -/

/-- How far each diagonal was followed. Diagonal `k` holds the places with `k` more old lines passed
than new ones. -/
structure Reach where
  ends : Std.TreeMap Int Nat

def Reach.at (r : Reach) (k : Int) : Nat := r.ends.getD k 0

/-- Sets how far a diagonal was followed. -/
def Reach.set (r : Reach) (k : Int) (x : Nat) : Reach := ⟨r.ends.insert k x⟩

/-- Where a path with `d` changes on diagonal `k` starts to follow common lines: behind a deletion
or an insertion, whichever gets further. -/
def Reach.start (r : Reach) (d k : Int) : Nat :=
  if k = -d || (k != d && r.at (k - 1) < r.at (k + 1)) then r.at (k + 1)
  else r.at (k - 1) + 1

/-- The diagonals that paths with `d` changes end on, from above. -/
def diagonals (d : Nat) : List Int := (List.range (d + 1)).map fun (i : Nat) => (d : Int) - 2 * i

/-- The state of two searches. -/
structure Search where
  forward : Reach
  backward : Reach

/-- Follows paths with `d` changes from the start. The place where the other search is met is the
one where the last common lines begin. -/
def searchForward (old new : List Text) (d : Nat) : List Int → Search → Option (Nat × Nat) × Search
  | [], s => (none, s)
  | k :: rest, s =>
      let x := s.forward.start d k
      let y := ((x : Int) - k).toNat
      let reached := x + commonStart (old.drop x) (new.drop y)
      let s' := { s with forward := s.forward.set k reached }
      let delta : Int := (old.length : Int) - new.length
      if delta % 2 != 0 && (k - delta).natAbs + 1 ≤ d &&
          old.length ≤ reached + s.backward.at (delta - k) then (some (x, y), s')
      else searchForward old new d rest s'

/-- Follows paths with `d` changes from the end. -/
def searchBackward (old new : List Text) (d : Nat) : List Int → Search → Option (Nat × Nat) × Search
  | [], s => (none, s)
  | k :: rest, s =>
      let x := s.backward.start d k
      let y := ((x : Int) - k).toNat
      let common := commonStart (old.reverse.drop x) (new.reverse.drop y)
      let s' := { s with backward := s.backward.set k (x + common) }
      let delta : Int := (old.length : Int) - new.length
      if delta % 2 == 0 && (k - delta).natAbs ≤ d &&
          old.length ≤ x + common + s.forward.at (delta - k) then
        (some (old.length - (x + common), new.length - (y + common)), s')
      else searchBackward old new d rest s'

/-- Searches with more and more changes, so many rounds at most. -/
def searchFrom (old new : List Text) : Nat → Nat → Search → Option (Nat × Nat)
  | 0, _, _ => none
  | rounds + 1, d, s =>
      match searchForward old new d (diagonals d) s with
      | (some place, _) => some place
      | (none, s') =>
          match searchBackward old new d (diagonals d) s' with
          | (some place, _) => some place
          | (none, s'') => searchFrom old new rounds (d + 1) s''

/-- A place in the middle of a shortest way from one list to the other. -/
def middle? (old new : List Text) : Option (Nat × Nat) :=
  searchFrom old new ((old.length + new.length + 1) / 2 + 1) 0 ⟨⟨∅⟩, ⟨∅⟩⟩

/-! ## The pieces -/

def piece (kind : Kind) (lines : List Text) : List Piece :=
  if lines.isEmpty then [] else [⟨kind, lines⟩]

/-- The pieces of a shortest way, with so many halvings at most. -/
def piecesWith : Nat → List Text → List Text → List Piece
  | 0, old, new => piece .deleted old ++ piece .inserted new
  | fuel + 1, old, new =>
      let start := commonStart old new
      let old' := old.drop start
      let new' := new.drop start
      let ending := commonEnd old' new'
      let innerOld := old'.take (old'.length - ending)
      let innerNew := new'.take (new'.length - ending)
      let inner :=
        if innerOld.isEmpty || innerNew.isEmpty then
          piece .deleted innerOld ++ piece .inserted innerNew
        else match middle? innerOld innerNew with
          | none => piece .deleted innerOld ++ piece .inserted innerNew
          | some (x, y) =>
              piecesWith fuel (innerOld.take x) (innerNew.take y) ++
                piecesWith fuel (innerOld.drop x) (innerNew.drop y)
      piece .kept (old.take start) ++ inner ++ piece .kept (old'.drop (old'.length - ending))

/-- The pieces of a shortest way from one list to the other. -/
def pieces (old new : List Text) : List Piece := piecesWith (old.length + new.length + 1) old new

/-! ## Moving pieces -/

/-- A piece between those before it, the nearest first, and those after it. -/
structure Focus where
  before : List Piece
  here : Piece
  after : List Piece

/-- Puts kept lines in front of pieces. -/
def keepBefore (lines : List Text) : List Piece → List Piece
  | ⟨.kept, more⟩ :: rest => ⟨.kept, lines ++ more⟩ :: rest
  | rest => ⟨.kept, lines⟩ :: rest

/-- Puts kept lines behind pieces, given the nearest first. -/
def keepAfter (lines : List Text) : List Piece → List Piece
  | ⟨.kept, more⟩ :: rest => ⟨.kept, more ++ lines⟩ :: rest
  | rest => ⟨.kept, lines⟩ :: rest

/-- How many kept lines let a piece pass that has so many lines in common with them. -/
def passed (piece : Piece) (common : Nat) : Nat := if piece.kind = .inserted then common else 0

/-- Moves a piece up, so many steps at most. Kept lines that end like an insertion let it pass, a
piece of the same kind joins it, and one of the other kind changes places with it. -/
def moveUp : Nat → Focus → Focus
  | 0, f => f
  | fuel + 1, f =>
      match f.before with
      | [] => f
      | previous :: rest =>
          if previous.kind = .kept then
            let n := passed f.here (commonEnd previous.lines f.here.lines)
            let stay := previous.lines.take (previous.lines.length - n)
            let moved := previous.lines.drop (previous.lines.length - n)
            if n = 0 then
              if previous.lines.isEmpty then moveUp fuel { f with before := rest } else f
            else
              moveUp fuel
                { before := if stay.isEmpty then rest else ⟨.kept, stay⟩ :: rest,
                  here := ⟨f.here.kind, moved ++ f.here.lines.take (f.here.lines.length - n)⟩,
                  after := keepBefore moved f.after }
          else if previous.kind = f.here.kind then
            moveUp fuel ⟨rest, ⟨f.here.kind, previous.lines ++ f.here.lines⟩, f.after⟩
          else moveUp fuel ⟨rest, f.here, previous :: f.after⟩

/-- Moves a piece down, so many steps at most. -/
def moveDown : Nat → Focus → Focus
  | 0, f => f
  | fuel + 1, f =>
      match f.after with
      | [] => f
      | next :: rest =>
          if next.kind = .kept then
            let n := passed f.here (commonStart next.lines f.here.lines)
            let moved := next.lines.take n
            let stay := next.lines.drop n
            if n = 0 then
              if next.lines.isEmpty then moveDown fuel { f with after := rest } else f
            else
              moveDown fuel
                { before := keepAfter moved f.before,
                  here := ⟨f.here.kind, f.here.lines.drop n ++ moved⟩,
                  after := if stay.isEmpty then rest else ⟨.kept, stay⟩ :: rest }
          else if next.kind = f.here.kind then
            moveDown fuel ⟨f.before, ⟨f.here.kind, f.here.lines ++ next.lines⟩, rest⟩
          else moveDown fuel ⟨next :: f.before, f.here, rest⟩

/-- The steps that moving one of the pieces can take. -/
def movesFor (ps : List Piece) : Nat := 
  ps.length + 2 * ps.foldl (fun n p => n + p.lines.length) 0 + 1

/-- Moves the pieces of a kind, one after the other. -/
def settle (kind : Kind) (moves : Nat) : Nat → List Piece → List Piece → List Piece
  | 0, before, after => before.reverse ++ after
  | _, before, [] => before.reverse
  | fuel + 1, before, p :: after =>
      if p.kind = kind then
        let f := moveDown moves (moveUp moves ⟨before, p, after⟩)
        settle kind moves fuel (f.here :: f.before) f.after
      else settle kind moves fuel (p :: before) after

/-- Joins what belongs together: first the deletions are moved, then the insertions. -/
def compact (ps : List Piece) : List Piece :=
  let pass := fun (kind : Kind) (ps : List Piece) =>
    settle kind (movesFor ps) (movesFor ps * movesFor ps) [] ps
  pass .inserted (pass .deleted ps)

/-! ## Printing -/

/-- The lines of pieces in print: between kept lines, all that is deleted comes before all that is
inserted. The first two arguments are what waits to be printed. -/
def arrange : List Text → List Text → List Piece → List (Char × Text)
  | deleted, inserted, [] => deleted.map (('-', ·)) ++ inserted.map (('+', ·))
  | deleted, inserted, p :: rest =>
      match p.kind with
      | .deleted => arrange (deleted ++ p.lines) inserted rest
      | .inserted => arrange deleted (inserted ++ p.lines) rest
      | .kept =>
          deleted.map (('-', ·)) ++ inserted.map (('+', ·)) ++ p.lines.map ((' ', ·)) ++
            arrange [] [] rest

/-- A printed line. One without an end gets one. -/
def printLine (sign : Char) (line : Text) : Text :=
  let ended := line.getLast? = some '\n' || line.getLast? = some '\r'
  sign :: line ++ if ended then [] else ['\n']

/-- **The differences between two texts in print.** -/
def render (old new : Text) : Text :=
  (arrange [] [] (compact (pieces (splitLines old) (splitLines new)))).flatMap fun (sign, line) =>
    printLine sign line

end SwiftExistential.LineDiff
