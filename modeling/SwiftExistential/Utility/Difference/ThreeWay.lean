import SwiftExistential.Utility.Difference.Lines

/-!
# Differences between three texts

Two texts are compared with a third one, which both may come from. Changes that touch each other
make up one piece, in which the texts differ. One of the texts may stand apart from the others
there.

The steps from the common text to each of the others come from two comparisons. They are merged in
the order of the common lines, and where steps of both touch they are put into one piece until none
is left that touches it. A piece can then be shown, or its changes can be made in the first text.
-/

set_option autoImplicit false

namespace SwiftExistential.Utility.Difference

/-- The lines from one to another, which are counted from one on. The last one stands before the
first one if there are none. -/
structure Stretch where
  first : Int
  last : Int
deriving DecidableEq, Repr

namespace Stretch

/-- So many lines behind others. -/
def ofCount (before count : Nat) : Stretch := ⟨before + 1, before + count⟩

def count (s : Stretch) : Nat := (s.last + 1 - s.first).toNat

def lines (s : Stretch) (all : Array Line) : List Line := linesAt all (s.first - 1).toNat s.count

end Stretch

/-- A change from lines of a text to lines of the text that both may come from. -/
structure Step where
  own : Stretch
  common : Stretch

def steps (r : Regard) (own common : List Line) : List Step :=
  (r.changes 100 own common).map fun c => ⟨.ofCount c.first c.deleted, .ofCount c.second c.inserted⟩

/-- A piece in which texts differ. -/
structure Piece where
  one : Stretch
  other : Stretch
  common : Stretch
  /-- Whether each of the two texts has changed. -/
  isOneChanged : Bool
  isOtherChanged : Bool

/-- The steps that make up a piece so far, the last one first, and those behind. -/
structure Climb where
  one : List Step
  other : List Step
  oneLeft : List Step
  otherLeft : List Step
  /-- Whether the last line of the piece is in a step of the other text. -/
  isOther : Bool
  /-- The last line. -/
  last : Int

/-- Adds steps that touch the piece. The number bounds them. -/
def Climb.add : Nat → Climb → Climb
  | 0, c => c
  | fuel + 1, c =>
      let left := if c.isOther then c.oneLeft else c.otherLeft
      match left with
      | [] => c
      | step :: rest =>
          if step.common.first > c.last + 1 then c
          else
            let c := if c.isOther then { c with one := step :: c.one, oneLeft := rest }
              else { c with other := step :: c.other, otherLeft := rest }
            let c := if c.last < step.common.last then { c with isOther := !c.isOther, last := step.common.last }
              else c
            c.add fuel

/-- The lines of a text that belong to common lines, by the steps in the piece, the last one first.
The lines before it are those of the last piece. -/
def ownStretch (used : List Step) (before beforeCommon : Int) (common : Stretch) : Stretch :=
  match used.getLast?, used with
  | some start, stop :: _ =>
      ⟨common.first - start.common.first + start.own.first, common.last - stop.common.last + stop.own.last⟩
  | _, _ => ⟨common.first - beforeCommon + before, common.last - beforeCommon + before⟩

/-- The pieces of steps, behind a piece. The number bounds them. -/
def piecesFrom : Nat → Piece → List Step → List Step → List Piece
  | 0, _, _, _ => []
  | fuel + 1, before, one, other =>
      let start : Option Climb := match one, other with
        | [], [] => none
        | s :: rest, [] => some ⟨[s], [], rest, [], false, s.common.last⟩
        | [], s :: rest => some ⟨[], [s], [], rest, true, s.common.last⟩
        | s :: rest, t :: others =>
            if s.common.first > t.common.first then some ⟨[], [t], s :: rest, others, true, t.common.last⟩
            else some ⟨[s], [], rest, t :: others, false, s.common.last⟩
      match start with
      | none => []
      | some c =>
          let c := c.add (one.length + other.length)
          let firsts := (c.one.getLast?.toList ++ c.other.getLast?.toList).map fun s => s.common.first
          let common : Stretch := ⟨firsts.foldl min (firsts.headD 0), c.last⟩
          let piece : Piece :=
            ⟨ownStretch c.one before.one.last before.common.last common,
              ownStretch c.other before.other.last before.common.last common, common, !c.one.isEmpty,
              !c.other.isEmpty⟩
          piece :: piecesFrom fuel piece c.oneLeft c.otherLeft

/-- **The pieces in which three texts differ**, from the steps of two of them to the third. -/
def pieces (one other : List Step) : List Piece :=
  piecesFrom (one.length + other.length) ⟨⟨0, 0⟩, ⟨0, 0⟩, ⟨0, 0⟩, false, false⟩ one other

/-! ## In the order of the files

Which file is the common one depends on what is asked for, so pieces are put into the order in which
the files are given. -/

/-- A piece, with the lines of each file in the order in which they are given, and the file that
stands apart. -/
structure Region where
  stretches : List Stretch
  odd : Option Nat

namespace Region

def stretch (r : Region) (i : Nat) : Stretch := (r.stretches[i]?).getD ⟨1, 0⟩

/-- What a piece is, where one of the files is the common one. Texts that have changed in the same
way stand together. -/
def ofPiece (files : List (Array Line)) (common : Nat) (p : Piece) : Region :=
  let linesOf := fun (i : Nat) (s : Stretch) => s.lines ((files[i]?).getD #[])
  let other := 3 - common
  let odd := if !p.isOneChanged then some other
    else if !p.isOtherChanged then some 0
    else if linesOf 0 p.one = linesOf other p.other then some common else none
  ⟨if common = 1 then [p.one, p.common, p.other] else [p.one, p.other, p.common], odd⟩

end Region

/-! ## Forms

A piece is shown file by file, as commands for an editor, or as a part of the merged text. Conflicts
are marked by lines with the names of the files. -/

def wholeLines (lines : List Line) : Text := lines.flatMap fun l => l.text ++ if l.hasEnd then ['\n'] else []

/-- The lines of a region in one file, behind a mark. -/
def regionFile (files : List (Array Line)) (mark : Text) (r : Region) (i : Nat) (hasText : Bool) : Text :=
  let s := r.stretch i
  let range := if s.first = s.last + 1 then shownNat s.last.toNat ++ ['a']
    else if s.first = s.last then shownNat s.first.toNat ++ ['c']
    else shownNat s.first.toNat ++ ',' :: shownNat s.last.toNat ++ ['c']
  let lines := if hasText then s.lines ((files[i]?).getD #[]) else []
  shownNat (i + 1) ++ ':' :: range ++ '\n' :: lines.flatMap fun l =>
    mark ++ l.text ++ '\n' :: if l.hasEnd then [] else "\\ No newline at end of file\n".toList

/-- A region as it is usually shown. Lines that are the same in two files are shown once. -/
def regionText (files : List (Array Line)) (mark : Text) (r : Region) : Text :=
  let number := (r.odd.map fun i => shownNat (i + 1)).getD []
  let order := if r.odd = some 1 then [0, 2, 1] else [0, 1, 2]
  let hidden := r.odd.map fun i => if i = 0 then 1 else 0
  "====".toList ++ number ++ '\n' :: order.flatMap fun i => regionFile files mark r i (hidden != some i)

/-- Which changes are made in the first file. -/
structure Wanted where
  /-- Whether lines are shown that the second file has, where it alone differs too. -/
  showsSecond : Bool
  /-- Whether conflicts are marked. -/
  flags : Bool
  onlyConflicts : Bool
  onlyOthers : Bool

def Wanted.conflict? (w : Wanted) (r : Region) : Option Bool :=
  match r.odd with
  | none => if w.onlyOthers then none else some w.flags
  | some 1 => if w.showsSecond then some true else none
  | some 2 => if w.onlyConflicts then none else some false
  | some _ => none

def conflictMark (c : Char) (name : Text) : Text := List.replicate 7 c ++ ' ' :: name ++ ['\n']

/-- Lines for an editor, which would take a dot at the start of a line for an end, and whether there
is one. -/
def dotted (lines : List Line) : Text × Bool :=
  (lines.flatMap fun l => (if l.text.head? == some '.' then ['.'] else []) ++ l.text ++ ['\n'],
    lines.any fun l => l.text.head? == some '.')

/-- The end of lines for an editor, which removes the dots that were added. -/
def undotted (hasDots : Bool) (start : Int) (count : Nat) : Text :=
  let range := if count = 1 then shownNat start.toNat
    else shownNat start.toNat ++ ',' :: shownNat (start.toNat + count - 1)
  ".\n".toList ++ if hasDots then range ++ "s/^\\.//\n".toList else []

def regionCommands (w : Wanted) (names : List Text) (files : List (Array Line)) (r : Region) (isConflict : Bool) :
    Text :=
  let name := fun (i : Nat) => (names[i]?).getD []
  let lines := fun (i : Nat) => (r.stretch i).lines ((files[i]?).getD #[])
  let own := r.stretch 0
  let place := fun (n : Int) => shownNat n.toNat
  if isConflict then
    let (second, secondDots) := if w.showsSecond then dotted (lines 1) else ([], false)
    let (third, thirdDots) := dotted (lines 2)
    let isAll := r.odd.isNone
    let ending := if isAll then
        (if w.showsSecond then conflictMark '|' (name 1) ++ second else []) ++ "=======\n".toList ++ third
      else []
    place own.last ++ "a\n".toList ++ ending ++ conflictMark '>' (name 2) ++
      undotted (isAll && (secondDots || thirdDots)) (own.last + 2)
        ((r.stretch 1).count + (r.stretch 2).count + 1) ++
      place (own.first - 1) ++ "a\n".toList ++ conflictMark '<' (name (if isAll then 0 else 1)) ++
      (if isAll then [] else second ++ "=======\n".toList) ++
      undotted (!isAll && secondDots) (own.first + 1) (r.stretch 1).count
  else
    let range := if own.first < own.last then place own.first ++ ',' :: place own.last else place own.last
    if (r.stretch 2).count = 0 then range ++ "d\n".toList
    else
      let (text, hasDots) := dotted (lines 2)
      range ++ (if own.count = 0 then "a\n" else "c\n").toList ++ text ++
        undotted hasDots own.first (r.stretch 2).count

/-- The first file with changes. So many of its lines have been read. -/
def merged (w : Wanted) (names : List Text) (files : List (Array Line)) (first : Array Line) :
    Nat → List Region → Text
  | done, [] => wholeLines (first.toList.drop done)
  | done, r :: rest =>
      match w.conflict? r with
      | none => merged w names files first done rest
      | some isConflict =>
          let name := fun (i : Nat) => (names[i]?).getD []
          let lines := fun (i : Nat) => wholeLines ((r.stretch i).lines ((files[i]?).getD #[]))
          let own := r.stretch 0
          let before := (own.first - 1).toNat
          let start := if !isConflict then []
            else (if r.odd.isNone then conflictMark '<' (name 0) ++ lines 0 else []) ++
              (if w.showsSecond then conflictMark (if r.odd.isNone then '|' else '<') (name 1) ++ lines 1 else []) ++
              "=======\n".toList
          wholeLines (linesAt first done (before - done)) ++ start ++ lines 2 ++
            (if isConflict then conflictMark '>' (name 2) else []) ++
            merged w names files first (before + own.count) rest

end SwiftExistential.Utility.Difference
