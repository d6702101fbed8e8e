import Std.Data.HashMap
import Std.Data.TreeMap
import SwiftExistential.Expression.Basic
import SwiftExistential.Utility.Options

/-!
# Lines of two files

Lines of two texts, when they are the same, and the shortest way from one text to the other.

Lines that are the same get the same number, and from then on only lists of numbers are compared.
The way that is found is one of several that are equally short, and programs show it, so each step
that decides between them is followed here: what is left out before the search, where the two
searches meet, and how far changes are moved at last.
-/

set_option autoImplicit false

/-! ## Scripts of changes

What has to be deleted from one list and inserted to get another one. A shortest way is found by
following paths from both ends until they meet. What has no counterpart in the other list is left
out before. At last each run of changes moves as far down as it can, so that runs that belong
together join. -/

namespace SwiftExistential.Utility.Difference

def isMarked (marks : Array Bool) (i : Int) : Bool :=
  if i < 0 then false else (marks[i.toNat]?).getD false

/-- Marks an element, or takes its mark away. -/
def setMark (marks : Array Bool) (i : Int) (b : Bool) : Array Bool := marks.setIfInBounds i.toNat b

def elementAt (xs : Array Nat) (i : Int) : Option Nat := if i < 0 then none else xs[i.toNat]?

/-! ### Where two searches meet

A place in both lists lies on a diagonal. The search from the start and the one from the end both
keep, for each diagonal, how far they have come in so many changes. -/

/-- A part of both lists. -/
structure Window where
  left : Int
  leftEnd : Int
  right : Int
  rightEnd : Int

/-- How far each diagonal was followed, and between which of them. -/
structure Reach where
  ends : Std.HashMap Int Int
  low : Int
  high : Int

def Reach.at (r : Reach) (d missing : Int) : Int := r.ends.getD d missing

/-- Follows equal elements downwards, so many at most. -/
def followDown (a b : Array Nat) (w : Window) : Nat → Int → Int → Int
  | 0, x, _ => x
  | fuel + 1, x, y =>
      if x < w.leftEnd && y < w.rightEnd && elementAt a x == elementAt b y then
        followDown a b w fuel (x + 1) (y + 1)
      else x

/-- Follows equal elements upwards, so many at most. -/
def followUp (a b : Array Nat) (w : Window) : Nat → Int → Int → Int
  | 0, x, _ => x
  | fuel + 1, x, y =>
      if w.left < x && w.right < y && elementAt a (x - 1) == elementAt b (y - 1) then
        followUp a b w fuel (x - 1) (y - 1)
      else x

def unreachable : Int := 1000000000000

/-- Makes the search from the start one step longer on diagonals from one on. Returns where it meets
the other one. -/
def extendDown (a b : Array Nat) (w : Window) (isOdd : Bool) (other : Reach) :
    Nat → Int → Reach → Option (Int × Int) × Reach
  | 0, _, r => (none, r)
  | fuel + 1, d, r =>
      if d < r.low then (none, r)
      else
        let low := r.at (d - 1) (-1)
        let high := r.at (d + 1) (-1)
        let start := if low < high then high else low + 1
        let x := followDown a b w (a.size + 1) start (start - d)
        let r := { r with ends := r.ends.insert d x }
        if isOdd && other.low ≤ d && d ≤ other.high && other.at d unreachable ≤ x then (some (x, x - d), r)
        else extendDown a b w isOdd other fuel (d - 2) r

/-- Makes the search from the end one step longer on diagonals from one on. Returns where it meets
the other one. -/
def extendUp (a b : Array Nat) (w : Window) (isOdd : Bool) (other : Reach) :
    Nat → Int → Reach → Option (Int × Int) × Reach
  | 0, _, r => (none, r)
  | fuel + 1, d, r =>
      if d < r.low then (none, r)
      else
        let low := r.at (d - 1) unreachable
        let high := r.at (d + 1) unreachable
        let start := if low < high then low else high - 1
        let x := followUp a b w (a.size + 1) start (start - d)
        let r := { r with ends := r.ends.insert d x }
        if !isOdd && other.low ≤ d && d ≤ other.high && x ≤ other.at d (-1) then (some (x, x - d), r)
        else extendUp a b w isOdd other fuel (d - 2) r

/-- Takes in one more diagonal on each side, if there is one. -/
def Reach.widen (r : Reach) (w : Window) (missing : Int) : Reach :=
  let least := w.left - w.rightEnd
  let greatest := w.leftEnd - w.right
  let r := if r.low > least then
      { r with low := r.low - 1, ends := r.ends.insert (r.low - 2) missing }
    else { r with low := r.low + 1 }
  if r.high < greatest then { r with high := r.high + 1, ends := r.ends.insert (r.high + 2) missing }
  else { r with high := r.high - 1 }

/-- Follows both searches, with so many steps at most, until they meet. -/
def meetFrom (a b : Array Nat) (w : Window) (isOdd : Bool) : Nat → Reach → Reach → Int × Int
  | 0, _, _ => (w.leftEnd, w.rightEnd)
  | fuel + 1, down, up =>
      let down := down.widen w (-1)
      let steps := a.size + b.size + 3
      match extendDown a b w isOdd up steps down.high down with
      | (some place, _) => place
      | (none, down) =>
          let up := up.widen w unreachable
          match extendUp a b w isOdd down steps up.high up with
          | (some place, _) => place
          | (none, up) => meetFrom a b w isOdd fuel down up

/-- **Where two searches meet** in a part of both lists. -/
def meet (a b : Array Nat) (w : Window) : Int × Int :=
  let first := w.left - w.right
  let last := w.leftEnd - w.rightEnd
  meetFrom a b w ((first - last) % 2 != 0) (a.size + b.size + 2)
    ⟨(∅ : Std.HashMap Int Int).insert first w.left, first, first⟩
    ⟨(∅ : Std.HashMap Int Int).insert last w.leftEnd, last, last⟩

/-! ### What changes -/

/-- The elements that are deleted and those that are inserted. -/
structure Marks where
  deleted : Array Bool
  inserted : Array Bool

/-- Marks elements between two places. -/
def markFrom (marks : Array Bool) : Nat → Int → Array Bool
  | 0, _ => marks
  | n + 1, i => markFrom (setMark marks i true) n (i + 1)

/-- Marks what changes in a part of both lists, with so many levels at most. -/
def compareIn (a b : Array Nat) : Nat → Window → Marks → Marks
  | 0, _, m => m
  | fuel + 1, w, m =>
      let down := followDown a b w (a.size + 1) w.left w.right
      let w := { w with left := down, right := w.right + (down - w.left) }
      let up := followUp a b w (a.size + 1) w.leftEnd w.rightEnd
      let w := { w with leftEnd := up, rightEnd := w.rightEnd - (w.leftEnd - up) }
      if w.left = w.leftEnd then
        { m with inserted := markFrom m.inserted (w.rightEnd - w.right).toNat w.right }
      else if w.right = w.rightEnd then
        { m with deleted := markFrom m.deleted (w.leftEnd - w.left).toNat w.left }
      else
        let (x, y) := meet a b w
        let m := compareIn a b fuel { w with leftEnd := x, rightEnd := y } m
        compareIn a b fuel { w with left := x, right := y } m

/-! ### What is left out before

An element that the other list does not have is left out, and one that it has very often may be, if
enough of those around it are left out as well. -/

def countsOf (xs : Array Nat) : Std.HashMap Nat Nat :=
  xs.foldl (fun counts x => counts.insert x (counts.getD x 0 + 1)) ∅

/-- What is done with an element before lists are compared. -/
inductive Fate where
  | kept
  | dropped
  /-- It is dropped if those around it are. -/
  | doubtful
deriving DecidableEq, Repr

/-- The number from which on an element occurs often. -/
def manyOf (size : Nat) : Nat := go size (size / 64) 5
where
  /-- Doubles the number while the size is large. -/
  go : Nat → Nat → Nat → Nat
    | 0, _, many => many
    | fuel + 1, n, many => if n / 4 > 0 then go fuel (n / 4) (2 * many) else many

/-- The first thoughts about elements: one that the other list does not have is dropped. -/
def firstFates (xs : Array Nat) (others : Std.HashMap Nat Nat) : Array Fate :=
  let many := manyOf xs.size
  xs.map fun x =>
    let n := others.getD x 0
    if n = 0 then .dropped else if n > many then .doubtful else .kept

def fateAt (fates : Array Fate) (i : Nat) : Fate := (fates[i]?).getD .kept

/-- Keeps doubtful elements between places if something holds for them. -/
def keepWhere (holds : Nat → Bool) (fates : Array Fate) (start stop : Nat) : Array Fate :=
  (List.range (stop - start)).foldl
    (fun fates k =>
      let i := start + k
      if fateAt fates i = .doubtful && holds i then fates.setIfInBounds i .kept else fates) fates

/-- How many elements in a row have to be doubtful to be kept, in a run of a length. -/
def minimumOf (length : Nat) : Nat := go length (length / 4) 1 + 1
where
  /-- Doubles the number while the length is large. -/
  go : Nat → Nat → Nat → Nat
    | 0, _, n => n
    | fuel + 1, size, n => if size / 4 > 0 then go fuel (size / 4) (2 * n) else n

/-- The places of doubtful elements that stand so many in a row at least. -/
def crowded (fates : Array Fate) (start stop minimum : Nat) : List Nat :=
  let close := fun (run : List Nat) (found : List Nat) => if run.length ≥ minimum then run ++ found else found
  let (run, found) := (List.range (stop - start)).foldl
    (fun (acc : List Nat × List Nat) k =>
      let i := start + k
      if fateAt fates i = .doubtful then (i :: acc.1, acc.2) else ([], close acc.1 acc.2)) ([], [])
  close run found

/-- Keeps doubtful elements at the start of a run, in the order of places, up to three in a row that
are dropped. -/
def keepEdge (fates : Array Fate) : Nat → Nat → List Nat → Array Fate
  | _, _, [] => fates
  | j, row, i :: rest =>
      let fate := fateAt fates i
      if j ≥ 8 && fate = .dropped then fates
      else
        let fates := if fate = .doubtful then fates.setIfInBounds i .kept else fates
        let row := if fate = .dropped then row + 1 else 0
        if row = 3 then fates else keepEdge fates (j + 1) row rest

def runEnd (fates : Array Fate) : Nat → Nat → Nat
  | 0, j => j
  | fuel + 1, j => if j < fates.size && fateAt fates j != .kept then runEnd fates fuel (j + 1) else j

/-- The end of a run without doubtful elements at its end. -/
def runStop (fates : Array Fate) (start : Nat) : Nat → Nat
  | 0 => 0
  | j + 1 => if start < j + 1 && fateAt fates j = .doubtful then runStop fates start j else j + 1

/-- Decides about doubtful elements, from a place on. -/
def decideFrom : Nat → Nat → Array Fate → Array Fate
  | 0, _, fates => fates
  | fuel + 1, i, fates =>
      if i ≥ fates.size then fates
      else match fateAt fates i with
        | .kept => decideFrom fuel (i + 1) fates
        | .doubtful => decideFrom fuel (i + 1) (fates.setIfInBounds i .kept)
        | .dropped =>
            let whole := runEnd fates fates.size i
            let stop := runStop fates i whole
            let fates := keepWhere (fun _ => true) fates stop whole
            let places := (List.range (stop - i)).map (i + ·)
            let doubtful := places.countP fun k => fateAt fates k = .doubtful
            let length := stop - i
            if doubtful * 4 > length then
              decideFrom fuel (i + 1) (keepWhere (fun _ => true) fates i stop)
            else
              let many := crowded fates i stop (minimumOf length)
              let fates := keepWhere many.contains fates i stop
              let fates := keepEdge fates 0 0 places
              let fates := keepEdge fates 0 0 places.reverse
              decideFrom fuel stop fates

def fatesOf (xs : Array Nat) (others : Std.HashMap Nat Nat) : Array Fate :=
  decideFrom (xs.size + 1) 0 (firstFates xs others)

def keptPlaces (fates : Array Fate) : Array Nat :=
  (List.range fates.size).toArray.filter fun i => fateAt fates i != .dropped

/-! ### Moving changes

A run of changes can be moved where the element before it and its last element are the same. Runs
that come to touch each other become one. -/

/-- The state of moving the changes of one list along those of the other one. -/
structure Moving where
  marks : Array Bool
  /-- The start and the end of the run. -/
  start : Int
  stop : Int
  /-- The place in the other list. -/
  other : Int
  /-- The last end that has a counterpart. -/
  partner : Int

def unmarkedFrom (marks : Array Bool) : Nat → Int → Int
  | 0, i => i
  | fuel + 1, i => if isMarked marks i then unmarkedFrom marks fuel (i + 1) else i

def unmarkedTo (marks : Array Bool) : Nat → Int → Int
  | 0, i => i
  | fuel + 1, i => if isMarked marks i then unmarkedTo marks fuel (i - 1) else i

/-- Moves a run up while it can. -/
def moveUp (xs : Array Nat) (others : Array Bool) : Nat → Moving → Moving
  | 0, m => m
  | fuel + 1, m =>
      if m.start > 0 && elementAt xs (m.start - 1) == elementAt xs (m.stop - 1) then
        let marks := setMark (setMark m.marks (m.start - 1) true) (m.stop - 1) false
        let start := unmarkedTo marks (xs.size + 1) (m.start - 2) + 1
        let other := unmarkedTo others (others.size + 1) (m.other - 1)
        moveUp xs others fuel { m with marks := marks, start := start, stop := m.stop - 1, other := other }
      else m

/-- Moves a run down while it can. -/
def moveDown (xs : Array Nat) (others : Array Bool) : Nat → Moving → Moving
  | 0, m => m
  | fuel + 1, m =>
      if m.stop < xs.size && elementAt xs m.start == elementAt xs m.stop then
        let marks := setMark (setMark m.marks m.start false) m.stop true
        let stop := unmarkedFrom marks (xs.size + 1) (m.stop + 1)
        let other := unmarkedFrom others (others.size + 1) (m.other + 1)
        let partner := if other > m.other + 1 then stop else m.partner
        moveDown xs others fuel
          { marks := marks, start := m.start + 1, stop := stop, other := other, partner := partner }
      else m

/-- Moves a run up and down until it does not grow any more. -/
def moveRun (xs : Array Nat) (others : Array Bool) : Nat → Moving → Moving
  | 0, m => m
  | fuel + 1, m =>
      let length := m.stop - m.start
      let up := moveUp xs others (xs.size + 1) m
      let up := { up with partner := if isMarked others (up.other - 1) then up.stop else xs.size }
      let down := moveDown xs others (xs.size + 1) up
      if down.stop - down.start = length then down else moveRun xs others fuel down

def moveBack (others : Array Bool) : Nat → Moving → Moving
  | 0, m => m
  | fuel + 1, m =>
      if m.partner < m.stop then
        let marks := setMark (setMark m.marks (m.start - 1) true) (m.stop - 1) false
        let other := unmarkedTo others (others.size + 1) (m.other - 1)
        moveBack others fuel { m with marks := marks, start := m.start - 1, stop := m.stop - 1, other := other }
      else m

/-- Moves all runs of one list, from a place on. -/
def moveFrom (xs : Array Nat) (others : Array Bool) : Nat → Int → Int → Array Bool → Array Bool
  | 0, _, _, marks => marks
  | fuel + 1, i, j, marks =>
      if i ≥ xs.size then marks
      else if !isMarked marks i then
        moveFrom xs others fuel (i + 1) (unmarkedFrom others (others.size + 1) j + 1) marks
      else
        let stop := unmarkedFrom marks (xs.size + 1) (i + 1)
        let other := unmarkedFrom others (others.size + 1) j
        let m := moveRun xs others (xs.size + 2) ⟨marks, i, stop, other, xs.size⟩
        let m := moveBack others (xs.size + 1) m
        moveFrom xs others fuel m.stop m.other m.marks

def moveRuns (xs : Array Nat) (others marks : Array Bool) : Array Bool :=
  moveFrom xs others (2 * xs.size + 2) 0 0 marks

/-! ### Scripts -/

/-- Elements that are deleted, and those that are inserted in their place. -/
structure Change where
  /-- How many elements stand before it in both lists. -/
  first : Nat
  second : Nat
  deleted : Nat
  inserted : Nat
deriving DecidableEq, Repr

/-- The changes that marks stand for, from places on. -/
def changesFrom (m : Marks) : Nat → Nat → Nat → List Change
  | 0, _, _ => []
  | fuel + 1, i, j =>
      if i ≥ m.deleted.size && j ≥ m.inserted.size then []
      else
        let x := (unmarkedFrom m.deleted (m.deleted.size + 1) i).toNat
        let y := (unmarkedFrom m.inserted (m.inserted.size + 1) j).toNat
        if x = i && y = j then changesFrom m fuel (i + 1) (j + 1)
        else ⟨i, j, x - i, y - j⟩ :: changesFrom m fuel x y

/-- **The changes** that lead from one list to another. With `isMinimal`, nothing is left out
before. -/
def script (isMinimal : Bool) (a b : Array Nat) : List Change :=
  let fates := fun (xs ys : Array Nat) =>
    if isMinimal then xs.map fun _ => Fate.kept else fatesOf xs (countsOf ys)
  let first := fates a b
  let second := fates b a
  let keptA := keptPlaces first
  let keptB := keptPlaces second
  let pick := fun (xs : Array Nat) (places : Array Nat) => places.map fun i => (xs[i]?).getD 0
  let found := compareIn (pick a keptA) (pick b keptB) (a.size + b.size + 2)
    ⟨0, keptA.size, 0, keptB.size⟩
    ⟨Array.replicate keptA.size false, Array.replicate keptB.size false⟩
  let marksOf := fun (fates : Array Fate) (kept : Array Nat) (marks : Array Bool) =>
    kept.zipIdx.foldl (fun all (place, i) => all.setIfInBounds place ((marks[i]?).getD false))
      (fates.map fun f => f == .dropped)
  let deleted := marksOf first keptA found.deleted
  let inserted := marksOf second keptB found.inserted
  let deleted := moveRuns a inserted deleted
  let inserted := moveRuns b deleted inserted
  changesFrom ⟨deleted, inserted⟩ (a.size + b.size + 1) 0 0

end SwiftExistential.Utility.Difference

/-! ## Lines that are compared

Lines are the same if they are equal but for what is not looked at: the case of letters, and blanks.
A last line without an end differs from one with an end. Changes can be passed over if they are of
lines that do not matter. -/

namespace SwiftExistential.Utility.Difference

/-- How blanks are looked at. -/
inductive Blanks where
  | all
  /-- Tabs count as the blanks they stand for. -/
  | tabsExpanded
  /-- Those at the end of a line do not count. -/
  | endsIgnored
  /-- Tabs count as blanks, and those at the end of a line do not count. -/
  | tabsExpandedEndsIgnored
  /-- How many there are does not count. -/
  | countsIgnored
  | ignored
deriving DecidableEq, Repr

/-- Whether the end of a line is one of the blanks that do not count. -/
def Blanks.endIsBlank (b : Blanks) : Bool := b != .all && b != .tabsExpanded

/-- What is looked at when lines are compared. -/
structure Regard where
  ignoresCase : Bool
  blanks : Blanks
  ignoresReturns : Bool
  /-- Whether changes of empty lines do not matter. -/
  ignoresEmpty : Bool
  /-- Changes of lines in which one of these fits do not matter. -/
  ignored : List Expression
  isMinimal : Bool
  /-- Whether an end that the last line lacks is shown. -/
  showsEnds : Bool
  tabWidth : Nat

/-- A line, without its end, and whether it has one. -/
structure Line where
  text : Text
  hasEnd : Bool
deriving DecidableEq, Repr

def linesOf (t : Text) : List Line :=
  let lines := records t
  if t.getLast?.any (· != '\n') then
    lines.dropLast.map (⟨·, true⟩) ++ lines.getLast?.toList.map (⟨·, false⟩)
  else lines.map (⟨·, true⟩)

/-- Puts blanks in the place of tabs of a width, from a column on. -/
def tabless (width : Nat) : Nat → Text → Text
  | _, [] => []
  | column, '\t' :: rest =>
      let n := width - column % width
      List.replicate n ' ' ++ tabless width (column + n) rest
  | column, '\x08' :: rest => '\x08' :: tabless width (column - 1) rest
  | _, '\r' :: rest => '\r' :: tabless width 0 rest
  | column, c :: rest => c :: tabless width (column + 1) rest

/-- One blank in the place of several ones. -/
def singleBlanks : Bool → Text → Text
  | _, [] => []
  | wasBlank, c :: rest =>
      if Number.isSpace c then if wasBlank then singleBlanks true rest else ' ' :: singleBlanks true rest
      else c :: singleBlanks false rest

/-- A text without the blanks at its end. -/
def trimEnd (t : Text) : Text := (t.reverse.dropWhile Number.isSpace).reverse

def Regard.key (r : Regard) (l : Line) : Text × Bool :=
  let t := if r.ignoresReturns && l.text.getLast? = some '\r' && l.hasEnd then l.text.dropLast else l.text
  let t := match r.blanks with
    | .all => t
    | .tabsExpanded => tabless r.tabWidth 0 t
    | .endsIgnored => trimEnd t
    | .tabsExpandedEndsIgnored => trimEnd (tabless r.tabWidth 0 t)
    | .countsIgnored => singleBlanks false (trimEnd t)
    | .ignored => t.filter fun c => !Number.isSpace c
  let t := if r.ignoresCase then t.map Char.toLower else t
  (t, l.hasEnd || !r.showsEnds || r.blanks.endIsBlank)

/-- The number of lines that two lists have in common at their start. -/
def commonCount : List Line → List Line → Nat
  | a :: as, b :: bs => if a = b then commonCount as bs + 1 else 0
  | _, _ => 0

/-- Numbers for lines, so that those that are the same have the same number. -/
def numbered (r : Regard) (a b : List Line) : Array Nat × Array Nat :=
  let number := fun (acc : Std.TreeMap Text Nat × Array Nat) (l : Line) =>
    let (text, hasEnd) := r.key l
    let key := (if hasEnd then '+' else '-') :: text
    match acc.1[key]? with
    | some n => (acc.1, acc.2.push n)
    | none => (acc.1.insert key acc.1.size, acc.2.push acc.1.size)
  let (known, first) := a.foldl number (∅, #[])
  let (_, second) := b.foldl number (known, #[])
  (first, second)

/-- **The changes between two lists of lines.** Lines that both have at their ends are not compared,
but for some next to the others. -/
def Regard.changes (r : Regard) (horizon : Nat) (a b : List Line) : List Change :=
  let start := commonCount a b - horizon
  let a' := a.drop start
  let b' := b.drop start
  let isEven := !r.showsEnds || (a.getLast?.all Line.hasEnd) == (b.getLast?.all Line.hasEnd)
  let stop := if isEven then commonCount a'.reverse b'.reverse - horizon else 0
  let (first, second) := numbered r (a'.take (a'.length - stop)) (b'.take (b'.length - stop))
  (script r.isMinimal first second).map fun c => { c with first := c.first + start, second := c.second + start }

def Regard.isTrivial (r : Regard) (l : Line) : Bool :=
  let t := if r.ignoresReturns && l.text.getLast? = some '\r' then l.text.dropLast else l.text
  (r.ignoresEmpty && (if r.blanks.endIsBlank then t.all Number.isSpace else t.isEmpty)) ||
    r.ignored.any fun e => (Expression.find? ⟨false, false⟩ e none l.text).isSome

/-- Both lists of lines. -/
structure Sides where
  first : Array Line
  second : Array Line

def linesAt (lines : Array Line) (start count : Nat) : List Line := (lines.extract start (start + count)).toList

def Regard.passes (r : Regard) (s : Sides) (c : Change) : Bool :=
  (r.ignoresEmpty || !r.ignored.isEmpty) &&
    (linesAt s.first c.first c.deleted).all r.isTrivial && (linesAt s.second c.second c.inserted).all r.isTrivial

end SwiftExistential.Utility.Difference
