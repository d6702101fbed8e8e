import SwiftExistential.Utility.Listing

/-!
# How much files take

`du` adds up what files take, directory by directory. What has several names is counted once.

The sum of a directory is made from what stands in it, and is shown behind the sums below. How much
is shown depends on the depth, a threshold and patterns of what is left out; what is not shown is
counted all the same, except what is left out. Sizes are blocks or octets, in some unit.
-/

set_option autoImplicit false

namespace SwiftExistential.Utility

open Process

/-- How sizes are counted and shown. -/
structure UsageStyle where
  /-- Whether the octets of files count, and not the blocks. -/
  isApparent : Bool
  /-- Whether the number of files counts. -/
  countsFiles : Bool
  isHuman : Bool
  isDecimal : Bool
  /-- The size of the unit, and the text behind the number. -/
  unit : Nat
  unitText : Text
  showsAll : Bool
  /-- Whether a directory counts without those below. -/
  isSeparate : Bool
  maxDepth : Option Nat
  countsLinks : Bool
  follows : Bool
  followsGiven : Bool
  excluded : List Text
  /-- The least size, or the greatest one if it is negative. -/
  threshold : Option Int
  lineEnd : Char

/-- What has been counted so far. -/
structure UsageState where
  seen : List Location
  lines : Text

/-- The names that files of the same content have in common. -/
def usageKey (tree : FileTree) (location : Location) : Location :=
  ((tree.namesOf location).head?).getD location

def UsageStyle.own (s : UsageStyle) (e : Entry) : Nat :=
  if s.countsFiles then 1
  else if s.isApparent then (if e.letter == '-' || e.letter == 'l' then e.size else 0)
  else e.blocks * 1024

def UsageStyle.shown (s : UsageStyle) (n : Nat) : Text :=
  if s.countsFiles then shownNat n
  else if s.isHuman then humanSize s.isDecimal n
  else shownNat ((n + s.unit - 1) / s.unit) ++ s.unitText

/-- The line of a path, unless its size is out of bounds. -/
def UsageStyle.line (s : UsageStyle) (n : Nat) (path : Text) : Text :=
  let fits := match s.threshold with
    | none => true
    | some bound => if bound ≥ 0 then (n : Int) ≥ bound else (n : Int) ≤ -bound
  if fits then s.shown n ++ '\t' :: path ++ [s.lineEnd] else []

def UsageStyle.isExcluded (s : UsageStyle) (path : Text) : Bool :=
  s.excluded.any fun pattern => fitsPattern pattern (lastName path) || fitsPattern pattern path

mutual

/-- Counts what stands at a path, with so many levels at most. -/
def countAt (s : UsageStyle) (tree : FileTree) : Nat → Nat → Text → UsageState → Nat × UsageState
  | 0, _, _, state => (0, state)
  | fuel + 1, depth, path, state =>
      if s.isExcluded path then (0, state)
      else match Entry.find tree (s.follows || (s.followsGiven && depth = 0)) path with
        | .error _ => (0, state)
        | .ok e =>
            let key := usageKey tree e.location
            if (!s.countsLinks || e.isDirectory) && state.seen.contains key then (0, state)
            else
              let state := { state with seen := key :: state.seen }
              if e.isDirectory then
                let (below, direct, state) :=
                  countNames s tree fuel (depth + 1) path (tree.names e.location) (0, 0, state)
                let total := s.own e + below
                let own := if s.isSeparate then s.own e + direct else total
                let isShown := s.maxDepth.all (depth ≤ ·)
                (total, { state with lines := state.lines ++ if isShown then s.line own path else [] })
              else
                let n := s.own e
                let isShown := (s.showsAll && s.maxDepth.all (depth ≤ ·)) || depth = 0
                (n, { state with lines := state.lines ++ if isShown then s.line n path else [] })

/-- Counts the names of a directory. Returns all that they take, and what the files among them take.
-/
def countNames (s : UsageStyle) (tree : FileTree) : Nat → Nat → Text → List Text →
    Nat × Nat × UsageState → Nat × Nat × UsageState
  | 0, _, _, _, result => result
  | _, _, _, [], result => result
  | fuel + 1, depth, path, name :: rest, (below, direct, state) =>
      let full := inside path (Octets.ofText name)
      let (n, state) := countAt s tree fuel depth full state
      let isDirectory := match Entry.find tree s.follows full with
        | .ok e => e.isDirectory
        | .error _ => false
      countNames s tree fuel depth path rest (below + n, (if isDirectory then direct else direct + n), state)

end

def duOptions : Specification :=
  { name := "du", letters := "0abchHklmst:xB:DLPSX:d:",
    words := [("all", 'a', .none), ("apparent-size", 'A', .none), ("block-size", 'B', .one),
      ("bytes", 'b', .none), ("count-links", 'l', .none), ("dereference", 'L', .none),
      ("dereference-args", 'D', .none), ("exclude", '\x01', .one), ("exclude-from", 'X', .one),
      ("human-readable", 'h', .none), ("inodes", '\x02', .none), ("si", '\x03', .none),
      ("max-depth", 'd', .one), ("null", '0', .none), ("no-dereference", 'P', .none),
      ("one-file-system", 'x', .none), ("separate-dirs", 'S', .none), ("summarize", 's', .none),
      ("total", 'c', .none), ("threshold", 't', .one)] }

/-- A unit of sizes: its octets and the text behind numbers. -/
def unit? (t : Text) : Option (Nat × Text) :=
  let digits := t.takeWhile Char.isDigit
  let n := if digits.isEmpty then 1 else Number.value 10 digits
  let powers := "KMGTPE".toList
  match t.drop digits.length with
  | [] => if digits.isEmpty || n = 0 then none else some (n, [])
  | c :: rest =>
      match powers.findIdx? (· == c.toUpper) with
      | none => none
      | some i =>
          let shown := if digits.isEmpty then true else false
          match String.ofList rest with
          | "" => some (n * Nat.pow 1024 (i + 1), if shown then [c.toUpper] else [])
          | "iB" => some (n * Nat.pow 1024 (i + 1), if shown then [c.toUpper] else [])
          | "B" => some (n * Nat.pow 1000 (i + 1),
              if shown then [if i = 0 then 'k' else c.toUpper, 'B'] else [])
          | _ => none

def threshold? (t : Text) : Option Int :=
  let (isNegative, digits) := match t with
    | '-' :: rest => (true, rest)
    | '+' :: rest => (false, rest)
    | rest => (false, rest)
  (unit? digits).map fun (n, _) => if isNegative then -(n : Int) else n

/-- Counts the paths that are given, one after the other. -/
def countGiven (s : UsageStyle) : List Text → UsageState → Nat → Job (Nat × Nat)
  | [], _, total => return (total, 0)
  | path :: rest, state, total => do
      let tree ← Job.tree
      match Entry.find tree (s.follows || s.followsGiven) path with
      | .error e =>
          complainOf "du" "cannot access " path e
          let (total, _) ← countGiven s rest state total
          return (total, 1)
      | .ok _ =>
          let (n, state) := countAt s tree (2 * tree.entries.size + 10) 0 path { state with lines := [] }
          Job.put state.lines
          countGiven s rest state (total + n)

def du : Utility := fun _ arguments =>
  withOptions duOptions arguments fun g => do
    let unit := g.options.foldl (fun (u : Option (Nat × Text) × Bool × Bool) (c, t) => match c with
      | 'b' => (some (1, []), false, false)
      | 'k' => (some (1024, []), false, false)
      | 'm' => (some (1048576, []), false, false)
      | 'h' => (u.1, true, false)
      | '\x03' => (u.1, true, true)
      | 'B' => (unit? t, false, false)
      | _ => u) (some (1024, []), false, false)
    let depth := g.value? 'd'
    let patterns ← match g.value? 'X' with
      | none => pure []
      | some path => match ← Job.readSource path with
          | .ok content => pure (records content)
          | .error _ => pure []
    if depth.any fun t => t.isEmpty || !t.all Char.isDigit then
      misuse duOptions ("invalid maximum depth ".toList ++ cited (depth.getD []))
    else if g.has 'a' && g.has 's' then misuse duOptions "cannot both summarize and show all entries".toList
    else
      let isSame := g.has 's' && depth.any fun t => Number.value 10 t = 0
      if isSame then complain "du" "warning: summarizing is the same as using --max-depth=0".toList
      if g.has 's' && depth.isSome && !isSame then
        misuse duOptions ("warning: summarizing conflicts with --max-depth=".toList ++ depth.getD [])
      else match unit.1, (g.value? 't').map threshold? with
        | none, _ =>
            complain "du" ("invalid -B argument ".toList ++ inQuotes ((g.value? 'B').getD []))
            return 1
        | _, some none =>
            complain "du" ("invalid -t argument ".toList ++ inQuotes ((g.value? 't').getD []))
            return 1
        | some (size, text), threshold =>
            let style : UsageStyle :=
              { isApparent := g.has 'A' || g.has 'b', countsFiles := g.has '\x02', isHuman := unit.2.1,
                isDecimal := unit.2.2, unit := size, unitText := text, showsAll := g.has 'a',
                isSeparate := g.has 'S',
                maxDepth := if g.has 's' then some 0 else depth.map (Number.value 10),
                countsLinks := g.has 'l', follows := g.has 'L', followsGiven := g.has 'D' || g.has 'H',
                excluded := g.values '\x01' ++ patterns, threshold := threshold.join,
                lineEnd := if g.has '0' then '\x00' else '\n' }
            let paths := if g.operands.isEmpty then [['.']] else g.operands
            let (total, status) ← countGiven style paths ⟨[], []⟩ 0
            if g.has 'c' then Job.put (style.line total "total".toList)
            return status

end SwiftExistential.Utility
