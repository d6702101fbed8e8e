import SwiftExistential.Text.Basic
import SwiftExistential.Unicode.Word

/-!
# Patterns

A pattern is a regular expression without look-around. It is matched at a `Cursor`, a place in a
text that knows what stands before and after it, so that word boundaries can be tested.

`Pattern.ways` is the meaning of a pattern: all ways to match it from a place, **the preferred
ones first**. The left side of an alternative is preferred, a greedy repetition prefers to go on and
a lazy one prefers to stop. `Pattern.run` is the matcher that is executed: it hands each way to a
continuation and stops at the first success. `run_eq_findSome?` says that the two agree, and so
the matcher returns the most preferred way.
-/

set_option autoImplicit false

namespace SwiftExistential

open Unicode

/-! ## Places in a text

A cursor holds the text before a place the nearest character first, so that a step costs the same in
both directions. -/

/-- A place in a text. -/
structure Cursor where
  /-- What stands before the place, the nearest character first. -/
  before : Text
  /-- What stands after the place. -/
  after : Text
deriving DecidableEq, Repr

namespace Cursor

def start (t : Text) : Cursor := ⟨[], t⟩

def text (c : Cursor) : Text := c.before.reverse ++ c.after

/-- The text between two places, the first of which comes first. -/
def textTo (a b : Cursor) : Text := a.after.take (a.after.length - b.after.length)

/-- Moves over some characters, or to the end if there are fewer. -/
def skip : Nat → Cursor → Cursor
  | 0, c => c
  | _ + 1, ⟨before, []⟩ => ⟨before, []⟩
  | n + 1, ⟨before, x :: rest⟩ => skip n ⟨x :: before, rest⟩

/-- Whether a word begins or ends here: exactly one of the two neighbours is a word character. -/
def atBoundary (c : Cursor) : Bool := c.before.head?.any isWord != c.after.head?.any isWord

end Cursor

/-! ## Patterns and their ways to match -/

/-- A set of characters that one position of a pattern accepts. -/
inductive CharClass where
  | word
  | blank
  | notBlank
  | digit
  /-- Every character but the line end. -/
  | inLine
  | oneOf (members : List Char)
  | noneOf (members : List Char)
deriving DecidableEq, Repr

def CharClass.holds : CharClass → Char → Bool
  | word, c => isWord c
  | blank, c => isBlank c
  | notBlank, c => !isBlank c
  | digit, c => isDigit c
  | inLine, c => c != '\n'
  | oneOf cs, c => cs.contains c
  | noneOf cs, c => !cs.contains c

/-- A regular expression. -/
inductive Pattern where
  /-- Matches the empty text. -/
  | nothing
  /-- Matches this character. -/
  | char (c : Char)
  /-- Matches one character of a class. -/
  | one (cls : CharClass)
  | seq (p q : Pattern)
  /-- Matches either, `p` if both can match. -/
  | alt (p q : Pattern)
  /-- Matches `p` once or not at all, rather once. -/
  | optional (p : Pattern)
  /-- Matches any number of times, rather more. -/
  | star (p : Pattern)
  /-- Matches at least once, rather more. -/
  | plus (p : Pattern)
  /-- Matches any number of times, rather fewer. -/
  | lazyStar (p : Pattern)
  /-- Matches at least once, rather fewer. -/
  | lazyPlus (p : Pattern)
  /-- Matches `p` and remembers where, under a number. -/
  | group (index : Nat) (p : Pattern)
  /-- Matches `p`; only the written form differs. -/
  | cluster (p : Pattern)
  /-- A place where a word begins or ends. -/
  | boundary
  | textStart
  | textEnd
deriving Repr

namespace Pattern

/-- A remembered part of a match. -/
structure Group where
  index : Nat
  start : Cursor
  stop : Cursor
deriving DecidableEq, Repr

/-- How far a match has come. -/
structure State where
  cursor : Cursor
  /-- The groups closed so far, the latest first. -/
  groups : List Group
  /-- How many characters have been taken. -/
  taken : Nat
deriving DecidableEq, Repr

namespace State

def start (c : Cursor) : State := ⟨c, [], 0⟩

/-- Takes the next character if it satisfies the condition. -/
def take? (s : State) (ok : Char → Bool) : Option State :=
  match s.cursor.after with
  | [] => none
  | c :: rest =>
      if ok c then some ⟨⟨c :: s.cursor.before, rest⟩, s.groups, s.taken + 1⟩
      else none

/-- Remembers the text from `start` as a group. -/
def close (index : Nat) (start : Cursor) (s : State) : State :=
  { s with groups := ⟨index, start, s.cursor⟩ :: s.groups }

/-- Whether `s` has left characters behind since `origin`. -/
def isPast (s origin : State) : Bool := origin.taken < s.taken

end State

/-- Repeats a step as often as possible, then once less, and so on; a step that takes no
character ends the repetition. The text is what is left to match: it bounds the repetitions. -/
def manyWays (step : State → List State) : Text → State → List State
  | [], s => [s]
  | _ :: left, s => ((step s).filter (·.isPast s)).flatMap (manyWays step left) ++ [s]

/-- Repeats a step as rarely as possible, then once more, and so on. -/
def fewWays (step : State → List State) : Text → State → List State
  | [], s => [s]
  | _ :: left, s => s :: ((step s).filter (·.isPast s)).flatMap (fewWays step left)

/-- **All ways to match**, the preferred ones first. -/
def ways : Pattern → State → List State
  | nothing, s => [s]
  | char c, s => (s.take? (· == c)).toList
  | one cls, s => (s.take? cls.holds).toList
  | seq p q, s => (p.ways s).flatMap q.ways
  | alt p q, s => p.ways s ++ q.ways s
  | optional p, s => p.ways s ++ [s]
  | star p, s => manyWays p.ways s.cursor.after s
  | plus p, s => (p.ways s).flatMap fun t => manyWays p.ways t.cursor.after t
  | lazyStar p, s => fewWays p.ways s.cursor.after s
  | lazyPlus p, s => (p.ways s).flatMap fun t => fewWays p.ways t.cursor.after t
  | group i p, s => (p.ways s).map (State.close i s.cursor)
  | cluster p, s => p.ways s
  | boundary, s => if s.cursor.atBoundary then [s] else []
  | textStart, s => if s.cursor.before.isEmpty then [s] else []
  | textEnd, s => if s.cursor.after.isEmpty then [s] else []

/-! ## The matcher

Success is told by the continuation: it returns something or nothing, and in the latter case the
next way is tried. -/

/-- A matcher tries its ways in order until one is accepted. -/
abbrev Matcher := State → (State → Option State) → Option State

def runMany (step : Matcher) : Text → Matcher
  | [], s, k => k s
  | _ :: left, s, k =>
      (step s fun t => if t.isPast s then runMany step left t k else none).orElse fun _ => k s

def runFew (step : Matcher) : Text → Matcher
  | [], s, k => k s
  | _ :: left, s, k =>
      (k s).orElse fun _ =>
        step s fun t => if t.isPast s then runFew step left t k else none

/-- Tries the ways to match, in order of preference, and returns the first that `k` accepts. -/
def run : Pattern → Matcher
  | nothing, s, k => k s
  | char c, s, k => (s.take? (· == c)).bind k
  | one cls, s, k => (s.take? cls.holds).bind k
  | seq p q, s, k => p.run s fun t => q.run t k
  | alt p q, s, k => (p.run s k).orElse fun _ => q.run s k
  | optional p, s, k => (p.run s k).orElse fun _ => k s
  | star p, s, k => runMany p.run s.cursor.after s k
  | plus p, s, k => p.run s fun t => runMany p.run t.cursor.after t k
  | lazyStar p, s, k => runFew p.run s.cursor.after s k
  | lazyPlus p, s, k => p.run s fun t => runFew p.run t.cursor.after t k
  | group i p, s, k => p.run s fun t => k (t.close i s.cursor)
  | cluster p, s, k => p.run s k
  | boundary, s, k => if s.cursor.atBoundary then k s else none
  | textStart, s, k => if s.cursor.before.isEmpty then k s else none
  | textEnd, s, k => if s.cursor.after.isEmpty then k s else none

theorem findSome?_filter_isPast (l : List State) (s : State) (f : State → Option State) :
    (l.filter (·.isPast s)).findSome? f
      = l.findSome? fun t => if t.isPast s then f t else none := by
  induction l with
  | nil => rfl
  | cons t rest ih => by_cases h : t.isPast s <;> simp [List.findSome?_cons, h, ih]

theorem findSome?_flatMap_eq (l : List State) (g : State → List State)
    (f : State → Option State) :
    (l.flatMap g).findSome? f = l.findSome? fun t => (g t).findSome? f := by
  induction l with
  | nil => rfl
  | cons t rest ih =>
      rw [List.flatMap_cons, List.findSome?_append, ih, List.findSome?_cons]
      cases (g t).findSome? f <;> rfl

theorem runMany_eq_findSome? {step : Matcher} {stepWays : State → List State}
    (h : ∀ s k, step s k = (stepWays s).findSome? k) (left : Text) (s : State)
    (k : State → Option State) :
    runMany step left s k = (manyWays stepWays left s).findSome? k := by
  induction left generalizing s with
  | nil => cases hk : k s <;> simp [runMany, manyWays, hk]
  | cons c left ih =>
      rw [runMany, manyWays, Option.orElse_eq_or, List.findSome?_append, findSome?_flatMap_eq,
        findSome?_filter_isPast, h]
      congr 1
      · congr 1
        funext t
        split
        · rw [ih]
        · rfl
      · cases hk : k s <;> simp [hk]

theorem runFew_eq_findSome? {step : Matcher} {stepWays : State → List State}
    (h : ∀ s k, step s k = (stepWays s).findSome? k) (left : Text) (s : State)
    (k : State → Option State) :
    runFew step left s k = (fewWays stepWays left s).findSome? k := by
  induction left generalizing s with
  | nil => cases hk : k s <;> simp [runFew, fewWays, hk]
  | cons c left ih =>
      rw [runFew, fewWays, Option.orElse_eq_or, List.findSome?_cons, findSome?_flatMap_eq,
        findSome?_filter_isPast, h]
      have hstep : (fun t => if t.isPast s then runFew step left t k else none)
          = fun t => if t.isPast s then (fewWays stepWays left t).findSome? k else none := by
        funext t
        split
        · rw [ih]
        · rfl
      rw [hstep]
      cases k s <;> rfl

/-- **The matcher returns the first acceptable way.** -/
theorem run_eq_findSome? (p : Pattern) (s : State) (k : State → Option State) :
    p.run s k = (p.ways s).findSome? k := by
  induction p generalizing s k with
  | nothing => cases hk : k s <;> simp [run, ways, hk]
  | char c =>
      rw [run, ways]
      cases s.take? (· == c) with
      | none => rfl
      | some t => cases hk : k t <;> simp [hk]
  | one cls =>
      rw [run, ways]
      cases s.take? cls.holds with
      | none => rfl
      | some t => cases hk : k t <;> simp [hk]
  | seq p q ihp ihq =>
      rw [run, ways, findSome?_flatMap_eq, ihp]
      congr 1
      funext t
      exact ihq t k
  | alt p q ihp ihq => rw [run, ways, Option.orElse_eq_or, List.findSome?_append, ihp, ihq]
  | optional p ih =>
      rw [run, ways, Option.orElse_eq_or, List.findSome?_append, ih]
      cases hk : k s <;> simp [hk]
  | star p ih => exact runMany_eq_findSome? ih _ s k
  | plus p ih =>
      rw [run, ways, findSome?_flatMap_eq, ih]
      congr 1
      funext t
      exact runMany_eq_findSome? ih _ t k
  | lazyStar p ih => exact runFew_eq_findSome? ih _ s k
  | lazyPlus p ih =>
      rw [run, ways, findSome?_flatMap_eq, ih]
      congr 1
      funext t
      exact runFew_eq_findSome? ih _ t k
  | group i p ih => rw [run, ways, List.findSome?_map, ih]; rfl
  | cluster p ih => exact ih s k
  | boundary =>
      rw [run, ways]
      split
      · cases hk : k s <;> simp [hk]
      · rfl
  | textStart =>
      rw [run, ways]
      split
      · cases hk : k s <;> simp [hk]
      · rfl
  | textEnd =>
      rw [run, ways]
      split
      · cases hk : k s <;> simp [hk]
      · rfl

/-! ## Building patterns -/

def literal : Text → Pattern
  | [] => nothing
  | [c] => char c
  | c :: rest => seq (char c) (literal rest)

/-- Matches the parts one after the other. -/
def inOrder : List Pattern → Pattern
  | [] => nothing
  | [p] => p
  | p :: ps => seq p (inOrder ps)

/-- Matches one of the alternatives, rather an earlier one. -/
def either : List Pattern → Pattern
  | [] => nothing
  | [p] => p
  | p :: ps => alt p (either ps)

def wordRun : Pattern := plus (one .word)

def blanks : Pattern := plus (one .blank)

end Pattern

end SwiftExistential
