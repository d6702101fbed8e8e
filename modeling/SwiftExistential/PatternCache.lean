import SwiftExistential.Text.Basic

/-!
# The cache of compiled patterns

The same names come back in file after file, so compiled patterns are kept under their written form.
The cache holds a limited number of them and is emptied when a new one would go beyond it.

What is asked for is found again if it was compiled before, and compiled if not; a source that
cannot be compiled is refused each time, and makes room all the same. A cache that does not exceed
the capacity stays like this (`size_compile_le`).
-/

set_option autoImplicit false

namespace SwiftExistential

/-- The written forms of the patterns that are kept. -/
structure PatternCache where
  kept : List Text
deriving DecidableEq, Repr

namespace PatternCache

def capacity : Nat := 256

def empty : PatternCache := ⟨[]⟩

def size (cache : PatternCache) : Nat := cache.kept.length

/-- The cache with room for one more pattern. -/
def makeRoom (cache : PatternCache) : PatternCache :=
  if capacity ≤ cache.size then empty else cache

/-- Looks a pattern up, compiling it if it is not kept. Returns whether it compiles; a pattern that
does not is never kept, but room is made for it all the same. -/
def compile (isValid : Text → Bool) (cache : PatternCache) (pattern : Text) :
    PatternCache × Bool :=
  if cache.kept.contains pattern then (cache, true)
  else if isValid pattern then (⟨pattern :: cache.makeRoom.kept⟩, true)
  else (cache.makeRoom, false)

theorem size_makeRoom_lt (cache : PatternCache) : cache.makeRoom.size < capacity := by
  unfold makeRoom
  by_cases h : capacity ≤ cache.size
  · rw [if_pos h]; decide
  · rw [if_neg h]; omega

/-- A cache within its capacity stays within it. -/
theorem size_compile_le (isValid : Text → Bool) (cache : PatternCache) (pattern : Text)
    (h : cache.size ≤ capacity) : (cache.compile isValid pattern).1.size ≤ capacity := by
  have room := cache.size_makeRoom_lt
  unfold compile
  split
  · exact h
  · split
    · exact room
    · exact Nat.le_of_lt room

end PatternCache

end SwiftExistential
