import SwiftExistential.Pattern.Search
import SwiftExistential.Pattern.Source
import Std.Data.TreeMap

/-!
# The registry of protocols

The names that are known to be protocols, each with the place where it was first seen. **The first
writer wins**: a name that is present keeps its origin. Names are listed in the order of their code
points.

A registry starts empty or with the protocols of the system. Declarations in sources, a configured
table and diagnostics add to it, and at the end names that must not be annotated are removed. The
pattern for all of its names is a choice between them in their order; without names there is no
pattern.
-/

set_option autoImplicit false

namespace SwiftExistential

/-- Where a protocol was first seen. -/
inductive Origin where
  /-- Declared or first diagnosed in this file. -/
  | file (path : Text)
  /-- Built in, under this mangled symbol. -/
  | system (symbol : Text)
deriving DecidableEq, Repr

namespace Origin

/-- Mangled symbols begin with `$s`; any other entry of a table is a path. -/
def ofText (value : Text) : Origin :=
  if "$s".toList.isPrefixOf value then system value else file value

/-- How the mangled symbols of the standard library and the platform's modules begin. -/
def systemSymbols : List Text :=
  ["$ss".toList, "$sS".toList, "$s7Combine".toList, "$s10Foundation".toList]

/-- Whether the protocol belongs to the standard library or the platform. -/
def isSystem : Origin → Bool
  | system symbol => systemSymbols.any (·.isPrefixOf symbol)
  | file _ => false

end Origin

/-- Protocol names and their origins. -/
structure Registry where
  entries : Std.TreeMap Text Origin

namespace Registry

def empty : Registry := ⟨∅⟩

def get? (r : Registry) (name : Text) : Option Origin := r.entries[name]?

def contains (r : Registry) (name : Text) : Bool := r.entries.contains name

/-- Adds a name unless it is known. -/
def insert (r : Registry) (name : Text) (origin : Origin) : Registry :=
  ⟨r.entries.insertIfNew name origin⟩

def names (r : Registry) : List Text := r.entries.keys

def toList (r : Registry) : List (Text × Origin) := r.entries.toList

def size (r : Registry) : Nat := r.entries.size

def isEmpty (r : Registry) : Bool := r.entries.isEmpty

/-- The protocols that every source can see. -/
def systemSeeds : List (Text × Origin) := [
  ("Error".toList, .system "$ss5ErrorP".toList),
  ("Encoder".toList, .system "$ss7EncoderP".toList),
  ("Decoder".toList, .system "$ss7DecoderP".toList)]

def insertAll (r : Registry) (entries : List (Text × Origin)) : Registry :=
  entries.foldl (fun acc e => acc.insert e.1 e.2) r

/-- The registry that knows the built-in protocols. -/
def seeded : Registry := empty.insertAll systemSeeds

/-- Adds a table of known protocols. -/
def merge (r : Registry) (known : List (Text × Text)) : Registry :=
  r.insertAll (known.map fun e => (e.1, .ofText e.2))

/-- Names that look like protocols but take no keyword. -/
def denied : List Text :=
  ["Sendable".toList, "Sequence".toList, "Subscript".toList, "Collection".toList]

/-- Removes the denied names, the fixed ones and the given ones. -/
def finalize (r : Registry) (extra : List Text) : Registry :=
  ⟨(denied ++ extra).foldl (fun acc name => acc.erase name) r.entries⟩

/-- Whether the name belongs to the system, by its origin or by the `NS` that the names of the
older frameworks begin with. -/
def isSystem (r : Registry) (name : Text) : Bool :=
  "NS".toList.isPrefixOf name || (r.get? name).any Origin.isSystem

def wholeName (names : List Text) : Pattern :=
  .inOrder [.boundary, .cluster (.either (names.map .literal)), .boundary]

/-- Matches any known name as a whole word. An empty registry has no pattern. -/
def pattern? (r : Registry) : Option Pattern :=
  if r.isEmpty then none else some (wholeName r.names)

/-- The first writer wins. -/
@[simp] theorem get?_insert (r : Registry) (name other : Text) (origin : Origin) :
    (r.insert name origin).get? other
      = if name = other ∧ r.contains name = false then some origin else r.get? other := by
  unfold insert get? contains
  rw [Std.TreeMap.getElem?_insertIfNew]
  simp only [Std.LawfulEqCmp.compare_eq_iff_eq, Std.TreeMap.mem_iff_contains, Bool.not_eq_true]

/-! ## Declarations

A declaration is the word `protocol` with blanks and a name behind it, wherever it stands in a
source. Comments and texts are not told apart from the rest. -/

/-- A protocol declaration, with the declared name as group 1. -/
def declaration : Pattern :=
  .inOrder [.boundary, .literal "protocol".toList, .blanks, .group 1 .wordRun, .boundary]

/-- The names that a source declares, in the order of the text. -/
def declaredNames (source : Text) : List Text :=
  (declaration.matchesFrom (.start source)).map (·.groupText 1)

end Registry

end SwiftExistential
