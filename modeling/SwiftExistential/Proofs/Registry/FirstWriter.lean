import SwiftExistential.Registry

/-!
# The first writer wins

Entries are added to a registry in turn, and a name that is known keeps its origin. So a name has
the origin it had or, if it had none, that of the first entry with it (`get?_insertAll`). Denied
names are removed whatever their origin (`get?_finalize`).

How a registry keeps its entries is of no account: all that is said about it is said with `get?`.
The laws hold for every list of entries, also for one in which a name stands twice.
-/

set_option autoImplicit false

namespace SwiftExistential.Registry

variable (r : Registry) (name : Text)

theorem contains_eq_isSome : r.contains name = (r.get? name).isSome :=
  Std.TreeMap.contains_eq_isSome_getElem?

/-- **A known name keeps its origin.** -/
theorem get?_insert_eq_or (other : Text) (origin : Origin) :
    (r.insert other origin).get? name =
      (r.get? name).or (if name == other then some origin else none) := by
  rw [get?_insert, contains_eq_isSome]
  by_cases h : other = name
  · subst h
    cases r.get? other <;> simp
  · rw [if_neg fun hand => h hand.1, if_neg fun heq => h (eq_of_beq heq).symm, Option.or_none]

/-- **A name has the origin it had**, or that of the first entry with it. -/
theorem get?_insertAll (entries : List (Text × Origin)) :
    (r.insertAll entries).get? name = (r.get? name).or (entries.lookup name) := by
  induction entries generalizing r with
  | nil => exact (Option.or_none).symm
  | cons entry entries ih =>
      obtain ⟨other, origin⟩ := entry
      have hstep : (r.insertAll ((other, origin) :: entries)).get? name =
          ((r.insert other origin).insertAll entries).get? name := rfl
      rw [hstep, ih, get?_insert_eq_or, Option.or_assoc, List.lookup_cons]
      congr 1
      cases name == other <;> rfl

theorem insertAll_append (entries more : List (Text × Origin)) :
    r.insertAll (entries ++ more) = (r.insertAll entries).insertAll more := List.foldl_append

@[simp] theorem get?_empty : empty.get? name = none := Std.TreeMap.getElem?_emptyc

theorem get?_seeded : seeded.get? name = systemSeeds.lookup name := by
  rw [seeded, get?_insertAll, get?_empty, Option.none_or]

/-- **Denied names are removed**, and the others stay. -/
theorem get?_finalize (extra : List Text) :
    (r.finalize extra).get? name = if name ∈ denied ++ extra then none else r.get? name := by
  have herase (names : List Text) (entries : Std.TreeMap Text Origin) :
      (names.foldl (fun acc name => acc.erase name) entries)[name]? =
        if name ∈ names then none else entries[name]? := by
    induction names generalizing entries with
    | nil => rw [List.foldl_nil, if_neg List.not_mem_nil]
    | cons other names ih =>
        rw [List.foldl_cons, ih, Std.TreeMap.getElem?_erase]
        simp only [List.mem_cons, Std.LawfulEqCmp.compare_eq_iff_eq]
        by_cases hother : name = other
        · simp [hother]
        · simp [hother, Ne.symm hother]
  rw [finalize, get?, herase, get?]

end SwiftExistential.Registry
