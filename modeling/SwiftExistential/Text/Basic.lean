import SwiftExistential.Unicode.Ranges

/-!
# Text and byte offsets

A text is a list of characters. Tools that report places in a file count UTF-8 bytes, so an
offset is a number of bytes: `byteLength` measures a text and `splitAtByte?` cuts it at an offset,
if the offset lies between two characters. The file also has the few searches that the rest of
the library asks of plain text: occurrence, lines and blanks at the ends.
-/

set_option autoImplicit false

namespace SwiftExistential

abbrev Text := List Char

namespace Text

/-- What is asked of every character of a text is decided on the text, and not on all characters
that there are. -/
instance decidableForall (t : Text) (p : Char → Prop) [DecidablePred p] :
    Decidable (∀ c ∈ t, p c) :=
  List.decidableBAll p t

/-! ## Byte offsets

A character takes one to four bytes. An offset inside one of them is no place of the text. -/

/-- The number of bytes of a text in UTF-8. -/
def byteLength : Text → Nat
  | [] => 0
  | c :: rest => c.utf8Size + byteLength rest

/-- The text before and from a byte offset. There is none if the offset lies inside a character
or past the end. -/
def splitAtByte? : Text → Nat → Option (Text × Text)
  | t, 0 => some ([], t)
  | [], _ + 1 => none
  | c :: rest, n + 1 =>
      if c.utf8Size ≤ n + 1 then
        (splitAtByte? rest (n + 1 - c.utf8Size)).map fun (before, after) => (c :: before, after)
      else none

@[simp] theorem byteLength_append (s t : Text) :
    byteLength (s ++ t) = byteLength s + byteLength t := by
  induction s with
  | nil => simp [byteLength]
  | cons c rest ih => simp [byteLength, ih, Nat.add_assoc]

/-- A cut loses nothing and lies where it was asked for. -/
theorem eq_append_of_splitAtByte? {t before after : Text} {n : Nat}
    (h : splitAtByte? t n = some (before, after)) :
    t = before ++ after ∧ byteLength before = n := by
  fun_induction splitAtByte? t n generalizing before after with
  | case1 t =>
      simp at h
      obtain ⟨rfl, rfl⟩ := h
      exact ⟨rfl, rfl⟩
  | case2 => simp at h
  | case3 c rest n hc ih =>
      simp only [Option.map_eq_some_iff, Prod.exists, Prod.mk.injEq] at h
      obtain ⟨u, v, huv, rfl, rfl⟩ := h
      obtain ⟨hrest, hlen⟩ := ih huv
      exact ⟨by rw [hrest]; rfl, by simp only [byteLength, hlen]; omega⟩
  | case4 => simp at h

/-- The end of a first part is always a place to cut. -/
@[simp] theorem splitAtByte?_append (before after : Text) :
    splitAtByte? (before ++ after) (byteLength before) = some (before, after) := by
  induction before with
  | nil => cases after <;> simp [splitAtByte?, byteLength]
  | cons c rest ih =>
      have hc : 0 < c.utf8Size := c.utf8Size_pos
      obtain ⟨k, hk⟩ : ∃ k, byteLength (c :: rest) = k + 1 :=
        ⟨byteLength (c :: rest) - 1, by simp only [byteLength]; omega⟩
      have hle : c.utf8Size ≤ k + 1 := by simp only [byteLength] at hk; omega
      have hsub : k + 1 - c.utf8Size = byteLength rest := by
        simp only [byteLength] at hk; omega
      rw [hk, List.cons_append, splitAtByte?, if_pos hle, hsub, ih]
      rfl

/-! ## Occurrence

Parts are found from the left, and those that are replaced do not overlap. An empty part stands at
the start of every text, and is never replaced. -/

/-- Whether `part` stands somewhere in the text. -/
def hasPart (part : Text) : Text → Bool
  | [] => part.isEmpty
  | c :: rest => part.isPrefixOf (c :: rest) || hasPart part rest

/-- The text after `part`, if it starts with it. -/
def dropPart? : Text → Text → Option Text
  | [], t => some t
  | _ :: _, [] => none
  | p :: part, c :: rest => if p = c then dropPart? part rest else none

/-- Replaces all occurrences of `part`, taken from the left without overlap. The text is walked
with a count of the characters of the last occurrence that are still to be skipped. -/
def replacePart (part new : Text) (t : Text) : Text :=
  go 0 t
where
  go : Nat → Text → Text
    | _, [] => []
    | skip + 1, _ :: rest => go skip rest
    | 0, c :: rest =>
        if !part.isEmpty && part.isPrefixOf (c :: rest) then new ++ go (part.length - 1) rest
        else c :: go 0 rest

/-- The text before and after the first occurrence of `part`. -/
def splitAtPart? (part : Text) : Text → Option (Text × Text)
  | [] => if part.isEmpty then some ([], []) else none
  | c :: rest =>
      match dropPart? part (c :: rest) with
      | some after => some ([], after)
      | none => (splitAtPart? part rest).map fun (before, after) => (c :: before, after)

/-! ## Lines and blanks

A line ends before its line feed, and a text without one is a single line. -/

/-- The parts between the occurrences of a character; a text without one is a single part. -/
def splitOn (sep : Char) : Text → List Text
  | [] => [[]]
  | c :: rest =>
      if c = sep then [] :: splitOn sep rest
      else match splitOn sep rest with
        | [] => [[c]]
        | part :: parts => (c :: part) :: parts

/-- The lines of a text, without their ends. A text has one line more than it has line ends. -/
def lines (t : Text) : List Text := splitOn '\n' t

/-- Puts a separator between the parts. -/
def join (sep : Text) : List Text → Text
  | [] => []
  | [t] => t
  | t :: ts => t ++ sep ++ join sep ts

def sortDistinct (ts : List Text) : List Text :=
  (ts.mergeSort fun a b => (compare a b).isLE).eraseReps

/-- The text without blanks at its start. -/
def trimStart (t : Text) : Text := t.dropWhile Unicode.isBlank

/-- The text without blanks at its end. -/
def trimEnd (t : Text) : Text := (t.reverse.dropWhile Unicode.isBlank).reverse

/-- The text without blanks at its ends. -/
def trim (t : Text) : Text := trimEnd (trimStart t)

theorem splitOn_ne_nil (sep : Char) (t : Text) : splitOn sep t ≠ [] := by
  cases t with
  | nil => simp [splitOn]
  | cons c rest =>
      unfold splitOn
      split
      · simp
      · split <;> simp

/-- The parts, joined again, are the text. -/
theorem join_splitOn (sep : Char) (t : Text) : join [sep] (splitOn sep t) = t := by
  induction t with
  | nil => rfl
  | cons c rest ih =>
      unfold splitOn
      split
      · rename_i h
        cases hs : splitOn sep rest with
        | nil => exact absurd hs (splitOn_ne_nil sep rest)
        | cons part parts => rw [hs] at ih; simp [join, ih, h]
      · cases hs : splitOn sep rest with
        | nil => exact absurd hs (splitOn_ne_nil sep rest)
        | cons part parts =>
            rw [hs] at ih
            cases parts <;> simpa [join] using ih

end Text

end SwiftExistential
