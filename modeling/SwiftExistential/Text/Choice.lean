import SwiftExistential.Text.Basic

/-!
# Choices of characters

What stands between brackets in a pattern: ranges of characters, and classes that have a name.
Patterns for file names and regular expressions have the same choices, though they are written in
different ways, so the choices are here and their readers are not.

The classes are those of the standard locale: what is no ASCII character is in none of them.
-/

set_option autoImplicit false

namespace SwiftExistential

/-- One of the choices between brackets. -/
inductive Choice where
  | range (first last : Char)
  | named (name : String)
deriving DecidableEq, Repr

namespace Choice

/-- The letters, digits and so on that a class stands for. -/
def classHolds? (name : String) (c : Char) : Option Bool :=
  match name with
  | "alnum" => some c.isAlphanum
  | "alpha" => some c.isAlpha
  | "blank" => some (c == ' ' || c == '\t')
  | "cntrl" => some (c.toNat < 32 || c.toNat == 127)
  | "digit" => some c.isDigit
  | "graph" => some (32 < c.toNat && c.toNat < 127)
  | "lower" => some c.isLower
  | "print" => some (32 ≤ c.toNat && c.toNat < 127)
  | "punct" => some (32 < c.toNat && c.toNat < 127 && !c.isAlphanum)
  | "space" => some (c == ' ' || (9 ≤ c.toNat && c.toNat ≤ 13))
  | "upper" => some c.isUpper
  | "xdigit" => some (c.isDigit || ('a' ≤ c && c ≤ 'f') || ('A' ≤ c && c ≤ 'F'))
  | _ => none

def holds (c : Char) : Choice → Bool
  | range first last => first ≤ c && c ≤ last
  | named name => (classHolds? name c).getD false

end Choice

end SwiftExistential
