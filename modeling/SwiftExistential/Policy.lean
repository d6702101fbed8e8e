import SwiftExistential.Registry
import SwiftExistential.Unicode.Alphanumeric

/-!
# The choice of a keyword

A use of a protocol as a type is written `any P` (a value of some conforming type, known at run
time) or, for a plain parameter, `some P` (one conforming type that the caller chooses). The policy
decides from the name, the syntactic context and the text of the type.

Classes take no keyword, and neither do names of one letter, which are generic parameters. Of the
other uses a parameter takes `some`, unless its type is a closure, the name stands in a container,
an optional or a list of arguments, or the protocol is one of the system or of those that begin with
`Any`. All else takes `any`.
-/

set_option autoImplicit false

namespace SwiftExistential

/-- The keyword before a protocol that is used as a type. -/
inductive Keyword where
  | any
  | some
deriving DecidableEq, Repr

namespace Keyword

def word : Keyword → Text
  | any => "any".toList
  | some => "some".toList

theorem word_any : any.word = "any".toList := rfl

theorem word_some : some.word = "some".toList := rfl

/-- The text inserted before a name. -/
def lead (k : Keyword) : Text := k.word ++ " ".toList

end Keyword

/-- Which names are concrete classes. -/
structure Policy where
  isClass : Text → Bool

namespace Policy

/-- The policy for a given list of classes. -/
def ofClasses (names : List Text) : Policy := ⟨names.contains⟩

/-- Whether the character continues a name in a type text. -/
def isNameChar (c : Char) : Bool := Unicode.isAlphanumeric c || c == '_'

/-- Whether a text begins with the end of a container, generic argument or optional. -/
def closesType (t : Text) : Bool := t.head?.any fun c => c == ']' || c == '>' || c == '?'

/-- Looks for an occurrence of `name` that begins a name and is closed by a container, generic
argument or optional. Occurrences are taken from the left without overlap: the number counts the
characters of the last one that are still to be skipped, and `previous` is the character before. -/
def closedOccurrence (name : Text) : Nat → Option Char → Text → Bool
  | _, _, [] => false
  | skip + 1, _, c :: rest => closedOccurrence name skip (some c) rest
  | 0, previous, c :: rest =>
      if name.isPrefixOf (c :: rest) then
        (!previous.any isNameChar && closesType ((c :: rest).drop name.length)) ||
          closedOccurrence name (name.length - 1) (some c) rest
      else closedOccurrence name 0 (some c) rest

/-- Whether the type is a closure or holds the name inside a container, generic argument or
optional. -/
def isNested (name typeText : Text) : Bool :=
  Text.hasPart ") ->".toList typeText || Text.hasPart ") throws ->".toList typeText ||
    closedOccurrence name 0 none typeText

/-- Whether a use in this context can be written with `some`. -/
def allowsSome (registry : Registry) (name context typeText : Text) : Bool :=
  "parameter".toList.isSuffixOf context && !isNested name typeText &&
    !registry.isSystem name && !"Any".toList.isPrefixOf name

/-- **The keyword for a use of `name`**, if it takes one. A class takes none, and neither does a
name of one letter, which is nearly always a generic parameter. -/
def keywordFor? (policy : Policy) (registry : Registry) (name context typeText : Text) :
    Option Keyword :=
  if policy.isClass name || name.length == 1 then none
  else if allowsSome registry name context typeText then some Keyword.some
  else some Keyword.any

end Policy

end SwiftExistential
