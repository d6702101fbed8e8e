import SwiftExistential.Pattern.Basic

/-!
# The written form of a pattern

Patterns are shown in the usual notation for regular expressions. A character that has a meaning
there is written after a backslash.

The notation is only written and never read: the patterns of the program are values, and their
sources are shown in reports and serve as names in the cache. Groups that remember nothing are
written as such, so that the numbers of the other groups can be counted in the source.
-/

set_option autoImplicit false

namespace SwiftExistential.Pattern

/-- The characters that stand for more than themselves in a written pattern. -/
def metaCharacters : List Char := "\\.+*?()|[]\x7b\x7d^$#&-~".toList

/-- A text as a written pattern that matches it and nothing else. -/
def escapeText (t : Text) : Text :=
  t.flatMap fun c => if metaCharacters.contains c then ['\\', c] else [c]

def classSource : CharClass → Text
  | .word => "\\w".toList
  | .blank => "\\s".toList
  | .notBlank => "\\S".toList
  | .digit => "\\d".toList
  | .inLine => ".".toList
  | .oneOf cs => "[".toList ++ cs ++ "]".toList
  | .noneOf cs => "[^".toList ++ cs ++ "]".toList

/-- **The written form of a pattern.** -/
def source : Pattern → Text
  | nothing => []
  | char c => escapeText [c]
  | one cls => classSource cls
  | seq p q => p.source ++ q.source
  | alt p q => p.source ++ "|".toList ++ q.source
  | optional p => p.source ++ "?".toList
  | star p => p.source ++ "*".toList
  | plus p => p.source ++ "+".toList
  | lazyStar p => p.source ++ "*?".toList
  | lazyPlus p => p.source ++ "+?".toList
  | group _ p => "(".toList ++ p.source ++ ")".toList
  | cluster p => "(?:".toList ++ p.source ++ ")".toList
  | boundary => "\\b".toList
  | textStart => "^".toList
  | textEnd => "$".toList

end SwiftExistential.Pattern
