import SwiftExistential.SitePatch

/-!
# Reported sites

A syntax dump lists the places of a file where a name is used, with the kind of the place and the
text of the inferred type. The sites whose type names a known protocol become patches.

The name that counts is the first match of the registry's pattern in the text of the type, and the
keyword is the one that the policy decides on for this name, the kind and the type. A site without a
type, or with a type that names no protocol, becomes nothing.
-/

set_option autoImplicit false

namespace SwiftExistential

/-- One reported use of a name. -/
structure Site where
  /-- The byte offset of the use. -/
  offset : Nat
  /-- The syntactic kind of the place. -/
  kind : Text
  /-- The inferred type, if it is known. -/
  typeText : Option Text
deriving DecidableEq, Repr

namespace Site

/-- The patch for a site, if its type names a protocol: the leftmost one counts. -/
def patch? (registry : Registry) (policy : Policy) (protocol : Pattern) (site : Site) :
    Option SitePatch :=
  site.typeText.bind fun typeText =>
    (protocol.findIn? typeText).map fun m =>
      ⟨site.offset, m.text, policy.keywordFor? registry m.text site.kind typeText⟩

/-- **The patches for a list of sites**, in the same order. -/
def patches (registry : Registry) (policy : Policy) (sites : List Site) : List SitePatch :=
  match registry.pattern? with
  | none => []
  | some protocol => sites.filterMap (patch? registry policy protocol)

end Site

end SwiftExistential
