import SwiftExistential.SitePatch

/-!
# Cleanup passes

Substitutions over a whole file. They repair the places where the keyword chosen at a site is not
allowed, and cover the uses that a syntax dump never reports: casts, returns, optionals and keywords
that have piled up.

There are seven passes, and `run` goes through them in a fixed order. Each takes a text and returns
the new one with the number of its changes. Two of them are repeated: the one over plain lines so
often as the options say, and the one over piled up keywords until nothing changes. Without a known
protocol there is nothing to look for, and the text stays as it is.
-/

set_option autoImplicit false

namespace SwiftExistential.Cleanup

open Pattern

/-- What the caller can choose. -/
structure Options where
  /-- Protocols whose returns stay `any`. -/
  keepAnyReturns : List Text
  /-- How often the pass over `@objc` and `case` lines is repeated. -/
  adhocRounds : Nat
deriving DecidableEq, Repr

/-! ## The patterns

A type is a name of a known protocol with qualifiers before it and perhaps a metatype behind it. The
names are tried in their order. -/

def eitherKeyword : Pattern := either [literal Keyword.any.word, literal Keyword.some.word]

def qualified (protocol : Pattern) : Pattern :=
  inOrder [SitePatch.qualifiers, protocol, SitePatch.metatype]

/-- `some P` where only `any P` is allowed: before `...`, a default value, a metatype or the end of
a closure's parameters. Group 1 is the type and group 2 what follows. -/
def forbiddenSome (protocol : Pattern) : Pattern :=
  inOrder [boundary, literal "some ".toList,
    group 1 (seq (qualified protocol) (star (one .blank))),
    group 2 (either [literal "...".toList, literal " =".toList, literal ".Type".toList,
      literal ") in".toList])]

/-- A generic parameter whose constraint has a keyword. Group 1 is its name. -/
def constraintKeyword : Pattern :=
  inOrder [char '<', group 1 wordRun, char ':',
    group 2 (either [literal " any".toList, literal " some".toList]), char ' ']

def castOperator : Pattern :=
  cluster (alt (literal "is".toList)
    (seq (literal "as".toList) (optional (one (.oneOf ['?', '!'])))))

/-- A cast to a protocol. Group 1 is the operator with the blanks around it, group 2 the type and
group 3 the protocol. -/
def cast (protocol : Pattern) : Pattern :=
  seq (group 1 (inOrder [blanks, castOperator, blanks]))
    (group 2 (inOrder [optional (cluster (seq wordRun (char '.'))), group 3 protocol,
      SitePatch.metatype]))

/-- A function that returns `any P`. Group 1 is the protocol. -/
def anyReturn (protocol : Pattern) : Pattern :=
  inOrder [literal "-> any ".toList, group 1 protocol, literal " \x7b".toList]

/-- The attribute or the keyword that introduces a line without generic parameters. -/
def lineIntroducer : Pattern :=
  cluster (alt (literal "@objc".toList) (seq boundary (literal "case".toList)))

/-- A line that admits no generic parameters. -/
def plainLine : Pattern := seq lineIntroducer (one .blank)

/-- A line that admits no generic parameters, up to its last word `some` that is no member. -/
def someOnPlainLine : Pattern :=
  inOrder [lineIntroducer, blanks, star (one .inLine), one (.noneOf ['.']), boundary,
    group 1 (literal Keyword.some.word), boundary]

/-- An optional with a keyword but no parentheses. Group 1 is the type and group 2 the mark. -/
def bareOptional (protocol : Pattern) : Pattern :=
  inOrder [boundary, cluster eitherKeyword, blanks, group 1 (qualified protocol),
    group 2 (one (.oneOf ['?', '!']))]

/-- Two keywords with spaces between them. -/
def doubledKeyword : Pattern :=
  inOrder [boundary, group 1 eitherKeyword, plus (char ' '), group 2 eitherKeyword, boundary]

/-! ## The passes

A pass replaces the successive matches of its pattern. Where a match is to stay as it is, the pass
has no replacement for it. -/

def revertForbiddenSome (protocol : Pattern) (t : Text) : Text × Nat :=
  (forbiddenSome protocol).substitute
    (fun m => some ("any ".toList ++ m.groupText 1 ++ m.groupText 2)) t

/-- Drops the keyword from the constraint of a generic parameter. -/
def stripConstraints (t : Text) : Text × Nat :=
  constraintKeyword.substitute (fun m => some ("<".toList ++ m.groupText 1 ++ ": ".toList)) t

/-- Whether a cast takes the keyword. It does not before a label or inside a longer name, nor does
the cast to a class or to a name that begins with `Any`. -/
def castTakesKeyword (policy : Policy) (m : Match) : Bool :=
  !(m.stop.after.head?.any fun c => c == ':' || c.isLower) &&
    !policy.isClass (m.groupText 3) && !"Any".toList.isPrefixOf (m.groupText 3)

/-- Writes `any` before the target of a cast. -/
def annotateCasts (policy : Policy) (protocol : Pattern) (t : Text) : Text × Nat :=
  (cast protocol).substitute
    (fun m =>
      if castTakesKeyword policy m then
        some (m.groupText 1 ++ "any ".toList ++ m.groupText 2)
      else none) t

/-- Whether a return can be written with `some`: its protocol is not to be kept, and its line admits
generic parameters. -/
def returnTakesSome (keep : List Text) (m : Match) : Bool :=
  !keep.contains (m.groupText 1) &&
    !plainLine.occursIn (m.start.before.takeWhile (· != '\n')).reverse

/-- Writes `some` for the existential that a function returns. -/
def promoteReturns (keep : List Text) (protocol : Pattern) (t : Text) : Text × Nat :=
  (anyReturn protocol).substitute
    (fun m =>
      if returnTakesSome keep m then
        some ("-> some ".toList ++ m.groupText 1 ++ " \x7b".toList)
      else none) t

/-- Writes `any` for the last `some` on each line that admits no generic parameters. -/
def revertPlainLines (t : Text) : Text × Nat :=
  someOnPlainLine.substitute
    -- The match ends with the keyword, so all of it but the keyword is kept.
    (fun m => some (m.text.take (m.text.length - Keyword.some.word.length) ++ Keyword.any.word)) t

/-- Repeats a pass until it changes nothing, at most a given number of times, and adds up the
changes. -/
def repeatPass (pass : Text → Text × Nat) : Nat → Text → Text × Nat
  | 0, t => (t, 0)
  | n + 1, t =>
      let (t', count) := pass t
      -- A sweep without changes ends the repetition, however many are left.
      if count = 0 then (t', 0)
      else
        let (last, total) := repeatPass pass n t'
        (last, count + total)

/-- Puts an annotated optional in parentheses. -/
def parenthesise (protocol : Pattern) (t : Text) : Text × Nat :=
  (bareOptional protocol).substitute
    (fun m => some ("(any ".toList ++ m.groupText 1 ++ ")".toList ++ m.groupText 2)) t

def mergedKeyword (first second : Text) : Keyword :=
  if first = Keyword.some.word ∧ second = Keyword.some.word then .some else .any

/-- Replaces doubled keywords by one, once over the text. -/
def collapseOnce (t : Text) : Text × Nat :=
  doubledKeyword.substitute
    (fun m => some (mergedKeyword (m.groupText 1) (m.groupText 2)).word) t

/-- Replaces every chain of keywords by one. Each sweep shortens the text, so its length bounds
their number. -/
def collapseDoubled (t : Text) : Text × Nat := repeatPass collapseOnce (t.length + 1) t

/-- Runs the passes in turn and adds up their changes. -/
def runPasses (passes : List (Text → Text × Nat)) (t : Text) : Text × Nat :=
  passes.foldl (fun (text, total) pass =>
    let (text', count) := pass text
    (text', total + count)) (t, 0)

def passes (policy : Policy) (options : Options) (protocol : Pattern) :
    List (Text → Text × Nat) :=
  -- Collapsing comes last and meets the chains that the other passes leave.
  [revertForbiddenSome protocol, stripConstraints, annotateCasts policy protocol,
    promoteReturns options.keepAnyReturns protocol,
    repeatPass revertPlainLines options.adhocRounds, parenthesise protocol, collapseDoubled]

/-- **Runs every pass** over a text. Returns the new text and the number of substitutions. Without a
known protocol nothing is done. -/
def run (registry : Registry) (policy : Policy) (options : Options) (t : Text) : Text × Nat :=
  match registry.pattern? with
  | none => (t, 0)
  | some protocol => runPasses (passes policy options protocol) t

/-- Parenthesises the annotated optionals of known protocols. -/
def fixOptionals (registry : Registry) (t : Text) : Text × Nat :=
  match registry.pattern? with
  | none => (t, 0)
  | some protocol => parenthesise protocol t

end SwiftExistential.Cleanup
