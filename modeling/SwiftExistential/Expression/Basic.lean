import SwiftExistential.Text.Choice

/-!
# Expressions

Regular expressions as the programs of the shell know them, and their matches. There are two kinds.
In an `Expression` the longest fit at a place counts, whatever the order of its alternatives; in an
`Ordered` expression the alternatives are tried in turn, and the first that leads to the end counts.

Both kinds are followed in the same manner: from a place, with a continuation for what comes next,
so that a group that turns out wrong can be taken back. They differ in what the continuation
returns. Where the longest fit is sought it keeps the best place so far and goes on; where the first
is sought it answers and ends the search.

How expressions are written is not settled here. The readers are in modules of their own, one for
each kind.
-/

set_option autoImplicit false

/-! ## Expressions that programs search for

The regular expressions of the standard programs. Of all ways in which an expression fits at a
place, the longest one counts; among those of one length it is the one where what comes first takes
the most. What a group has taken can be asked for again, in the expression itself and after the
search. -/

namespace SwiftExistential

/-- An edge between characters. -/
inductive Edge where
  | lineStart
  | lineEnd
  | textStart
  | textEnd
  | wordStart
  | wordEnd
  | word
  | notWord
  /-- No word goes on behind this place. -/
  | noWordAfter
  /-- No word stands right before this place. -/
  | noWordBefore
deriving DecidableEq, Repr

inductive Expression where
  | empty
  | exactly (c : Char)
  | any
  /-- One character that is, or is not, among the choices. -/
  | oneOf (isNegated : Bool) (choices : List Choice)
  | edge (e : Edge)
  | sequence (first second : Expression)
  | choice (first second : Expression)
  /-- So often at least, and at most if there is a bound. -/
  | repeated (body : Expression) (least : Nat) (most : Option Nat)
  | group (number : Nat) (body : Expression)
  /-- The text that a group has taken. -/
  | again (number : Nat)
deriving Repr

namespace Expression

/-- A place in a text, and what groups have taken on the way to it. -/
structure Place where
  before : Option Char
  rest : Text
  /-- How many characters were taken. -/
  count : Nat
  groups : List (Nat × Text)

/-- How a text is searched. -/
structure Manner where
  ignoresCase : Bool
  /-- Whether each line has a start and an end. -/
  isMultiline : Bool

/-- The best place so far that the expression leads to. -/
abbrev Best := Option Place

abbrev Continuation := Place → Best → Best

/-- Nothing longer can be found. -/
def isComplete (best : Best) : Bool := best.any fun p => p.rest.isEmpty

def keepLonger : Continuation := fun p best =>
  match best with
  | none => some p
  | some old => if old.count < p.count then some p else best

def isWordChar (c : Char) : Bool := c.isAlphanum || c == '_'

def hasEdge (m : Manner) (p : Place) (e : Edge) : Bool :=
  let isIn := p.before.any isWordChar
  let goesOn := p.rest.head?.any isWordChar
  match e with
  | .lineStart => p.before.isNone || (m.isMultiline && p.before == some '\n')
  | .lineEnd => p.rest.isEmpty || (m.isMultiline && p.rest.head? == some '\n')
  | .textStart => p.before.isNone
  | .textEnd => p.rest.isEmpty
  | .wordStart => !isIn && goesOn
  | .wordEnd => isIn && !goesOn
  | .word => isIn != goesOn
  | .notWord => isIn == goesOn
  | .noWordAfter => !goesOn
  | .noWordBefore => !isIn

def sameChar (m : Manner) (a b : Char) : Bool :=
  a == b || (m.ignoresCase && a.toLower == b.toLower)

def isAmong (m : Manner) (choices : List Choice) (c : Char) : Bool :=
  choices.any (Choice.holds c) ||
    (m.ignoresCase && (choices.any (Choice.holds c.toLower) || choices.any (Choice.holds c.toUpper)))

/-- Takes one character for which something holds. -/
def takeOne (holds : Char → Bool) (next : Continuation) : Continuation := fun p best =>
  match p.rest with
  | c :: rest =>
      if holds c then next { p with before := some c, rest := rest, count := p.count + 1 } best else best
  | [] => best

def takeText (m : Manner) (next : Continuation) : Text → Continuation
  | [], p, best => next p best
  | c :: t, p, best => takeOne (sameChar m c) (takeText m next t) p best

/-- Goes through something as often as possible, then less often. The last number bounds the steps.
-/
def repeatFrom (through : Continuation → Continuation) (next : Continuation) :
    Nat → Nat → Option Nat → Continuation
  | 0, _, _, p, best => next p best
  | fuel + 1, least, most, p, best =>
      if most = some 0 then next p best
      else
        let more : Continuation := fun p' best =>
          if p'.count = p.count && least = 0 then best
          else repeatFrom through next fuel (least - 1) (most.map (· - 1)) p' best
        let longer := through more p best
        if least = 0 && !isComplete longer then next p longer else longer

/-- **Follows an expression** from a place, and goes on from all places it leads to. -/
def follow (m : Manner) : Expression → Continuation → Continuation
  | empty, next => next
  | exactly c, next => takeOne (sameChar m c) next
  | any, next => takeOne (fun _ => true) next
  | oneOf isNegated choices, next => takeOne (fun c => isAmong m choices c != isNegated) next
  | edge e, next => fun p best => if hasEdge m p e then next p best else best
  | sequence a b, next => follow m a (follow m b next)
  | choice a b, next => fun p best =>
      let first := follow m a next p best
      if isComplete first then first else follow m b next p first
  | repeated body least most, next => fun p best =>
      repeatFrom (follow m body) next (p.rest.length + least + 1) least most p best
  | group number body, next => fun p best =>
      follow m body
        (fun p' best =>
          let taken := p.rest.take (p'.count - p.count)
          next { p' with groups := (number, taken) :: p'.groups.filter fun (n, _) => n != number } best)
        p best
  | again number, next => fun p best =>
      match p.groups.lookup number with
      | some t => takeText m next t p best
      | none => best

/-- A fit of an expression in a text. -/
structure Fit where
  /-- The text before it. -/
  skipped : Text
  taken : Text
  groups : List (Nat × Text)
  /-- The character before the text behind it. -/
  before : Option Char
  rest : Text

/-- The fit at the start of a text behind a character. -/
def fitHere? (m : Manner) (e : Expression) (before : Option Char) (t : Text) : Option Fit :=
  (follow m e keepLonger ⟨before, t, 0, []⟩ none).map fun p =>
    ⟨[], t.take p.count, p.groups, p.before, p.rest⟩

/-- **The first fit in a text**, behind a character and the characters that were skipped. -/
def findFrom (m : Manner) (e : Expression) (skipped : Text) (before : Option Char) : Text → Option Fit
  | [] => (fitHere? m e before []).map fun f => { f with skipped := skipped.reverse }
  | c :: rest =>
      match fitHere? m e before (c :: rest) with
      | some f => some { f with skipped := skipped.reverse }
      | none => findFrom m e (c :: skipped) (some c) rest

/-- The first fit in a text behind a character. -/
def find? (m : Manner) (e : Expression) (before : Option Char) (t : Text) : Option Fit :=
  findFrom m e [] before t

/-- The text that a group has taken; the group of number zero is all. -/
def Fit.group (f : Fit) (number : Nat) : Text :=
  if number = 0 then f.taken else (f.groups.lookup number).getD []

end Expression

end SwiftExistential

/-! ## Expressions whose ways have an order

In these expressions the ways to fit have an order: the left side of an alternative comes first, and
a repetition says whether it would rather go on or stop. The first way that leads to the end counts,
be it short or long. Such expressions can also look at what stands around a place without taking it.

`Ordered.follow` tries the ways in their order and hands each to a continuation, until one of them
succeeds. -/

namespace SwiftExistential

/-- Which way of a repetition comes first. -/
inductive Preference where
  /-- To go on. -/
  | more
  /-- To stop. -/
  | fewer
deriving DecidableEq, Repr

/-- An expression whose ways have an order. -/
inductive Ordered where
  | empty
  | exactly (ignoresCase : Bool) (c : Char)
  /-- One character that is, or is not, among the choices. -/
  | oneOf (ignoresCase isNegated : Bool) (choices : List Choice)
  | edge (e : Edge)
  /-- The end of the text, or the place before a line end there. -/
  | lastEdge
  | sequence (first second : Ordered)
  | choice (first second : Ordered)
  | repeated (preference : Preference) (body : Ordered) (least : Nat) (most : Option Nat)
  | group (number : Nat) (body : Ordered)
  /-- The text that a group has taken. -/
  | again (ignoresCase : Bool) (number : Nat)
  /-- Only the first way of the body. -/
  | first (body : Ordered)
  /-- Whether the body fits here; nothing is taken. -/
  | look (isNegated : Bool) (body : Ordered)
  /-- The body, from so many characters before the place. -/
  | back (count : Nat) (body : Ordered)
  /-- What was taken so far does not belong to the fit. -/
  | restart
  /-- The fit ends here. -/
  | accept
  /-- One of two, by whether a group has taken something. -/
  | given (number : Nat) (holds fails : Ordered)
deriving Repr

namespace Ordered

/-- A place in a text, and what has happened on the way to it. -/
structure Spot where
  /-- What stands before it, the nearest character first. -/
  before : Text
  rest : Text
  groups : List (Nat × Text)
  /-- What is left behind the place where the fit starts. -/
  start : Text

abbrev Next := Spot → Option Spot

/-- Takes one character for which something holds. -/
def takeOne (holds : Char → Bool) (next : Next) : Next := fun s =>
  match s.rest with
  | c :: rest => if holds c then next { s with before := c :: s.before, rest := rest } else none
  | [] => none

def takeText (ignoresCase : Bool) (next : Next) : Text → Next
  | [], s => next s
  | c :: t, s => takeOne (Expression.sameChar ⟨ignoresCase, false⟩ c) (takeText ignoresCase next t) s

def hasEdge (e : Edge) (s : Spot) : Bool :=
  Expression.hasEdge ⟨false, e matches .lineStart | .lineEnd⟩ ⟨s.before.head?, s.rest, 0, []⟩ e

/-- Goes through something again and again. A round that takes nothing is the last. The first number
bounds the steps. -/
def repeatFrom (preference : Preference) (through : Next → Next) (next : Next) :
    Nat → Nat → Option Nat → Next
  | 0, _, _, s => next s
  | fuel + 1, least, most, s =>
      if most = some 0 then next s
      else
        let round := fun (_ : Unit) => through
          (fun s' =>
            if s'.rest.length = s.rest.length && least = 0 then next s'
            else repeatFrom preference through next fuel (least - 1) (most.map (· - 1)) s')
          s
        if least > 0 then round ()
        else match preference with
          | .more => round () <|> next s
          | .fewer => next s <|> round ()

/-- Goes back over characters. -/
def goBack : Nat → Spot → Option Spot
  | 0, s => some s
  | n + 1, s =>
      match s.before with
      | [] => none
      | c :: before => goBack n { s with before := before, rest := c :: s.rest }

/-- **Follows an expression** from a place and tries what comes next, in the order of the ways. -/
def follow : Ordered → Next → Next
  | empty, next => next
  | exactly ignoresCase c, next => takeOne (Expression.sameChar ⟨ignoresCase, false⟩ c) next
  | oneOf ignoresCase isNegated choices, next =>
      takeOne (fun c => Expression.isAmong ⟨ignoresCase, false⟩ choices c != isNegated) next
  | edge e, next => fun s => if hasEdge e s then next s else none
  | lastEdge, next => fun s => if s.rest.isEmpty || s.rest = ['\n'] then next s else none
  | sequence a b, next => follow a (follow b next)
  | choice a b, next => fun s => follow a next s <|> follow b next s
  | repeated preference body least most, next => fun s =>
      repeatFrom preference (follow body) next (s.rest.length + least + 1) least most s
  | group number body, next => fun s =>
      follow body
        (fun s' =>
          let taken := s.rest.take (s.rest.length - s'.rest.length)
          next { s' with groups := (number, taken) :: s'.groups.filter fun (n, _) => n != number })
        s
  | again ignoresCase number, next => fun s =>
      match s.groups.lookup number with
      | some t => takeText ignoresCase next t s
      | none => none
  | first body, next => fun s => (follow body some s).bind next
  | look isNegated body, next => fun s =>
      match follow body some s, isNegated with
      | some s', false => next { s with groups := s'.groups }
      | none, true => next s
      | _, _ => none
  | back count body, next => fun s => (goBack count s).bind (follow body next)
  | restart, next => fun s => next { s with start := s.rest }
  | accept, _ => some
  | given number a b, next => fun s =>
      if (s.groups.lookup number).isSome then follow a next s else follow b next s

/-- The number of characters that an expression takes, if it is the same for all its ways. -/
def width? : Ordered → Option Nat
  | exactly .. | oneOf .. => some 1
  | empty | edge _ | lastEdge | look .. | restart | accept => some 0
  | sequence a b => do return (← width? a) + (← width? b)
  | choice a b => do
      let n ← width? a
      if (← width? b) = n then some n else none
  | repeated _ body least most => do if most = some least then some ((← width? body) * least) else none
  | group _ body | first body => width? body
  | again .. | back .. => none
  | given _ a b => do
      let n ← width? a
      if (← width? b) = n then some n else none

/-- What was taken at a place, with what is skipped before it if the fit starts later. -/
structure Fit where
  skipped : Text
  taken : Text
  /-- What stands before the rest, the nearest character first. -/
  before : Text
  rest : Text

/-- The fit at a place between what stands before it and what follows. -/
def fitHere? (e : Ordered) (before t : Text) : Option Fit :=
  (follow e some ⟨before, t, [], t⟩).map fun s =>
    ⟨t.take (t.length - s.start.length), s.start.take (s.start.length - s.rest.length), s.before, s.rest⟩

/-- The fit that starts first in a text behind characters that have been skipped. -/
def findFrom (e : Ordered) (skipped before : Text) : Text → Option Fit
  | [] => (fitHere? e before []).map fun f => { f with skipped := skipped.reverse ++ f.skipped }
  | c :: rest =>
      match fitHere? e before (c :: rest) with
      | some f => some { f with skipped := skipped.reverse ++ f.skipped }
      | none => findFrom e (c :: skipped) (c :: before) rest

/-- **The first fit in a text** behind what stands before it. -/
def find? (e : Ordered) (before t : Text) : Option Fit := findFrom e [] before t

end Ordered

end SwiftExistential
