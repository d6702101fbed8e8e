import SwiftExistential.Shell.Format
import SwiftExistential.Text.Real
import SwiftExistential.Utility.Options

/-!
# Numbers

Programs that compute with numbers or names: `factor` takes numbers apart, `tsort` puts names in
order, and `seq` prints rows of numbers.

They have little in common but that each is a computation with a program around it. The computation
comes first, on numbers or on a graph of names, and knows nothing of options and messages.
-/

set_option autoImplicit false

/-! ## Prime factors

`factor` prints the prime factors of numbers. Small ones are divided out; what is left is prime, or
a walk by squares finds a factor of it. -/

namespace SwiftExistential.Utility

open Process

namespace Factors

/-- A power modulo a number, with so many bits of the exponent at most. -/
def powerMod (m : Nat) : Nat → Nat → Nat → Nat
  | 0, _, _ => 1 % m
  | bits + 1, base, exponent =>
      if exponent = 0 then 1 % m
      else
        let half := powerMod m bits (base * base % m) (exponent / 2)
        if exponent % 2 = 1 then half * base % m else half

/-- Takes twos out of a number: how many, and what is left. -/
def splitTwos : Nat → Nat → Nat × Nat
  | 0, n => (0, n)
  | fuel + 1, n =>
      if n % 2 = 0 && n != 0 then
        let (count, odd) := splitTwos fuel (n / 2)
        (count + 1, odd)
      else (0, n)

/-- Whether one of some squares after another is one less than the number. -/
def reachesEnd (n : Nat) : Nat → Nat → Bool
  | 0, _ => false
  | count + 1, x => x = n - 1 || reachesEnd n count (x * x % n)

def bases : List Nat := [2, 3, 5, 7, 11, 13, 17, 19, 23, 29, 31, 37, 41, 43, 47, 53]

/-- Whether a number looks like a prime to all bases. -/
def isPrime (n : Nat) : Bool :=
  let bits := Nat.log2 n + 1
  let (twos, odd) := splitTwos bits (n - 1)
  n ≥ 2 && bases.all fun base =>
    n = base || (n % base != 0 &&
      let x := powerMod n bits base odd
      x = 1 || reachesEnd n twos x)

/-- Walks by squares, with one walker twice as fast, until both are the same modulo a factor. -/
def walk (n c : Nat) : Nat → Nat → Nat → Option Nat
  | 0, _, _ => none
  | fuel + 1, slow, fast =>
      let next := fun (x : Nat) => (x * x + c) % n
      let slow := next slow
      let fast := next (next fast)
      let shared := Nat.gcd (if slow < fast then fast - slow else slow - fast) n
      if shared = 1 then walk n c fuel slow fast
      else if shared = n then none else some shared

def maxSteps : Nat := 4000000

def findFactor (n : Nat) : Nat → Option Nat
  | 0 => none
  | tries + 1 =>
      match walk n (20 - tries) maxSteps 2 2 with
      | some f => some f
      | none => findFactor n tries

/-- The prime factors of a number without small ones, with so many steps at most. -/
def large : Nat → Nat → List Nat
  | 0, n => [n]
  | fuel + 1, n =>
      if n < 2 then []
      else if isPrime n then [n]
      else match findFactor n 20 with
        | some f => large fuel f ++ large fuel (n / f)
        | none => [n]

/-- The largest number that is tried as a factor. -/
def maxSmall : Nat := 3000

/-- Divides by the numbers from one on, with so many steps at most. Returns the factors and what is
left. -/
def divideOut : Nat → Nat → Nat → List Nat × Nat
  | 0, _, n => ([], n)
  | fuel + 1, p, n =>
      if p > maxSmall || n < 2 then ([], n)
      else if n < p * p then ([n], 1)
      else if n % p = 0 then
        let (others, left) := divideOut fuel p (n / p)
        (p :: others, left)
      else divideOut fuel (if p = 2 then 3 else p + 2) n

/-- **The prime factors of a number**, in order. -/
def factors (n : Nat) : List Nat :=
  let (small, left) := divideOut (maxSmall + Nat.log2 n + 2) 2 n
  small ++ (large (Nat.log2 left + 1) left).mergeSort (· ≤ ·)

def grouped : List Nat → List (Nat × Nat)
  | [] => []
  | p :: rest =>
      match grouped rest with
      | (q, count) :: others => if p = q then (q, count + 1) :: others else (p, 1) :: (q, count) :: others
      | [] => [(p, 1)]

def line (showsPowers : Bool) (n : Nat) : Text :=
  let shown := if showsPowers then
      (grouped (factors n)).map fun (p, count) =>
        if count = 1 then shownNat p else shownNat p ++ '^' :: shownNat count
    else (factors n).map shownNat
  shownNat n ++ ':' :: shown.flatMap (' ' :: ·) ++ ['\n']

def number? (t : Text) : Option Nat :=
  let start := t.dropWhile (· == ' ')
  let digits := if start.head? = some '+' then start.drop 1 else start
  if !digits.isEmpty && digits.all Char.isDigit then some (Number.value 10 digits) else none

def words (t : Text) : List Text :=
  (Text.splitOn ' ' (t.map fun c => if c == '\n' || c == '\t' then ' ' else c)).filter (· != [])

end Factors

open Factors

def factorOptions : Specification :=
  { name := "factor", letters := "h", words := [("exponents", 'h', .none)] }

def factor : Utility := fun _ arguments =>
  withOptions factorOptions arguments fun g => do
    let given ← if g.operands.isEmpty then do pure (Factors.words ((← Job.input).toOption.getD []))
      else pure g.operands
    let wrong := given.filter fun t => (number? t).isNone
    wrong.forM fun t => complain "factor" (cited t ++ " is not a valid positive integer".toList)
    Job.put ((given.filterMap number?).flatMap (line (g.has 'h')))
    return if wrong.isEmpty then 0 else 1

end SwiftExistential.Utility

/-! ## What comes before what

`tsort` puts names into an order in which each comes behind those that have to come before it. Names
that nothing has to come before go first; those behind a name follow in the opposite order of their
relations. A circle is reported and one of its relations is given up. -/

namespace SwiftExistential.Utility

open Process

namespace Precedence

/-- Names with numbers, and the relations between them. -/
structure Graph where
  /-- The names in order. -/
  names : Array Text
  /-- How many have to come before each. -/
  counts : Array Nat
  /-- Which come behind each, the last relation first. -/
  behind : Array (List Nat)
  isPrinted : Array Bool

namespace Graph

def relate (g : Graph) (a b : Nat) : Graph :=
  if a = b then g
  else { g with counts := g.counts.modify b (· + 1), behind := g.behind.modify a (b :: ·) }

def index (g : Graph) (name : Text) : Nat := (g.names.toList.findIdx? (· == name)).getD 0

/-- Adds the relations of names that stand side by side. -/
def relateAll (g : Graph) : List Text → Graph
  | a :: b :: rest => (g.relate (g.index a) (g.index b)).relateAll rest
  | _ => g

/-- The graph of names that stand side by side. -/
def ofNames (words : List Text) : Graph :=
  let names := (Text.sortDistinct words).toArray
  let empty : Graph :=
    ⟨names, Array.replicate names.size 0, Array.replicate names.size [], Array.replicate names.size false⟩
  empty.relateAll words

/-- The names that nothing has to come before any more. -/
def ready (g : Graph) : List Nat :=
  (List.range g.names.size).filter fun i => g.counts.getD i 0 = 0 && !g.isPrinted.getD i true

/-- Gives up a relation. Returns whether nothing has to come before the name any more. -/
def release (g : Graph) (i : Nat) : Graph × Bool :=
  let g := { g with counts := g.counts.modify i (· - 1) }
  (g, g.counts.getD i 0 = 0)

/-- Gives up relations, one after the other. Returns the names that have become ready. -/
def releaseAll (g : Graph) : List Nat → Graph × List Nat
  | [] => (g, [])
  | i :: rest =>
      let (g, isReady) := g.release i
      let (g, more) := g.releaseAll rest
      (g, if isReady then i :: more else more)

/-- Puts names out, and those that become ready by that, so many at most. Returns the names in
order. -/
def putOut : Nat → Graph → List Nat → Graph × List Nat
  | 0, g, _ => (g, [])
  | _, g, [] => (g, [])
  | fuel + 1, g, i :: queue =>
      let g := { g with isPrinted := g.isPrinted.setIfInBounds i true }
      let (g, more) := g.releaseAll (g.behind.getD i [])
      let (g, others) := putOut fuel g (queue ++ more)
      (g, i :: others)

def name (g : Graph) (i : Nat) : Text := g.names.getD i []

end Graph

/-- A chain of names, each before the next one, on the way to a circle. -/
abbrev Chain := List Nat

/-- One look at all names in order: each may come before the first one of the chain. Returns the
chain, and the circle that it has become with the name that closes it. -/
def lookAt (g : Graph) : List Nat → Chain → Chain × Option (Chain × Nat)
  | [], chain => (chain, none)
  | i :: rest, chain =>
      if g.counts.getD i 0 = 0 then lookAt g rest chain
      else match chain with
        | [] => lookAt g rest [i]
        | first :: others =>
            if !(g.behind.getD i []).contains first then lookAt g rest chain
            else if (first :: others).dropLast.contains i then (chain, some (chain, i))
            else lookAt g rest (i :: chain)

/-- Looks until there is a circle, so often at most. -/
def findCircle (g : Graph) : Nat → Chain → Option (Chain × Nat)
  | 0, _ => none
  | fuel + 1, chain =>
      match lookAt g (List.range g.names.size) chain with
      | (_, some circle) => some circle
      | (chain, none) => findCircle g fuel chain

/-- Gives up the relation from a name to another one. -/
def cut (g : Graph) (a b : Nat) : Graph :=
  { g with counts := g.counts.modify b (· - 1), behind := g.behind.modify a fun is => is.erase b }

/-- Prints names as they get ready, and reports circles, so often at most. -/
def printAll (path : Text) : Nat → Bool → Graph → Job Nat
  | 0, isRight, _ => return if isRight then 0 else 1
  | fuel + 1, isRight, g => do
      let (g, order) := g.putOut (g.names.size + 1) g.ready
      Job.put (joinLines (order.map g.name))
      if g.isPrinted.all id then return if isRight then 0 else 1
      else
        Job.complain ["tsort".toList, readable path, "input contains a loop:".toList]
        match findCircle g (g.names.size + 2) [] with
        | none => return 1
        | some (chain, closing) =>
            let circle := chain.takeWhile (· != closing) ++ [closing]
            circle.forM fun i => complain "tsort" (g.name i)
            printAll path fuel false (cut g closing (chain.headD 0))

end Precedence

open Precedence

def tsortOptions : Specification := { name := "tsort", letters := "" }

def tsort : Utility := fun _ arguments =>
  withOperands tsortOptions 1 arguments fun operands => do
    let path := operands.headD ['-']
    match ← Job.readSource path with
    | .error .isDirectory =>
        Job.complain ["tsort".toList, readable path, "read error".toList, reason .isDirectory]
        return 1
    | .error e =>
        Job.complain ["tsort".toList, readable path, reason e]
        return 1
    | .ok content =>
        let words := Factors.words content
        if words.length % 2 = 1 then
          Job.complain ["tsort".toList, readable path, "input contains an odd number of tokens".toList]
          return 1
        else printAll path (words.length + 1) true (Graph.ofNames words)

end SwiftExistential.Utility

/-! ## Rows of numbers

`seq` prints numbers from one to another. Whole numbers may have as many digits as they like; other
numbers have 64 binary digits. A last number that is passed only because of rounding is printed. -/

namespace SwiftExistential.Utility

open Process

namespace Sequence

open SwiftExistential.Real (Form)
open Shell.Format (Directive)

/-- A number as it was written. -/
structure Operand where
  value : Form
  /-- How many characters it takes. -/
  width : Int
  /-- How many digits stand behind its point, if that is known. -/
  places : Option Nat

def Operand.one : Operand := ⟨.finite false ⟨1, 0⟩, 1, some 0⟩

/-- The places and the width with a power of ten, which stands at an index of a text. -/
def withPower (t : Text) (start : Nat) (o : Operand) : Operand :=
  let power := (Wide.readPower 'e' (t.drop start)).1
  let places := (o.places.getD 0 : Int)
  let point := t.findIdx? (· == '.')
  let width := o.width - (t.length - start : Nat) +
    (if power < 0 then if point.isNone || point = some (start - 1) then 1 else 0 else 0) + power.natAbs
  { o with
    places := o.places.map fun _ => (if power < 0 then places - power else places - min places power).toNat
    width := width }

def Operand.ofText (t : Text) (value : Form) : Operand :=
  let t := t.dropWhile fun c => Number.isSpace c || c == '+'
  let point := t.findIdx? (· == '.')
  let isHex := t.any fun c => c == 'x' || c == 'X'
  let isFinite := match value with
    | .finite .. => true
    | _ => false
  let usual : Option Nat := if point.isNone && !t.contains 'p' then some 0 else none
  if isHex || !isFinite then ⟨value, 0, usual⟩
  else
    let o : Operand := match point with
      | none => ⟨value, t.length, usual⟩
      | some i =>
          let fraction := (t.drop (i + 1)).takeWhile fun c => c != 'e' && c != 'E'
          let change : Int := if fraction.isEmpty then -1
            else if i = 0 || !(t[i - 1]?).any Char.isDigit then 1 else 0
          ⟨value, t.length + change, some fraction.length⟩
    match t.findIdx? fun c => c == 'e' || c == 'E' with
    | some i => withPower t i o
    | none => o

def operand (t : Text) : Except Text Operand :=
  match Wide.read? t with
  | none => .error ("invalid floating point argument: ".toList ++ cited t)
  | some (.notNumber _) => .error ("invalid 'not-a-number' argument: ".toList ++ cited t)
  | some x => .ok (.ofText t x)

/-! ### Formats -/

/-- A format: a directive between two texts. -/
structure Format where
  before : Text
  directive : Directive
  after : Text

/-- A text where two percent signs stand for one. -/
def plain : Text → Text
  | '%' :: '%' :: rest => '%' :: plain rest
  | c :: rest => c :: plain rest
  | [] => []

/-- How long the text before the first directive is, if there is one. -/
def startLength? : Text → Option Nat
  | '%' :: '%' :: rest => (startLength? rest).map (· + 2)
  | '%' :: _ => some 0
  | _ :: rest => (startLength? rest).map (· + 1)
  | [] => none

def Format.read (t : Text) : Except Text Format :=
  let wrong := fun (message : Text) => Except.error ("format ".toList ++ cited t ++ ' ' :: message)
  match startLength? t with
  | none => wrong "has no % directive".toList
  | some n =>
      let behind := t.drop (n + 1)
      let flags := behind.takeWhile fun c => "-+#0 '".toList.contains c
      let behind := behind.drop flags.length
      let width := behind.takeWhile Char.isDigit
      let behind := behind.drop width.length
      let (precision, behind) := match behind with
        | '.' :: rest =>
            let digits := rest.takeWhile Char.isDigit
            (some (Number.value 10 digits), rest.drop digits.length)
        | rest => (none, rest)
      let behind := if behind.head? = some 'L' then behind.drop 1 else behind
      match behind with
      | [] => wrong "ends in %".toList
      | letter :: after =>
          if !"efgaEFGA".toList.contains letter then
            wrong ("has unknown %".toList ++ letter :: " directive".toList)
          else if (startLength? after).isSome then wrong "has too many % directives".toList
          else .ok ⟨plain (t.take n), ⟨flags, Number.value 10 width, precision, letter⟩, plain after⟩

namespace Format

/-- A number without what stands around it. -/
def number (f : Format) (x : Form) : Text := f.directive.form Wide.hexadecimal x

def text (f : Format) (x : Form) : Text := f.before ++ f.number x ++ f.after

/-- The format that fits numbers. All are equally wide if that is asked for. -/
def usual (isEven : Bool) (first step last : Operand) : Format :=
  match first.places, step.places, last.places with
  | some a, some b, some c =>
      let places := max a b
      let width := if !isEven then 0
        else
          let one := first.width + (places - a : Nat) + if a = 0 && places > 0 then 1 else 0
          let other := last.width + ((places : Int) - c) + (if c != 0 && places = 0 then -1 else 0) +
            if c = 0 && places > 0 then 1 else 0
          (max one other).toNat
      ⟨[], ⟨['0'], width, some places, 'f'⟩, []⟩
  | _, _, _ => ⟨[], ⟨[], 0, none, 'g'⟩, []⟩

end Format

/-! ### Numbers -/

def most : Nat := 200000

def isBehind (step last x : Form) : Bool :=
  if Wide.isLess step (.finite false ⟨0, 0⟩) then Wide.isLess x last else Wide.isLess last x

/-- The texts of numbers from one on, with so many at most, behind those that have been printed. -/
def texts (f : Format) (first step last : Form) : Nat → Nat → Form → List Text → List Text
  | 0, _, _, done => done.reverse
  | fuel + 1, i, x, done =>
      let next := Wide.add first (Wide.times i step)
      let done := f.text x :: done
      if !isBehind step last next then texts f first step last fuel (i + 1) next done
      else
        let isLast := match Wide.read? (f.number next) with
          | some y => Wide.isEqual y last && f.text next != f.text x
          | none => false
        (if isLast then f.text next :: done else done).reverse

/-- Whole numbers from one to another, so many at most. -/
def wholeTexts (step last : Nat) : Nat → Nat → List Text → List Text
  | 0, _, done => done.reverse
  | fuel + 1, n, done => if n ≤ last then wholeTexts step last fuel (n + step) (shownNat n :: done) else done.reverse

/-- The whole number that a number is, if it is one and not negative. -/
def whole? (o : Operand) : Option Nat :=
  match o.value, o.places with
  | .finite s d, some 0 =>
      if s && d.mantissa != 0 then none
      else if s then none
      else some (Real.roundDiv (d.mantissa * Nat.pow 2 d.exponent.toNat) (Nat.pow 2 (-d.exponent).toNat))
  | _, _ => none

/-- All texts of a row, in the usual format. -/
def row (first step last : Operand) (isPlain isEven : Bool) : List Text :=
  let usual := fun (_ : Unit) =>
    if isBehind step.value last.value first.value then []
    else texts (.usual isEven first step last) first.value step.value last.value most 1 first.value []
  match whole? first, whole? step, whole? last with
  | some a, some b, some c =>
      if isPlain && 0 < b && b ≤ 200 then wholeTexts b c most a [] else usual ()
  | _, _, _ => usual ()

/-! ### The program -/

def options : Specification :=
  { name := "seq", letters := "f:s:w", isMixed := false,
    words := [("format", 'f', .one), ("separator", 's', .one), ("equal-width", 'w', .none)] }

/-- Puts two dashes before the first argument that is a number, so that it is no option. -/
def guardNumbers : List Text → List Text
  | [] => []
  | ['-', 's'] :: value :: rest => ['-', 's'] :: value :: guardNumbers rest
  | ['-', 'f'] :: value :: rest => ['-', 'f'] :: value :: guardNumbers rest
  | ['-', '-'] :: rest => ['-', '-'] :: rest
  | ('-' :: c :: t) :: rest =>
      if Number.isDigit 10 c || c == '.' then "--".toList :: ('-' :: c :: t) :: rest
      else ('-' :: c :: t) :: guardNumbers rest
  | t :: rest => t :: rest

/-- The first, the step and the last number. -/
def operands : List Text → Except Text (Operand × Operand × Operand)
  | [last] => return (.one, .one, ← operand last)
  | [first, last] => return (← operand first, .one, ← operand last)
  | [first, step, last] => do
      let a ← operand first
      let b ← operand step
      if Wide.isEqual b.value (.finite false ⟨0, 0⟩) then
        throw ("invalid Zero increment value: ".toList ++ cited step)
      return (a, b, ← operand last)
  | _ => throw "missing operand".toList

/-- Whole numbers with as many digits as they like, if all operands are such. -/
def digitsRow? : List Text → Option (List Text)
  | [last] => if isWhole last then some (wholeTexts 1 (Number.value 10 last) most 1 []) else none
  | [first, last] =>
      if isWhole first && isWhole last then
        some (wholeTexts 1 (Number.value 10 last) most (Number.value 10 first) [])
      else none
  | [first, step, last] =>
      let n := Number.value 10 step
      if isWhole first && isWhole step && isWhole last && 0 < n && n ≤ 200 then
        some (wholeTexts n (Number.value 10 last) most (Number.value 10 first) [])
      else none
  | _ => none
where
  /-- Whether a text is digits. -/
  isWhole (t : Text) : Bool := !t.isEmpty && t.all Char.isDigit

end Sequence

open Sequence in
def seq : Utility := fun _ arguments =>
  withOptions options (guardNumbers arguments) fun g => do
    let separator := (g.value? 's').getD ['\n']
    let put := fun (ts : List Text) => do
      if !ts.isEmpty then Job.put (Text.join separator ts ++ ['\n'])
      pure 0
    if g.operands.isEmpty then misuse options "missing operand".toList
    else if g.operands.length > 3 then
      misuse options ("extra operand ".toList ++ cited ((g.operands[3]?).getD []))
    else match (g.value? 'f').map Format.read with
      | some (.error message) =>
          complain "seq" message
          return 1
      | format =>
          if format.isSome && g.has 'w' then
            misuse options "format string may not be specified when printing equal width strings".toList
          else
            let isPlain := format.isNone && !g.has 'w' && separator.length = 1
            match if isPlain then digitsRow? g.operands else none with
            | some ts => put ts
            | none =>
                match operands g.operands with
                | .error message => misuse options message
                | .ok (first, step, last) =>
                    match format with
                    | some (.ok f) =>
                        if isBehind step.value last.value first.value then return 0
                        else put (texts f first.value step.value last.value most 1 first.value [])
                    | _ => put (row first step last isPlain (g.has 'w'))

end SwiftExistential.Utility
