import SwiftExistential.Expression.Reader
import SwiftExistential.Utility.Options

/-!
# Numbers before lines

`nl` numbers the lines of pages. A page has a head, a body and a foot, each with its own rule for
which lines get a number; lines of marks stand between them.

The files are numbered as one text, so the state is handed from file to file. A new page begins the
numbers anew unless that is not wanted, and several empty lines may count as one.
-/

set_option autoImplicit false

namespace SwiftExistential.Utility

open Process

/-- Which lines get a number. -/
inductive NumberRule where
  | all
  | filled
  | none
  | fitting (e : Expression)

inductive PagePart where
  | head
  | body
  | foot
deriving DecidableEq, Repr

/-- How lines are numbered. -/
structure NumberStyle where
  head : NumberRule
  body : NumberRule
  foot : NumberRule
  /-- The mark that stands once, twice or three times before a part. -/
  mark : Text
  first : Int
  step : Int
  /-- How many empty lines count as one. -/
  joined : Nat
  width : Nat
  separator : Text
  alignsLeft : Bool
  fillsZeros : Bool
  keepsCount : Bool

/-- How far the lines have been numbered. -/
structure NumberState where
  part : PagePart
  number : Int
  empty : Nat

namespace NumberStyle

def rule (s : NumberStyle) : PagePart → NumberRule
  | .head => s.head
  | .body => s.body
  | .foot => s.foot

/-- The part of a page that a line begins. -/
def begins? (s : NumberStyle) (line : Text) : Option PagePart :=
  if s.mark.isEmpty then none
  else if line = s.mark ++ s.mark ++ s.mark then some .head
  else if line = s.mark ++ s.mark then some .body
  else if line = s.mark then some .foot
  else none

/-- A number as it stands before a line. -/
def shown (s : NumberStyle) (n : Int) : Text :=
  if s.fillsZeros then
    let digits := shownNat n.natAbs
    let sign := if n < 0 then ['-'] else []
    sign ++ List.replicate (s.width - digits.length - sign.length) '0' ++ digits
  else if s.alignsLeft then padRight s.width (Number.shown n)
  else padLeft s.width (Number.shown n)

/-- Whether a line gets a number, and the number of empty lines behind it. -/
def numbers (s : NumberStyle) (state : NumberState) (line : Text) : Bool × Nat :=
  match s.rule state.part with
  | .none => (false, state.empty)
  | .filled => (!line.isEmpty, state.empty)
  | .fitting e => ((Expression.find? ⟨false, false⟩ e none line).isSome, state.empty)
  | .all =>
      if s.joined ≤ 1 || !line.isEmpty || state.empty + 1 = s.joined then (true, 0)
      else (false, state.empty + 1)

def line (s : NumberStyle) (state : NumberState) (line : Text) : Text × NumberState :=
  match s.begins? line with
  | some part =>
      (['\n'], { state with
        part := part, number := if s.keepsCount then state.number else s.first })
  | none =>
      let (isNumbered, empty) := s.numbers state line
      let state := { state with empty := empty }
      if isNumbered then
        (s.shown state.number ++ s.separator ++ line ++ ['\n'], { state with number := state.number + s.step })
      else (List.replicate (s.width + s.separator.length) ' ' ++ line ++ ['\n'], state)

end NumberStyle

def numberFiles (s : NumberStyle) : NumberState → List Text → Job Nat
  | _, [] => return 0
  | state, path :: rest => do
      match ← Job.readSource path with
      | .error e =>
          Job.complain ["nl".toList, readable path, reason e]
          return max 1 (← numberFiles s state rest)
      | .ok content =>
          let (shown, state) := (records content).foldl (fun (done : List Text × NumberState) line =>
            let (t, state) := s.line done.2 line
            (t :: done.1, state)) ([], state)
          Job.put shown.reverse.flatten
          numberFiles s state rest

def nlOptions : Specification :=
  { name := "nl", letters := "b:d:f:h:i:l:n:ps:v:w:",
    words := [("header-numbering", 'h', .one), ("body-numbering", 'b', .one), ("footer-numbering", 'f', .one),
      ("starting-line-number", 'v', .one), ("line-increment", 'i', .one), ("no-renumber", 'p', .none),
      ("join-blank-lines", 'l', .one), ("number-separator", 's', .one), ("number-width", 'w', .one),
      ("number-format", 'n', .one), ("section-delimiter", 'd', .one)] }

def numberRule? (t : Text) : Option NumberRule :=
  match t with
  | ['a'] => some .all
  | ['t'] => some .filled
  | ['n'] => some .none
  | 'p' :: pattern => (Expression.read .basic pattern).toOption.map .fitting
  | _ => none

/-- The first rule that is none, with the part of a page that it would have been for. -/
def wrongRule? (g : Given) : Option (String × Text) :=
  [('h', "header"), ('b', "body"), ('f', "footer")].findSome? fun (letter, name) =>
    (g.value? letter).bind fun t => if (numberRule? t).isNone then some (name, t) else none

/-- The first number that is none, with what is said about it. -/
def wrongNumber? (g : Given) : Option Text :=
  [('v', "starting line number"), ('i', "line number increment"), ('l', "line number of blank lines"),
    ('w', "line number field width")].findSome? fun (letter, name) =>
    (g.value? letter).bind fun t =>
      let about := "invalid ".toList ++ name.toList ++ ": ".toList ++ cited t
      match Number.whole? 10 t with
      | none => some about
      | some n =>
          if (letter == 'l' && n < 0) || (letter == 'w' && n ≤ 0) then
            some (about ++ ": Numerical result out of range".toList)
          else none

def nl : Utility := fun _ arguments =>
  withOptions nlOptions arguments fun g => do
    let form := (g.value? 'n').getD "rn".toList
    match wrongRule? g, wrongNumber? g with
    | some (name, t), _ =>
        misuse nlOptions ("invalid ".toList ++ name.toList ++ " numbering style: ".toList ++ cited t)
    | none, some message =>
        complain "nl" message
        return 1
    | none, none =>
        if !(["ln", "rn", "rz"].contains (String.ofList form)) then
          misuse nlOptions ("invalid line numbering format: ".toList ++ cited form)
        else
          let rule := fun (letter : Char) (usual : NumberRule) =>
            ((g.value? letter).bind numberRule?).getD usual
          let number := fun (letter : Char) (usual : Int) =>
            ((g.value? letter).bind (Number.whole? 10)).getD usual
          let style : NumberStyle :=
            { head := rule 'h' .none, body := rule 'b' .filled, foot := rule 'f' .none,
              mark := match g.value? 'd' with
                | none => ['\\', ':']
                | some [c] => [c, ':']
                | some t => t,
              first := number 'v' 1, step := number 'i' 1, joined := (number 'l' 1).toNat,
              width := (number 'w' 6).toNat, separator := (g.value? 's').getD ['\t'],
              alignsLeft := form = "ln".toList, fillsZeros := form = "rz".toList, keepsCount := g.has 'p' }
          numberFiles style ⟨.body, style.first, 0⟩ (if g.operands.isEmpty then [['-']] else g.operands)

end SwiftExistential.Utility
