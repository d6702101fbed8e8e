import SwiftExistential.Expression.Reader
import SwiftExistential.Utility.Content

/-!
# Files cut into pieces

`split` cuts a file into pieces of some size, and `csplit` at the lines that its arguments ask for.
The pieces go to files whose names are counted up.

The pieces are made from the whole text first and are written afterwards, so what a piece holds does
not depend on the files. `split` can hand its pieces to a command instead.
-/

set_option autoImplicit false

namespace SwiftExistential.Utility

open Process

/-! ## Names of pieces

Names end with digits of some alphabet. If no number of digits was asked for, names become longer
when they run out. -/

def alphabetDigits (alphabet : Text) : Nat → Nat → Text
  | 0, _ => []
  | width + 1, n =>
      alphabetDigits alphabet width (n / alphabet.length) ++ [(alphabet[n % alphabet.length]?).getD 'a']

/-- The digits of a number, of which there are more when the first would be the last of the
alphabet. -/
def growingDigits (alphabet : Text) (width : Nat) : Nat → Nat → Text
  | 0, n => alphabetDigits alphabet width n
  | fuel + 1, n =>
      let room := (alphabet.length - 1) * Nat.pow alphabet.length (width - 1)
      if n < room then alphabetDigits alphabet width n
      else alphabet.getLast?.toList ++ growingDigits alphabet (width + 1) fuel (n - room)

/-- How the names of pieces are made. -/
structure PieceNames where
  start : Text
  ending : Text
  alphabet : Text
  /-- The number of digits, and whether it may grow. -/
  width : Nat
  grows : Bool
  /-- The number of the first piece. -/
  first : Nat

def PieceNames.name? (p : PieceNames) (n : Nat) : Option Text :=
  let n := n + p.first
  if p.grows then some (p.start ++ growingDigits p.alphabet p.width 10 n ++ p.ending)
  else if n < Nat.pow p.alphabet.length p.width then
    some (p.start ++ alphabetDigits p.alphabet p.width n ++ p.ending)
  else none

/-! ## Pieces

By lines, by octets, by lines of so many octets at most, or into a number of pieces. -/

def endedRecords (sep : Char) (t : Text) : List Text := go [] [] t
where
  /-- Goes on behind lines and the start of one. -/
  go (lines : List Text) (line : Text) : Text → List Text
    | [] => (if line.isEmpty then lines else line.reverse :: lines).reverse
    | c :: rest => if c == sep then go ((c :: line).reverse :: lines) [] rest else go lines (c :: line) rest

/-- Puts so many things together each time. -/
def chunks {α : Type} (size : Nat) : Nat → List α → List (List α)
  | 0, _ => []
  | _, [] => []
  | fuel + 1, xs => xs.take size :: chunks size fuel (xs.drop size)

/-- Lines put together as long as they have so many octets at most. Longer lines are cut. -/
def lineChunks (size : Nat) (now : Text) : List Text → List Text
  | [] => if now.isEmpty then [] else [now]
  | line :: rest =>
      if now.length + line.length ≤ size then lineChunks size (now ++ line) rest
      else
        let first := if now.isEmpty then [] else [now]
        if line.length ≤ size then first ++ lineChunks size line rest
        else
          let cut := chunks size (line.length + 1) line
          first ++ cut.dropLast ++ lineChunks size (cut.getLast?.getD []) rest

/-- The octets where so many pieces of about the same size end. -/
def pieceEnds (size count : Nat) : List Nat :=
  (List.range count).map fun k => (k + 1) * (size / count) + min (k + 1) (size % count)

def cutAt (start : Nat) : List Nat → Text → List Text
  | [], _ => []
  | n :: rest, t => t.take (n - start) :: cutAt n rest (t.drop (n - start))

/-- Puts each line to the piece in which it begins. -/
def linesUpTo (place : Nat) : List Nat → List Text → List Text
  | [], _ => []
  | n :: rest, lines =>
      let (mine, others, place) := go n [] place lines
      mine :: linesUpTo place rest others
where
  /-- Takes the lines that begin before an octet. -/
  go (limit : Nat) (taken : Text) (place : Nat) : List Text → Text × List Text × Nat
    | [] => (taken, [], place)
    | line :: rest =>
        if place < limit then go limit (taken ++ line) (place + line.length) rest
        else (taken, line :: rest, place)

def dealLines (count : Nat) (lines : List Text) : List Text :=
  (List.range count).map fun k =>
    ((List.range lines.length).filterMap fun i => if i % count = k then lines[i]? else none).flatten

/-! ## Splitting -/

def splitOptions : Specification :=
  { name := "split", letters := "a:b:C:del:n:t:uxz",
    words := [("additional-suffix", 'A', .one), ("bytes", 'b', .one), ("elide-empty-files", 'e', .none),
      ("filter", 'F', .one), ("hex-suffixes", 'X', .optional), ("line-bytes", 'C', .one), ("lines", 'l', .one),
      ("number", 'n', .one), ("numeric-suffixes", 'D', .optional), ("separator", 't', .one),
      ("suffix-length", 'a', .one), ("unbuffered", 'u', .none), ("verbose", 'V', .none)] }

/-- Puts one piece into a file, or hands it to a command. -/
def putPiece (launch : Launch) (g : Given) (name content : Text) : Job Nat := do
  match g.value? 'F' with
  | some command =>
      if g.has 'V' then Job.putLine ("executing with FILE=".toList ++ quoted name)
      let seat ← read
      let (index, machine) := (← get).openChannel (.pipe (Octets.toArray content) 0)
      set machine
      let environment := ("FILE".toList, name) :: seat.environment.filter fun (k, _) => k != "FILE".toList
      match ← (launch ["sh".toList, "-c".toList, command]).run
          { seat.connect 0 index with environment := environment } with
      | .ok (.exited 0) => return 0
      | .ok ending =>
          complain "split" ("with FILE=".toList ++ readable name ++ ", exit ".toList ++ shownNat ending.status ++
            " from command: ".toList ++ command)
          return 1
      | .error _ => return 1
  | none =>
      if g.has 'V' then Job.putLine ("creating file ".toList ++ quoted name)
      match ← Job.writeFile name false content with
      | .ok _ => return 0
      | .error e =>
          Job.complain ["split".toList, readable name, reason e]
          return 1

def putPieces (launch : Launch) (g : Given) (names : PieceNames) : Nat → List Text → Job Nat
  | _, [] => return 0
  | n, piece :: rest => do
      match names.name? n with
      | none =>
          complain "split" "output file suffixes exhausted".toList
          return 1
      | some name =>
          let status ← putPiece launch g name piece
          if status != 0 then return status else putPieces launch g names (n + 1) rest

/-- What is asked for by chunks: the kind, the chunk that is shown, and their number. -/
def chunkNumbers? (t : Text) : Option (Option Char × Option Nat × Nat) :=
  let (kind, rest) := match t with
    | 'l' :: '/' :: rest => (some 'l', rest)
    | 'r' :: '/' :: rest => (some 'r', rest)
    | rest => (none, rest)
  let number := fun (t : Text) =>
    if !t.isEmpty && t.all Char.isDigit && Number.value 10 t > 0 then some (Number.value 10 t) else none
  match Text.splitOn '/' rest with
  | [n] => (number n).map fun n => (kind, none, n)
  | [k, n] => do
      let k ← number k
      let n ← number n
      if k ≤ n then some (kind, some k, n) else none
  | _ => none

/-- The digits that so many names need. -/
def digitsFor (base count : Nat) : Nat → Nat
  | 0 => 1
  | fuel + 1 => if count ≤ base then 1 else 1 + digitsFor base ((count + base - 1) / base) fuel

/-- An argument of digits alone stands for a number of lines. -/
def splitNumber : List Text → List Text
  | [] => []
  | ('-' :: c :: digits) :: rest =>
      if (c :: digits).all Char.isDigit then "-l".toList :: (c :: digits) :: splitNumber rest
      else ('-' :: c :: digits) :: splitNumber rest
  | t :: rest => t :: splitNumber rest

def split : Utility := fun launch arguments =>
  withOptions splitOptions (splitNumber arguments) fun g => do
    let ways := ['b', 'C', 'l', 'n'].filter g.has
    let failed := fun (message : Text) => do
      complain "split" message
      pure 1
    let counted := fun (letter : Char) (what : String) =>
      match g.value? letter with
      | none => Except.ok none
      | some t =>
          match count? t with
          | some 0 | none => .error ("invalid number of ".toList ++ what.toList ++ ": ".toList ++ cited t)
          | some n => .ok (some n)
    let sizes : Except Text (Option Nat × Option Nat × Option Nat) := do
      return (← counted 'l' "lines", ← counted 'b' "bytes", ← counted 'C' "lines")
    match g.operands.drop 2 with
    | extra :: _ => misuse splitOptions ("extra operand ".toList ++ cited extra)
    | [] =>
        if ways.length > 1 then misuse splitOptions "cannot split in more than one way".toList
        else match sizes, (g.value? 'n').map chunkNumbers? with
          | .error message, _ => failed message
          | _, some none => failed ("invalid number of chunks: ".toList ++ cited ((g.value? 'n').getD []))
          | .ok (lines, bytes, lineBytes), parts =>
              let path := g.operands.headD ['-']
              match ← Job.readSource path with
              | .error e =>
                  failed ("cannot open ".toList ++ quoted path ++ " for reading: ".toList ++ reason e)
              | .ok content =>
                  let sep := match g.value? 't' with
                    | some ['\\', '0'] => '\x00'
                    | some (c :: _) => c
                    | _ => '\n'
                  let all := endedRecords sep content
                  let (pieces, shown, count) : List Text × Option Nat × Nat := match parts.join with
                    | some (kind, shown, n) =>
                        let ends := pieceEnds content.length n
                        ((match kind with
                          | some 'l' => linesUpTo 0 ends all
                          | some _ => dealLines n all
                          | none => cutAt 0 ends content), shown, n)
                    | none =>
                        match bytes, lineBytes with
                        | some n, _ => (chunks n (content.length + 1) content, none, 0)
                        | none, some n => (lineChunks n [] all, none, 0)
                        | none, none =>
                            ((chunks (lines.getD 1000) (all.length + 1) all).map List.flatten, none, 0)
                  match shown with
                  | some k =>
                      Job.put ((pieces[k - 1]?).getD [])
                      return 0
                  | none =>
                      let kept := if g.has 'e' then pieces.filter (!·.isEmpty) else pieces
                      let alphabet := if g.has 'd' || g.has 'D' then "0123456789"
                        else if g.has 'x' || g.has 'X' then "0123456789abcdef" else "abcdefghijklmnopqrstuvwxyz"
                      let first := match g.value? 'D', g.value? 'X' with
                        | some t, _ => Number.value 10 t
                        | none, some t => Number.value 16 t
                        | none, none => 0
                      let width := match g.value? 'a' with
                        | some t => max 1 (Number.value 10 t)
                        | none => max 2 (digitsFor alphabet.length count 20)
                      let names : PieceNames :=
                        ⟨(g.operands[1]?).getD ['x'], (g.value? 'A').getD [], alphabet.toList, width,
                          !g.has 'a' && count = 0 && (g.value? 'D').all (·.isEmpty) &&
                            (g.value? 'X').all (·.isEmpty), first⟩
                      putPieces launch g names 0 kept

/-! ## Splitting by context

A border is the number of a line or an expression with an offset, and may count more than once. A
failure removes the files that were written, unless they are to be kept. -/

/-- Where a piece ends. -/
inductive Border where
  | line (number : Nat)
  /-- A line that fits, with an offset. What lies before it may be left out. -/
  | expression (isLeftOut : Bool) (e : Expression) (offset : Int)

/-- A border with how often it counts more, and the text it was written as. -/
structure Control where
  text : Text
  border : Border
  /-- The number of repetitions; none for as many as there are. -/
  repeats : Option Nat

def border? (t : Text) : Except Text Border :=
  match t with
  | d :: rest =>
      if d == '/' || d == '%' then
        let body := rest.reverse.dropWhile (· != d)
        if body.isEmpty then .error (t ++ ": closing delimiter ".toList ++ quoted [d] ++ " missing".toList)
        else
          let after := rest.drop body.length
          let pattern := body.tail.reverse
          let offset : Option Int := if after.isEmpty then some 0 else Number.whole? 10 after
          match offset, Expression.read .basic pattern with
          | some offset, .ok e => .ok (.expression (d == '%') e offset)
          | none, _ => .error (t ++ ": integer expected after delimiter".toList)
          | _, .error e => .error (t ++ ": invalid regular expression: ".toList ++ e.message.toList)
      else if t.all Char.isDigit then
        if Number.value 10 t = 0 then .error (t ++ ": line number must be greater than zero".toList)
        else .ok (.line (Number.value 10 t))
      else .error (cited t ++ ": invalid pattern".toList)
  | [] => .error (cited t ++ ": invalid pattern".toList)

/-- Puts the arguments in braces to those before them. -/
def withRepeats (arguments : List Text) : List (Text × Option Text) :=
  (arguments.foldl (fun (pairs : List (Text × Option Text)) t =>
    match t, pairs with
    | '\x7b' :: more, (before, none) :: rest => (before, some more) :: rest
    | t, pairs => (t, none) :: pairs) []).reverse

/-- The number of repetitions that stands in braces. -/
def repeats? : Option Text → Except Text (Option Nat)
  | none => .ok (some 0)
  | some t =>
      let inner := t.dropLast
      if t.getLast? != some '\x7d' then .error ('\x7b' :: t ++ ": '\x7d' is required in repeat count".toList)
      else if inner = ['*'] then .ok none
      else if !inner.isEmpty && inner.all Char.isDigit then .ok (some (Number.value 10 inner))
      else .error (cited ('\x7b' :: inner) ++ "\x7d: integer required between ".toList ++ cited ['\x7b'] ++
        " and ".toList ++ cited ['\x7d'])

/-- What is to be said about the number of a line behind another one. -/
def checkOrder (last : Option Nat) : Border → Except Text (List Text × Option Nat)
  | .line n =>
      match last with
      | some m =>
          if n < m then
            .error ("line number ".toList ++ cited (shownNat n) ++
              " is smaller than preceding line number, ".toList ++ shownNat m)
          else if n = m then
            .ok (["warning: line number ".toList ++ cited (shownNat n) ++
              " is the same as preceding line number".toList], some n)
          else .ok ([], some n)
      | none => .ok ([], some n)
  | _ => .ok ([], last)

/-- Reads the borders of arguments. Returns them with warnings. -/
def readControls : Option Nat → List (Text × Option Text) → Except Text (List Control × List Text)
  | _, [] => .ok ([], [])
  | last, (t, count) :: rest => do
      let border ← border? t
      let (warnings, last) ← checkOrder last border
      let repeats ← repeats? count
      let (others, more) ← readControls last rest
      return (⟨t, border, repeats⟩ :: others, warnings ++ more)

/-- How far the cutting has come. -/
structure Cutting where
  /-- The lines that are left, and the number of the first of them. -/
  lines : List Text
  first : Nat
  /-- The line at which the search goes on. -/
  current : Nat
  /-- The pieces that were made, the last first. -/
  pieces : List Text

/-- Why the cutting ends. -/
inductive CutEnd where
  /-- Something failed, and what was left is the last piece. -/
  | failed (message : Text) (rest : Option Text)
  /-- There is nothing more to find. -/
  | done

/-- The words behind a failure at a repetition. -/
def onRepetition (n : Nat) : Text :=
  if n = 0 then [] else " on repetition ".toList ++ shownNat n

def takeLines (c : Cutting) (count : Nat) : Text × Cutting :=
  ((c.lines.take count).flatten, { c with lines := c.lines.drop count, first := c.first + count })

def cutOnce (dropsLine : Bool) (control : Control) (repetition : Nat) (c : Cutting) :
    Except (CutEnd × Cutting) Cutting :=
  let afterBorder := fun (c : Cutting) => if dropsLine then (takeLines c 1).2 else c
  match control.border with
  | .line n =>
      let goal := n * (repetition + 1)
      let message := cited control.text ++ ": line number out of range".toList ++ onRepetition repetition
      let wanted := goal - c.first
      let (piece, after) := takeLines c wanted
      if c.lines.isEmpty && dropsLine then .error (.failed message (some []), c)
      else if c.lines.length < wanted then .error (.failed message (some piece), after)
      else
        let after := afterBorder { after with pieces := piece :: after.pieces }
        if after.lines.isEmpty && !dropsLine then .error (.failed message none, after) else .ok after
  | .expression isLeftOut e offset =>
      let start := c.current + 1
      let skip := start - c.first
      let found := (c.lines.drop skip).findIdx? fun line =>
        let body := if line.getLast? = some '\n' then line.dropLast else line
        (Expression.find? ⟨false, false⟩ e none body).isSome
      match found with
      | none =>
          let rest := c.lines.flatten
          let piece := if isLeftOut then none else some rest
          if control.repeats.isNone then
            .error (.done, { c with lines := [], pieces := piece.toList ++ c.pieces })
          else
            .error (.failed (cited control.text ++ ": match not found".toList ++ onRepetition repetition) piece, c)
      | some i =>
          let current := start + i
          let goal : Int := current + offset
          let message := cited control.text ++ ": line number out of range".toList
          if goal < c.first then .error (.failed message (some []), c)
          else
            let count := (goal - c.first).toNat
            let (piece, after) := takeLines c count
            if c.lines.length < count then .error (.failed message (some piece), after)
            else
              let pieces := if isLeftOut then after.pieces else piece :: after.pieces
              .ok (afterBorder { after with
                pieces := pieces, current := if offset > 0 then goal.toNat else current })

/-- Makes pieces up to a border and its repetitions, so many at most. -/
def cutRepeatedly (dropsLine : Bool) (control : Control) : Nat → Nat → Cutting → Except (CutEnd × Cutting) Cutting
  | 0, _, c => .ok c
  | fuel + 1, repetition, c =>
      match cutOnce dropsLine control repetition c with
      | .error e => .error e
      | .ok c =>
          if control.repeats.all fun n => repetition < n then cutRepeatedly dropsLine control fuel (repetition + 1) c
          else .ok c

def cutAll (dropsLine : Bool) : List Control → Cutting → Except (CutEnd × Cutting) Cutting
  | [], c => .ok c
  | control :: rest, c =>
      match cutRepeatedly dropsLine control (c.lines.length + 2) 0 c with
      | .error e => .error e
      | .ok c => cutAll dropsLine rest c

def csplitOptions : Specification :=
  { name := "csplit", letters := "b:f:kn:qsz",
    words := [("digits", 'n', .one), ("elide-empty-files", 'z', .none), ("keep-files", 'k', .none),
      ("prefix", 'f', .one), ("quiet", 's', .none), ("silent", 's', .none), ("suffix-format", 'b', .one),
      ("suppress-matched", 'm', .none)] }

/-- The number of a piece by a format with one directive. -/
def suffixBy (format : Text) (n : Nat) : Except Text Text :=
  match Text.splitAtPart? ['%'] format with
  | none => .error "missing % conversion specification in suffix".toList
  | some (before, rest) =>
      let flags := rest.takeWhile fun c => "-+ 0'#".toList.contains c
      let rest := rest.drop flags.length
      let width := rest.takeWhile Char.isDigit
      match rest.drop width.length with
      | c :: after =>
          let base := match c with
            | 'd' | 'i' | 'u' => some 10
            | 'o' => some 8
            | 'x' | 'X' => some 16
            | _ => none
          match base with
          | none => .error ("invalid conversion specifier in suffix: ".toList ++ [c])
          | some base =>
              if after.contains '%' then .error "too many % conversion specifications in suffix".toList
              else
                let digits := Number.digits base n
                let digits := if c == 'X' then digits.map Char.toUpper else digits
                let fill := List.replicate (Number.value 10 width - digits.length)
                  (if flags.contains '0' then '0' else ' ')
                .ok (before ++ (if flags.contains '-' then digits ++ fill.map fun _ => ' ' else fill ++ digits) ++ after)
      | [] => .error "missing conversion specifier in suffix".toList

/-- Writes pieces into files, and returns their sizes. -/
def writeCuts (name : Nat → Text) : Nat → List Text → Job (List Nat)
  | _, [] => return []
  | n, piece :: rest => do
      discard (Job.writeFile (name n) false piece)
      return piece.length :: (← writeCuts name (n + 1) rest)

/-- Removes the files of so many pieces. -/
def removeCuts (name : Nat → Text) : Nat → Job Unit
  | 0 => return
  | n + 1 => do
      removeCuts name n
      match (← Job.tree).locate false (Octets.toText (name n)) with
      | .ok place => Job.setTree ((← Job.tree).remove place.location)
      | .error _ => pure ()

def csplit : Utility := fun _ arguments =>
  withOptions csplitOptions arguments fun g => do
    let failed := fun (message : Text) => do
      complain "csplit" message
      pure 1
    match g.operands with
    | [] => misuse csplitOptions "missing operand".toList
    | [path] => misuse csplitOptions ("missing operand after ".toList ++ cited path)
    | path :: patterns =>
        let digits := (g.value? 'n').getD ['2']
        if !digits.all Char.isDigit then failed ("invalid number: ".toList ++ cited digits)
        else
          let format := (g.value? 'b').getD ("%0".toList ++ digits ++ ['d'])
          match suffixBy format 0, readControls none (withRepeats patterns) with
          | .error message, _ => failed message
          | _, .error message => failed message
          | .ok _, .ok (controls, warnings) =>
              warnings.forM fun w => complain "csplit" w
              match ← Job.readSource path with
              | .error e =>
                  failed ("cannot open ".toList ++ quoted path ++ " for reading: ".toList ++ reason e)
              | .ok content =>
                  let start : Cutting := ⟨endedRecords '\n' content, 1, 0, []⟩
                  let (message, pieces) : Option Text × List Text := match cutAll (g.has 'm') controls start with
                    | .ok c => (none, (c.lines.flatten :: c.pieces).reverse)
                    | .error (.done, c) => (none, c.pieces.reverse)
                    | .error (.failed message rest, c) => (some message, (rest.toList ++ c.pieces).reverse)
                  let kept := if g.has 'z' then pieces.filter (!·.isEmpty) else pieces
                  let name := fun (n : Nat) =>
                    (g.value? 'f').getD "xx".toList ++ (suffixBy format n).toOption.getD []
                  if let some m := message then complain "csplit" m
                  discard (writeCuts name 0 kept)
                  if message.isSome && !g.has 'k' then removeCuts name kept.length
                  if !(g.has 's' || g.has 'q') then Job.put (joinLines (kept.map fun p => shownNat p.length))
                  return if message.isSome then 1 else 0

end SwiftExistential.Utility
