import SwiftExistential.Utility.Backup
import SwiftExistential.Utility.Content

/-!
# Copies in blocks

`dd` copies a part of a file, block by block, and may change the octets on the way. It says how many
blocks it has read and written.

The arguments are no options but operands, each a word, an equals sign and a value. They are put
together into a `Style`; some conversions do not go together, and then nothing is copied.
-/

set_option autoImplicit false

namespace SwiftExistential.Utility

open Process

namespace BlockCopy

/-- A count, in blocks or in octets. -/
structure Amount where
  count : Nat
  isOctets : Bool
deriving Repr

/-- The octets of an amount in blocks of a size. -/
def Amount.octets (a : Amount) (size : Nat) : Nat := if a.isOctets then a.count else a.count * size

/-- How a copy is made. -/
structure Style where
  source : Option Text := none
  target : Option Text := none
  inputSize : Nat := 512
  outputSize : Nat := 512
  /-- Whether blocks are written as they were read. -/
  isDirect : Bool := false
  count : Option Amount := none
  skip : Amount := ⟨0, false⟩
  seek : Amount := ⟨0, false⟩
  /-- The size of records without line ends. -/
  recordSize : Nat := 0
  conversions : List String := []
  inputFlags : List String := []
  outputFlags : List String := []
  level : String := ""

/-! ## Operands

An amount counts blocks or, if it ends with a certain letter, octets. Factors between letters `x`
are multiplied. -/

/-- What is wrong with an operand. -/
structure Mistake where
  message : Text
  isMisuse : Bool

/-- The number of one factor, and whether it counts octets. -/
def factorOf? (t : Text) : Option (Nat × Bool) :=
  let digits := t.takeWhile Char.isDigit
  let n := Number.value 10 digits
  if digits.isEmpty then none
  else match t.drop digits.length with
    | ['c'] => some (n, false)
    | ['w'] => some (2 * n, false)
    | ['B'] => some (n, true)
    | suffix =>
        match factor? suffix with
        | some f => some (n * f, false)
        | none =>
            if suffix.getLast? = some 'B' then (factor? suffix.dropLast).map fun f => (n * f, true) else none

/-- The amount of a text: factors between letters x. -/
def amount? (t : Text) : Option Amount := do
  let factors ← (Text.splitOn 'x' t).mapM factorOf?
  return ⟨factors.foldl (fun n (f, _) => n * f) 1, factors.any Prod.snd⟩

def conversions : List String :=
  ["ascii", "ebcdic", "ibm", "block", "unblock", "lcase", "ucase", "sparse", "swab", "sync", "excl", "nocreat",
    "notrunc", "noerror", "fdatasync", "fsync"]

def flags : List String :=
  ["append", "binary", "cio", "count_bytes", "direct", "directory", "dsync", "fullblock", "noatime", "nocache",
    "noctty", "nofollow", "nolinks", "nonblock", "seek_bytes", "skip_bytes", "sync", "text"]

def listed (known : List String) (what : String) (t : Text) : Except Mistake (List String) :=
  (Text.splitOn ',' t).mapM fun word =>
    if known.contains (String.ofList word) then .ok (String.ofList word)
    else .error ⟨("invalid " ++ what ++ ": ").toList ++ cited word, true⟩

def apply (s : Style) (operand : Text) : Except Mistake Style := do
  let strange : Mistake := ⟨"unrecognized operand ".toList ++ quoted operand, true⟩
  let (name, t) ← match Text.splitAtPart? ['='] operand with
    | some parts => pure parts
    | none => throw strange
  let amount : Except Mistake Amount := match amount? t with
    | some a => .ok a
    | none => .error ⟨"invalid number: ".toList ++ quoted t, false⟩
  let size : Except Mistake Nat := do
    let a ← amount
    if a.count = 0 then throw ⟨"invalid number: ".toList ++ quoted t, false⟩
    return a.count
  match String.ofList name with
  | "if" => return { s with source := some t }
  | "of" => return { s with target := some t }
  | "bs" =>
      let n ← size
      return { s with inputSize := n, outputSize := n, isDirect := true }
  | "ibs" =>
      let n ← size
      return if s.isDirect then s else { s with inputSize := n }
  | "obs" =>
      let n ← size
      return if s.isDirect then s else { s with outputSize := n }
  | "cbs" => return { s with recordSize := ← size }
  | "count" => return { s with count := some (← amount) }
  | "skip" | "iseek" => return { s with skip := ← amount }
  | "seek" | "oseek" => return { s with seek := ← amount }
  | "conv" => return { s with conversions := s.conversions ++ (← listed conversions "conversion" t) }
  | "iflag" => return { s with inputFlags := s.inputFlags ++ (← listed flags "input flag" t) }
  | "oflag" => return { s with outputFlags := s.outputFlags ++ (← listed flags "output flag" t) }
  | "status" =>
      if ["none", "noxfer", "progress"].contains (String.ofList t) then return { s with level := String.ofList t }
      else throw ⟨"invalid status level: ".toList ++ cited t, true⟩
  | _ => throw strange

/-- Two conversions that do not go together. -/
def conflict? (s : Style) : Option String :=
  let both := fun (a b : String) => s.conversions.contains a && s.conversions.contains b
  if (["ascii", "ebcdic", "ibm"].filter s.conversions.contains).length > 1 then
    some "cannot combine any two of \x7bascii,ebcdic,ibm\x7d"
  else if both "block" "unblock" && s.recordSize != 0 then some "cannot combine block and unblock"
  else if both "lcase" "ucase" then some "cannot combine lcase and ucase"
  else if both "excl" "nocreat" then some "cannot combine excl and nocreat"
  else none

def styleOf (operands : List Text) : Except Mistake Style := do
  let s ← operands.foldlM apply {}
  match conflict? s with
  | some message => throw ⟨message.toList, false⟩
  | none =>
      let counts := fun (a : Amount) (flag : List String) (word : String) =>
        if flag.contains word then { a with isOctets := true } else a
      return { s with
        count := s.count.map fun a => counts a s.inputFlags "count_bytes",
        skip := counts s.skip s.inputFlags "skip_bytes",
        seek := counts s.seek s.outputFlags "seek_bytes" }

/-! ## Conversions

The conversions are made one after the other in a fixed order, whatever the order in which they are
named. -/

def swapPairs : Text → Text
  | a :: b :: rest => b :: a :: swapPairs rest
  | t => t

/-- Cuts a text into parts of a size, in so many steps at most. -/
def partsOf (size : Nat) : Nat → Text → List Text
  | 0, _ => []
  | fuel + 1, t => if t.isEmpty then [] else t.take size :: partsOf size fuel (t.drop size)

/-- A copy with its conversions. -/
structure Converted where
  text : Text
  /-- How many lines were too long for a record. -/
  cut : Nat

def Style.convert (s : Style) (t : Text) : Converted :=
  let has := s.conversions.contains
  let isBlock := has "block" && s.recordSize != 0
  let isUnblock := has "unblock" && s.recordSize != 0
  let missing := (s.inputSize - t.length % s.inputSize) % s.inputSize
  let t := if has "sync" then
      t ++ List.replicate missing (if has "block" || has "unblock" then ' ' else '\x00') else t
  let t := if has "ucase" then t.map Char.toUpper else if has "lcase" then t.map Char.toLower else t
  let t := if has "swab" then swapPairs t else t
  if isBlock then
    let lines := records t
    ⟨lines.flatMap fun line => padRight s.recordSize (line.take s.recordSize),
      lines.countP fun line => line.length > s.recordSize⟩
  else if isUnblock then
    ⟨(partsOf s.recordSize (t.length + 1) t).flatMap fun part =>
      (part.reverse.dropWhile (· == ' ')).reverse ++ ['\n'], 0⟩
  else ⟨t, 0⟩

/-! ## Copying

What is passed over and how much is copied is settled first. The report on the blocks goes to the
messages, so that it does not mix with a copy in the output. -/

def Style.report (s : Style) (read : Text) (c : Converted) : Text :=
  let shown := fun (size length : Nat) (what : String) =>
    shownNat (length / size) ++ '+' :: shownNat (if length % size = 0 then 0 else 1) ++
      (" records " ++ what ++ "\n").toList
  let outputSize := if s.isDirect && s.recordSize = 0 then s.inputSize else s.outputSize
  let cut := if c.cut = 0 then []
    else shownNat c.cut ++ (if c.cut = 1 then " truncated record\n" else " truncated records\n").toList
  let n := c.text.length
  let human := fun (isDecimal : Bool) =>
    let base := if isDecimal then 1000 else 1024
    let tenths := n * 10 / base
    shownNat (tenths / 10) ++ '.' :: shownNat (tenths % 10) ++ (if isDecimal then " kB" else " KiB").toList
  let size := if n ≥ 1000 then
      " (".toList ++ human true ++ (if n ≥ 1024 then ", ".toList ++ human false else []) ++ [')'] else []
  shown s.inputSize read.length "in" ++ shown outputSize n "out" ++ cut ++
    if s.level = "noxfer" then []
    else shownNat n ++ (if n = 1 then " byte" else " bytes").toList ++ size ++
      " copied, 0.0001 s, 0.0 kB/s\n".toList

/-- The part of a content that is copied, and whether there is not so much to skip. -/
def Style.part (s : Style) (content : Text) : Text × Bool :=
  let skipped := s.skip.octets s.inputSize
  let rest := content.drop skipped
  (match s.count with
    | some a => rest.take (a.octets s.inputSize)
    | none => rest, skipped > content.length)

/-- Puts octets into a file from a place on. -/
def Style.write (s : Style) (path t : Text) : Job (Except (Text × FileError) Unit) := do
  let failed := fun (e : FileError) =>
    (.error ("failed to open ".toList ++ quoted path, e) : Except (Text × FileError) Unit)
  let found ← Job.find path
  let has := s.conversions.contains
  match found with
  | .ok (_, .directory) => return failed .isDirectory
  | .ok _ => if has "excl" then return failed .alreadyExists
  | .error _ => if has "nocreat" then return failed .notFound
  let old := ((← Job.tree).readBytes (Octets.toText path)).toOption.map Octets.ofArray
  let isFile := match found with
    | .ok (_, .file _ _) => true
    | _ => false
  let old := if isFile then old.getD [] else []
  let start := if s.outputFlags.contains "append" then old.length else s.seek.octets s.outputSize
  let before := old.take start ++ List.replicate (start - old.length) '\x00'
  let after := if has "notrunc" then old.drop (start + t.length) else []
  match ← Job.writeFile path false (before ++ t ++ after) with
  | .ok _ => return .ok ()
  | .error e => return failed e

def Style.copy (s : Style) (read : Text) : Job Nat := do
  let c := s.convert read
  let result : Except (List Text) Unit ← match s.target with
    | some path => do
        match ← s.write path c.text with
        | .ok _ => pure (.ok ())
        | .error (what, e) => pure (.error [what, reason e])
    | none =>
        if s.seek.count != 0 then pure (.error ["'standard output'".toList, "cannot seek".toList, "Illegal seek".toList])
        else do
          Job.put c.text
          pure (.ok ())
  match result with
  | .error parts =>
      Job.complain ("dd".toList :: parts)
      return 1
  | .ok _ =>
      if s.level != "none" then Job.write 2 (s.report read c)
      return 0

def Style.run (s : Style) : Job Nat := do
  let content : Except (List Text) Text ← match s.source with
    | some path => do
        match ← Job.readFile path with
        | .ok t => pure (.ok t)
        | .error .isDirectory => pure (.error ["error reading ".toList ++ quoted path, reason .isDirectory])
        | .error e => pure (.error ["failed to open ".toList ++ quoted path, reason e])
    | none => do
        let limit := s.count.map fun a => s.skip.octets s.inputSize + a.octets s.inputSize
        pure (.ok (← Job.takeInput limit))
  match content with
  | .error parts =>
      Job.complain ("dd".toList :: parts)
      if (← Job.find (s.source.getD [])).toOption.isSome && s.level != "none" then
        Job.write 2 (s.report [] ⟨[], 0⟩)
      return 1
  | .ok content =>
      let (read, isBeyond) := s.part content
      if isBeyond && s.level != "none" then
        Job.complain ["dd".toList, (s.source.map readable).getD "'standard input'".toList,
          "cannot skip to specified offset".toList]
      s.copy read

def options : Specification := { name := "dd", letters := "" }

end BlockCopy

def dd : Utility := fun _ arguments =>
  withOptions BlockCopy.options arguments fun g => do
    match BlockCopy.styleOf g.operands with
    | .ok s => s.run
    | .error m =>
        if m.isMisuse then misuse BlockCopy.options m.message
        else
          complain "dd" m.message
          return 1

end SwiftExistential.Utility
