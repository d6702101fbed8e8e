import SwiftExistential.Hash.Digests
import SwiftExistential.Text.Octets
import SwiftExistential.Utility.Backup
import SwiftExistential.Utility.Encoding

/-!
# Checksums

Programs that print the digests of files, and that read such lines again and say which files they
are right about. There is one program for each hash, `cksum` for all of them, and `sum` for the
oldest two.

How a hash is computed is not told here. An `Algorithm` knows its name, its size and its function,
and all that follows is the same for all of them.
-/

set_option autoImplicit false

/-! ## Digests

A digest is a hash of a file. In a line it stands before or behind the name of the file, and such a
line can be read again. -/

namespace SwiftExistential.Utility.Checksum

/-- The ways to sum up a file. -/
inductive Algorithm where
  | bsd
  | sysv
  | crc
  | md5
  | sha1
  | sha224
  | sha256
  | sha384
  | sha512
  | blake2b
  | sm3
deriving DecidableEq, Repr

namespace Algorithm

def words : List (String × Algorithm) :=
  [("bsd", bsd), ("sysv", sysv), ("crc", crc), ("md5", md5), ("sha1", sha1), ("sha224", sha224),
    ("sha256", sha256), ("sha384", sha384), ("sha512", sha512), ("blake2b", blake2b), ("sm3", sm3)]

def tag : Algorithm → String
  | bsd => "BSD"
  | sysv => "SYSV"
  | crc => "CRC"
  | md5 => "MD5"
  | sha1 => "SHA1"
  | sha224 => "SHA224"
  | sha256 => "SHA256"
  | sha384 => "SHA384"
  | sha512 => "SHA512"
  | blake2b => "BLAKE2b"
  | sm3 => "SM3"

def isSum : Algorithm → Bool
  | bsd | sysv | crc => true
  | _ => false

def size : Algorithm → Nat
  | bsd | sysv => 2
  | crc => 4
  | md5 => 16
  | sha1 => 20
  | sha224 => 28
  | sha256 | sm3 => 32
  | sha384 => 48
  | sha512 | blake2b => 64

def sum (a : Algorithm) (b : ByteArray) : Nat :=
  match a with
  | bsd => Hash.Sum.turning b
  | sysv => Hash.Sum.plain b
  | _ => (Hash.Sum.cyclic b).toNat

/-- The octets of a hash of so many octets. -/
def hash (a : Algorithm) (size : Nat) (b : ByteArray) : Text :=
  let bytes := match a with
    | md5 => Hash.MD5.hash b
    | sha1 => Hash.SHA1.hash b
    | sha224 => Hash.SHA2.hash224 b
    | sha256 => Hash.SHA2.hash256 b
    | sha384 => Hash.SHA2.hash384 b
    | sha512 => Hash.SHA2.hash512 b
    | blake2b => Hash.Blake2b.hash size b
    | sm3 => Hash.SM3.hash b
    | bsd | sysv | crc => Hash.Order.highFirst.bytes a.size (a.sum b)
  bytes.map Octets.ofByte

end Algorithm

/-! ### Lines

A line has the digest before or behind the name of the file. A name with line ends in it is written
with escapes, and a mark at the start of the line says so. -/

/-- The octets of a digest in hexadecimal digits. -/
def inHex (t : Text) : Text :=
  t.flatMap fun c => (Nat.toDigits 16 (c.toNat / 16)) ++ Nat.toDigits 16 (c.toNat % 16)

def inLetters (t : Text) : Text := (Encoding.usual64.encode? t).getD []

/-- A name without the characters that would end its line, and whether there were some. -/
def escapedName (t : Text) : Text × Bool :=
  let isOdd := fun (c : Char) => c == '\\' || c == '\n' || c == '\r'
  if t.any isOdd then
    (t.flatMap fun c =>
      if c == '\\' then ['\\', '\\'] else if c == '\n' then ['\\', 'n'] else if c == '\r' then ['\\', 'r']
      else [c], true)
  else (t, false)

def plainName? : Text → Option Text
  | [] => some []
  | '\\' :: '\\' :: rest => (plainName? rest).map ('\\' :: ·)
  | '\\' :: 'n' :: rest => (plainName? rest).map ('\n' :: ·)
  | '\\' :: 'r' :: rest => (plainName? rest).map ('\r' :: ·)
  | '\\' :: _ => none
  | c :: rest => if c == '\x00' then none else (plainName? rest).map (c :: ·)

/-- A digest that was read from a line. -/
structure Claim where
  algorithm : Algorithm
  /-- The octets of the hash. -/
  size : Nat
  /-- The digest as it stands in the line. -/
  digest : Text
  name : Text

/-- What is known before lines are read. -/
structure LineFormat where
  /-- The algorithm; if there is none, lines have to name it. -/
  algorithm : Option Algorithm
  /-- Whether digests may also stand in 64 letters. -/
  allowsLetters : Bool

/-- Whether a text is the digest of a hash of so many octets. -/
def LineFormat.isDigest (f : LineFormat) (size : Nat) (t : Text) : Bool :=
  (t.length = 2 * size && t.all (Number.isDigit 16)) ||
    (f.allowsLetters && t.length = (size + 2) / 3 * 4 &&
      (t.reverse.dropWhile (· == '=')).all Encoding.usual64.letters.contains)

def isGap (c : Char) : Bool := c == ' ' || c == '\t'

/-- Reads what stands behind the bracket in front of a name. -/
def LineFormat.readTagged (f : LineFormat) (a : Algorithm) (size : Nat) (isEscaped : Bool) (t : Text) :
    Option Claim := do
  let back := t.reverse.dropWhile (· != ')')
  if back.isEmpty then none
  else
    let name := back.tail.reverse
    let name ← if isEscaped then plainName? name else some name
    match (t.drop back.length).dropWhile isGap with
    | '=' :: rest =>
        let digest := rest.dropWhile isGap
        if f.isDigest size digest then some ⟨a, size, digest, name⟩ else none
    | _ => none

def sizeBehindTag (a : Algorithm) (t : Text) : Option (Nat × Text) :=
  match a, t with
  | .blake2b, '-' :: rest =>
      let digits := rest.takeWhile Char.isDigit
      let bits := Number.value 10 digits
      if bits = 0 || bits > 512 || bits % 8 != 0 then none else some (bits / 8, rest.drop digits.length)
  | a, t => some (a.size, t)

/-- Reads a line. Whether names stand right behind one blank is settled by the first line. -/
def LineFormat.read (f : LineFormat) (isNarrow : Option Bool) (line : Text) : Option Claim × Option Bool :=
  let t := line.dropWhile isGap
  let isEscaped := t.head? = some '\\'
  let t := if isEscaped then t.tail else t
  let named := t.takeWhile fun c => !(isGap c || c == '-' || c == '(')
  let algorithm : Option Algorithm := match f.algorithm with
    | some a => some a
    | none => ((Algorithm.words.map Prod.snd).find? fun (a : Algorithm) => a.tag.toList = named).filter fun a => !a.isSum
  match algorithm with
  | none => (none, isNarrow)
  | some a =>
      match Text.dropPart? a.tag.toList t with
      | some rest =>
          let claim := (sizeBehindTag a rest).bind fun (size, rest) =>
            match if rest.head? = some ' ' then rest.tail else rest with
            | '(' :: rest => f.readTagged a size isEscaped rest
            | _ => none
          (claim, isNarrow)
      | none =>
          let digest := t.takeWhile fun c => !isGap c
          let rest := t.drop (digest.length + 1)
          let size := if a = .blake2b then digest.length / 2 else a.size
          let isRight := size != 0 && size ≤ 64 && f.isDigest size digest
          if f.algorithm.isNone || !isRight || rest.isEmpty then (none, isNarrow)
          else
            let looksNarrow := rest.length = 1 || !(rest.head? = some ' ' || rest.head? = some '*')
            let claim := fun (name : Text) =>
              ((if isEscaped then plainName? name else some name).map fun name => (⟨a, size, digest, name⟩ : Claim))
            if looksNarrow then
              if isNarrow = some false then (none, isNarrow) else (claim rest, some true)
            else if isNarrow = some true then (claim rest, isNarrow)
            else (claim rest.tail, some false)

def Claim.holds (c : Claim) (content : Text) : Bool :=
  let hash := c.algorithm.hash c.size (Octets.toArray content)
  c.digest.map Char.toLower = inHex hash || c.digest = inLetters hash

end SwiftExistential.Utility.Checksum

/-! ## Digests of files

There is a program for each hash, and `cksum` for all of them. They print a line for each file, or
read such lines and say which files they are right about. -/

namespace SwiftExistential.Utility

open Process

namespace Checksum

/-- How digests are printed. -/
structure Printing where
  name : String
  algorithm : Algorithm
  size : Nat
  /-- Whether the name of the algorithm comes first. -/
  isTagged : Bool
  isBinary : Bool
  isRaw : Bool
  isInLetters : Bool
  lineEnd : Char
  /-- Whether the name of the file is left out. -/
  isNameless : Bool

def Printing.line (p : Printing) (path content : Text) : Text :=
  let bytes := Octets.toArray content
  let hash := p.algorithm.hash p.size bytes
  if p.isRaw then hash
  else if p.algorithm.isSum then
    let sum := p.algorithm.sum bytes
    let blocks := fun (size : Nat) => shownNat ((content.length + size - 1) / size)
    let shown := match p.algorithm with
      | .bsd =>
          let digits := shownNat sum
          List.replicate (5 - digits.length) '0' ++ digits ++ ' ' :: padLeft 5 (blocks 1024)
      | .sysv => shownNat sum ++ ' ' :: blocks 512
      | _ => shownNat sum ++ ' ' :: shownNat content.length
    shown ++ (if p.isNameless then [] else ' ' :: path) ++ [p.lineEnd]
  else
    let (shownName, isEscaped) := if p.lineEnd == '\n' then escapedName path else (path, false)
    let digest := if p.isInLetters then inLetters hash else inHex hash
    let length := if p.algorithm = .blake2b && p.size != 64 then '-' :: shownNat (8 * p.size) else []
    (if isEscaped then ['\\'] else []) ++
      (if p.isTagged then
        p.algorithm.tag.toList ++ length ++ " (".toList ++ shownName ++ ") = ".toList ++ digest
      else digest ++ ' ' :: (if p.isBinary then '*' else ' ') :: shownName) ++ [p.lineEnd]

def Printing.run (p : Printing) (paths : List Text) : Job Nat :=
  forAll
    (fun path => do
      match ← Job.readSource path with
      | .ok content =>
          Job.put (p.line path content)
          return 0
      | .error e =>
          Job.complain [p.name.toList, readable path, reason e]
          return 1)
    paths

/-! ### Checking

Each line that can be read names a file and a digest. The tally of a file of lines decides on the
warnings and on the status at its end. -/

/-- How lines are checked. -/
structure Checking where
  name : String
  format : LineFormat
  /-- The name of the algorithm in messages. -/
  tag : String
  isQuiet : Bool
  isSilent : Bool
  isStrict : Bool
  warns : Bool
  ignoresMissing : Bool

/-- What has been found out about the lines of a file. -/
structure Tally where
  /-- The number of the last line. -/
  line : Nat := 0
  isNarrow : Option Bool
  hasProper : Bool := false
  hasMatch : Bool := false
  improper : Nat := 0
  unread : Nat := 0
  different : Nat := 0

/-- Says something about a file of a line. -/
def Checking.tell (c : Checking) (name : Text) (verdict : String) : Job Unit := do
  if !c.isSilent then
    let (shown, isEscaped) := escapedName name
    Job.putLine ((if isEscaped then ['\\'] else []) ++ shown ++ ": ".toList ++ verdict.toList)

def Checking.checkClaim (c : Checking) (tally : Tally) (claim : Claim) : Job Tally := do
  let tally := { tally with hasProper := true }
  match ← Job.readSource claim.name with
  | .error e =>
      if c.ignoresMissing && e = .notFound then return tally
      else
        Job.complain [c.name.toList, readable claim.name, reason e]
        c.tell claim.name "FAILED open or read"
        return { tally with unread := tally.unread + 1 }
  | .ok content =>
      if claim.holds content then
        if !c.isQuiet then c.tell claim.name "OK"
        return { tally with hasMatch := true }
      else
        c.tell claim.name "FAILED"
        return { tally with different := tally.different + 1 }

def Checking.checkLines (c : Checking) (path shownPath : Text) : Tally → List Text → Job Tally
  | tally, [] => return tally
  | tally, line :: rest => do
      let tally := { tally with line := tally.line + 1 }
      let t := if line.getLast? = some '\r' then line.dropLast else line
      if line.head? = some '#' || t.isEmpty then c.checkLines path shownPath tally rest
      else
        let (claim, isNarrow) := c.format.read tally.isNarrow t
        let tally := { tally with isNarrow := isNarrow }
        match claim.filter fun claim => !(path = ['-'] && claim.name = ['-']) with
        | some claim =>
            let tally ← c.checkClaim tally claim
            c.checkLines path shownPath tally rest
        | none =>
            if c.warns then
              Job.complain [c.name.toList, shownPath, shownNat tally.line,
                ("improperly formatted " ++ c.tag ++ " checksum line").toList]
            c.checkLines path shownPath { tally with improper := tally.improper + 1 } rest

/-- Warns about a number of things. -/
def Checking.warn (c : Checking) (n : Nat) (one many : String) : Job Unit := do
  if n != 0 && !c.isSilent then
    complain c.name ("WARNING: ".toList ++ shownNat n ++ ' ' :: (if n = 1 then one else many).toList)

def Checking.run (c : Checking) : Option Bool → List Text → Job Nat
  | _, [] => return 0
  | isNarrow, path :: rest => do
      let shown := if path = ['-'] then inQuotes "standard input".toList else readable path
      match ← Job.readSource path with
      | .error e =>
          Job.complain [c.name.toList, shown, if e = .isDirectory then "read error".toList else reason e]
          return max 1 (← c.run isNarrow rest)
      | .ok content =>
          let tally ← c.checkLines path shown { isNarrow := isNarrow } (records content)
          if !tally.hasProper then
            Job.complain [c.name.toList, shown, "no properly formatted checksum lines found".toList]
          else
            c.warn tally.improper "line is improperly formatted" "lines are improperly formatted"
            c.warn tally.unread "listed file could not be read" "listed files could not be read"
            c.warn tally.different "computed checksum did NOT match" "computed checksums did NOT match"
            if c.ignoresMissing && !tally.hasMatch && !c.isSilent then
              Job.complain [c.name.toList, shown, "no file was verified".toList]
          let isRight := tally.hasMatch && tally.different = 0 && tally.unread = 0 &&
            (!c.isStrict || tally.improper = 0)
          return max (if isRight then 0 else 1) (← c.run tally.isNarrow rest)

/-! ### Options -/

def commonWords : List (String × Char × Arity) :=
  [("binary", 'b', .none), ("check", 'c', .none), ("ignore-missing", 'I', .none), ("quiet", 'q', .none),
    ("status", 's', .none), ("strict", 'S', .none), ("tag", 'T', .none), ("text", 't', .none),
    ("warn", 'w', .none), ("zero", 'z', .none)]

def options (name : String) : Specification :=
  if name = "b2sum" then
    { name := name, letters := "l:bctwz", words := commonWords ++ [("length", 'l', .one)] }
  else { name := name, letters := "bctwz", words := commonWords }

def cksumOptions : Specification :=
  { name := "cksum", letters := "a:l:bctwz",
    words := commonWords ++ [("algorithm", 'a', .one), ("base64", 'B', .none), ("debug", 'D', .none),
      ("length", 'l', .one), ("raw", 'R', .none), ("untagged", 'U', .none)] }

/-- What is wrong with options that do not go together. -/
def mistake? (g : Given) (isCksum isTagged isText : Bool) : Option String :=
  let isChecked := g.has 'c'
  let only := fun (word : String) =>
    some ("the --" ++ word ++ " option is meaningful only when verifying checksums")
  if isTagged && isText then
    some (if isCksum then "--text mode is only supported with --untagged" else "--tag does not support --text mode")
  else if isChecked then
    if g.has 'z' then some "the --zero option is not supported when verifying checksums"
    else if g.has 'T' && !isCksum then some "the --tag option is meaningless when verifying checksums"
    else if g.has 'b' || g.has 't' || g.has 'T' then
      some "the --binary and --text options are meaningless when verifying checksums"
    else none
  else if g.has 'I' then only "ignore-missing"
  else if g.last? "swq" = some 's' then only "status"
  else if g.last? "swq" = some 'w' then only "warn"
  else if g.last? "swq" = some 'q' then only "quiet"
  else if g.has 'S' then only "strict"
  else none

/-- The octets of a hash whose bits are asked for, or what is wrong. -/
def lengthOf (g : Given) : Except (List Text) Nat :=
  match g.value? 'l' with
  | none => .ok 64
  | some t =>
      let bits := Number.value 10 t
      let first := "invalid length: ".toList ++ cited t
      if t.isEmpty || !t.all Char.isDigit then .error [first]
      else if bits > 512 then .error [first, "maximum digest length for 'BLAKE2b' is 512 bits".toList]
      else if bits % 8 != 0 then .error [first, "length is not a multiple of 8".toList]
      else .ok (if bits = 0 then 64 else bits / 8)

def checkingOf (name : String) (g : Given) (format : LineFormat) (tag : String) : Checking :=
  let mood := g.last? "swq"
  { name := name, format := format, tag := tag, isQuiet := mood = some 'q', isSilent := mood = some 's',
    isStrict := g.has 'S', warns := mood = some 'w', ignoresMissing := g.has 'I' }

def pathsOf (g : Given) : List Text := if g.operands.isEmpty then [['-']] else g.operands

end Checksum

open Checksum

def sumAs (name : String) (a : Algorithm) : Utility := fun _ arguments =>
  let s := Checksum.options name
  withOptions s arguments fun g => do
    match lengthOf g with
    | .error messages =>
        messages.forM (complain name)
        return 1
    | .ok size =>
        let mode := g.last? "btT"
        match mistake? g false (g.has 'T') (mode = some 't') with
        | some message => misuse s message.toList
        | none =>
            if g.has 'c' then (checkingOf name g ⟨some a, false⟩ a.tag).run none (pathsOf g)
            else
              let printing : Printing :=
                { name := name, algorithm := a, size := min a.size size, isTagged := g.has 'T',
                  isBinary := mode = some 'b', isRaw := false, isInLetters := false,
                  lineEnd := if g.has 'z' then '\x00' else '\n', isNameless := false }
              printing.run (pathsOf g)

def refuseAlgorithm (t : Text) : Job Nat := do
  complain "cksum" ("invalid argument ".toList ++ cited t ++ " for '--algorithm'".toList)
  Job.write 2 ("Valid arguments are:\n".toList ++ joinLines (Algorithm.words.map fun (word, _) =>
    "  - ".toList ++ inQuotes word.toList))
  Job.write 2 ("Try '".toList ++ (← read).named "cksum".toList ++ " --help' for more information.\n".toList)
  return 1

def cksum : Utility := fun _ arguments =>
  withOptions cksumOptions arguments fun g => do
    match (g.values 'a').find? fun t => (Algorithm.words.lookup (String.ofList t)).isNone with
    | some t => refuseAlgorithm t
    | none =>
        let given := (g.value? 'a').bind fun t => Algorithm.words.lookup (String.ofList t)
        let a := given.getD .crc
        let failed := fun (messages : List Text) => do
          messages.forM (complain "cksum")
          pure 1
        match lengthOf g with
        | .error messages => failed messages
        | .ok size =>
            let isTagged := g.last? "TU" != some 'U'
            let mode := g.last? "btT"
            if g.has 'l' && a != .blake2b then failed ["--length is only supported with --algorithm=blake2b".toList]
            else if g.has 'c' && given.any Algorithm.isSum then
              failed ["--check is not supported with --algorithm=\x7bbsd,sysv,crc\x7d".toList]
            else match mistake? g true isTagged (mode = some 't') with
            | some message => misuse cksumOptions message.toList
            | none =>
                if g.has 'c' then
                  (checkingOf "cksum" g ⟨given, true⟩ (given.getD .crc).tag).run none (pathsOf g)
                else if g.has 'R' && g.operands.length > 1 then
                  failed ["the --raw option is not supported with multiple files".toList]
                else
                  let printing : Printing :=
                    { name := "cksum", algorithm := a, size := min a.size size, isTagged := isTagged,
                      isBinary := mode = some 'b', isRaw := g.has 'R', isInLetters := g.has 'B',
                      lineEnd := if g.has 'z' then '\x00' else '\n', isNameless := g.operands.isEmpty }
                  printing.run (pathsOf g)

def sumOptions : Specification := { name := "sum", letters := "rs", words := [("sysv", 's', .none)] }

def sum : Utility := fun _ arguments =>
  withOptions sumOptions arguments fun g =>
    let printing : Printing :=
      { name := "sum", algorithm := if g.last? "rs" = some 's' then .sysv else .bsd, size := 2, isTagged := false,
        isBinary := false, isRaw := false, isInLetters := false, lineEnd := '\n',
        isNameless := g.operands.isEmpty }
    printing.run (pathsOf g)

end SwiftExistential.Utility
