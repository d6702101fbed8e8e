import SwiftExistential.Utility.Options

/-!
# Octets written in letters

`base64`, `base32` and `basenc` write octets in letters that can be sent everywhere, and read them
back. Reading stops at the first letter that makes no sense, and what was read before is printed.

A scheme says how many octets and letters belong together and which letters there are. Octets are
written group by group, and a group that is not complete is filled up. Letters are broken into lines
of a width, and line ends are passed over when they are read.
-/

set_option autoImplicit false

namespace SwiftExistential.Utility

open Process

namespace Encoding

/-- The ways to write octets in letters. -/
inductive Scheme where
  /-- Six bits in each letter. -/
  | sixBits (digits : Text)
  /-- Five bits in each letter. -/
  | fiveBits (digits : Text)
  /-- Four bits in each letter. -/
  | fourBits
  /-- One bit in each letter, the greatest or the least first. -/
  | oneBit (isGreatestFirst : Bool)
  /-- Five letters for four octets. -/
  | fives
deriving DecidableEq, Repr

def capitals : Text := "ABCDEFGHIJKLMNOPQRSTUVWXYZ".toList

/-- The digits of base 64, but for the last two. -/
def manyDigits : Text := capitals ++ capitals.map Char.toLower ++ "0123456789".toList

def usual64 : Scheme := .sixBits (manyDigits ++ ['+', '/'])

def usual32 : Scheme := .fiveBits (capitals ++ "234567".toList)

def digits85 : Text :=
  "0123456789".toList ++ capitals.map Char.toLower ++ capitals ++ ".-:+=^!/*?&<>()[]\x7b\x7d@%$#".toList

/-- The digits of a number in a base, so many of them. -/
def places (base : Nat) : Nat → Nat → List Nat
  | 0, _ => []
  | count + 1, n => n / Nat.pow base count % base :: places base count n

def numberOf (base : Nat) (values : List Nat) : Nat := values.foldl (fun n v => n * base + v) 0

/-- Cuts a list into parts of a length, in so many steps at most. -/
def partsOf (size : Nat) : Nat → Text → List Text
  | 0, _ => []
  | fuel + 1, t => if t.isEmpty then [] else t.take size :: partsOf size fuel (t.drop size)

/-- Cuts a text into parts of a length. -/
def parts (size : Nat) (t : Text) : List Text := partsOf size (t.length + 1) t

/-- Writes a part of `octets` octets in `letters` letters. A short part is filled up. -/
def encodePart (digits : Text) (octets letters : Nat) (part : Text) : Text :=
  let values := part.map Char.toNat ++ List.replicate (octets - part.length) 0
  let shown := (places digits.length letters (numberOf 256 values)).map fun d => (digits[d]?).getD '='
  let used := (part.length * 8 * letters + octets * 8 - 1) / (octets * 8)
  shown.take used ++ List.replicate (letters - used) '='

namespace Scheme

/-- Writes octets, if there can be so many. -/
def encode? (s : Scheme) (t : Text) : Option Text :=
  match s with
  | sixBits digits => some ((parts 3 t).flatMap (encodePart digits 3 4))
  | fiveBits digits => some ((parts 5 t).flatMap (encodePart digits 5 8))
  | fourBits => some (t.flatMap fun c => encodePart "0123456789ABCDEF".toList 1 2 [c])
  | oneBit isGreatestFirst =>
      some (t.flatMap fun c =>
        let bits := encodePart ['0', '1'] 1 8 [c]
        if isGreatestFirst then bits else bits.reverse)
  | fives =>
      if t.length % 4 = 0 then
        some ((parts 4 t).flatMap fun part =>
          (places 85 5 (numberOf 256 (part.map Char.toNat))).map fun d => (digits85[d]?).getD '=')
      else none

def letters : Scheme → Text
  | sixBits digits => digits
  | fiveBits digits => digits
  | fourBits => "0123456789ABCDEF".toList
  | oneBit _ => ['0', '1']
  | fives => digits85

/-- How many letters belong together. -/
def size : Scheme → Nat
  | sixBits _ => 4
  | fiveBits _ => 8
  | fourBits => 2
  | oneBit _ => 8
  | fives => 5

/-- The octets of six bits in each of up to four letters, and whether they make sense. -/
def decodeSixes (digits : Text) (part : Text) : Text × Bool :=
  let values := part.map digits.idxOf?
  let octet := fun (n : Nat) => Char.ofNat (n % 256)
  match values with
  | some a :: some b :: rest =>
      let first := [octet (a * 4 + b / 16)]
      match rest, part.drop 2 with
      | [_, _], ['=', '='] => (first, true)
      | some c :: rest, _ =>
          let second := first ++ [octet (b * 16 + c / 4)]
          match rest, part.drop 3 with
          | [some d], _ => (second ++ [octet (c * 64 + d)], true)
          | _, ['='] => (second, true)
          | _, _ => (second, false)
      | _, _ => (first, false)
  | _ => ([], false)

/-- How many octets the first of eight letters hold that make sense, and whether all do. -/
def fivesCount (digits : Text) (part : Text) : Nat × Bool :=
  let isDigit := fun (i : Nat) => (part[i]?).any digits.contains
  let isFilled := fun (i : Nat) => (part.drop i).all (· == '=')
  if part.length < 8 || !(isDigit 0 && isDigit 1) then (0, false)
  else if part[2]? = some '=' then (1, isFilled 2)
  else if !(isDigit 2 && isDigit 3) then (1, false)
  else if part[4]? = some '=' then (2, isFilled 4)
  else if !isDigit 4 then (2, false)
  else if part[5]? = some '=' then (3, isFilled 5)
  else if !(isDigit 5 && isDigit 6) then (3, false)
  else if part[7]? = some '=' then (4, true)
  else if isDigit 7 then (5, true) else (4, false)

/-- The octets of five bits in each of eight letters, and whether they make sense. -/
def decodeFives (digits : Text) (part : Text) : Text × Bool :=
  let (n, isRight) := fivesCount digits part
  let values := part.map fun c => (digits.idxOf? c).getD 0
  (((places 256 5 (numberOf 32 values)).take n).map Char.ofNat, isRight)

/-- The octets of letters that belong together, and whether they make sense. -/
def decodePart (s : Scheme) (part : Text) : Text × Bool :=
  let values := part.filterMap s.letters.idxOf?
  let isWhole := values.length = s.size && part.length = s.size
  match s with
  | sixBits digits => decodeSixes digits part
  | fiveBits digits => decodeFives digits part
  | fourBits => if isWhole then ([Char.ofNat (numberOf 16 values)], true) else ([], false)
  | oneBit isGreatestFirst =>
      if isWhole then ([Char.ofNat (numberOf 2 (if isGreatestFirst then values else values.reverse))], true)
      else ([], false)
  | fives =>
      let n := numberOf 85 values
      if isWhole && n < 4294967296 then ((places 256 4 n).map Char.ofNat, true) else ([], false)

/-- The octets of all parts up to the first that makes no sense, behind those before, and whether
there was none. -/
def decodeParts (s : Scheme) (before : List Text) : List Text → Text × Bool
  | [] => (before.reverse.flatten, true)
  | part :: rest =>
      match s.decodePart part with
      | (octets, true) => decodeParts s (octets :: before) rest
      | (octets, false) => ((octets :: before).reverse.flatten, false)

/-- **Reads octets back.** Line ends do not count, and other letters may be passed over. Nothing is
read where the last digits of another scheme of six bits stand. -/
def decode (s : Scheme) (skipsOthers : Bool) (t : Text) : Text × Bool :=
  let kept := t.filter fun c => c != '\n' && (!skipsOthers || c == '=' || s.letters.contains c)
  let isForeign := fun (c : Char) => (c == '+' || c == '/') && !s.letters.contains c
  match s with
  | .sixBits _ => if kept.any isForeign then ([], false) else s.decodeParts [] (parts s.size kept)
  | s => s.decodeParts [] (parts s.size kept)

end Scheme

def inLines (width : Nat) (t : Text) : Text :=
  if width = 0 then t else (parts width t).flatMap (· ++ ['\n'])

def scheme? : Char → Option Scheme
  | '\x01' => some usual64
  | '\x02' => some (.sixBits (manyDigits ++ ['-', '_']))
  | '\x03' => some usual32
  | '\x04' => some (.fiveBits ("0123456789".toList ++ capitals.take 22))
  | '\x05' => some .fourBits
  | '\x06' => some (.oneBit true)
  | '\x07' => some (.oneBit false)
  | '\x08' => some .fives
  | _ => none

/-- The options of a program that writes octets in letters. -/
def options (name : String) (words : List (String × Char × Arity)) : Specification :=
  { name := name, letters := "diw:",
    words := words ++ [("decode", 'd', .none), ("ignore-garbage", 'i', .none), ("wrap", 'w', .one)] }

/-- Writes or reads octets by a scheme. -/
def run (s : Specification) (g : Given) (scheme : Scheme) : Job Nat := do
  let width := (g.value? 'w').getD "76".toList
  if width.isEmpty || !width.all Char.isDigit then
    complain s.name ("invalid wrap size: ".toList ++ cited width)
    return 1
  else match g.operands with
    | _ :: extra :: _ => misuse s ("extra operand ".toList ++ cited extra)
    | operands =>
        let path := operands.headD ['-']
        match ← Job.readSource path with
        | .error e =>
            Job.complain [s.name.toList, if e = .isDirectory then "read error".toList else readable path, reason e]
            return 1
        | .ok content =>
            if g.has 'd' then
              let (octets, isRight) := scheme.decode (g.has 'i') content
              Job.put octets
              if isRight then return 0
              else
                complain s.name "invalid input".toList
                return 1
            else match scheme.encode? content with
              | some t =>
                  let n := Number.value 10 width
                  Job.put (inLines (if n ≥ 9223372036854775808 then 0 else n) t)
                  return 0
              | none =>
                  complain s.name "invalid input (length must be multiple of 4 characters)".toList
                  return 1

end Encoding

open Encoding

/-- Writes octets by a scheme under a name. -/
def encodeAs (name : String) (scheme : Scheme) : Utility := fun _ arguments =>
  let s := options name []
  withOptions s arguments fun g => run s g scheme

def basenc : Utility := fun _ arguments =>
  let s := options "basenc"
    [("base64", '\x01', .none), ("base64url", '\x02', .none), ("base32", '\x03', .none),
      ("base32hex", '\x04', .none), ("base16", '\x05', .none), ("base2msbf", '\x06', .none),
      ("base2lsbf", '\x07', .none), ("z85", '\x08', .none)]
  withOptions s arguments fun g =>
    match (g.options.filterMap fun (c, _) => scheme? c).getLast? with
    | some scheme => run s g scheme
    | none => misuse s "missing encoding type".toList

end SwiftExistential.Utility
