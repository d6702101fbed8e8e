import SwiftExistential.Text.Basic

/-!
# Texts as octets

From the octets of a file to its text and back. Output is read as text, and the shell and its
programs work on octets; both need a way between the two.

Reading never fails: what is no UTF-8 becomes replacement characters. Writing loses nothing, so a
text that was written is read back.
-/

set_option autoImplicit false

/-! ## Reading bytes as text

Programs print bytes, and not all bytes are UTF-8. `decode` reads what is well formed and puts one
replacement character for each maximal part of a character that is not finished. -/

namespace SwiftExistential.Text

abbrev ByteRange := UInt8 × UInt8

def inByteRange (range : ByteRange) (b : UInt8) : Bool := range.1 ≤ b && b ≤ range.2

def continuing : ByteRange := (0x80, 0xBF)

/-- What may follow a first byte, byte by byte. There is nothing for a byte that starts no
character. -/
def following? (lead : UInt8) : Option (List ByteRange) :=
  if lead < 0x80 then some []
  else if lead < 0xC2 then none
  else if lead < 0xE0 then some [continuing]
  else if lead = 0xE0 then some [(0xA0, 0xBF), continuing]
  else if lead = 0xED then some [(0x80, 0x9F), continuing]
  else if lead < 0xF0 then some [continuing, continuing]
  else if lead = 0xF0 then some [(0x90, 0xBF), continuing, continuing]
  else if lead < 0xF4 then some [continuing, continuing, continuing]
  else if lead = 0xF4 then some [(0x80, 0x8F), continuing, continuing]
  else none

/-- The bits of a first byte that belong to the character. -/
def leadBits (lead : UInt8) : Nat :=
  if lead < 0x80 then lead.toNat
  else if lead < 0xE0 then lead.toNat % 0x20
  else if lead < 0xF0 then lead.toNat % 0x10
  else lead.toNat % 0x08

/-- The character that stands for bytes that are none. -/
def replacement : Char := '\ufffd'

/-- Reads bytes as text. The first argument is the character that was begun, with the ranges of the
bytes it still needs. -/
def decodeFrom : Option (Nat × List ByteRange) → List UInt8 → Text
  | none, [] => []
  | some _, [] => [replacement]
  | none, b :: rest => begin' b rest
  | some (value, range :: ranges), b :: rest =>
      if inByteRange range b then
        let value' := value * 0x40 + b.toNat % 0x40
        if ranges.isEmpty then Char.ofNat value' :: decodeFrom none rest
        else decodeFrom (some (value', ranges)) rest
      else replacement :: begin' b rest
  | some (_, []), b :: rest => begin' b rest
termination_by _ bytes => 2 * bytes.length
where
  /-- Reads a byte that begins a character, or none. -/
  begin' (b : UInt8) (rest : List UInt8) : Text :=
    match following? b with
    | none => replacement :: decodeFrom none rest
    | some [] => Char.ofNat b.toNat :: decodeFrom none rest
    | some ranges => decodeFrom (some (leadBits b, ranges)) rest
  termination_by 2 * rest.length + 1

/-- **The text of some bytes.** -/
def decode (bytes : ByteArray) : Text :=
  match String.fromUTF8? bytes with
  | some s => s.toList
  | none => decodeFrom none bytes.toList

/-- Splits printed text into lines: a line ends with a line feed, and a carriage return before it
is dropped. Nothing follows the last line end. -/
def printedLines (t : Text) : List Text :=
  let all := lines t
  let ended := all.dropLast.map fun line =>
    if line.getLast? = some '\r' then line.dropLast else line
  match all.getLast? with
  | some (c :: rest) => ended ++ [c :: rest]
  | _ => ended

end SwiftExistential.Text

/-! ## Texts of octets

A text of octets has one character below 256 for each byte, so that all that is known about texts
can be used for bytes too. `ofText` and `toText` lead from and to the characters that bytes stand
for in UTF-8. Texts of ASCII are the same either way. -/

namespace SwiftExistential.Octets

def ofByte (b : UInt8) : Char := Char.ofNat b.toNat

def ofArray (bytes : ByteArray) : Text := bytes.toList.map ofByte

def toArray (t : Text) : ByteArray := ⟨(t.map fun c => UInt8.ofNat c.toNat).toArray⟩

def isPlain (t : Text) : Bool := t.all fun c => c.toNat < 128

def ofText (t : Text) : Text :=
  if isPlain t then t else ofArray (String.ofList t).toUTF8

/-- The text that octets stand for in UTF-8. -/
def toText (t : Text) : Text := if isPlain t then t else Text.decode (toArray t)

theorem ofText_of_isPlain {t : Text} (h : isPlain t = true) : ofText t = t := by simp [ofText, h]

end SwiftExistential.Octets
