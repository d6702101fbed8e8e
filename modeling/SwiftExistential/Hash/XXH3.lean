/-!
# XXH3

The 64-bit XXH3 hash of a byte string with seed zero. Inputs of up to 16, up to 128, up to 240 and
more bytes each have a scheme of their own. The long scheme keeps eight lanes: it adds stripes of 64
bytes to them, scrambles the lanes after every block of 16 stripes, and adds the last 64 bytes once
more at the end.

The hash tells long texts apart, so that an edit need not carry the text that it expects. Nothing is
proved about it but that a text has the hash that it has; which texts share a hash plays no part.
-/

set_option autoImplicit false

namespace SwiftExistential.Hash.XXH3

/-! ## Constants -/

def prime32A : UInt64 := 0x9E3779B1
def prime32B : UInt64 := 0x85EBCA77
def prime32C : UInt64 := 0xC2B2AE3D
def prime64A : UInt64 := 0x9E3779B185EBCA87
def prime64B : UInt64 := 0xC2B2AE3D27D4EB4F
def prime64C : UInt64 := 0x165667B19E3779F9
def prime64D : UInt64 := 0x85EBCA77C2B2AE63
def prime64E : UInt64 := 0x27D4EB2F165667C5

/-- The default secret, 192 bytes that the input is mixed with. -/
def secret : ByteArray := ⟨#[
  0xb8, 0xfe, 0x6c, 0x39, 0x23, 0xa4, 0x4b, 0xbe, 0x7c, 0x01, 0x81, 0x2c, 0xf7, 0x21, 0xad, 0x1c,
  0xde, 0xd4, 0x6d, 0xe9, 0x83, 0x90, 0x97, 0xdb, 0x72, 0x40, 0xa4, 0xa4, 0xb7, 0xb3, 0x67, 0x1f,
  0xcb, 0x79, 0xe6, 0x4e, 0xcc, 0xc0, 0xe5, 0x78, 0x82, 0x5a, 0xd0, 0x7d, 0xcc, 0xff, 0x72, 0x21,
  0xb8, 0x08, 0x46, 0x74, 0xf7, 0x43, 0x24, 0x8e, 0xe0, 0x35, 0x90, 0xe6, 0x81, 0x3a, 0x26, 0x4c,
  0x3c, 0x28, 0x52, 0xbb, 0x91, 0xc3, 0x00, 0xcb, 0x88, 0xd0, 0x65, 0x8b, 0x1b, 0x53, 0x2e, 0xa3,
  0x71, 0x64, 0x48, 0x97, 0xa2, 0x0d, 0xf9, 0x4e, 0x38, 0x19, 0xef, 0x46, 0xa9, 0xde, 0xac, 0xd8,
  0xa8, 0xfa, 0x76, 0x3f, 0xe3, 0x9c, 0x34, 0x3f, 0xf9, 0xdc, 0xbb, 0xc7, 0xc7, 0x0b, 0x4f, 0x1d,
  0x8a, 0x51, 0xe0, 0x4b, 0xcd, 0xb4, 0x59, 0x31, 0xc8, 0x9f, 0x7e, 0xc9, 0xd9, 0x78, 0x73, 0x64,
  0xea, 0xc5, 0xac, 0x83, 0x34, 0xd3, 0xeb, 0xc3, 0xc5, 0x81, 0xa0, 0xff, 0xfa, 0x13, 0x63, 0xeb,
  0x17, 0x0d, 0xdd, 0x51, 0xb7, 0xf0, 0xda, 0x49, 0xd3, 0x16, 0x55, 0x26, 0x29, 0xd4, 0x68, 0x9e,
  0x2b, 0x16, 0xbe, 0x58, 0x7d, 0x47, 0xa1, 0xfc, 0x8f, 0xf8, 0xb8, 0xd1, 0x7a, 0xd0, 0x31, 0xce,
  0x45, 0xcb, 0x3a, 0x8f, 0x95, 0x16, 0x04, 0x28, 0xaf, 0xd7, 0xfb, 0xca, 0xbb, 0x4b, 0x40, 0x7e]⟩

/-! ## Words -/

/-- The byte at a position, zero past the end. -/
def byteAt (b : ByteArray) (i : Nat) : UInt64 :=
  if h : i < b.size then b[i].toUInt64 else 0

/-- The number in `n` bytes from a position on, the lowest byte first. -/
def number (b : ByteArray) (i : Nat) : Nat → UInt64
  | 0 => 0
  | n + 1 => byteAt b i ||| (number b (i + 1) n <<< 8)

def word32 (b : ByteArray) (i : Nat) : UInt64 := number b i 4

def word64 (b : ByteArray) (i : Nat) : UInt64 := number b i 8

def rotateLeft (x : UInt64) (n : UInt64) : UInt64 := (x <<< n) ||| (x >>> (64 - n))

/-- The bytes of a word in the other order. -/
def swapBytes (x : UInt64) : UInt64 :=
  (List.range 8).foldl (fun acc i => (acc <<< 8) ||| ((x >>> (8 * i.toUInt64)) &&& 0xFF)) 0

/-- The two halves of the full product, combined. -/
def foldProduct (x y : UInt64) : UInt64 :=
  let product := x.toNat * y.toNat
  product.toUInt64 ^^^ (product / UInt64.size).toUInt64

/-- Mixes the high bits of a word into the low ones. -/
def avalanche (h : UInt64) : UInt64 :=
  let h := (h ^^^ (h >>> 37)) * 0x165667919E3779F9
  h ^^^ (h >>> 32)

/-- The stronger mix that the shortest inputs get. -/
def avalancheShort (h : UInt64) : UInt64 :=
  let h := (h ^^^ (h >>> 33)) * prime64B
  let h := (h ^^^ (h >>> 29)) * prime64C
  h ^^^ (h >>> 32)

/-- Mixes 16 bytes of the input with 16 bytes of the secret. -/
def mix16 (b : ByteArray) (i key : Nat) : UInt64 :=
  foldProduct (word64 b i ^^^ word64 secret key) (word64 b (i + 8) ^^^ word64 secret (key + 8))

/-! ## Short inputs -/

def hashUpTo3 (b : ByteArray) : UInt64 :=
  let n := b.size
  let combined := (byteAt b 0 <<< 16) ||| (byteAt b (n / 2) <<< 24) ||| byteAt b (n - 1) |||
    (n.toUInt64 <<< 8)
  avalancheShort (combined ^^^ (word32 secret 0 ^^^ word32 secret 4))

def hashUpTo8 (b : ByteArray) : UInt64 :=
  let n := b.size
  let input := word32 b (n - 4) + (word32 b 0 <<< 32)
  let h := input ^^^ (word64 secret 8 ^^^ word64 secret 16)
  let h := (h ^^^ rotateLeft h 49 ^^^ rotateLeft h 24) * 0x9FB21C651E98DF25
  let h := (h ^^^ ((h >>> 35) + n.toUInt64)) * 0x9FB21C651E98DF25
  h ^^^ (h >>> 28)

def hashUpTo16 (b : ByteArray) : UInt64 :=
  let n := b.size
  let low := word64 b 0 ^^^ (word64 secret 24 ^^^ word64 secret 32)
  let high := word64 b (n - 8) ^^^ (word64 secret 40 ^^^ word64 secret 48)
  avalanche (n.toUInt64 + swapBytes low + high + foldProduct low high)

/-- Works inwards from both ends, 16 bytes at a time. -/
def hashUpTo128 (b : ByteArray) : UInt64 :=
  let n := b.size
  let pairs := (n - 1) / 32 + 1
  let parts := (List.range pairs).map fun i =>
    mix16 b (16 * i) (32 * i) + mix16 b (n - 16 * (i + 1)) (32 * i + 16)
  avalanche (parts.foldl (· + ·) (n.toUInt64 * prime64A))

def hashUpTo240 (b : ByteArray) : UInt64 :=
  let n := b.size
  let first := (List.range 8).foldl (fun acc i => acc + mix16 b (16 * i) (16 * i))
    (n.toUInt64 * prime64A)
  let rest := (List.range (n / 16 - 8)).foldl
    (fun acc i => acc + mix16 b (16 * (i + 8)) (16 * i + 3)) (avalanche first)
  avalanche (rest + mix16 b (n - 16) 119)

/-! ## Long inputs -/

/-- The eight lanes of the long scheme. -/
abbrev Lanes := List UInt64

def startLanes : Lanes :=
  [prime32C, prime64A, prime64B, prime64C, prime64D, prime32B, prime64E, prime32A]

def eightWords (b : ByteArray) (i : Nat) : List UInt64 :=
  (List.range 8).map fun k => word64 b (i + 8 * k)

def swapPairs : List UInt64 → List UInt64
  | x :: y :: rest => y :: x :: swapPairs rest
  | rest => rest

/-- The product of the two halves of a word. -/
def multiplyHalves (w : UInt64) : UInt64 := w.toUInt32.toUInt64 * (w >>> 32)

/-- Adds one stripe to the lanes: each word to its neighbour's lane, and to its own lane the
product of the halves of the word mixed with the secret. -/
def addStripe (b : ByteArray) (i key : Nat) (lanes : Lanes) : Lanes :=
  let data := eightWords b i
  let keyed := List.zipWith (· ^^^ ·) data (eightWords secret key)
  let products := keyed.map multiplyHalves
  List.zipWith (· + ·) (List.zipWith (· + ·) lanes (swapPairs data)) products

/-- Mixes the lanes with the end of the secret. -/
def scramble (lanes : Lanes) : Lanes :=
  List.zipWith (fun (lane key : UInt64) => ((lane ^^^ (lane >>> 47)) ^^^ key) * prime32A) lanes
    (eightWords secret 128)

/-- Adds `n` successive stripes from a position on. -/
def addStripes (b : ByteArray) (i n : Nat) (lanes : Lanes) : Lanes :=
  (List.range n).foldl (fun acc k => addStripe b (i + 64 * k) (8 * k) acc) lanes

def mergeLanes (start : UInt64) (lanes : Lanes) : UInt64 :=
  go 11 start lanes
where
  go (key : Nat) (acc : UInt64) : Lanes → UInt64
    | x :: y :: rest =>
        go (key + 16)
          (acc + foldProduct (x ^^^ word64 secret key) (y ^^^ word64 secret (key + 8))) rest
    | _ => avalanche acc

def hashLong (b : ByteArray) : UInt64 :=
  let n := b.size
  let blocks := (n - 1) / 1024
  let lanes := (List.range blocks).foldl
    (fun acc k => scramble (addStripes b (1024 * k) 16 acc)) startLanes
  let lanes := addStripes b (1024 * blocks) ((n - 1 - 1024 * blocks) / 64) lanes
  let lanes := addStripe b (n - 64) 121 lanes
  mergeLanes (n.toUInt64 * prime64A) lanes

/-- **The 64-bit hash of a byte string.** -/
def hash (b : ByteArray) : UInt64 :=
  if b.size = 0 then avalancheShort (word64 secret 56 ^^^ word64 secret 64)
  else if b.size ≤ 3 then hashUpTo3 b
  else if b.size ≤ 8 then hashUpTo8 b
  else if b.size ≤ 16 then hashUpTo16 b
  else if b.size ≤ 128 then hashUpTo128 b
  else if b.size ≤ 240 then hashUpTo240 b
  else hashLong b

end SwiftExistential.Hash.XXH3
