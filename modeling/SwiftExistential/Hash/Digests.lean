/-!
# Digests

The digests that programs of the shell can compute, each on a list of octets. All of them are
defined on natural numbers or words of a fixed width, and none of them is about speed.

The hashes of blocks share a frame: the input is padded to whole blocks, each block is turned into
words, and a state goes from block to block. What makes a hash is its start, its schedule of words
and its round. The check sums at the end have no blocks and no padding.
-/

set_option autoImplicit false

/-! ## Blocks of words

Many hashes cut their input into blocks of words, behind which they put a mark and the length, and
take in one block after the other. This file has what they share. -/

namespace SwiftExistential.Hash

/-- The byte at a position, zero past the end. -/
def byteOf (b : ByteArray) (i : Nat) : UInt8 := if h : i < b.size then b[i] else 0

/-- The order of the bytes of a word. -/
inductive Order where
  | highFirst
  | lowFirst
deriving DecidableEq, Repr

def Order.bytes (o : Order) (count n : Nat) : List UInt8 :=
  let low := (List.range count).map fun i => (n / Nat.pow 256 i % 256).toUInt8
  match o with
  | highFirst => low.reverse
  | lowFirst => low

/-- The number in so many bytes from a position on. -/
def Order.number (o : Order) (b : ByteArray) (i count : Nat) : Nat :=
  (List.range count).foldl
    (fun n k => 256 * n + (byteOf b (match o with
      | highFirst => i + k
      | lowFirst => i + (count - 1 - k))).toNat) 0

/-- The words of 32 bits of a block at a position. -/
def Order.words32 (o : Order) (b : ByteArray) (i count : Nat) : Array UInt32 :=
  ((List.range count).map fun k => (o.number b (i + 4 * k) 4).toUInt32).toArray

/-- The words of 64 bits of a block at a position. -/
def Order.words64 (o : Order) (b : ByteArray) (i count : Nat) : Array UInt64 :=
  ((List.range count).map fun k => (o.number b (i + 8 * k) 8).toUInt64).toArray

/-- Bytes with a mark and their length in bits behind them, so that blocks of some size are full.
The length takes so many bytes. -/
def padded (o : Order) (blockSize lengthSize : Nat) (b : ByteArray) : ByteArray :=
  let used := (b.size + 1 + lengthSize) % blockSize
  let zeros := if used = 0 then 0 else blockSize - used
  b ++ ⟨(0x80 :: List.replicate zeros 0 ++ o.bytes lengthSize (8 * b.size)).toArray⟩

/-- Takes in the blocks of some bytes, one after the other, each by its position. -/
def overBlocks {σ : Type} (step : σ → Nat → σ) (start : σ) (blockSize size : Nat) : σ :=
  (List.range (size / blockSize)).foldl (fun s k => step s (blockSize * k)) start

/-- Turns a word of 32 bits to the left. -/
def left32 (x n : UInt32) : UInt32 := (x <<< n) ||| (x >>> (32 - n))

/-- Turns a word of 32 bits to the right. -/
def right32 (x n : UInt32) : UInt32 := (x >>> n) ||| (x <<< (32 - n))

/-- Turns a word of 64 bits to the right. -/
def right64 (x n : UInt64) : UInt64 := (x >>> n) ||| (x <<< (64 - n))

/-- The word at a position, zero past the end. -/
def at32 (words : Array UInt32) (i : Nat) : UInt32 := words.getD i 0

/-- The word at a position, zero past the end. -/
def at64 (words : Array UInt64) (i : Nat) : UInt64 := words.getD i 0

end SwiftExistential.Hash

/-! ## MD5

The hash of 128 bits with four words of state and 64 rounds for each block. -/

namespace SwiftExistential.Hash.MD5

/-- The constants of the rounds: the first bits of the sines of whole numbers. -/
def constants : Array UInt32 := #[
  0xd76aa478, 0xe8c7b756, 0x242070db, 0xc1bdceee, 0xf57c0faf, 0x4787c62a, 0xa8304613, 0xfd469501,
  0x698098d8, 0x8b44f7af, 0xffff5bb1, 0x895cd7be, 0x6b901122, 0xfd987193, 0xa679438e, 0x49b40821,
  0xf61e2562, 0xc040b340, 0x265e5a51, 0xe9b6c7aa, 0xd62f105d, 0x02441453, 0xd8a1e681, 0xe7d3fbc8,
  0x21e1cde6, 0xc33707d6, 0xf4d50d87, 0x455a14ed, 0xa9e3e905, 0xfcefa3f8, 0x676f02d9, 0x8d2a4c8a,
  0xfffa3942, 0x8771f681, 0x6d9d6122, 0xfde5380c, 0xa4beea44, 0x4bdecfa9, 0xf6bb4b60, 0xbebfbc70,
  0x289b7ec6, 0xeaa127fa, 0xd4ef3085, 0x04881d05, 0xd9d4d039, 0xe6db99e5, 0x1fa27cf8, 0xc4ac5665,
  0xf4292244, 0x432aff97, 0xab9423a7, 0xfc93a039, 0x655b59c3, 0x8f0ccc92, 0xffeff47d, 0x85845dd1,
  0x6fa87e4f, 0xfe2ce6e0, 0xa3014314, 0x4e0811a1, 0xf7537e82, 0xbd3af235, 0x2ad7d2bb, 0xeb86d391]

/-- How far words are turned in each quarter of the rounds. -/
def turns : List (List UInt32) := [[7, 12, 17, 22], [5, 9, 14, 20], [4, 11, 16, 23], [6, 10, 15, 21]]

/-- The state between blocks. -/
structure State where
  a : UInt32
  b : UInt32
  c : UInt32
  d : UInt32

/-- The state before the first block. -/
def start : State := ⟨0x67452301, 0xefcdab89, 0x98badcfe, 0x10325476⟩

def round (words : Array UInt32) (s : State) (i : Nat) : State :=
  let quarter := i / 16
  let (mixed, k) :=
    if quarter = 0 then ((s.b &&& s.c) ||| (~~~s.b &&& s.d), i)
    else if quarter = 1 then ((s.d &&& s.b) ||| (~~~s.d &&& s.c), 5 * i + 1)
    else if quarter = 2 then (s.b ^^^ s.c ^^^ s.d, 3 * i + 5)
    else (s.c ^^^ (s.b ||| ~~~s.d), 7 * i)
  let sum := s.a + mixed + at32 constants i + at32 words (k % 16)
  let turn := ((turns[quarter]?).bind fun ts => ts[i % 4]?).getD 0
  ⟨s.d, s.b + left32 sum turn, s.b, s.c⟩

def step (b : ByteArray) (s : State) (i : Nat) : State :=
  let words := Order.lowFirst.words32 b i 16
  let t := (List.range 64).foldl (round words) s
  ⟨s.a + t.a, s.b + t.b, s.c + t.c, s.d + t.d⟩

/-- **The hash of some bytes.** -/
def hash (b : ByteArray) : List UInt8 :=
  let p := padded .lowFirst 64 8 b
  let s := overBlocks (step p) start 64 p.size
  [s.a, s.b, s.c, s.d].flatMap fun w => Order.lowFirst.bytes 4 w.toNat

end SwiftExistential.Hash.MD5

/-! ## SHA-1

The hash of 160 bits with five words of state and 80 rounds for each block. -/

namespace SwiftExistential.Hash.SHA1

/-- The state between blocks. -/
structure State where
  a : UInt32
  b : UInt32
  c : UInt32
  d : UInt32
  e : UInt32

/-- The state before the first block. -/
def start : State := ⟨0x67452301, 0xefcdab89, 0x98badcfe, 0x10325476, 0xc3d2e1f0⟩

/-- The words of a block, with those that become of them. -/
def schedule (words : Array UInt32) : Array UInt32 :=
  (List.range 64).foldl
    (fun w k => w.push (left32 (at32 w (k + 13) ^^^ at32 w (k + 8) ^^^ at32 w (k + 2) ^^^ at32 w k) 1)) words

def round (words : Array UInt32) (s : State) (i : Nat) : State :=
  let (mixed, constant) :=
    if i < 20 then ((s.b &&& s.c) ||| (~~~s.b &&& s.d), (0x5a827999 : UInt32))
    else if i < 40 then (s.b ^^^ s.c ^^^ s.d, 0x6ed9eba1)
    else if i < 60 then ((s.b &&& s.c) ||| (s.b &&& s.d) ||| (s.c &&& s.d), 0x8f1bbcdc)
    else (s.b ^^^ s.c ^^^ s.d, 0xca62c1d6)
  ⟨left32 s.a 5 + mixed + s.e + constant + at32 words i, s.a, left32 s.b 30, s.c, s.d⟩

def step (b : ByteArray) (s : State) (i : Nat) : State :=
  let words := schedule (Order.highFirst.words32 b i 16)
  let t := (List.range 80).foldl (round words) s
  ⟨s.a + t.a, s.b + t.b, s.c + t.c, s.d + t.d, s.e + t.e⟩

/-- **The hash of some bytes.** -/
def hash (b : ByteArray) : List UInt8 :=
  let p := padded .highFirst 64 8 b
  let s := overBlocks (step p) start 64 p.size
  [s.a, s.b, s.c, s.d, s.e].flatMap fun w => Order.highFirst.bytes 4 w.toNat

end SwiftExistential.Hash.SHA1

/-! ## SHA-2

Hashes of 224, 256, 384 and 512 bits with eight words of state. The constants are the first bits
behind the point of roots of primes: square roots for the state, cube roots for the rounds. The
short hashes work on words of 32 bits, the long ones on words of 64. -/

namespace SwiftExistential.Hash.SHA2

/-! ### Constants -/

def primes : List Nat :=
  [2, 3, 5, 7, 11, 13, 17, 19, 23, 29, 31, 37, 41, 43, 47, 53, 59, 61, 67, 71, 73, 79, 83, 89, 97, 101, 103,
    107, 109, 113, 127, 131, 137, 139, 149, 151, 157, 163, 167, 173, 179, 181, 191, 193, 197, 199, 211, 223,
    227, 229, 233, 239, 241, 251, 257, 263, 269, 271, 277, 281, 283, 293, 307, 311, 313, 317, 331, 337, 347,
    349, 353, 359, 367, 373, 379, 383, 389, 397, 401, 409]

/-- The largest number whose power is not above a number, found by setting its bits from so many on.
-/
def root (power n : Nat) : Nat → Nat → Nat
  | 0, r => r
  | bit + 1, r =>
      let candidate := r + Nat.pow 2 bit
      root power n bit (if Nat.pow candidate power ≤ n then candidate else r)

/-- The first 64 bits behind the point of a root. -/
def fraction (power p : Nat) : UInt64 := (root power (p * Nat.pow 2 (64 * power)) 70 0).toUInt64

def constants64 : Array UInt64 := (primes.map (fraction 3)).toArray

def upper (x : UInt64) : UInt32 := (x >>> 32).toUInt32

/-- The constants of the rounds of short hashes. -/
def constants32 : Array UInt32 := (constants64.toList.take 64).toArray.map upper

def start512 : Array UInt64 := ((primes.take 8).map (fraction 2)).toArray

/-- The start of the shorter one of the long hashes. -/
def start384 : Array UInt64 := (((primes.drop 8).take 8).map (fraction 2)).toArray

/-- The start of the longer one of the short hashes. -/
def start256 : Array UInt32 := start512.map upper

def start224 : Array UInt32 := start384.map UInt64.toUInt32

/-! ### Short hashes -/

/-- The words of a block, with those that become of them. -/
def schedule32 (words : Array UInt32) : Array UInt32 :=
  (List.range 48).foldl
    (fun w k =>
      let x := at32 w (k + 1)
      let y := at32 w (k + 14)
      let s := right32 x 7 ^^^ right32 x 18 ^^^ (x >>> 3)
      let t := right32 y 17 ^^^ right32 y 19 ^^^ (y >>> 10)
      w.push (at32 w k + s + at32 w (k + 9) + t)) words

def round32 (words : Array UInt32) (s : Array UInt32) (i : Nat) : Array UInt32 :=
  let a := at32 s 0
  let b := at32 s 1
  let c := at32 s 2
  let e := at32 s 4
  let first := at32 s 7 + (right32 e 6 ^^^ right32 e 11 ^^^ right32 e 25) +
    ((e &&& at32 s 5) ^^^ (~~~e &&& at32 s 6)) + at32 constants32 i + at32 words i
  let second := (right32 a 2 ^^^ right32 a 13 ^^^ right32 a 22) + ((a &&& b) ^^^ (a &&& c) ^^^ (b &&& c))
  #[first + second, a, b, c, at32 s 3 + first, e, at32 s 5, at32 s 6]

def step32 (b : ByteArray) (s : Array UInt32) (i : Nat) : Array UInt32 :=
  let words := schedule32 (Order.highFirst.words32 b i 16)
  let t := (List.range 64).foldl (round32 words) s
  s.zipWith (· + ·) t

/-- A short hash, of so many words. -/
def hash32 (start : Array UInt32) (count : Nat) (b : ByteArray) : List UInt8 :=
  let p := padded .highFirst 64 8 b
  let s := overBlocks (step32 p) start 64 p.size
  (s.toList.take count).flatMap fun w => Order.highFirst.bytes 4 w.toNat

/-! ### Long hashes -/

/-- The words of a block, with those that become of them. -/
def schedule64 (words : Array UInt64) : Array UInt64 :=
  (List.range 64).foldl
    (fun w k =>
      let x := at64 w (k + 1)
      let y := at64 w (k + 14)
      let s := right64 x 1 ^^^ right64 x 8 ^^^ (x >>> 7)
      let t := right64 y 19 ^^^ right64 y 61 ^^^ (y >>> 6)
      w.push (at64 w k + s + at64 w (k + 9) + t)) words

def round64 (words : Array UInt64) (s : Array UInt64) (i : Nat) : Array UInt64 :=
  let a := at64 s 0
  let b := at64 s 1
  let c := at64 s 2
  let e := at64 s 4
  let first := at64 s 7 + (right64 e 14 ^^^ right64 e 18 ^^^ right64 e 41) +
    ((e &&& at64 s 5) ^^^ (~~~e &&& at64 s 6)) + at64 constants64 i + at64 words i
  let second := (right64 a 28 ^^^ right64 a 34 ^^^ right64 a 39) + ((a &&& b) ^^^ (a &&& c) ^^^ (b &&& c))
  #[first + second, a, b, c, at64 s 3 + first, e, at64 s 5, at64 s 6]

def step64 (b : ByteArray) (s : Array UInt64) (i : Nat) : Array UInt64 :=
  let words := schedule64 (Order.highFirst.words64 b i 16)
  let t := (List.range 80).foldl (round64 words) s
  s.zipWith (· + ·) t

/-- A long hash, of so many words. -/
def hash64 (start : Array UInt64) (count : Nat) (b : ByteArray) : List UInt8 :=
  let p := padded .highFirst 128 16 b
  let s := overBlocks (step64 p) start 128 p.size
  (s.toList.take count).flatMap fun w => Order.highFirst.bytes 8 w.toNat

/-- **The hashes of some bytes**, by their bits. -/
def hash224 : ByteArray → List UInt8 := hash32 start224 7

@[inherit_doc hash224]
def hash256 : ByteArray → List UInt8 := hash32 start256 8

@[inherit_doc hash224]
def hash384 : ByteArray → List UInt8 := hash64 start384 6

@[inherit_doc hash224]
def hash512 : ByteArray → List UInt8 := hash64 start512 8

end SwiftExistential.Hash.SHA2

/-! ## SM3

The hash of 256 bits with eight words of state and 64 rounds for each block. -/

namespace SwiftExistential.Hash.SM3

/-- The state before the first block. -/
def start : Array UInt32 :=
  #[0x7380166f, 0x4914b2b9, 0x172442d7, 0xda8a0600, 0xa96f30bc, 0x163138aa, 0xe38dee4d, 0xb0fb0e4e]

def spreadState (x : UInt32) : UInt32 := x ^^^ left32 x 9 ^^^ left32 x 17

def spreadWord (x : UInt32) : UInt32 := x ^^^ left32 x 15 ^^^ left32 x 23

/-- The words of a block, with those that become of them. -/
def schedule (words : Array UInt32) : Array UInt32 :=
  (List.range 52).foldl
    (fun w k =>
      let x := at32 w k ^^^ at32 w (k + 7) ^^^ left32 (at32 w (k + 13)) 15
      w.push (spreadWord x ^^^ left32 (at32 w (k + 3)) 7 ^^^ at32 w (k + 10))) words

/-- Turns a word to the left, by up to 31 bits. -/
def turn (x : UInt32) (n : Nat) : UInt32 := if n % 32 = 0 then x else left32 x (n % 32).toUInt32

def round (words : Array UInt32) (s : Array UInt32) (i : Nat) : Array UInt32 :=
  let a := at32 s 0
  let b := at32 s 1
  let c := at32 s 2
  let e := at32 s 4
  let f := at32 s 5
  let g := at32 s 6
  let isEarly := i < 16
  let constant : UInt32 := if isEarly then 0x79cc4519 else 0x7a879d8a
  let first := left32 (left32 a 12 + e + turn constant i) 7
  let second := first ^^^ left32 a 12
  let mixed := if isEarly then a ^^^ b ^^^ c else (a &&& b) ||| (a &&& c) ||| (b &&& c)
  let chosen := if isEarly then e ^^^ f ^^^ g else (e &&& f) ||| (~~~e &&& g)
  let x := mixed + at32 s 3 + second + (at32 words i ^^^ at32 words (i + 4))
  let y := chosen + at32 s 7 + first + at32 words i
  #[x, a, left32 b 9, c, spreadState y, e, left32 f 19, g]

def step (b : ByteArray) (s : Array UInt32) (i : Nat) : Array UInt32 :=
  let words := schedule (Order.highFirst.words32 b i 16)
  let t := (List.range 64).foldl (round words) s
  s.zipWith (· ^^^ ·) t

/-- **The hash of some bytes.** -/
def hash (b : ByteArray) : List UInt8 :=
  let p := padded .highFirst 64 8 b
  let s := overBlocks (step p) start 64 p.size
  s.toList.flatMap fun w => Order.highFirst.bytes 4 w.toNat

end SwiftExistential.Hash.SM3

/-! ## BLAKE2b

Hashes of up to 512 bits with twelve rounds for each block of 128 bytes. Each round takes the words
of the block in another order. -/

namespace SwiftExistential.Hash.Blake2b

/-- The orders in which rounds take the words. -/
def orders : List (List Nat) := [
  [0, 1, 2, 3, 4, 5, 6, 7, 8, 9, 10, 11, 12, 13, 14, 15],
  [14, 10, 4, 8, 9, 15, 13, 6, 1, 12, 0, 2, 11, 7, 5, 3],
  [11, 8, 12, 0, 5, 2, 15, 13, 10, 14, 3, 6, 7, 1, 9, 4],
  [7, 9, 3, 1, 13, 12, 11, 14, 2, 6, 5, 10, 4, 0, 15, 8],
  [9, 0, 5, 7, 2, 4, 10, 15, 14, 1, 11, 12, 6, 8, 3, 13],
  [2, 12, 6, 10, 0, 11, 8, 3, 4, 13, 7, 5, 15, 14, 1, 9],
  [12, 5, 1, 15, 14, 13, 4, 10, 0, 7, 6, 3, 9, 2, 8, 11],
  [13, 11, 7, 14, 12, 1, 3, 9, 5, 0, 15, 4, 8, 6, 2, 10],
  [6, 15, 14, 9, 11, 3, 0, 8, 12, 2, 13, 7, 1, 4, 10, 5],
  [10, 2, 8, 4, 7, 6, 1, 5, 15, 11, 9, 14, 3, 12, 13, 0]]

/-- The places of four words that are mixed, in the order of the mixes of a round. -/
def places : List (Nat × Nat × Nat × Nat) :=
  [(0, 4, 8, 12), (1, 5, 9, 13), (2, 6, 10, 14), (3, 7, 11, 15), (0, 5, 10, 15), (1, 6, 11, 12), (2, 7, 8, 13),
    (3, 4, 9, 14)]

/-- Mixes two words of the block into four words. -/
def mix (v : Array UInt64) (place : Nat × Nat × Nat × Nat) (x y : UInt64) : Array UInt64 :=
  let (i, j, k, l) := place
  let a := at64 v i + at64 v j + x
  let d := right64 (at64 v l ^^^ a) 32
  let c := at64 v k + d
  let b := right64 (at64 v j ^^^ c) 24
  let a := a + b + y
  let d := right64 (d ^^^ a) 16
  let c := c + d
  let b := right64 (b ^^^ c) 63
  (((v.setIfInBounds i a).setIfInBounds j b).setIfInBounds k c).setIfInBounds l d

/-- One round with the words of a block in an order. -/
def round (words : Array UInt64) (v : Array UInt64) (order : List Nat) : Array UInt64 :=
  places.zipIdx.foldl
    (fun v (place, n) => mix v place (at64 words (order.getD (2 * n) 0)) (at64 words (order.getD (2 * n + 1) 0))) v

/-- Takes in the block at a position, with so many bytes up to its end. -/
def step (b : ByteArray) (h : Array UInt64) (i count : Nat) (isLast : Bool) : Array UInt64 :=
  let words := Order.lowFirst.words64 b i 16
  let v := h ++ SHA2.start512
  let v := v.setIfInBounds 12 (at64 v 12 ^^^ count.toUInt64)
  let v := if isLast then v.setIfInBounds 14 (~~~at64 v 14) else v
  let v := (orders ++ orders.take 2).foldl (round words) v
  ((List.range 8).map fun k => at64 h k ^^^ at64 v k ^^^ at64 v (k + 8)).toArray

/-- **The hash of some bytes**, of so many bytes itself. -/
def hash (size : Nat) (b : ByteArray) : List UInt8 :=
  let first := at64 SHA2.start512 0 ^^^ 0x01010000 ^^^ size.toUInt64
  let start := SHA2.start512.setIfInBounds 0 first
  let whole := (b.size - 1) / 128
  let h := (List.range whole).foldl (fun h k => step b h (128 * k) (128 * (k + 1)) false) start
  let h := step b h (128 * whole) b.size true
  (h.toList.flatMap fun w => Order.lowFirst.bytes 8 w.toNat).take size

end SwiftExistential.Hash.Blake2b

/-! ## Check sums

Sums that only find mistakes: the remainder of the bytes as a polynomial, a sum with a turn after
each byte, and a plain sum. -/

namespace SwiftExistential.Hash.Sum

/-- The polynomial that bytes are divided by, without its first bit. -/
def polynomial : UInt32 := 0x04c11db7

def remainderStep (r : UInt32) (byte : UInt8) : UInt32 :=
  (List.range 8).foldl
    (fun r _ => if r &&& 0x80000000 = 0 then r <<< 1 else (r <<< 1) ^^^ polynomial)
    (r ^^^ (byte.toUInt32 <<< 24))

/-- The bytes of a length, the lowest one first, without zeros at the end. -/
def lengthBytes : Nat → Nat → List UInt8
  | 0, _ => []
  | fuel + 1, n => if n = 0 then [] else (n % 256).toUInt8 :: lengthBytes fuel (n / 256)

/-- **The remainder of bytes** and their length. -/
def cyclic (b : ByteArray) : UInt32 :=
  let all := b.foldl remainderStep 0
  ~~~((lengthBytes 8 b.size).foldl remainderStep all)

/-- The sum of 16 bits that is turned to the right before each byte. -/
def turning (b : ByteArray) : Nat :=
  b.foldl (fun sum byte => (sum / 2 + (if sum % 2 = 1 then 32768 else 0) + byte.toNat) % 65536) 0

/-- The sum of bytes, its upper bits added to the lower ones. -/
def plain (b : ByteArray) : Nat :=
  let sum := b.foldl (fun sum byte => sum + byte.toNat) 0
  let folded := sum % 65536 + sum % 4294967296 / 65536
  folded % 65536 + folded / 65536

end SwiftExistential.Hash.Sum
