import SwiftExistential.Text.Number

/-!
# The order of versions

How names with numbers in them are ordered, so that `a9` comes before `a10`. Programs that sort
lines and that list directories have this order among theirs.

Texts are compared part by part, by turns what is not made of digits and what is; numbers in them
count as numbers. An ending that looks like a suffix of a file name counts only if the rest is the
same. A mark that sorts before everything, even before the end of a text, is for versions that come
before others.
-/

set_option autoImplicit false

namespace SwiftExistential.Utility.Version

/-- The place of a character, or of the end of a text. -/
def rank : Option Char → Int
  | none => -1
  | some c =>
      if c.isDigit then 0 else if c.isAlpha then c.toNat else if c == '~' then -2 else c.toNat + 256

/-- Compares up to the next numbers. Returns the texts from there if they do not differ before. -/
def compareWords : Nat → Text → Text → Except Ordering (Text × Text)
  | 0, a, b => .ok (a, b)
  | fuel + 1, a, b =>
      let isWord := fun (t : Text) => t.head?.any fun c => !c.isDigit
      if isWord a || isWord b then
        match compare (rank a.head?) (rank b.head?) with
        | .eq => compareWords fuel (a.drop 1) (b.drop 1)
        | order => .error order
      else .ok (a, b)

/-- Compares texts, in so many steps at most. -/
def compareParts : Nat → Text → Text → Ordering
  | 0, _, _ => .eq
  | fuel + 1, a, b =>
      if a.isEmpty && b.isEmpty then .eq
      else match compareWords (a.length + b.length + 1) a b with
        | .error order => order
        | .ok (a, b) =>
            let a := a.dropWhile (· == '0')
            let b := b.dropWhile (· == '0')
            let x := a.takeWhile Char.isDigit
            let y := b.takeWhile Char.isDigit
            match (compare x.length y.length).then (compare x y) with
            | .eq => compareParts fuel (a.drop x.length) (b.drop y.length)
            | order => order

/-- How long a text is behind which only suffixes stand. -/
def stemLength (t : Text) : Nat := go (t.length + 1) 0 0 t
where
  /-- Skips suffixes, so many characters at most. -/
  skip : Nat → Nat → Text → Nat × Text
    | 0, i, t => (i, t)
    | fuel + 1, i, t =>
        match t with
        | '.' :: c :: rest =>
            if c.isAlpha || c == '~' then
              let more := (rest.takeWhile fun c => c.isAlphanum || c == '~').length
              skip fuel (i + 2 + more) (rest.drop more)
            else (i, t)
        | t => (i, t)
  /-- Goes on behind so many characters. -/
  go : Nat → Nat → Nat → Text → Nat
    | 0, stem, _, _ => stem
    | fuel + 1, stem, i, t =>
        match t with
        | [] => stem
        | _ :: rest =>
            let (j, rest) := skip (rest.length + 1) (i + 1) rest
            go fuel (i + 1) j rest

/-- **Compares versions.** Names with a dot at the start come first. -/
def order (a b : Text) : Ordering :=
  let all := a.length + b.length + 1
  let kind := fun (t : Text) => match t with
    | [] => 0
    | ['.'] => 1
    | ['.', '.'] => 2
    | '.' :: _ => 3
    | _ => 4
  if kind a != kind b || kind a < 3 then compare (kind a) (kind b)
  else
    let m := stemLength a
    let n := stemLength b
    match compareParts all (a.take m) (b.take n) with
    | .eq => if m = a.length && n = b.length then .eq else compareParts all a b
    | order => order

end SwiftExistential.Utility.Version
