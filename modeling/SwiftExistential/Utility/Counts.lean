import SwiftExistential.Utility.Backup

/-!
# Counts of lines, words and octets

`wc` counts the lines, words and octets of files, and the width of their widest line. Where several
files are named, a line for all of them together follows.

The counts are made in one walk over the text. A word is a run of what can be shown; a line is
counted at its end, so a last line without an end is none. All counts are equally wide, by the sizes
of the files as the tree knows them, so that this is settled before any file is read.
-/

set_option autoImplicit false

namespace SwiftExistential.Utility

open Process

/-- What a text has how many of. -/
structure Counts where
  lines : Nat
  words : Nat
  octets : Nat
  /-- The greatest width of a line. -/
  width : Nat

namespace Counts

def zero : Counts := ⟨0, 0, 0, 0⟩

/-- The counts of two texts together. -/
def add (a b : Counts) : Counts := ⟨a.lines + b.lines, a.words + b.words, a.octets + b.octets, max a.width b.width⟩

/-- Counts the octets of a text, given whether the last one belongs to a word and the width of the
line so far. What cannot be shown makes no word. -/
def countFrom (c : Counts) (isInside : Bool) (width : Nat) : Text → Counts
  | [] => { c with width := max c.width width }
  | x :: rest =>
      let isBlank := Number.isSpace x
      let isInside' := if isBlank then false else isInside || isPrintable x
      let words := if isInside' && !isInside then c.words + 1 else c.words
      let isReturn := x == '\n' || x == '\r' || x == '\x0c'
      let width' := if isReturn then 0
        else if x == '\t' then width + (8 - width % 8)
        else if isPrintable x then width + 1 else width
      countFrom
        ⟨if x == '\n' then c.lines + 1 else c.lines, words, c.octets + 1,
          if isReturn then max c.width width else c.width⟩ isInside' width' rest

def ofText (t : Text) : Counts := countFrom zero false 0 t

/-- The counts that options ask for, in order. -/
def chosen (g : Given) (c : Counts) : List Nat :=
  let all := !(['l', 'w', 'm', 'c', 'L'].any g.has)
  (if all || g.has 'l' then [c.lines] else []) ++ (if all || g.has 'w' then [c.words] else []) ++
    (if g.has 'm' then [c.octets] else []) ++ (if all || g.has 'c' then [c.octets] else []) ++
    (if g.has 'L' then [c.width] else [])

def line (g : Given) (fill : Nat) (c : Counts) (label : Option Text) : Text :=
  Text.join [' '] ((c.chosen g).map fun n => padLeft fill (shownNat n)) ++
    (match label with
      | some t => ' ' :: t
      | none => []) ++ ['\n']

end Counts

/-- When the counts of all files together are shown. -/
inductive TotalStyle where
  | auto
  | always
  | only
  | never
deriving DecidableEq, Repr

def totalWords : List (String × TotalStyle) :=
  [("auto", .auto), ("always", .always), ("only", .only), ("never", .never)]

def wcOptions : Specification :=
  { name := "wc", letters := "clmwL",
    words := [("bytes", 'c', .none), ("chars", 'm', .none), ("lines", 'l', .none), ("words", 'w', .none),
      ("max-line-length", 'L', .none), ("files0-from", 'f', .one), ("total", 't', .one), ("debug", 'd', .none)],
    check := fun c t =>
      if c == 't' then mistakenChoice? totalWords "--total" (linesOfWords (totalWords.map Prod.fst)) t else none }

/-- The number of octets of a regular file, or nothing for what is no such file. -/
def regularSize (path : Text) : Job (Except FileError (Option Nat)) := do
  if path = ['-'] then
    match (← read).channel? 0 with
    | none => return .error .notFound
    | some index =>
        match (← get).channels[index]? with
        | some (.file location _ _) =>
            match (← Job.tree).get? location with
            | some (.file bytes _) => return .ok (some bytes.size)
            | _ => return .ok none
        | _ => return .ok none
  else match ← Job.find path with
    | .error e => return .error e
    | .ok (_, .file bytes _) => return .ok (some bytes.size)
    | .ok _ => return .ok none

/-- The width of counts: that of the size of all files, and seven if there is something else among
them. -/
def countWidth (g : Given) (paths : List Text) : Job Nat := do
  if paths.length ≤ 1 && (Counts.zero.chosen g).length = 1 then return 1
  else
    let sizes ← paths.mapM regularSize
    match sizes with
    | .error _ :: _ =>
        if paths.length = 1 then return 1 else return widthOf sizes
    | sizes => return widthOf sizes
where
  /-- The width for files of some sizes. -/
  widthOf (sizes : List (Except FileError (Option Nat))) : Nat :=
    let total := sizes.foldl (fun n s => match s with
      | .ok (some size) => n + size
      | _ => n) 0
    let isOdd := sizes.any fun s => match s with
      | .ok none => true
      | _ => false
    max (shownNat total).length (if isOdd then 7 else 1)

def countFiles (g : Given) (isShown : Bool) (fill : Nat) (isNamed : Bool) : List Text → Counts → Job (Counts × Nat)
  | [], total => return (total, 0)
  | path :: rest, total => do
      let label := if isNamed then some path else none
      match ← Job.readSource path with
      | .ok content =>
          let counts := Counts.ofText content
          if isShown then Job.put (counts.line g fill label)
          countFiles g isShown fill isNamed rest (total.add counts)
      | .error e =>
          Job.complain ["wc".toList, readable path, reason e]
          if e = .isDirectory && isShown then Job.put (Counts.zero.line g fill label)
          let (total, _) ← countFiles g isShown fill isNamed rest total
          return (total, 1)

def wc : Utility := fun _ arguments =>
  withOptions wcOptions arguments fun g => do
    match g.value? 'f', g.operands with
    | some _, extra :: _ =>
        misuse wcOptions ("extra operand ".toList ++ cited extra ++
          "\nfile operands cannot be combined with --files0-from".toList)
    | list, operands =>
        let style := ((g.value? 't').bind (choice? totalWords)).getD .auto
        let listed ← match list with
          | none => pure (Except.ok operands)
          | some path => match ← Job.readSource path with
              | .ok content => pure (.ok (splitRecords '\x00' [] [] content))
              | .error e => pure (.error (path, e))
        match listed with
        | .error (path, e) =>
            complain "wc" ("cannot open ".toList ++ quoted path ++ " for reading: ".toList ++ reason e)
            return 1
        | .ok named =>
            let paths := if named.isEmpty && list.isNone then [['-']] else named
            let fill ← if style = .only then pure 1 else countWidth g paths
            let (total, status) ← countFiles g (style != .only) fill (!named.isEmpty) paths .zero
            if style = .always || style = .only || (style = .auto && paths.length > 1) then
              Job.put (total.line g fill (if style = .only then none else some "total".toList))
            return status

end SwiftExistential.Utility
