import SwiftExistential.Text.Basic

/-!
# TOML values

The values of a TOML document. A table remembers how it came about, because a table may be extended
later only in the way it was begun: by a header of its own, by a longer header or by dotted keys,
and a table in braces not at all.

Entries are kept in the order in which they were written. A key that has a value already cannot be
assigned again, so that it has one value in a document.
-/

set_option autoImplicit false

namespace SwiftExistential.Toml

/-- How a table came about. -/
inductive TableKind where
  /-- A header of its own, or the document itself. -/
  | headed
  /-- Only the header of a table inside it. -/
  | implied
  /-- Dotted keys. -/
  | dotted
  /-- Braces. -/
  | braced
deriving DecidableEq, Repr

/-- A value of a document. Of reals only the kind is kept, of moments in time the written form. -/
inductive Value where
  | text (value : Text)
  | integer (value : Int)
  | real
  | boolean (value : Bool)
  | moment (written : Text)
  /-- A list in brackets. -/
  | list (items : List Value)
  /-- Tables under one header in double brackets, the latest first. -/
  | headedList (items : List Value)
  | table (kind : TableKind) (entries : List (Text × Value))
deriving Repr

/-- Keys with their values, in the order they were added. -/
abbrev Entries := List (Text × Value)

namespace Entries

def get? (entries : Entries) (key : Text) : Option Value := List.lookup key entries

/-- Replaces the value of a key, or adds the key at the end. -/
def set (key : Text) (value : Value) : Entries → Entries
  | [] => [(key, value)]
  | (k, v) :: rest => if k = key then (k, value) :: rest else (k, v) :: set key value rest

/-- Adds a key that must be new. -/
def add? (entries : Entries) (key : Text) (value : Value) : Option Entries :=
  match entries.get? key with
  | some _ => none
  | none => some (entries ++ [(key, value)])

/-! ## Assigning through dotted keys

The tables on the way are made if they are missing. A table in braces or one with a header of its
own is not entered, except as the latest of a list of tables. -/

/-- A table that a dotted key goes through. -/
structure Passage where
  entries : Entries
  /-- Whether the key may end in the table: only if the table came about by dotted keys. -/
  endsHere : Bool
  /-- The value of the table after a change of its entries. -/
  rebuild : Entries → Value

/-- The table that a dotted key goes through: a new one, one without a header of its own, or the
latest table of a list of headed tables. -/
def passage? : Option Value → Option Passage
  | none => some ⟨[], true, .table .dotted⟩
  | some (.table .dotted entries) => some ⟨entries, true, .table .dotted⟩
  | some (.table .implied entries) => some ⟨entries, false, .table .implied⟩
  | some (.headedList (.table kind entries :: older)) =>
      some ⟨entries, false, fun changed => .headedList (.table kind changed :: older)⟩
  | some _ => none

/-- Assigns a value to a key reached through dotted keys. The key must be new, and the table that it
stands in must have come about by dotted keys. -/
def assignDotted? (entries : Entries) : List Text → Text → Value → Option Entries
  | [], key, value => entries.add? key value
  | first :: rest, key, value =>
      match passage? (entries.get? first) with
      | none => none
      | some table =>
          if rest.isEmpty && !table.endsHere then none
          else (assignDotted? table.entries rest key value).map fun changed =>
            entries.set first (table.rebuild changed)

/-! ## Headers

A header goes through tables of any kind but those in braces. A missing table on the way is implied,
and may get a header of its own later. -/

/-- Changes the table that a header names. On the way, a missing table is implied, and a list of
headed tables stands for its latest table. -/
def updateAt? (entries : Entries) (change : Entries → Option Entries) : List Text → Option Entries
  | [] => change entries
  | first :: rest =>
      match entries.get? first with
      | none =>
          (updateAt? [] change rest).map fun inner => entries.set first (.table .implied inner)
      | some (.table .braced _) => none
      | some (.table kind inner) =>
          (updateAt? inner change rest).map fun inner' => entries.set first (.table kind inner')
      | some (.headedList (.table kind inner :: older)) =>
          (updateAt? inner change rest).map fun inner' =>
            entries.set first (.headedList (.table kind inner' :: older))
      | some _ => none

/-- Opens the table of a header. A table may have only one header. -/
def openTable? (entries : Entries) (key : Text) : Option Entries :=
  match entries.get? key with
  | none => some (entries.set key (.table .headed []))
  | some (.table .implied inner) => some (entries.set key (.table .headed inner))
  | some _ => none

/-- Opens one more table of a list of headed tables. -/
def openListed? (entries : Entries) (key : Text) : Option Entries :=
  match entries.get? key with
  | none => some (entries.set key (.headedList [.table .headed []]))
  | some (.headedList items) => some (entries.set key (.headedList (.table .headed [] :: items)))
  | some _ => none

end Entries

end SwiftExistential.Toml
