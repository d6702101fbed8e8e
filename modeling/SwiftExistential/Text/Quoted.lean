import SwiftExistential.Text.Basic
import SwiftExistential.Unicode.Printable

/-!
# Quoted text

How a piece of source text is shown inside a message: between double quotes, with short escapes for
the null character, tab, line ends, quote and backslash, and every other hidden character by its
code point in hexadecimal.

A single quote stays as it is. Which characters are hidden is settled by a table; a mark that would
attach to the character before it is among them.
-/

set_option autoImplicit false

namespace SwiftExistential.Text

/-- The code point of a character as an escape, in lower case without leading zeros. -/
def codePointEscape (c : Char) : Text :=
  ['\\', 'u', '\x7b'] ++ Nat.toDigits 16 c.toNat ++ ['\x7d']

def quoteChar (c : Char) : Text :=
  if c = '\x00' then ['\\', '0']
  else if c = '\t' then ['\\', 't']
  else if c = '\r' then ['\\', 'r']
  else if c = '\n' then ['\\', 'n']
  else if c = '"' then ['\\', '"']
  else if c = '\\' then ['\\', '\\']
  else if Unicode.isHidden c then codePointEscape c
  else [c]

/-- A text between double quotes. -/
def quote (t : Text) : Text := '"' :: t.flatMap quoteChar ++ ['"']

end SwiftExistential.Text
