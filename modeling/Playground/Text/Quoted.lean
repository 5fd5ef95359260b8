import Playground.Text.Shape

/-!
# Quoted text

Text between double quotes, in which everything that would not show stands as an escape.

* `escape` — how one character stands in quoted text.
* `quote` — a quoted text.
-/

set_option autoImplicit false

namespace Playground.Text.Quoted

/-- A number in hexadecimal digits. -/
def hex (n : Nat) : List Char := Nat.toDigits 16 n

/-- A character as it stands between quotes. -/
def escape (c : Char) : List Char :=
  if c = '"' then ['\\', '"']
  else if c = '\\' then ['\\', '\\']
  else if c = '\n' then ['\\', 'n']
  else if c = '\r' then ['\\', 'r']
  else if c = '\t' then ['\\', 't']
  else if c.toNat = 0 then ['\\', '0']
  else if Shape.isShown c then [c]
  else ['\\', 'u', '\x7b'] ++ hex c.toNat ++ ['\x7d']

/-- The text in quotes. -/
def quote (text : String) : String := String.ofList (['"'] ++ text.toList.flatMap escape ++ ['"'])

end Playground.Text.Quoted
