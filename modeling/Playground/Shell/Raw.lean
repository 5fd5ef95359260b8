import Playground.Text.Utf8

/-!
# Raw text

Scripts and what they handle are bytes, which need not be UTF-8. Raw text holds one character for
each byte.

* `ofBytes`, `toBytes` — between raw text and bytes.
* `ofString`, `toString` — between raw text and text.
* `le` — the order in which names are listed.
-/

set_option autoImplicit false

namespace Playground.Shell

/-- Bytes as characters: each has the number of its byte. -/
abbrev Raw := List Char

namespace Raw

def ofBytes (bytes : List UInt8) : Raw := bytes.map fun b => Char.ofNat b.toNat

def toBytes (raw : Raw) : List UInt8 := raw.map fun c => c.toNat.toUInt8

/-- The bytes of a text in UTF-8. -/
def ofString (s : String) : Raw := ofBytes s.toUTF8.toList

/-- The text that raw text is the UTF-8 form of, with replacements for what is not text. -/
def toString (raw : Raw) : String := String.ofList (Text.Utf8.decodeLossy (toBytes raw))

/-- A number in decimal digits. -/
def ofNat (n : Nat) : Raw := Nat.toDigits 10 n

/-- The order in which names are listed: byte by byte, and what ends first comes first. -/
def le (a b : Raw) : Bool := !List.lex b a fun x y => x.toNat < y.toNat

def ofInt (n : Int) : Raw := if n < 0 then '-' :: ofNat n.natAbs else ofNat n.natAbs

end Raw

end Playground.Shell
