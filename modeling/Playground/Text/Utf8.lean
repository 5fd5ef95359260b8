/-!
# Lossy reading of UTF-8

`decodeLossy` reads any bytes as text. A byte that cannot begin a character, and every longest
beginning of a character that its next byte does not continue, become one replacement character.

* `Lead` — what a first byte promises: how many bytes follow and which range the next one is in.
* `next` — one character and the bytes behind it.
* `decode?` — strict reading, for text that must be well formed.
-/

set_option autoImplicit false

namespace Playground.Text.Utf8

/-- The character that stands for bytes that are not text. -/
def replacement : Char := '\ufffd'

/-- What the first byte of a character promises about the bytes behind it. -/
structure Lead where
  /-- Least value of the next byte. -/
  low : UInt8
  /-- Greatest value of the next byte. -/
  high : UInt8
  /-- Number of bytes that follow. -/
  more : Nat
  /-- The bits of the code point that the first byte holds. -/
  bits : UInt32

/-- The lead bytes of well-formed sequences; `none` for a byte that begins no character. -/
def Lead.of? (b : UInt8) : Option Lead :=
  if b < 0x80 then some ⟨0x80, 0xBF, 0, b.toUInt32⟩
  else if b < 0xC2 then none
  else if b < 0xE0 then some ⟨0x80, 0xBF, 1, (b &&& 0x1F).toUInt32⟩
  else if b == 0xE0 then some ⟨0xA0, 0xBF, 2, 0⟩
  else if b == 0xED then some ⟨0x80, 0x9F, 2, 0xD⟩
  else if b < 0xF0 then some ⟨0x80, 0xBF, 2, (b &&& 0x0F).toUInt32⟩
  else if b == 0xF0 then some ⟨0x90, 0xBF, 3, 0⟩
  else if b < 0xF4 then some ⟨0x80, 0xBF, 3, (b &&& 0x07).toUInt32⟩
  else if b == 0xF4 then some ⟨0x80, 0x8F, 3, 4⟩
  else none

/-- Reads the bytes that follow a lead byte. The first one must lie between `low` and `high`, every
later one between 0x80 and 0xBF; a byte outside ends the character and is left unread. -/
def follow (bits : UInt32) (low high : UInt8) : Nat → List UInt8 → Option Char × List UInt8
  | 0, rest => (some (Char.ofNat bits.toNat), rest)
  | _ + 1, [] => (none, [])
  | n + 1, b :: rest =>
    if low ≤ b ∧ b ≤ high then
      follow (bits <<< 6 ||| (b &&& 0x3F).toUInt32) 0x80 0xBF n rest
    else (none, b :: rest)

/-- The character that begins with byte `b`, or `none` if it is broken, and the bytes behind. -/
def next (b : UInt8) (rest : List UInt8) : Option Char × List UInt8 :=
  match Lead.of? b with
  | none => (none, rest)
  | some lead => follow lead.bits lead.low lead.high lead.more rest

theorem follow_length_le (bits : UInt32) (low high : UInt8) (n : Nat) (rest : List UInt8) :
    (follow bits low high n rest).2.length ≤ rest.length := by
  induction n generalizing bits low high rest with
  | zero => simp [follow]
  | succ n ih =>
    cases rest with
    | nil => simp [follow]
    | cons b rest =>
      simp only [follow]
      split
      · exact Nat.le_trans (ih _ _ _ _) (Nat.le_succ _)
      · exact Nat.le_refl _

/-- Reading a character never gives bytes back. -/
theorem next_length_le (b : UInt8) (rest : List UInt8) : (next b rest).2.length ≤ rest.length := by
  unfold next
  split
  · exact Nat.le_refl _
  · exact follow_length_le _ _ _ _ _

/-- Decodes `bytes` behind the characters of `done`, which are held in reverse. -/
def decodeOnto (done : List Char) (bytes : List UInt8) : List Char :=
  match bytes with
  | [] => done.reverse
  | b :: rest => decodeOnto ((next b rest).1.getD replacement :: done) (next b rest).2
termination_by bytes.length
decreasing_by exact Nat.lt_succ_of_le (next_length_le b rest)

/-- The characters of `bytes`, each broken part replaced by one U+FFFD. -/
def decodeLossy (bytes : List UInt8) : List Char := decodeOnto [] bytes

theorem decodeOnto_eq (done : List Char) (bytes : List UInt8) :
    decodeOnto done bytes = done.reverse ++ decodeLossy bytes := by
  unfold decodeLossy
  generalize h : bytes.length = n
  induction n using Nat.strongRecOn generalizing done bytes with
  | _ n ih =>
    cases bytes with
    | nil => simp [decodeOnto]
    | cons b rest =>
      have hl : (next b rest).2.length < n := h ▸ Nat.lt_succ_of_le (next_length_le b rest)
      rw [decodeOnto, decodeOnto, ih _ hl _ _ rfl, ih _ hl [_] _ rfl]
      simp

@[simp] theorem decodeLossy_nil : decodeLossy [] = [] := by
  simp [decodeLossy, decodeOnto]

/-- The defining equation of lossy decoding, one character at a time. -/
theorem decodeLossy_cons (b : UInt8) (rest : List UInt8) :
    decodeLossy (b :: rest) = (next b rest).1.getD replacement :: decodeLossy (next b rest).2 := by
  rw [decodeLossy, decodeOnto, decodeOnto_eq]
  rfl

/-- Strict decoding: `none` if any part of the bytes is broken. -/
def decode? (bytes : List UInt8) : Option String := String.fromUTF8? ⟨bytes.toArray⟩

end Playground.Text.Utf8
