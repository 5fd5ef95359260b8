import Mathlib.Data.Char
import Playground.Proofs.Text.Utf8

/-!
# Decoding what was encoded

A text is written as UTF-8 by cutting the code point of each character into digits of six bits. This
file says that lossy reading gives the text back, whatever stands behind it.

* `follow_digit`, `tail_digit`, `tail_last` — a byte that goes on a character adds one digit.
* `lead_two`, `lead_three`, `lead_four` — what the lead byte of an encoded character promises.
* `next_encodeChar` — the next character of bytes that begin with an encoded one.
* `decodeLossy_toUTF8` — decoding an encoded text gives the text.
-/

set_option autoImplicit false

namespace Playground.Text.Utf8

/-! ## Digits -/

theorem toNat_ofNat {n : Nat} (h : n < 256) : (UInt8.ofNat n).toNat = n := by
  rw [UInt8.toNat_ofNat']
  exact Nat.mod_eq_of_lt h

/-- **A byte that goes on a character adds a digit** of six bits. -/
theorem follow_digit (bits : UInt32) {low high : UInt8} {d : Nat} (hd : d < 64)
    (hlow : low.toNat ≤ d + 128) (hhigh : d + 128 ≤ high.toNat) (hbits : bits.toNat * 64 < 2 ^ 32)
    (n : Nat) (rest : List UInt8) :
    ∃ more : UInt32, more.toNat = bits.toNat * 64 + d ∧
      follow bits low high (n + 1) (.ofNat (d + 128) :: rest) = follow more 0x80 0xBF n rest := by
  have hbyte : (UInt8.ofNat (d + 128)).toNat = d + 128 := toNat_ofNat (by omega)
  have hrange : low ≤ UInt8.ofNat (d + 128) ∧ UInt8.ofNat (d + 128) ≤ high := by
    rw [UInt8.le_iff_toNat_le, UInt8.le_iff_toNat_le, hbyte]
    exact ⟨hlow, hhigh⟩
  refine ⟨bits <<< 6 ||| (UInt8.ofNat (d + 128) &&& 0x3F).toUInt32, ?_, ?_⟩
  · rw [toNat_extend (by omega) (by omega) hbits, hbyte, Nat.add_sub_cancel]
  · rw [follow, if_pos hrange]

/-- A digit behind another one may have any value. -/
theorem tail_digit (bits : UInt32) {d : Nat} (hd : d < 64) (hbits : bits.toNat * 64 < 2 ^ 32)
    (n : Nat) (rest : List UInt8) :
    ∃ more : UInt32, more.toNat = bits.toNat * 64 + d ∧
      follow bits 0x80 0xBF (n + 1) (.ofNat (d + 128) :: rest) = follow more 0x80 0xBF n rest := by
  have hlow : (0x80 : UInt8).toNat ≤ d + 128 := Nat.le_add_left _ _
  have hhigh : d + 128 ≤ (0xBF : UInt8).toNat := Nat.add_le_add_right (Nat.le_of_lt_succ hd) 128
  exact follow_digit bits hd hlow hhigh hbits n rest

/-- The last digit ends the character. -/
theorem tail_last (bits : UInt32) {d : Nat} (hd : d < 64) (hbits : bits.toNat * 64 < 2 ^ 32)
    (rest : List UInt8) :
    follow bits 0x80 0xBF 1 (.ofNat (d + 128) :: rest) =
      (some (Char.ofNat (bits.toNat * 64 + d)), rest) := by
  obtain ⟨more, hmore, hfollow⟩ := tail_digit bits hd hbits 0 rest
  rw [hfollow, follow, hmore]

/-! ## Lead bytes -/

/-- What a lead byte promises, in numbers: the range of the next byte, the number of bytes that
follow, and the first digit. -/
def Lead.numbers (lead : Lead) : Nat × Nat × Nat × Nat :=
  (lead.low.toNat, lead.high.toNat, lead.more, lead.bits.toNat)

theorem lead_two : ∀ d : Fin 32, 2 ≤ d →
    (Lead.of? (.ofNat (d + 192))).map Lead.numbers = some (0x80, 0xBF, 1, d.val) := by
  decide

/-- The first of three bytes. Behind the least and in front of the surrogates the range of the next
byte is narrower. -/
theorem lead_three : ∀ d : Fin 16, (Lead.of? (.ofNat (d + 224))).map Lead.numbers =
    some (if d.val = 0 then 0xA0 else 0x80, if d.val = 13 then 0x9F else 0xBF, 2, d.val) := by
  decide

/-- The first of four bytes. Behind the least and the greatest the range of the next byte is
narrower. -/
theorem lead_four : ∀ d : Fin 5, (Lead.of? (.ofNat (d + 240))).map Lead.numbers =
    some (if d.val = 0 then 0x90 else 0x80, if d.val = 4 then 0x8F else 0xBF, 3, d.val) := by
  decide

/-- The bytes behind a lead byte are read as it promises. -/
theorem next_of_numbers {b : UInt8} {low high more d : Nat}
    (h : (Lead.of? b).map Lead.numbers = some (low, high, more, d)) :
    ∃ (low' high' : UInt8) (bits : UInt32), low'.toNat = low ∧ high'.toNat = high ∧
      bits.toNat = d ∧ ∀ rest, next b rest = follow bits low' high' more rest := by
  obtain ⟨lead, hlead, hnumbers⟩ := Option.map_eq_some_iff.mp h
  cases hnumbers
  refine ⟨lead.low, lead.high, lead.bits, rfl, rfl, rfl, fun rest => ?_⟩
  rw [next, hlead]

/-! ## Characters -/

theorem next_two {d e : Nat} (hd : 2 ≤ d) (hd' : d < 32) (he : e < 64) (rest : List UInt8) :
    next (.ofNat (d + 192)) (.ofNat (e + 128) :: rest) =
      (some (Char.ofNat (d * 64 + e)), rest) := by
  obtain ⟨low, high, bits, hlow, hhigh, hbits, hnext⟩ :=
    next_of_numbers (lead_two ⟨d, hd'⟩ hd)
  have hbits : bits.toNat = d := hbits
  obtain rfl : low = 0x80 := UInt8.toNat_inj.mp hlow
  obtain rfl : high = 0xBF := UInt8.toNat_inj.mp hhigh
  rw [hnext, tail_last bits he (by omega), hbits]

theorem next_three {d e f : Nat} (hd : d < 16) (he : e < 64) (hf : f < 64)
    (hleast : 0x800 ≤ (d * 64 + e) * 64 + f)
    (hscalar : (d * 64 + e) * 64 + f < 0xD800 ∨ 0xDFFF < (d * 64 + e) * 64 + f)
    (rest : List UInt8) :
    next (.ofNat (d + 224)) (.ofNat (e + 128) :: .ofNat (f + 128) :: rest) =
      (some (Char.ofNat ((d * 64 + e) * 64 + f)), rest) := by
  obtain ⟨low, high, bits, hlow, hhigh, hbits, hnext⟩ := next_of_numbers (lead_three ⟨d, hd⟩)
  have hbits : bits.toNat = d := hbits
  have hlow : low.toNat = if d = 0 then 0xA0 else 0x80 := hlow
  have hhigh : high.toNat = if d = 13 then 0x9F else 0xBF := hhigh
  -- the narrower ranges leave out what needs fewer bytes, and the surrogates
  have hlow' : low.toNat ≤ e + 128 := by rw [hlow]; split <;> omega
  have hhigh' : e + 128 ≤ high.toNat := by rw [hhigh]; split <;> omega
  obtain ⟨more, hmore, hfollow⟩ :=
    follow_digit bits he hlow' hhigh' (by omega) 1 (.ofNat (f + 128) :: rest)
  have hlast := tail_last more hf (by omega) rest
  rw [hnext, hfollow, hlast, hmore, hbits]

theorem next_four {d e f g : Nat} (hd : d < 5) (he : e < 64) (hf : f < 64) (hg : g < 64)
    (hleast : 0x10000 ≤ ((d * 64 + e) * 64 + f) * 64 + g)
    (hgreatest : ((d * 64 + e) * 64 + f) * 64 + g ≤ 0x10FFFF) (rest : List UInt8) :
    next (.ofNat (d + 240)) (.ofNat (e + 128) :: .ofNat (f + 128) :: .ofNat (g + 128) :: rest) =
      (some (Char.ofNat (((d * 64 + e) * 64 + f) * 64 + g)), rest) := by
  obtain ⟨low, high, bits, hlow, hhigh, hbits, hnext⟩ := next_of_numbers (lead_four ⟨d, hd⟩)
  have hbits : bits.toNat = d := hbits
  have hlow : low.toNat = if d = 0 then 0x90 else 0x80 := hlow
  have hhigh : high.toNat = if d = 4 then 0x8F else 0xBF := hhigh
  -- the narrower ranges leave out what needs fewer bytes, and what is beyond the last code point
  have hlow' : low.toNat ≤ e + 128 := by rw [hlow]; split <;> omega
  have hhigh' : e + 128 ≤ high.toNat := by rw [hhigh]; split <;> omega
  obtain ⟨two, htwo, hfollow⟩ :=
    follow_digit bits he hlow' hhigh' (by omega) 2 (.ofNat (f + 128) :: .ofNat (g + 128) :: rest)
  obtain ⟨three, hthree, hfollow'⟩ :=
    tail_digit two hf (by omega) 1 (.ofNat (g + 128) :: rest)
  have hlast := tail_last three hg (by omega) rest
  rw [hnext, hfollow, hfollow', hlast, hthree, htwo, hbits]

/-- **An encoded character is the next one of bytes that begin with it.** -/
theorem next_encodeChar (c : Char) (rest : List UInt8) :
    ∃ b bs, String.utf8EncodeChar c = b :: bs ∧ next b (bs ++ rest) = (some c, rest) := by
  have hchar : Char.ofNat c.val.toNat = c := Char.ofNat_toNat c
  have hvalid : c.val.toNat < 0xD800 ∨ 0xDFFF < c.val.toNat ∧ c.val.toNat < 0x110000 := c.valid
  unfold String.utf8EncodeChar
  generalize c.val.toNat = v at hchar hvalid
  dsimp only
  split
  · have hbyte : (UInt8.ofNat v).toNat = v := toNat_ofNat (by omega)
    have hascii : UInt8.ofNat v < 0x80 := by
      rw [UInt8.lt_iff_toNat_lt, hbyte]
      exact Nat.lt_succ_of_le ‹_›
    exact ⟨_, _, rfl, by rw [List.nil_append, next_ascii hascii, hbyte, hchar]⟩
  split
  · have hdigits : v / 64 % 32 * 64 + v % 64 = v := by omega
    refine ⟨_, _, rfl, ?_⟩
    rw [List.cons_append, List.nil_append, next_two (by omega) (by omega) (by omega), hdigits, hchar]
  split
  · have hdigits : (v / 4096 % 16 * 64 + v / 64 % 64) * 64 + v % 64 = v := by omega
    refine ⟨_, _, rfl, ?_⟩
    rw [List.cons_append, List.cons_append, List.nil_append, next_three (by omega) (by omega)
      (by omega) (by omega) (by omega), hdigits, hchar]
  · have hdigits :
        ((v / 262144 % 8 * 64 + v / 4096 % 64) * 64 + v / 64 % 64) * 64 + v % 64 = v := by omega
    refine ⟨_, _, rfl, ?_⟩
    rw [List.cons_append, List.cons_append, List.cons_append, List.nil_append, next_four (by omega)
      (by omega) (by omega) (by omega) (by omega) (by omega), hdigits, hchar]

/-! ## Texts -/

theorem decodeLossy_encode_append (text : List Char) (rest : List UInt8) :
    decodeLossy (text.flatMap String.utf8EncodeChar ++ rest) = text ++ decodeLossy rest := by
  induction text with
  | nil => rfl
  | cons c text ih =>
    obtain ⟨b, bs, hencode, hnext⟩ :=
      next_encodeChar c (text.flatMap String.utf8EncodeChar ++ rest)
    rw [List.flatMap_cons, List.append_assoc, hencode, List.cons_append, decodeLossy_cons, hnext, ih]
    rfl

theorem toList_loop (bytes : ByteArray) (i : Nat) (done : List UInt8) :
    ByteArray.toList.loop bytes i done = done.reverse ++ bytes.data.toList.drop i := by
  have hsize : bytes.size = bytes.data.toList.length := rfl
  generalize hn : bytes.size - i = n
  induction n generalizing i done with
  | zero =>
    rw [ByteArray.toList.loop, if_neg (by omega), List.drop_eq_nil_of_le (by omega), List.append_nil]
  | succ n ih =>
    have hi : i < bytes.data.toList.length := by omega
    have hget : bytes.get! i = bytes.data.toList[i] := getElem!_pos bytes.data i hi
    rw [ByteArray.toList.loop, if_pos (by omega), ih _ _ (by omega), List.reverse_cons,
      List.append_assoc, List.singleton_append, hget, ← List.drop_eq_getElem_cons hi]

/-- The bytes of a text are those of its characters. -/
theorem toList_toUTF8 (text : String) :
    text.toUTF8.toList = text.toList.flatMap String.utf8EncodeChar := by
  rw [ByteArray.toList, toList_loop, String.toUTF8_eq_toByteArray, ← String.utf8Encode_toList,
    List.utf8Encode, List.data_toByteArray]
  rfl

/-- **Reading an encoded text gives the text**, lossy or not. -/
theorem decodeLossy_toUTF8 (text : String) : decodeLossy text.toUTF8.toList = text.toList := by
  have h := decodeLossy_encode_append text.toList []
  rwa [List.append_nil, decodeLossy_nil, List.append_nil, ← toList_toUTF8] at h

end Playground.Text.Utf8
