import Mathlib.Algebra.Group.Nat.Defs
import Mathlib.Logic.Basic
import Playground.Text.Utf8
import Playground.Proofs.Text.Lines

/-!
# Line feeds in lossy text

Bytes below 0x80 are characters of their own, and a broken character never reaches beyond one. So it
does not matter whether bytes are decoded and then cut into lines or the other way round.

* `decodeLossy_append_ascii` — a byte below 0x80 ends what stands in front of it, broken or not.
* `feed_mem_decodeLossy` — a line feed is decoded from a line feed only.
* `cut_decodeLossy` — the lines of decoded bytes are the decoded lines of the bytes.
* `decodeLossy_eq_nil_iff` — decoding makes no bytes disappear.
-/

set_option autoImplicit false

namespace Playground.Text.Utf8

/-! ## Lead bytes -/

/-- What a lead byte promises. The first byte behind it is no byte below 0x80; a character of one
byte has that byte as its code point, and one of several bytes has a code point above six bits, which
fits a word. -/
structure Lead.Sound (b : UInt8) (lead : Lead) : Prop where
  low : 0x80 ≤ lead.low.toNat
  high : lead.high.toNat ≤ 0xBF
  single : lead.more = 0 → lead.bits.toNat = b.toNat
  several : ∀ n, lead.more = n + 1 →
    64 ≤ (lead.bits.toNat * 64 + (lead.low.toNat - 0x80)) * 64 ^ n ∧
      (lead.bits.toNat + 1) * 64 ^ (n + 1) ≤ 2 ^ 32

/-- The bits of a lead byte below a mark of its own. -/
theorem toNat_low_bits (b mask : UInt8) (n : Nat) (hmask : mask.toNat = 2 ^ n - 1) :
    (b &&& mask).toUInt32.toNat = b.toNat % 2 ^ n := by
  rw [UInt8.toNat_toUInt32, UInt8.toNat_and, hmask, Nat.and_two_pow_sub_one_eq_mod]

/-- A lead byte of a character of several bytes. -/
theorem Lead.Sound.of_several {b low high : UInt8} {bits : UInt32} (n : Nat)
    (hlow : 0x80 ≤ low.toNat) (hhigh : high.toNat ≤ 0xBF)
    (hleast : 64 ≤ (bits.toNat * 64 + (low.toNat - 0x80)) * 64 ^ n)
    (hfits : (bits.toNat + 1) * 64 ^ (n + 1) ≤ 2 ^ 32) :
    Lead.Sound b ⟨low, high, n + 1, bits⟩ where
  low := hlow
  high := hhigh
  single hmore := absurd hmore (Nat.succ_ne_zero n)
  several k hmore := by
    obtain rfl : n = k := Nat.succ.inj hmore
    exact ⟨hleast, hfits⟩

theorem Lead.sound {b : UInt8} {lead : Lead} (h : Lead.of? b = some lead) : lead.Sound b := by
  have h5 : (b &&& 0x1F).toUInt32.toNat = b.toNat % 32 := toNat_low_bits b 0x1F 5 rfl
  have h4 : (b &&& 0x0F).toUInt32.toNat = b.toNat % 16 := toNat_low_bits b 0x0F 4 rfl
  have h3 : (b &&& 0x07).toUInt32.toNat = b.toNat % 8 := toNat_low_bits b 0x07 3 rfl
  have hlt : ∀ {c : UInt8}, b < c → b.toNat < c.toNat := fun hc => UInt8.lt_iff_toNat_lt.mp hc
  have hge : ∀ {c : UInt8}, ¬ b < c → c.toNat ≤ b.toNat :=
    fun hc => Nat.not_lt.mp fun hb => hc (UInt8.lt_iff_toNat_lt.mpr hb)
  have hne : ∀ {c : UInt8}, ¬ (b == c) = true → b.toNat ≠ c.toNat :=
    fun hc hb => hc (beq_iff_eq.mpr (UInt8.toNat_inj.mp hb))
  unfold Lead.of? at h
  obtain ⟨-, hl⟩ | ⟨-, h⟩ := ite_eq_iff.mp h
  · cases hl
    exact ⟨Nat.le_refl _, Nat.le_refl _, fun _ => UInt8.toNat_toUInt32 b, nofun⟩
  obtain ⟨-, hl⟩ | ⟨hC2, h⟩ := ite_eq_iff.mp h
  · cases hl
  have hC2 : 0xC2 ≤ b.toNat := hge hC2
  obtain ⟨hE0, hl⟩ | ⟨hE0, h⟩ := ite_eq_iff.mp h
  · cases hl
    have hE0 : b.toNat < 0xE0 := hlt hE0
    refine .of_several 0 (by decide) (by decide) ?_ ?_ <;> rw [h5] <;> omega
  have hE0 : 0xE0 ≤ b.toNat := hge hE0
  obtain ⟨-, hl⟩ | ⟨hE1, h⟩ := ite_eq_iff.mp h
  · cases hl
    exact .of_several 1 (by decide) (by decide) (by decide) (by decide)
  have hE1 : b.toNat ≠ 0xE0 := hne hE1
  obtain ⟨-, hl⟩ | ⟨-, h⟩ := ite_eq_iff.mp h
  · cases hl
    exact .of_several 1 (by decide) (by decide) (by decide) (by decide)
  obtain ⟨hF0, hl⟩ | ⟨hF0, h⟩ := ite_eq_iff.mp h
  · cases hl
    have hF0 : b.toNat < 0xF0 := hlt hF0
    refine .of_several 1 (by decide) (by decide) ?_ ?_ <;> rw [h4] <;> omega
  have hF0 : 0xF0 ≤ b.toNat := hge hF0
  obtain ⟨-, hl⟩ | ⟨hF1, h⟩ := ite_eq_iff.mp h
  · cases hl
    exact .of_several 2 (by decide) (by decide) (by decide) (by decide)
  have hF1 : b.toNat ≠ 0xF0 := hne hF1
  obtain ⟨hF4, hl⟩ | ⟨-, h⟩ := ite_eq_iff.mp h
  · cases hl
    have hF4 : b.toNat < 0xF4 := hlt hF4
    refine .of_several 2 (by decide) (by decide) ?_ ?_ <;> rw [h3] <;> omega
  obtain ⟨-, hl⟩ | ⟨-, h⟩ := ite_eq_iff.mp h
  · cases hl
    exact .of_several 2 (by decide) (by decide) (by decide) (by decide)
  · cases h

/-! ## Bytes below 0x80 -/

theorem Lead.of?_ascii {b : UInt8} (hb : b < 0x80) :
    Lead.of? b = some ⟨0x80, 0xBF, 0, b.toUInt32⟩ := by
  simp only [Lead.of?, if_pos hb]

theorem next_ascii {b : UInt8} (hb : b < 0x80) (rest : List UInt8) :
    next b rest = (some (Char.ofNat b.toNat), rest) := by
  simp only [next, Lead.of?_ascii hb, follow, UInt8.toNat_toUInt32]

section

variable {c : UInt8} (hc : c < 0x80)

include hc

/-- The bytes behind a lead byte are read no further than up to a byte below 0x80. -/
theorem follow_append_ascii (n : Nat) : ∀ {bits : UInt32} {low high : UInt8}, 0x80 ≤ low.toNat →
    ∀ xs ys : List UInt8, follow bits low high n (xs ++ c :: ys) =
      ((follow bits low high n xs).1, (follow bits low high n xs).2 ++ c :: ys) := by
  induction n with
  | zero => intro bits low high _ xs ys; rfl
  | succ n ih =>
    intro bits low high hlow xs ys
    cases xs with
    | nil =>
      have hout : ¬ (low ≤ c ∧ c ≤ high) := by
        rintro ⟨hle, -⟩
        have hlt : c.toNat < 0x80 := UInt8.lt_iff_toNat_lt.mp hc
        rw [UInt8.le_iff_toNat_le] at hle
        omega
      simp only [List.nil_append, follow, if_neg hout]
    | cons x xs =>
      simp only [List.cons_append, follow]
      split
      · exact ih (by decide) xs ys
      · rfl

theorem next_append_ascii (b : UInt8) (xs ys : List UInt8) :
    next b (xs ++ c :: ys) = ((next b xs).1, (next b xs).2 ++ c :: ys) := by
  cases hlead : Lead.of? b with
  | none => simp only [next, hlead]
  | some lead =>
    simp only [next, hlead]
    exact follow_append_ascii hc _ (Lead.sound hlead).low xs ys

/-- **A byte below 0x80 stands for itself**, and what is in front of it is decoded as if the text
ended there. -/
theorem decodeLossy_append_ascii (xs ys : List UInt8) :
    decodeLossy (xs ++ c :: ys) =
      decodeLossy xs ++ Char.ofNat c.toNat :: decodeLossy ys := by
  generalize hlen : xs.length = n
  induction n using Nat.strongRecOn generalizing xs with
  | _ n ih =>
    cases xs with
    | nil => simp only [List.nil_append, decodeLossy_cons, next_ascii hc, decodeLossy_nil,
        Option.getD_some]
    | cons b xs =>
      have hshort : (next b xs).2.length < n := hlen ▸ Nat.lt_succ_of_le (next_length_le b xs)
      rw [List.cons_append, decodeLossy_cons, decodeLossy_cons, next_append_ascii hc]
      simp only [ih _ hshort _ rfl, List.cons_append]

end

/-! ## Where line feeds come from -/

/-- Six more bits of a code point, from a byte that goes on a character. -/
theorem toNat_extend {bits : UInt32} {b : UInt8} (hlow : 0x80 ≤ b.toNat) (hhigh : b.toNat ≤ 0xBF)
    (hbits : bits.toNat * 64 < 2 ^ 32) :
    (bits <<< 6 ||| (b &&& 0x3F).toUInt32).toNat = bits.toNat * 64 + (b.toNat - 0x80) := by
  have hpayload : (b &&& 0x3F).toUInt32.toNat = b.toNat - 0x80 := by
    rw [toNat_low_bits b 0x3F 6 rfl]
    omega
  have hshift : (bits <<< 6).toNat = bits.toNat <<< 6 := by
    rw [UInt32.toNat_shiftLeft, Nat.shiftLeft_eq, Nat.shiftLeft_eq]
    exact Nat.mod_eq_of_lt hbits
  have hsmall : b.toNat - 0x80 < 2 ^ 6 := by omega
  rw [UInt32.toNat_or, hshift, hpayload, ← Nat.shiftLeft_add_eq_or_of_lt hsmall, Nat.shiftLeft_eq]

theorem eq_feed_of_ofNat {n : Nat} (h : Char.ofNat n = '\n') : n = 0x0A := by
  have hcode : (Char.ofNat n).toNat = 0x0A := by rw [h]; rfl
  by_cases hn : n.isValidChar
  · rw [Char.ofNat, dif_pos hn] at hcode
    exact hcode
  · rw [Char.ofNat, dif_neg hn] at hcode
    cases hcode

/-- The code point of a character that has `n` more bytes to come does not get below 64. -/
def FarFromFeed (n : Nat) : Prop :=
  ∀ (bits : UInt32) (bytes : List UInt8) (c : Char), 64 ≤ bits.toNat * 64 ^ n →
    (bits.toNat + 1) * 64 ^ n ≤ 2 ^ 32 → (follow bits 0x80 0xBF n bytes).1 = some c → c ≠ '\n'

/-- One more byte in front, which may have a narrower range. -/
theorem FarFromFeed.follow_succ {n : Nat} (hn : FarFromFeed n) {bits : UInt32} {low high : UInt8}
    {bytes : List UInt8} {c : Char} (hlow : 0x80 ≤ low.toNat) (hhigh : high.toNat ≤ 0xBF)
    (hleast : 64 ≤ (bits.toNat * 64 + (low.toNat - 0x80)) * 64 ^ n)
    (hfits : (bits.toNat + 1) * 64 ^ (n + 1) ≤ 2 ^ 32)
    (h : (follow bits low high (n + 1) bytes).1 = some c) : c ≠ '\n' := by
  cases bytes with
  | nil => cases h
  | cons b rest =>
    simp only [follow] at h
    split at h
    · rename_i hrange
      have hb : low.toNat ≤ b.toNat := UInt8.le_iff_toNat_le.mp hrange.1
      have hb' : b.toNat ≤ high.toNat := UInt8.le_iff_toNat_le.mp hrange.2
      have hpow : (bits.toNat + 1) * 64 * 64 ^ n ≤ 2 ^ 32 := by
        rw [Nat.mul_assoc, Nat.mul_comm 64, ← Nat.pow_succ]
        exact hfits
      have hword : (bits.toNat + 1) * 64 ≤ 2 ^ 32 :=
        Nat.le_trans (Nat.le_mul_of_pos_right _ (Nat.pow_pos (by decide))) hpow
      have hlow' : 0x80 ≤ b.toNat := Nat.le_trans hlow hb
      have hhigh' : b.toNat ≤ 0xBF := Nat.le_trans hb' hhigh
      have hbits : bits.toNat * 64 < 2 ^ 32 := by omega
      have hnext := toNat_extend hlow' hhigh' hbits
      refine hn _ rest c ?_ ?_ h
      · rw [hnext]
        exact Nat.le_trans hleast (Nat.mul_le_mul_right _ (by omega))
      · rw [hnext]
        exact Nat.le_trans (Nat.mul_le_mul_right _ (by omega)) hpow
    · cases h

theorem farFromFeed (n : Nat) : FarFromFeed n := by
  induction n with
  | zero =>
    intro bits bytes c hleast _ h
    obtain rfl : Char.ofNat bits.toNat = c := Option.some.inj h
    intro hfeed
    have hcode := eq_feed_of_ofNat hfeed
    omega
  | succ n ih =>
    intro bits bytes c hleast hfits h
    refine ih.follow_succ (Nat.le_refl _) (Nat.le_refl _) ?_ hfits h
    rw [Nat.pow_succ, Nat.mul_comm (64 ^ n), ← Nat.mul_assoc] at hleast
    exact hleast

/-- **A line feed is decoded from a line feed.** -/
theorem next_eq_feed {b : UInt8} {bytes : List UInt8} (h : (next b bytes).1 = some '\n') :
    b = 0x0A := by
  cases hlead : Lead.of? b with
  | none => simp only [next, hlead, reduceCtorEq] at h
  | some lead =>
    have hsound := Lead.sound hlead
    simp only [next, hlead] at h
    cases hmore : lead.more with
    | zero =>
      rw [hmore] at h
      have hchar : Char.ofNat lead.bits.toNat = '\n' := Option.some.inj h
      rw [hsound.single hmore] at hchar
      exact UInt8.toNat_inj.mp (eq_feed_of_ofNat hchar)
    | succ n =>
      rw [hmore] at h
      obtain ⟨hleast, hfits⟩ := hsound.several n hmore
      exact absurd rfl ((farFromFeed n).follow_succ hsound.low hsound.high hleast hfits h)

/-- What is not read as part of a character is the end of the bytes. -/
theorem follow_suffix (n : Nat) : ∀ (bits : UInt32) (low high : UInt8) (bytes : List UInt8),
    (follow bits low high n bytes).2 <:+ bytes := by
  induction n with
  | zero => intro bits low high bytes; exact List.suffix_rfl
  | succ n ih =>
    intro bits low high bytes
    cases bytes with
    | nil => exact List.suffix_rfl
    | cons b rest =>
      simp only [follow]
      split
      · exact (ih _ _ _ rest).trans (List.suffix_cons b rest)
      · exact List.suffix_rfl

theorem next_suffix (b : UInt8) (bytes : List UInt8) : (next b bytes).2 <:+ bytes := by
  unfold next
  split
  · exact List.suffix_rfl
  · exact follow_suffix _ _ _ _ _

/-- **Decoding makes no line feed.** -/
theorem feed_mem_decodeLossy {bytes : List UInt8} (h : '\n' ∈ decodeLossy bytes) :
    0x0A ∈ bytes := by
  generalize hlen : bytes.length = n
  induction n using Nat.strongRecOn generalizing bytes with
  | _ n ih =>
    cases bytes with
    | nil =>
      rw [decodeLossy_nil] at h
      cases h
    | cons b bytes =>
      rw [decodeLossy_cons] at h
      obtain hfirst | hrest := List.mem_cons.mp h
      · -- a replacement character is no line feed either
        cases hnext : (next b bytes).1 with
        | none => rw [hnext] at hfirst; cases hfirst
        | some c =>
          rw [hnext] at hfirst
          obtain rfl : '\n' = c := hfirst
          rw [next_eq_feed hnext]
          exact List.mem_cons_self
      · have hshort : (next b bytes).2.length < n := hlen ▸ Nat.lt_succ_of_le (next_length_le b bytes)
        exact List.mem_cons_of_mem b ((next_suffix b bytes).mem (ih _ hshort hrest rfl))

/-! ## Lines -/

/-- **Cutting bytes into lines and decoding them can change places.** -/
theorem cut_decodeLossy (bytes : List UInt8) :
    Lines.cut '\n' (decodeLossy bytes) = (Lines.cut 0x0A bytes).map decodeLossy := by
  generalize hlen : bytes.length = n
  induction n using Nat.strongRecOn generalizing bytes with
  | _ n ih =>
    by_cases hfeed : 0x0A ∈ bytes
    · obtain ⟨line, rest, rfl, hline⟩ := List.eq_append_cons_of_mem hfeed
      have hshort : rest.length < n := by
        rw [← hlen, List.length_append, List.length_cons]
        omega
      have hchar : Char.ofNat (0x0A : UInt8).toNat = '\n' := rfl
      have hdecoded : '\n' ∉ decodeLossy line := fun h => hline (feed_mem_decodeLossy h)
      rw [decodeLossy_append_ascii (by decide), hchar, Lines.cut_append_sep hdecoded,
        Lines.cut_append_sep hline, List.map_cons, ih _ hshort rest rfl]
    · have hdecoded : '\n' ∉ decodeLossy bytes := fun h => hfeed (feed_mem_decodeLossy h)
      rw [Lines.cut_of_not_mem hfeed, Lines.cut_of_not_mem hdecoded]
      rfl

/-- Bytes do not disappear. -/
theorem decodeLossy_eq_nil_iff {bytes : List UInt8} : decodeLossy bytes = [] ↔ bytes = [] := by
  cases bytes with
  | nil => simp
  | cons b bytes => simp [decodeLossy_cons]

/-- A character that its next byte does not continue, and a line feed in the middle of it. -/
example : Lines.cut '\n' (decodeLossy [0xE2, 0x82, 0x0A, 0xAC]) = [[replacement], [replacement]] := by
  decide +kernel

end Playground.Text.Utf8
