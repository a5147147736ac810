import Mathlib.Data.Nat.Bitwise
/-!
# Words and bits in memory

Memory is a function from addresses to bytes. Words are little-endian; bitmaps
store the bit of smallest number in the most significant bit of a byte.
-/

namespace Bytes

/-- The three bytes at address `i`, the first one lowest. -/
def load24 (memory : Nat → UInt8) (i : Nat) : UInt32 :=
  (memory i).toUInt32 ||| (memory (i + 1)).toUInt32 <<< 8 ||| (memory (i + 2)).toUInt32 <<< 16

def load32 (memory : Nat → UInt8) (i : Nat) : UInt32 :=
  (memory i).toUInt32 ||| (memory (i + 1)).toUInt32 <<< 8 |||
    (memory (i + 2)).toUInt32 <<< 16 ||| (memory (i + 3)).toUInt32 <<< 24

def ofWords (words : Nat → UInt32) (i : Nat) : UInt8 :=
  (words (i / 4) >>> UInt32.ofNat (8 * (i % 4))).toUInt8

def bit (memory : Nat → UInt8) (i : Nat) : Bool :=
  (memory (i / 8) >>> UInt8.ofNat (7 - i % 8)) &&& 1 != 0

theorem toNat_shiftLeft_byte (b : UInt8) {k : Nat} (hk : k ≤ 24) :
    (b.toUInt32 <<< UInt32.ofNat k).toNat = 2 ^ k * b.toNat := by
  have hb := b.toNat_lt
  have hcount : (UInt32.ofNat k).toNat % 32 = k := by
    rw [UInt32.toNat_ofNat']
    omega
  have hfit : b.toNat * 2 ^ k < 2 ^ 32 := by
    calc
      b.toNat * 2 ^ k < 2 ^ 8 * 2 ^ k := Nat.mul_lt_mul_of_pos_right hb (Nat.two_pow_pos k)
      _ = 2 ^ (8 + k) := (Nat.pow_add 2 8 k).symm
      _ ≤ 2 ^ 32 := Nat.pow_le_pow_right (by decide) (by omega)
  rw [UInt32.toNat_shiftLeft, UInt8.toNat_toUInt32, hcount, Nat.shiftLeft_eq,
    Nat.mod_eq_of_lt hfit, Nat.mul_comm]

theorem toNat_load24 (memory : Nat → UInt8) (i : Nat) :
    (load24 memory i).toNat = (memory i).toNat + 2 ^ 8 * (memory (i + 1)).toNat +
      2 ^ 16 * (memory (i + 2)).toNat := by
  have h0 := (memory i).toNat_lt
  have h1 := (memory (i + 1)).toNat_lt
  have h8 : ((memory (i + 1)).toUInt32 <<< 8).toNat = 2 ^ 8 * (memory (i + 1)).toNat :=
    toNat_shiftLeft_byte _ (show 8 ≤ 24 by decide)
  have h16 : ((memory (i + 2)).toUInt32 <<< 16).toNat = 2 ^ 16 * (memory (i + 2)).toNat :=
    toNat_shiftLeft_byte _ (show 16 ≤ 24 by decide)
  have hlow : 2 ^ 8 * (memory (i + 1)).toNat + (memory i).toNat < 2 ^ 16 := by omega
  rw [load24, UInt32.toNat_or, UInt32.toNat_or, h8, h16, UInt8.toNat_toUInt32,
    Nat.or_comm (memory i).toNat, ← Nat.two_pow_add_eq_or_of_lt h0, Nat.or_comm,
    ← Nat.two_pow_add_eq_or_of_lt hlow]
  omega

theorem toNat_load32 (memory : Nat → UInt8) (i : Nat) :
    (load32 memory i).toNat = (load24 memory i).toNat + 2 ^ 24 * (memory (i + 3)).toNat := by
  have h0 := (memory i).toNat_lt
  have h1 := (memory (i + 1)).toNat_lt
  have h2 := (memory (i + 2)).toNat_lt
  have hlow : (load24 memory i).toNat < 2 ^ 24 := by
    rw [toNat_load24]
    omega
  have hsplit : load32 memory i =
      load24 memory i ||| (memory (i + 3)).toUInt32 <<< UInt32.ofNat 24 := rfl
  rw [hsplit, UInt32.toNat_or, toNat_shiftLeft_byte _ (by decide), Nat.or_comm,
    ← Nat.two_pow_add_eq_or_of_lt hlow, Nat.add_comm]

/-- The three bytes that a mask of 24 bits keeps of a word. -/
theorem load32_and_mask24 (memory : Nat → UInt8) (i : Nat) :
    load32 memory i &&& (0x00FFFFFF : UInt32) = load24 memory i := by
  have hlow : (load24 memory i).toNat < 2 ^ 24 := by
    have h0 := (memory i).toNat_lt
    have h1 := (memory (i + 1)).toNat_lt
    have h2 := (memory (i + 2)).toNat_lt
    rw [toNat_load24]
    omega
  apply UInt32.toNat_inj.mp
  calc
    (load32 memory i &&& (0x00FFFFFF : UInt32)).toNat
      = (load32 memory i).toNat &&& (2 ^ 24 - 1) := UInt32.toNat_and _ _
    _ = (load32 memory i).toNat % 2 ^ 24 := Nat.and_two_pow_sub_one_eq_mod _ _
    _ = (load24 memory i).toNat := by
      rw [toNat_load32, Nat.add_mul_mod_self_left, Nat.mod_eq_of_lt hlow]

theorem toNat_ofWords (words : Nat → UInt32) (i : Nat) {k : Nat} (hk : k < 4) :
    (ofWords words (4 * i + k)).toNat = (words i).toNat / 2 ^ (8 * k) % 256 := by
  have hcount : (UInt32.ofNat (8 * k)).toNat % 32 = 8 * k := by
    rw [UInt32.toNat_ofNat']
    omega
  rw [ofWords, show (4 * i + k) / 4 = i by omega, show (4 * i + k) % 4 = k by omega,
    UInt32.toNat_toUInt8, UInt32.toNat_shiftRight, hcount, Nat.shiftRight_eq_div_pow]

theorem load32_ofWords (words : Nat → UInt32) (i : Nat) :
    load32 (ofWords words) (4 * i) = words i := by
  have hword := (words i).toNat_lt
  have h0 := toNat_ofWords words i (k := 0) (by decide)
  have h1 := toNat_ofWords words i (k := 1) (by decide)
  have h2 := toNat_ofWords words i (k := 2) (by decide)
  have h3 := toNat_ofWords words i (k := 3) (by decide)
  apply UInt32.toNat_inj.mp
  rw [toNat_load32, toNat_load24, h1, h2, h3]
  rw [Nat.add_zero] at h0
  rw [h0]
  omega

end Bytes
