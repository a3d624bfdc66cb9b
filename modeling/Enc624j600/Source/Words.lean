/-
# Words and bytes

The driver cuts a 16-bit value into bytes and puts it together again, least significant byte
first; it sets, clears and tests bits under masks.
-/
import Mathlib.Data.Nat.Bitwise
import Enc624j600.Source.Registers

namespace Enc624j600

/-! ## Bytes of a word -/

/-- `(uint8_t) (value & 0xFF)`. -/
def lsb (value : Word) : Byte := (value &&& 0x00FF#16).setWidth 8

/-- `(uint8_t) ((value >> 8) & 0xFF)`. -/
def msb (value : Word) : Byte := ((value >>> 8) &&& 0x00FF#16).setWidth 8

/-- `lsb | (uint16_t) msb << 8`. -/
def assemble (lsb msb : Byte) : Word := lsb.setWidth 16 ||| (msb.setWidth 16 <<< 8)

lemma and_255 (x : ℕ) : x &&& 255 = x % 256 := Nat.and_two_pow_sub_one_eq_mod x 8

lemma toNat_lsb (v : Word) : (lsb v).toNat = v.toNat % 256 := by
  simp only [lsb, BitVec.toNat_setWidth, BitVec.toNat_and, BitVec.toNat_ofNat, Nat.reducePow,
    Nat.reduceMod, and_255, Nat.mod_mod]

lemma toNat_msb (v : Word) : (msb v).toNat = v.toNat / 256 := by
  have hv := v.isLt
  simp only [msb, BitVec.toNat_setWidth, BitVec.toNat_and, BitVec.toNat_ushiftRight,
    BitVec.toNat_ofNat, Nat.reducePow, Nat.reduceMod, and_255, Nat.shiftRight_eq_div_pow]
  omega

lemma toNat_assemble (a b : Byte) : (assemble a b).toNat = a.toNat + 256 * b.toNat := by
  have ha := a.isLt
  have hb := b.isLt
  have h : a.toNat ||| b.toNat <<< 8 = b.toNat <<< 8 + a.toNat := by
    rw [Nat.or_comm, Nat.shiftLeft_add_eq_or_of_lt ha]
  have hs : b.toNat <<< 8 % 65536 = b.toNat <<< 8 := by
    rw [Nat.shiftLeft_eq]
    omega
  simp only [assemble, BitVec.toNat_or, BitVec.toNat_setWidth, BitVec.toNat_shiftLeft,
    Nat.reducePow]
  rw [Nat.mod_eq_of_lt (by omega), Nat.mod_eq_of_lt (a := b.toNat) (by omega), hs, h,
    Nat.shiftLeft_eq]
  omega

@[simp] lemma assemble_lsb_msb (v : Word) : assemble (lsb v) (msb v) = v := by
  apply BitVec.eq_of_toNat_eq
  rw [toNat_assemble, toNat_lsb, toNat_msb]
  omega

@[simp] lemma lsb_assemble (a b : Byte) : lsb (assemble a b) = a := by
  apply BitVec.eq_of_toNat_eq
  have := a.isLt
  rw [toNat_lsb, toNat_assemble]
  omega

@[simp] lemma msb_assemble (a b : Byte) : msb (assemble a b) = b := by
  apply BitVec.eq_of_toNat_eq
  have := a.isLt
  rw [toNat_msb, toNat_assemble]
  omega

/-! ## Masks -/

section Masks

variable {n : ℕ} {x m k : BitVec n}

@[simp] lemma or_and_self_mask (x m : BitVec n) : (x ||| m) &&& m = m := by
  ext i hi
  simp only [BitVec.getElem_and, BitVec.getElem_or]
  grind

@[simp] lemma and_not_and_self_mask (x m : BitVec n) : (x &&& ~~~m) &&& m = 0#n := by
  ext i hi
  simp

lemma or_and_of_disjoint (h : m &&& k = 0#n) : (x ||| m) &&& k = x &&& k := by
  ext i hi
  have hb : (m &&& k)[i] = false := by simp [h]
  simp only [BitVec.getElem_and, BitVec.getElem_or] at hb ⊢
  grind

lemma or_and_of_disjoint_left (h : x &&& k = 0#n) : (x ||| m) &&& k = m &&& k := by
  ext i hi
  have hb : (x &&& k)[i] = false := by simp [h]
  simp only [BitVec.getElem_and, BitVec.getElem_or] at hb ⊢
  grind

lemma and_not_and_of_disjoint (h : m &&& k = 0#n) : (x &&& ~~~m) &&& k = x &&& k := by
  ext i hi
  have hb : (m &&& k)[i] = false := by simp [h]
  simp only [BitVec.getElem_and, BitVec.getElem_not] at hb ⊢
  grind

/-- `x > 0` in unsigned arithmetic. -/
lemma gt_zero_iff : x > 0#n ↔ x ≠ 0#n := by
  rw [gt_iff_lt, BitVec.lt_def, Ne, ← BitVec.toNat_inj]
  simp only [BitVec.toNat_ofNat, Nat.zero_mod]
  omega

end Masks

end Enc624j600
