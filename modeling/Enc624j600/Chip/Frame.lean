/-
# Frames and their slots in the receive buffer

The receive buffer is the cyclic region from `ERXST = 0x2000` to the end `0x5FFF` of the
SRAM, the general-purpose area the one below it.  A received frame is stored in a slot that
starts at an even address: the address of the following slot, a status vector of six bytes
that begins with the length of the frame, and the frame itself, from the destination address
to the checksum.
-/
import Enc624j600.Lib.RecordRing
import Enc624j600.Source.Words

namespace Enc624j600

open Cyclic

/-- The receive buffer. -/
def rxRegion : Region := ⟨0x2000, 0x4000, by decide⟩

/-- The general-purpose area, which the driver uses as its transmit buffer. -/
def gpRegion : Region := ⟨0, 0x2000, by decide⟩

@[simp] lemma rxRegion_base : rxRegion.base = 0x2000 := rfl

@[simp] lemma rxRegion_size : rxRegion.size = 0x4000 := rfl

@[simp] lemma gpRegion_base : gpRegion.base = 0 := rfl

@[simp] lemma gpRegion_size : gpRegion.size = 0x2000 := rfl

lemma rxRegion_has_iff {a : ℕ} : rxRegion.Has a ↔ 0x2000 ≤ a ∧ a < 0x6000 := Iff.rfl

lemma gpRegion_has_iff {a : ℕ} : gpRegion.Has a ↔ a < 0x2000 := by
  simp [Region.Has]

/-- An Ethernet frame. -/
structure Frame where
  destination : List Byte
  source : List Byte
  lengthType : List Byte
  payload : List Byte
  fcs : List Byte
  length_destination : destination.length = 6
  length_source : source.length = 6
  length_lengthType : lengthType.length = 2
  length_fcs : fcs.length = 4

namespace Frame

/-- The bytes of a frame, in the order of the wire. -/
def bytes (f : Frame) : List Byte :=
  f.destination ++ f.source ++ f.lengthType ++ f.payload ++ f.fcs

/-- The length of a frame, as the chip reports it. -/
def length (f : Frame) : ℕ := f.bytes.length

lemma length_eq (f : Frame) : f.length = 18 + f.payload.length := by
  simp only [length, bytes, List.length_append, f.length_destination, f.length_source,
    f.length_lengthType, f.length_fcs]
  omega

lemma length_bytes (f : Frame) : f.bytes.length = f.length := rfl

/-- The bytes of a frame tell its fields apart. -/
lemma bytes_injective : Function.Injective bytes := by
  rintro ⟨d, s, t, p, x, hd, hs, ht, hx⟩ ⟨d', s', t', p', x', hd', hs', ht', hx'⟩ h
  change d ++ s ++ t ++ p ++ x = d' ++ s' ++ t' ++ p' ++ x' at h
  obtain ⟨h₁, rfl⟩ := List.append_inj' h (hx.trans hx'.symm)
  simp only [List.append_assoc] at h₁
  obtain ⟨rfl, h₂⟩ := List.append_inj h₁ (hd.trans hd'.symm)
  obtain ⟨rfl, h₃⟩ := List.append_inj h₂ (hs.trans hs'.symm)
  obtain ⟨rfl, rfl⟩ := List.append_inj h₃ (ht.trans ht'.symm)
  rfl

/-- The number of bytes of the slot of a frame. -/
def slotSize (f : Frame) : ℕ := (8 + f.length + 1) / 2 * 2

lemma le_slotSize (f : Frame) : 8 + f.length ≤ f.slotSize := by
  unfold slotSize
  omega

lemma slotSize_le (f : Frame) : f.slotSize ≤ 8 + f.length + 1 := by
  unfold slotSize
  omega

lemma two_dvd_slotSize (f : Frame) : 2 ∣ f.slotSize := Nat.dvd_mul_left 2 _

end Frame

/-- The two bytes of a 16-bit value in the SRAM. -/
def le16 (v : ℕ) : List Byte := [lsb (BitVec.ofNat 16 v), msb (BitVec.ofNat 16 v)]

@[simp] lemma length_le16 (v : ℕ) : (le16 v).length = 2 := rfl

/-- The bytes that the chip stores for a frame, `next` being the address of the following
slot and `status` the last four bytes of the status vector. -/
def slotBytes (next : ℕ) (status : List Byte) (f : Frame) : List Byte :=
  le16 next ++ (le16 f.length ++ status) ++ f.bytes

lemma length_slotBytes {next : ℕ} {status : List Byte} (h : status.length = 4) (f : Frame) :
    (slotBytes next status f).length = 8 + f.length := by
  simp only [slotBytes, List.length_append, length_le16, h, Frame.length_bytes]

/-- The slots of the receive buffer.  A last byte that only makes the size of a slot even is
not written. -/
def slotFormat : SlotFormat Byte Frame where
  size := Frame.slotSize
  Fits next f bs :=
    ∃ status pad, status.length = 4 ∧ bs = slotBytes next status f ++ pad

@[simp] lemma slotFormat_size (f : Frame) : slotFormat.size f = f.slotSize := rfl

/-- The ring address two bytes before `a`. -/
def twoBefore (a : ℕ) : ℕ := rxRegion.loc a (rxRegion.size - 2)

lemma twoBefore_base : twoBefore 0x2000 = 0x5FFE := by decide

lemma twoBefore_of_ne {a : ℕ} (ha : rxRegion.Has a) (he : 2 ∣ a) (h : a ≠ 0x2000) :
    twoBefore a = a - 2 := by
  obtain ⟨h1, h2⟩ := rxRegion_has_iff.1 ha
  rw [twoBefore, Region.loc_of_ge h1 (by simp; omega) (by simp; omega)]
  simp only [rxRegion_size]
  omega

end Enc624j600
