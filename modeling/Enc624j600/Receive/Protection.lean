/-
# Two ways to protect the receive buffer

Surroundings that spare the frames counted and not released find room by definition.  A chip
that only compares its head with `ERXTAIL` does so as long as `ERXTAIL` is two bytes before
the first slot; the driver establishes this again whenever the following slot does not start
at the beginning of the ring.
-/
import Enc624j600.Receive.Ring

namespace Enc624j600

open Cyclic

variable {c : Chip} {k s n : ℕ}

lemma occupied_mono (c : Chip) {i j : ℕ} (h : i ≤ j) : c.occupied j ≤ c.occupied i := by
  obtain ⟨d, rfl⟩ := Nat.exists_eq_add_of_le h
  have hs : c.deposited.drop i = (c.deposited.drop i).take d ++ c.deposited.drop (i + d) := by
    rw [← List.drop_drop, List.take_append_drop]
  unfold Chip.occupied
  rw [hs, SlotFormat.total_append]
  exact Nat.le_add_left _ _

/-! ### Sparing the counted frames -/

/-- The frames from the `k`-th one on are not released. -/
def Unreleased (k _s : ℕ) (c : Chip) : Prop := c.delivered ≤ k

/-- Surroundings that spare the counted frames. -/
lemma protection_sparing {E : Surroundings} (hE : ∀ c e, E c e → sparing c e) :
    Protection E Unreleased fun _ => True where
  start := fun _ hd _ => hd.le
  congr := by
    rintro k s c c' ht - - (h | h)
    · exact h.le.trans ht
    · exact h
  store := by
    intro k s c bytes _ ht he
    have hfree : c.used + bytes.length ≤ rxRegion.size := hE _ _ he
    exact (Nat.add_le_add_right (occupied_mono c ht) _).trans hfree
  deposit := by
    intro k s c f rsv _ ht he
    have hfree : c.used + f.slotSize ≤ rxRegion.size := hE _ _ he
    exact ⟨(Nat.add_le_add_right (occupied_mono c ht) _).trans hfree, ht⟩
  release := by
    rintro k s c f - ht - -
    exact ht.trans (Nat.le_succ k)

/-! ### Stopping at the tail -/

/-- `ERXTAIL` is two bytes before `s`, and the frames from the `k`-th one on end there at the
latest. -/
structure TailBehind (k s : ℕ) (c : Chip) : Prop where
  erxtail : (c.sfr ERXTAIL).toNat = twoBefore s
  occupied : c.occupied k + 2 ≤ rxRegion.size

/-- Bytes that are stored without meeting `ERXTAIL` end before it. -/
lemma TailBehind.room (ht : TailBehind k s c) (hr : Ring k s c)
    (h : ∀ i < n, c.rxNext^[i] c.head ≠ (c.sfr ERXTAIL).toNat) :
    c.occupied k + n + 2 ≤ rxRegion.size := by
  by_contra hlt
  have hfree := ht.occupied
  refine h (rxRegion.size - 2 - c.occupied k) (by omega) ?_
  rw [hr.next_head, hr.head_eq, Region.loc_loc, ht.erxtail, twoBefore]
  congr 1
  omega

/-- Bytes that end before `ERXTAIL` do not meet it. -/
lemma TailBehind.avoids (ht : TailBehind k s c) (hr : Ring k s c)
    (h : c.occupied k + n + 2 ≤ rxRegion.size) :
    ∀ i < n, c.rxNext^[i] c.head ≠ (c.sfr ERXTAIL).toNat := by
  intro i hi he
  rw [hr.next_head, hr.head_eq, Region.loc_loc, ht.erxtail, twoBefore] at he
  have := Region.loc_inj (by omega) (by simp only [rxRegion_size]; omega) he
  omega

/-- The value that the driver writes to `ERXTAIL`, unless the following slot starts at the
beginning of the ring. -/
lemma toNat_tail {a : ℕ} (ha : rxRegion.Has a) (he : 2 ∣ a) (hne : a ≠ 0x2000) :
    (BitVec.ofNat 16 a - 2#16).toNat = twoBefore a := by
  obtain ⟨h1, h2⟩ := rxRegion_has_iff.1 ha
  rw [twoBefore_of_ne ha he hne, BitVec.toNat_sub_of_le, toNat_ofNat_of_has ha]
  · rfl
  · rw [BitVec.le_def, toNat_ofNat_of_has ha]
    simp only [BitVec.toNat_ofNat]
    omega

lemma protection_tailGated : Protection tailGated TailBehind (· ≠ 0x2000) where
  start := by
    intro c hx _ ht
    refine ⟨?_, ?_⟩
    · rw [ht, twoBefore_base]
      rfl
    · simp [Chip.occupied, hx]
  congr := by
    rintro k s c c' ht he hd -
    refine ⟨by rw [he, ht.erxtail], ?_⟩
    rw [Chip.occupied, hd]
    exact ht.occupied
  store := by
    intro k s c bytes hr ht he
    have := ht.room hr he
    omega
  deposit := by
    intro k s c f rsv hr ht he
    have hroom := ht.room hr he
    have hsize := f.slotSize_le
    -- the slot ends at an even address
    have hfree : c.occupied k + f.slotSize + 2 ≤ rxRegion.size := by
      obtain ⟨a, ha⟩ := two_dvd_occupied c k
      obtain ⟨b, hb⟩ := f.two_dvd_slotSize
      simp only [rxRegion_size] at hroom ⊢
      omega
    refine ⟨by omega, ?_, ?_⟩
    · rw [← ht.erxtail]
      simp +decide [ChipEvent.apply]
    · rw [hr.occupied_deposit]
      exact hfree
  release := by
    intro k s c f hr ht _ hg
    refine ⟨?_, (Nat.add_le_add_right (occupied_mono c (Nat.le_succ k)) 2).trans ht.occupied⟩
    rw [Chip.setSfr_sfr, if_pos rfl]
    exact toNat_tail Region.has_loc
      (Region.dvd_loc (by decide) (by decide) hr.even f.two_dvd_slotSize) hg

end Enc624j600
