/-
# What the chip leaves alone

An awake chip is past its power-on reset and has no system reset ahead of it.  On its own it
then changes only its volatile registers, the PHY, and the part of the SRAM that it stores
received frames in.
-/
import Enc624j600.Chip.World

namespace Enc624j600

open Cyclic Interaction

/-- The registers that the chip changes on its own. -/
def IsVolatile (a : Byte) : Prop :=
  a = ERXHEAD ∨ a = ETXSTAT ∨ a = ETXWIRE ∨ a = ESTAT ∨ a = EIR ∨ a = ECON1 ∨ a = MIRD

instance (a : Byte) : Decidable (IsVolatile a) :=
  inferInstanceAs (Decidable (_ ∨ _ ∨ _ ∨ _ ∨ _ ∨ _ ∨ _))

/-- The chip follows instructions, and no reset is under way. -/
structure Chip.Awake (c : Chip) : Prop where
  por : c.por = false
  resetPending : c.resetPending = false

/-- What the chip does not change on its own while it is awake. -/
structure Undisturbed (c c' : Chip) : Prop where
  por : c'.por = c.por
  resetPending : c'.resetPending = c.resetPending
  pointer : c'.pointer = c.pointer
  delivered : c'.delivered = c.delivered
  resets : c'.resets = c.resets
  sfr : ∀ a, ¬ IsVolatile a → c'.sfr a = c.sfr a

/-- The part of the chip that belongs to the receive buffer. -/
structure SameRing (c c' : Chip) : Prop where
  sram : c'.sram = c.sram
  pktcnt : c'.pktcnt = c.pktcnt
  deposited : c'.deposited = c.deposited
  erxhead : c'.sfr ERXHEAD = c.sfr ERXHEAD

namespace ChipEvent

/-- The event stores bytes of a received frame. -/
def Arrives : ChipEvent → Prop
  | .store _ => True
  | .deposit _ _ => True
  | _ => False

variable {c : Chip} {e : ChipEvent}

/-- No event touches a register that is not volatile. -/
private lemma sfr_setSfr {v : Word} {a b : Byte} (hb : IsVolatile b) (ha : ¬ IsVolatile a) :
    (c.setSfr b v).sfr a = c.sfr a := by
  rw [Chip.setSfr_sfr, if_neg]
  rintro rfl
  exact ha hb

/-- A reset apart, the chip leaves its pointers and all but its volatile registers alone. -/
lemma undisturbed_of_running (hc : c.por = false) (hr : ∀ post, e ≠ .resetDone post)
    (he : e.Enabled c) : Undisturbed c (e.apply c) := by
  cases e with
  | powerUp => exact absurd he (by simp [Enabled, hc])
  | noise => exact absurd he (by simp [Enabled, hc])
  | resetDone post => exact absurd rfl (hr post)
  | status estat eir =>
    refine ⟨rfl, rfl, rfl, rfl, rfl, ?_⟩
    intro a ha
    simp only [apply]
    rw [sfr_setSfr (by decide) ha, sfr_setSfr (by decide) ha]
  | phyStatus reg value => exact ⟨rfl, rfl, rfl, rfl, rfl, fun _ _ => rfl⟩
  | miiDone =>
    simp only [apply]
    split
    · exact ⟨rfl, rfl, rfl, rfl, rfl, fun _ _ => rfl⟩
    · exact ⟨rfl, rfl, rfl, rfl, rfl, fun a ha => sfr_setSfr (by decide) ha⟩
    · exact ⟨rfl, rfl, rfl, rfl, rfl, fun _ _ => rfl⟩
  | store bytes => exact ⟨rfl, rfl, rfl, rfl, rfl, fun _ _ => rfl⟩
  | deposit f rsv => exact ⟨rfl, rfl, rfl, rfl, rfl, fun a ha => sfr_setSfr (by decide) ha⟩
  | transmitted o =>
    refine ⟨rfl, rfl, rfl, rfl, rfl, ?_⟩
    intro a ha
    simp only [apply]
    rw [sfr_setSfr (by decide) ha, sfr_setSfr (by decide) ha, sfr_setSfr (by decide) ha]
  | flowControl fcop => exact ⟨rfl, rfl, rfl, rfl, rfl, fun a ha => sfr_setSfr (by decide) ha⟩

lemma undisturbed (hc : c.Awake) (he : e.Enabled c) : Undisturbed c (e.apply c) := by
  refine undisturbed_of_running hc.por ?_ he
  rintro post rfl
  exact absurd he.1 (by simp [hc.resetPending])

lemma sameRing (hc : c.Awake) (he : e.Enabled c) (ha : ¬ e.Arrives) :
    SameRing c (e.apply c) := by
  cases e with
  | powerUp => exact absurd he (by simp [Enabled, hc.por])
  | noise => exact absurd he (by simp [Enabled, hc.por])
  | resetDone post => exact absurd he.1 (by simp [hc.resetPending])
  | status estat eir => exact ⟨rfl, rfl, rfl, by simp +decide [apply]⟩
  | phyStatus reg value => exact ⟨rfl, rfl, rfl, rfl⟩
  | miiDone =>
    simp only [apply]
    split
    · exact ⟨rfl, rfl, rfl, rfl⟩
    · exact ⟨rfl, rfl, rfl, by simp +decide⟩
    · exact ⟨rfl, rfl, rfl, rfl⟩
  | store bytes => exact absurd trivial ha
  | deposit f rsv => exact absurd trivial ha
  | transmitted o => exact ⟨rfl, rfl, rfl, by simp +decide [apply]⟩
  | flowControl fcop => exact ⟨rfl, rfl, rfl, by simp +decide [apply]⟩

lemma withFcop_and {econ1 fcop mask : Word} (h : FCOP &&& mask = 0#16) :
    withFcop econ1 fcop &&& mask = econ1 &&& mask := by
  have h' : (fcop &&& FCOP) &&& mask = 0#16 := by rw [BitVec.and_assoc, h, BitVec.and_zero]
  rw [withFcop, or_and_of_disjoint h', and_not_and_of_disjoint h]

/-- The receive logic is switched by instructions only. -/
lemma receiving_iff (hc : c.Awake) (he : e.Enabled c) :
    (e.apply c).Receiving ↔ c.Receiving := by
  cases e with
  | powerUp => exact absurd he (by simp [Enabled, hc.por])
  | noise => exact absurd he (by simp [Enabled, hc.por])
  | resetDone post => exact absurd he.1 (by simp [hc.resetPending])
  | status estat eir => simp +decide [apply, Chip.Receiving]
  | phyStatus reg value => rfl
  | miiDone =>
    simp only [apply]
    split <;> simp +decide [Chip.Receiving]
  | store bytes => rfl
  | deposit f rsv => simp +decide [apply, Chip.Receiving]
  | transmitted o =>
    have h : withFcop (c.sfr ECON1 &&& ~~~TXRTS) o.fcop &&& RXEN = c.sfr ECON1 &&& RXEN := by
      rw [withFcop_and (by decide), and_not_and_of_disjoint (by decide)]
    simp +decide [apply, Chip.Receiving, h]
  | flowControl fcop =>
    have h : withFcop (c.sfr ECON1) fcop &&& RXEN = c.sfr ECON1 &&& RXEN :=
      withFcop_and (by decide)
    simp +decide [apply, Chip.Receiving, h]

/-- The end of a transmission apart, no event touches `TXRTS`, the status of the last
transmission or the frames sent. -/
lemma sameTransmitter (hc : c.Awake) (he : e.Enabled c) (ht : ∀ o, e ≠ .transmitted o) :
    ((e.apply c).Transmitting ↔ c.Transmitting) ∧ (e.apply c).sfr ETXSTAT = c.sfr ETXSTAT ∧
      (e.apply c).sfr ETXWIRE = c.sfr ETXWIRE ∧ (e.apply c).wire = c.wire := by
  cases e with
  | powerUp => exact absurd he (by simp [Enabled, hc.por])
  | noise => exact absurd he (by simp [Enabled, hc.por])
  | resetDone post => exact absurd he.1 (by simp [hc.resetPending])
  | status estat eir => simp +decide [apply, Chip.Transmitting]
  | phyStatus reg value => exact ⟨Iff.rfl, rfl, rfl, rfl⟩
  | miiDone =>
    simp only [apply]
    split <;> simp +decide [Chip.Transmitting]
  | store bytes => exact ⟨Iff.rfl, rfl, rfl, rfl⟩
  | deposit f rsv => simp +decide [apply, Chip.Transmitting]
  | transmitted o => exact absurd rfl (ht o)
  | flowControl fcop =>
    have h : withFcop (c.sfr ECON1) fcop &&& TXRTS = c.sfr ECON1 &&& TXRTS :=
      withFcop_and (by decide)
    simp +decide [apply, Chip.Transmitting, h]

end ChipEvent

lemma Undisturbed.awake {c c' : Chip} (h : Undisturbed c c') (hc : c.Awake) : c'.Awake :=
  ⟨h.por.trans hc.por, h.resetPending.trans hc.resetPending⟩

/-! ### Stability of assertions about worlds -/

section Stable

variable {E : Surroundings} {w w' : World}

lemma stable_awake : Stable E.rely fun w => w.chip.Awake := by
  rintro w _ hw ⟨e, -, he, rfl⟩
  exact (ChipEvent.undisturbed hw he).awake hw

/-- No transmission starts on its own, and without one the status of the last one stays. -/
lemma stable_not_transmitting {status : Word} : Stable E.rely fun w =>
    w.chip.Awake ∧ ¬ w.chip.Transmitting ∧ w.chip.sfr ETXSTAT = status := by
  rintro w _ ⟨ha, hn, hs⟩ ⟨e, -, he, rfl⟩
  have hne : ∀ o, e ≠ .transmitted o := by
    rintro o rfl
    exact hn he
  obtain ⟨htx, hstat, -, -⟩ := ChipEvent.sameTransmitter ha he hne
  refine ⟨(ChipEvent.undisturbed ha he).awake ha, ?_, hstat.trans hs⟩
  rw [htx]
  exact hn

/-- The surroundings of the driver leave its variables alone. -/
lemma rely_driver (h : E.rely w w') : w'.duplexMode = w.duplexMode ∧
    w'.nextReceiveFramePointer = w.nextReceiveFramePointer ∧ w'.stored = w.stored := by
  obtain ⟨e, -, -, rfl⟩ := h
  exact ⟨rfl, rfl, rfl⟩

lemma rely_undisturbed (hw : w.chip.Awake) (h : E.rely w w') :
    Undisturbed w.chip w'.chip := by
  obtain ⟨e, -, he, rfl⟩ := h
  exact ChipEvent.undisturbed hw he

end Stable

end Enc624j600
