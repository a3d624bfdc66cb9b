/-
# Tracking what the driver configures

A `Shadow` holds the registers, pointers and PHY registers that only the driver changes, and
the driver's variables.  `Agrees g w` says that the world `w` holds the same; an operation of
the driver changes both in the same way, and the surroundings keep it.
-/
import Enc624j600.Chip.Stability

namespace Enc624j600

open Interaction

/-- What the driver wrote, or what the reset left where it wrote nothing. -/
structure Shadow where
  sfr : Byte → Word
  pointer : BufferPointer → Word
  phy : BitVec 5 → Word
  duplexMode : DuplexMode
  nextReceiveFramePointer : Word
  stored : List Stored

namespace Shadow

variable (g : Shadow)

/-- A register is written. -/
def setSfr (a : Byte) (v : Word) : Shadow := { g with sfr := Function.update g.sfr a v }

/-- A buffer pointer is written. -/
def setPointer (p : BufferPointer) (v : Word) : Shadow :=
  { g with pointer := Function.update g.pointer p v }

/-- A register of the PHY is written. -/
def setPhy (reg : BitVec 5) (v : Word) : Shadow := { g with phy := Function.update g.phy reg v }

@[simp] lemma setSfr_sfr (a b : Byte) (v : Word) :
    (g.setSfr a v).sfr b = if b = a then v else g.sfr b := Function.update_apply ..

@[simp] lemma setSfr_pointer (a : Byte) (v : Word) : (g.setSfr a v).pointer = g.pointer := rfl

@[simp] lemma setSfr_phy (a : Byte) (v : Word) : (g.setSfr a v).phy = g.phy := rfl

@[simp] lemma setPointer_sfr (p : BufferPointer) (v : Word) :
    (g.setPointer p v).sfr = g.sfr := rfl

@[simp] lemma setPointer_pointer (p q : BufferPointer) (v : Word) :
    (g.setPointer p v).pointer q = if q = p then v else g.pointer q := Function.update_apply ..

@[simp] lemma setPointer_phy (p : BufferPointer) (v : Word) :
    (g.setPointer p v).phy = g.phy := rfl

@[simp] lemma setPhy_sfr (reg : BitVec 5) (v : Word) : (g.setPhy reg v).sfr = g.sfr := rfl

@[simp] lemma setPhy_pointer (reg : BitVec 5) (v : Word) :
    (g.setPhy reg v).pointer = g.pointer := rfl

@[simp] lemma setPhy_phy (reg reg' : BitVec 5) (v : Word) :
    (g.setPhy reg v).phy reg' = if reg' = reg then v else g.phy reg' := Function.update_apply ..

end Shadow

/-- The registers that only the driver changes, those of the MII interface apart. -/
def IsTracked (a : Byte) : Prop := ¬ IsVolatile a ∧ a ≠ MICMD ∧ a ≠ MIREGADR ∧ a ≠ MIWR

instance (a : Byte) : Decidable (IsTracked a) := inferInstanceAs (Decidable (_ ∧ _ ∧ _ ∧ _))

/-- The world agrees with the shadow outside of the PHY. -/
structure AgreesSfr (g : Shadow) (w : World) : Prop where
  awake : w.chip.Awake
  sfr : ∀ a, IsTracked a → w.chip.sfr a = g.sfr a
  pointer : w.chip.pointer = g.pointer
  duplexMode : w.duplexMode = g.duplexMode
  next : w.nextReceiveFramePointer = g.nextReceiveFramePointer
  stored : w.stored = g.stored

/-- The PHY registers that only the driver changes hold what the shadow holds. -/
def AgreesPhy (g : Shadow) (c : Chip) : Prop := ∀ reg, ¬ IsPhyStatus reg → c.phy reg = g.phy reg

/-- The world agrees with the shadow, and no PHY access is under way. -/
structure Agrees (g : Shadow) (w : World) : Prop extends AgreesSfr g w where
  phy : AgreesPhy g w.chip
  idle : w.chip.mii = .idle

variable {E : Surroundings} {g : Shadow} {w w' : World}

lemma AgreesSfr.rely (h : AgreesSfr g w) (hR : E.rely w w') : AgreesSfr g w' := by
  have hu := rely_undisturbed h.awake hR
  obtain ⟨hd, hn, hs⟩ := rely_driver hR
  exact ⟨hu.awake h.awake, fun a ha => (hu.sfr a ha.1).trans (h.sfr a ha),
    hu.pointer.trans h.pointer, hd.trans h.duplexMode, hn.trans h.next, hs.trans h.stored⟩

/-- While no PHY access is under way, only the status registers of the PHY change. -/
lemma AgreesPhy.apply {c : Chip} {e : ChipEvent} (h : AgreesPhy g c) (hc : c.Awake)
    (hi : c.mii = .idle) (he : e.Enabled c) :
    AgreesPhy g (e.apply c) ∧ (e.apply c).mii = .idle := by
  cases e with
  | powerUp => exact absurd he (by simp [ChipEvent.Enabled, hc.por])
  | noise => exact absurd he (by simp [ChipEvent.Enabled, hc.por])
  | resetDone post => exact absurd he.1 (by simp [hc.resetPending])
  | phyStatus reg value =>
    refine ⟨?_, hi⟩
    intro reg' hreg'
    have hne : reg' ≠ reg := fun heq => hreg' (heq ▸ he)
    simpa [ChipEvent.apply, hne] using h reg' hreg'
  | miiDone => exact absurd hi he
  | _ => exact ⟨h, hi⟩

lemma stable_agrees : Stable E.rely (Agrees g) := by
  rintro w _ h ⟨e, hE, he, rfl⟩
  obtain ⟨hp, hi⟩ := h.phy.apply h.awake h.idle he
  exact ⟨h.toAgreesSfr.rely ⟨e, hE, he, rfl⟩, hp, hi⟩

/-! ### Operations that keep the agreement -/

section Operations

/-- Writing a register outside of the MII interface. -/
lemma Agrees.writeSfr (h : Agrees g w) {a : Byte} {v : Word} (ha : IsTracked a) :
    Agrees (g.setSfr a v) { w with chip := w.chip.writeSfr a v } := by
  obtain ⟨hvol, hcmd, -, hwr⟩ := ha
  by_cases hst : a = ERXST
  · subst hst
    rw [Chip.writeSfr_erxst]
    refine ⟨⟨⟨h.awake.por, h.awake.resetPending⟩, ?_, h.pointer, h.duplexMode, h.next, h.stored⟩,
      h.phy, h.idle⟩
    intro b hb
    have hbh : b ≠ ERXHEAD := fun he => hb.1 (Or.inl he)
    simp only [Chip.setSfr_sfr, if_neg hbh, Shadow.setSfr_sfr, h.sfr b hb]
  · rw [Chip.writeSfr_of_ne _ ⟨hst, hcmd, hwr⟩]
    refine ⟨⟨⟨h.awake.por, h.awake.resetPending⟩, ?_, h.pointer, h.duplexMode, h.next, h.stored⟩,
      h.phy, h.idle⟩
    intro b hb
    simp only [Chip.setSfr_sfr, Shadow.setSfr_sfr, h.sfr b hb]

lemma Agrees.setSfr (h : Agrees g w) {a : Byte} {v : Word} :
    Agrees (g.setSfr a v) { w with chip := w.chip.setSfr a v } := by
  refine ⟨⟨⟨h.awake.por, h.awake.resetPending⟩, ?_, h.pointer, h.duplexMode, h.next, h.stored⟩,
    h.phy, h.idle⟩
  intro b hb
  simp only [Chip.setSfr_sfr, Shadow.setSfr_sfr, h.sfr b hb]

lemma Agrees.setPointer (h : Agrees g w) {p : BufferPointer} {v : Word} :
    Agrees (g.setPointer p v) { w with chip := w.chip.setPointer p v } := by
  refine ⟨⟨⟨h.awake.por, h.awake.resetPending⟩, h.sfr, ?_, h.duplexMode, h.next, h.stored⟩,
    h.phy, h.idle⟩
  simp [Chip.setPointer, Shadow.setPointer, h.pointer]

/-- A register that is not tracked. -/
lemma Agrees.setUntracked (h : Agrees g w) {a : Byte} {v : Word} (ha : ¬ IsTracked a) :
    Agrees g { w with chip := w.chip.setSfr a v } := by
  refine ⟨⟨⟨h.awake.por, h.awake.resetPending⟩, ?_, h.pointer, h.duplexMode, h.next, h.stored⟩,
    h.phy, h.idle⟩
  intro b hb
  have hne : b ≠ a := fun he => ha (he ▸ hb)
  simp only [Chip.setSfr_sfr, if_neg hne, h.sfr b hb]

/-- What a tracked register shows. -/
lemma Agrees.shown (h : Agrees g w) {a : Byte} (ha : IsTracked a) (hm : a ≠ MISTAT) :
    w.chip.shown a = g.sfr a := by
  have he : a ≠ ESTAT := fun he => ha.1 (he ▸ by decide)
  rw [Chip.shown, if_neg he, if_neg hm, h.sfr a ha]

end Operations

/-! ### The access functions of the driver -/

section Functions

variable {a : Byte} {v mask : Word}

lemma agrees_writeSfr (ha : IsTracked a) :
    Triple machine E.rely noGuarantee (Agrees g) (writeSfrUnbanked a v)
      fun _ => Agrees (g.setSfr a v) :=
  triple_spi (T := fun _ => Agrees (g.setSfr a v)) stable_agrees (fun _ h => h.awake.por)
    (fun _ h => ⟨trivial, h.writeSfr ha⟩) fun _ => Triple.pure stable_agrees fun _ h => h

lemma agrees_writePointer {p : BufferPointer} :
    Triple machine E.rely noGuarantee (Agrees g) (writeBufferPointer p v)
      fun _ => Agrees (g.setPointer p v) :=
  triple_spi (T := fun _ => Agrees (g.setPointer p v)) stable_agrees (fun _ h => h.awake.por)
    (fun _ h => ⟨trivial, h.setPointer⟩) fun _ => Triple.pure stable_agrees fun _ h => h

lemma agrees_setBits (ha : IsTracked a ∧ ¬ IsMacOrMii a) :
    Triple machine E.rely noGuarantee (Agrees g) (bitFieldSetSfrUnbanked a mask)
      fun _ => Agrees (g.setSfr a (g.sfr a ||| mask)) := by
  refine triple_spi (T := fun _ => Agrees (g.setSfr a (g.sfr a ||| mask))) stable_agrees
    (fun _ h => h.awake.por) ?_ fun _ => Triple.pure stable_agrees fun _ h => h
  intro w h
  rw [← h.sfr a ha.1, Chip.perform, Chip.setBits, if_neg ha.2]
  exact ⟨trivial, h.setSfr⟩

lemma agrees_clearBits (ha : IsTracked a ∧ ¬ IsMacOrMii a) :
    Triple machine E.rely noGuarantee (Agrees g) (bitFieldClearSfrUnbanked a mask)
      fun _ => Agrees (g.setSfr a (g.sfr a &&& ~~~mask)) := by
  refine triple_spi (T := fun _ => Agrees (g.setSfr a (g.sfr a &&& ~~~mask))) stable_agrees
    (fun _ h => h.awake.por) ?_ fun _ => Triple.pure stable_agrees fun _ h => h
  intro w h
  rw [← h.sfr a ha.1, Chip.perform, Chip.clearBits, if_neg ha.2]
  exact ⟨trivial, h.setSfr⟩

/-- A read of a tracked register. -/
lemma agrees_read {α : Type} {Q : α → World → Prop} {k : Word → Driver α} (ha : IsTracked a)
    (hm : a ≠ MISTAT) (hk : Triple machine E.rely noGuarantee (Agrees g) (k (g.sfr a)) Q) :
    Triple machine E.rely noGuarantee (Agrees g) ((readSfrUnbanked a).bind k) Q := by
  refine triple_spi (T := fun r w => r = g.sfr a ∧ Agrees g w) stable_agrees
    (fun _ h => h.awake.por) (fun w h => ⟨trivial, h.shown ha hm, h⟩) ?_
  intro r
  refine Triple.of_and ?_
  rintro rfl
  exact hk

lemma agrees_setMac (ha : IsTracked a ∧ a ≠ MISTAT) :
    Triple machine E.rely noGuarantee (Agrees g) (bitFieldSetMacSfr a mask)
      fun _ => Agrees (g.setSfr a (g.sfr a ||| mask)) :=
  agrees_read ha.1 ha.2 (agrees_writeSfr ha.1)

lemma agrees_clearMac (ha : IsTracked a ∧ a ≠ MISTAT) :
    Triple machine E.rely noGuarantee (Agrees g) (bitFieldClearMacSfr a mask)
      fun _ => Agrees (g.setSfr a (g.sfr a &&& ~~~mask)) :=
  agrees_read ha.1 ha.2 (agrees_writeSfr ha.1)

/-- Switching the reception on or off. -/
lemma agrees_switchRx {opcode : Byte} (ho : opcode = ENABLERX ∨ opcode = DISABLERX) :
    Triple machine E.rely noGuarantee (Agrees g) (executeSingleByteInstruction opcode)
      fun _ => Agrees g := by
  refine triple_spi (T := fun _ => Agrees g) stable_agrees (fun _ h => h.awake.por) ?_
    fun _ => Triple.pure stable_agrees fun _ h => h
  intro w h
  have hs : ∃ v, w.chip.single opcode = w.chip.setSfr ECON1 v := by
    rcases ho with rfl | rfl
    · exact ⟨w.chip.sfr ECON1 ||| RXEN, Chip.single_enablerx _⟩
    · exact ⟨w.chip.sfr ECON1 &&& ~~~RXEN, Chip.single_disablerx _⟩
  obtain ⟨v, hv⟩ := hs
  simp only [Chip.perform]
  rw [hv]
  exact ⟨trivial, h.setUntracked (by decide)⟩

lemma agrees_setNext :
    Triple machine E.rely noGuarantee (Agrees g) (loc (.setNextReceiveFramePointer v))
      fun _ => Agrees { g with nextReceiveFramePointer := v } :=
  triple_loc (T := fun _ => Agrees { g with nextReceiveFramePointer := v }) stable_agrees
    (fun _ h => ⟨trivial, ⟨h.awake, h.sfr, h.pointer, h.duplexMode, rfl, h.stored⟩, h.phy, h.idle⟩)
    fun _ => Triple.pure stable_agrees fun _ h => h

lemma agrees_setDuplexMode {d : DuplexMode} :
    Triple machine E.rely noGuarantee (Agrees g) (loc (.setDuplexMode d))
      fun _ => Agrees { g with duplexMode := d } :=
  triple_loc (T := fun _ => Agrees { g with duplexMode := d }) stable_agrees
    (fun _ h => ⟨trivial, ⟨h.awake, h.sfr, h.pointer, rfl, h.next, h.stored⟩, h.phy, h.idle⟩)
    fun _ => Triple.pure stable_agrees fun _ h => h

end Functions

end Enc624j600
