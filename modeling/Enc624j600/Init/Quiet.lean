/-
# Operations that leave the traffic alone

Most operations of `enc624j600_init` configure the chip and touch neither the receive buffer
nor the transmit logic.  What such operations keep, together with what the chip keeps on its
own, gives the state of the receive buffer when the initialisation ends: frames may have been
stored since the first `ENABLERX`, but they all lie there, counted and in order.
-/
import Enc624j600.Init.Configured
import Enc624j600.Receive.Spec

namespace Enc624j600

open Cyclic Interaction

/-- The registers that belong to the traffic. -/
def IsTraffic (a : Byte) : Prop :=
  a = ERXST ∨ a = ERXTAIL ∨ a = ERXHEAD ∨ a = ECON1 ∨ a = ETXSTAT

instance (a : Byte) : Decidable (IsTraffic a) :=
  inferInstanceAs (Decidable (_ ∨ _ ∨ _ ∨ _ ∨ _))

/-- The operations that only configure the chip.  The bit-field instructions are among them
for registers on which they have an effect. -/
def IsQuiet : Op → Prop
  | .spi (.single _) => False
  | .spi (.writeSfr a _) => ¬ IsTraffic a
  | .spi (.setBits a _) => ¬ IsTraffic a ∧ ¬ IsMacOrMii a
  | .spi (.clearBits a _) => ¬ IsTraffic a ∧ ¬ IsMacOrMii a
  | .spi (.readWindow _ _) => False
  | .spi (.writeWindow _ _) => False
  | .loc (.store _ _) => False
  | .loc (.storeReceivedBytes _) => False
  | _ => True

/-- The operation switches the reception on or off. -/
def IsSwitch (o : Op) : Prop := o = .spi (.single ENABLERX) ∨ o = .spi (.single DISABLERX)

/-- What a quiet operation leaves alone. -/
structure Calm (c c' : Chip) : Prop extends SameRing c c' where
  por : c'.por = c.por
  resetPending : c'.resetPending = c.resetPending
  delivered : c'.delivered = c.delivered
  resets : c'.resets = c.resets
  wire : c'.wire = c.wire
  erxst : c'.sfr ERXST = c.sfr ERXST
  erxtail : c'.sfr ERXTAIL = c.sfr ERXTAIL
  etxstat : c'.sfr ETXSTAT = c.sfr ETXSTAT
  transmitting : c'.Transmitting ↔ c.Transmitting

namespace Calm

variable {c c' : Chip} {a : Byte} {v : Word}

lemma refl (c : Chip) : Calm c c :=
  ⟨⟨rfl, rfl, rfl, rfl⟩, rfl, rfl, rfl, rfl, rfl, rfl, rfl, rfl, .rfl⟩

lemma awake (h : Calm c c') (hc : c.Awake) : c'.Awake :=
  ⟨h.por.trans hc.por, h.resetPending.trans hc.resetPending⟩

lemma setSfr (ha : ¬ IsTraffic a) : Calm c (c.setSfr a v) := by
  have hne : ∀ b, IsTraffic b → b ≠ a := fun b hb he => ha (he ▸ hb)
  refine ⟨⟨rfl, rfl, rfl, ?_⟩, rfl, rfl, rfl, rfl, rfl, ?_, ?_, ?_, ?_⟩
  · rw [Chip.setSfr_sfr, if_neg (hne _ (by decide))]
  · rw [Chip.setSfr_sfr, if_neg (hne _ (by decide))]
  · rw [Chip.setSfr_sfr, if_neg (hne _ (by decide))]
  · rw [Chip.setSfr_sfr, if_neg (hne _ (by decide))]
  · rw [Chip.Transmitting, Chip.setSfr_sfr, if_neg (hne _ (by decide)), Chip.Transmitting]

lemma setMii {m : Mii} (h : Calm c c') : Calm c { c' with mii := m } :=
  ⟨⟨h.sram, h.pktcnt, h.deposited, h.erxhead⟩, h.por, h.resetPending, h.delivered, h.resets,
    h.wire, h.erxst, h.erxtail, h.etxstat, h.transmitting⟩

lemma setEcon1 (hv : v &&& TXRTS = c.sfr ECON1 &&& TXRTS) : Calm c (c.setSfr ECON1 v) := by
  refine ⟨⟨rfl, rfl, rfl, ?_⟩, rfl, rfl, rfl, rfl, rfl, ?_, ?_, ?_, ?_⟩
  · simp +decide
  · simp +decide
  · simp +decide
  · simp +decide
  · simp [Chip.Transmitting, hv]

lemma writeSfr (ha : ¬ IsTraffic a) : Calm c (c.writeSfr a v) := by
  have hst : a ≠ ERXST := fun he => ha (Or.inl he)
  rw [Chip.writeSfr, if_neg hst]
  split
  · rename_i he
    subst he
    split
    · exact (setSfr (by decide)).setMii
    · exact setSfr (by decide)
  · split
    · rename_i he
      subst he
      exact (setSfr (by decide)).setMii
    · exact setSfr ha

end Calm

variable {w w' : World} {o : Op} {r : o.Res}

/-- A quiet operation, on a chip that follows instructions. -/
lemma calm_of_quiet (ho : IsQuiet o) (hp : w.chip.por = false) (hs : machine.step w o r w') :
    Calm w.chip w'.chip ∧ (w'.chip.Receiving ↔ w.chip.Receiving) := by
  obtain ⟨-, rfl⟩ := machine_step_iff.1 hs
  have hrx : ∀ {a : Byte} {v : Word}, ¬ IsTraffic a →
      ((w.chip.setSfr a v).Receiving ↔ w.chip.Receiving) := by
    intro a v ha
    have hne : ECON1 ≠ a := fun he => ha (he ▸ by decide)
    rw [Chip.Receiving, Chip.setSfr_sfr, if_neg hne, Chip.Receiving]
  cases o with
  | loc l => cases l <;> exact ⟨.refl _, .rfl⟩
  | spi i =>
    rw [World.perform_spi hp]
    cases i with
    | single opcode => exact absurd ho id
    | readPointer p => exact ⟨.refl _, .rfl⟩
    | writePointer p v =>
      exact ⟨⟨sameRing_setPointer .., rfl, rfl, rfl, rfl, rfl, rfl, rfl, rfl, .rfl⟩, .rfl⟩
    | readSfr a => exact ⟨.refl _, .rfl⟩
    | writeSfr a v =>
      refine ⟨.writeSfr ho, ?_⟩
      have hst : a ≠ ERXST := fun he => ho (Or.inl he)
      simp only [Chip.perform, Chip.writeSfr, if_neg hst]
      split
      · split
        · exact hrx (a := MICMD) (v := v) (by decide)
        · exact hrx (a := MICMD) (v := v) (by decide)
      · split
        · exact hrx (a := MIWR) (v := v) (by decide)
        · exact hrx ho
    | setBits a m =>
      simp only [Chip.perform, Chip.setBits, if_neg ho.2]
      exact ⟨.setSfr ho.1, hrx ho.1⟩
    | clearBits a m =>
      simp only [Chip.perform, Chip.clearBits, if_neg ho.2]
      exact ⟨.setSfr ho.1, hrx ho.1⟩
    | readWindow reg n => exact absurd ho id
    | writeWindow reg bs => exact absurd ho id

lemma calm_of_switch (ho : IsSwitch o) (hp : w.chip.por = false) (hs : machine.step w o r w') :
    Calm w.chip w'.chip := by
  obtain ⟨-, rfl⟩ := machine_step_iff.1 hs
  rcases ho with rfl | rfl
  · rw [World.perform_spi hp, Chip.perform, Chip.single_enablerx]
    exact Calm.setEcon1 (or_and_of_disjoint (by decide))
  · rw [World.perform_spi hp, Chip.perform, Chip.single_disablerx]
    exact Calm.setEcon1 (and_not_and_of_disjoint (by decide))

/-! ### The operations of the initialisation -/

/-- The registers that the initialisation writes, apart from those of the traffic. -/
def configRegisters : List Byte :=
  [EUDAST, EUDAND, ERXWM, MAADR1, MAADR2, MAADR3, MAMXFL, MACON1, MACON2, MABBIPG, MIREGADR,
    MICMD, MIWR]

/-- The operations that configure the chip. -/
def IsConfigOp : Op → Prop
  | .spi (.writePointer _ _) => True
  | .spi (.readSfr a) => a ∈ configRegisters ∨ a = ESTAT ∨ a = MISTAT ∨ a = MIRD
  | .spi (.writeSfr a _) => a ∈ configRegisters
  | .spi (.setBits a _) => a = ECON2 ∨ a = ERXFCON
  | .spi (.clearBits a _) => a = ECON2 ∨ a = ERXFCON
  | .loc (.delay _) => True
  | .loc (.setDuplexMode _) => True
  | .loc (.setNextReceiveFramePointer _) => True
  | _ => False

/-- The operation places the receive buffer. -/
def IsAreaWrite (o : Op) : Prop :=
  ∃ v, o = .spi (.writeSfr ERXST v) ∨ o = .spi (.writeSfr ERXTAIL v)

lemma not_isTraffic_of_mem {a : Byte} (ha : a ∈ configRegisters) : ¬ IsTraffic a := by
  revert a
  decide

lemma IsConfigOp.isQuiet {o : Op} (h : IsConfigOp o) : IsQuiet o := by
  cases o with
  | spi i =>
    cases i with
    | writeSfr a v => exact not_isTraffic_of_mem h
    | setBits a mask =>
      rcases h with rfl | rfl
      · exact ⟨by decide, by decide⟩
      · exact ⟨by decide, by decide⟩
    | clearBits a mask =>
      rcases h with rfl | rfl
      · exact ⟨by decide, by decide⟩
      · exact ⟨by decide, by decide⟩
    | readPointer p => trivial
    | writePointer p v => trivial
    | readSfr a => trivial
    | _ => exact absurd h id
  | loc l =>
    cases l with
    | store param bytes => exact absurd h id
    | storeReceivedBytes v => exact absurd h id
    | _ => trivial

/-- What configures the chip or switches the reception leaves the traffic alone. -/
lemma calm_of_config (ho : IsConfigOp o ∨ IsSwitch o) (hp : w.chip.por = false)
    (hs : machine.step w o r w') : Calm w.chip w'.chip := by
  rcases ho with ho | ho
  · exact (calm_of_quiet ho.isQuiet hp hs).1
  · exact calm_of_switch ho hp hs

section Programs

variable {a : Byte} {v mask : Word} {config : Config}

lemma config_writeSfr (ha : a ∈ configRegisters) : (writeSfrUnbanked a v).All IsConfigOp :=
  ⟨ha, fun _ => trivial⟩

lemma config_readEstat : (readSfrUnbanked ESTAT).All IsConfigOp :=
  ⟨Or.inr (Or.inl rfl), fun _ => trivial⟩

lemma config_writePointer {p : BufferPointer} : (writeBufferPointer p v).All IsConfigOp :=
  ⟨trivial, fun _ => trivial⟩

lemma config_setBits (ha : a = ECON2 ∨ a = ERXFCON) :
    (bitFieldSetSfrUnbanked a mask).All IsConfigOp :=
  ⟨ha, fun _ => trivial⟩

lemma config_clearBits (ha : a = ECON2 ∨ a = ERXFCON) :
    (bitFieldClearSfrUnbanked a mask).All IsConfigOp :=
  ⟨ha, fun _ => trivial⟩

lemma config_setMac (ha : a ∈ configRegisters) : (bitFieldSetMacSfr a mask).All IsConfigOp :=
  ⟨Or.inl ha, fun _ => config_writeSfr ha⟩

lemma config_clearMac (ha : a ∈ configRegisters) : (bitFieldClearMacSfr a mask).All IsConfigOp :=
  ⟨Or.inl ha, fun _ => config_writeSfr ha⟩

lemma config_delay {us : Byte} : (halDelay us).All IsConfigOp := ⟨trivial, fun _ => trivial⟩

lemma config_awaitMii : awaitMii.All IsConfigOp :=
  ⟨⟨Or.inr (Or.inr (Or.inl rfl)), fun _ => trivial⟩, trivial⟩

lemma config_readPhy {reg : Byte} : (readPhySfr reg).All IsConfigOp := by
  refine Prog.All.bind (config_writeSfr (by decide)) fun _ => ?_
  refine Prog.All.bind (config_writeSfr (by decide)) fun _ => ?_
  refine Prog.All.bind config_delay fun _ => ?_
  refine Prog.All.bind config_awaitMii fun _ => ?_
  exact Prog.All.bind (config_writeSfr (by decide)) fun _ =>
    ⟨Or.inr (Or.inr (Or.inr rfl)), fun _ => trivial⟩

lemma config_writePhy {reg : Byte} : (writePhySfr reg v).All IsConfigOp := by
  refine Prog.All.bind (config_writeSfr (by decide)) fun _ => ?_
  refine Prog.All.bind (config_writeSfr (by decide)) fun _ => ?_
  exact Prog.All.bind config_delay fun _ => config_awaitMii

lemma config_setPhyBits {reg : Byte} : (bitFieldSetPhySfr reg mask).All IsConfigOp :=
  Prog.All.bind config_readPhy fun _ => config_writePhy

lemma config_clearPhyBits {reg : Byte} : (bitFieldClearPhySfr reg mask).All IsConfigOp :=
  Prog.All.bind config_readPhy fun _ => config_writePhy

lemma config_switchMacBit {flag : BitVec 1} (ha : a ∈ configRegisters) :
    (switchMacBit flag a mask).All IsConfigOp := by
  unfold switchMacBit
  split
  · exact config_setMac ha
  · exact config_clearMac ha

lemma config_switchPhyBit {flag : BitVec 1} {reg : Byte} :
    (switchPhyBit flag reg mask).All IsConfigOp := by
  unfold switchPhyBit
  split
  · exact config_setPhyBits
  · exact config_clearPhyBits

lemma config_setMacAddress {p : Ptr} : (setMacAddress p).All IsConfigOp := by
  cases p with
  | none => trivial
  | some m =>
    refine Prog.All.bind (config_writeSfr (by decide)) fun _ => ?_
    exact Prog.All.bind (config_writeSfr (by decide)) fun _ => config_writeSfr (by decide)

lemma config_configureReceiveFilter {f : ReceiveFilter} {state : ReceiveFilterState} :
    (configureReceiveFilter f state).All IsConfigOp := by
  have hbit : ∀ mask, (switchFilterBit mask state).All IsConfigOp := by
    intro mask
    cases state
    · exact config_setBits (Or.inr rfl)
    · exact config_clearBits (Or.inr rfl)
  cases f with
  | patternMatchCollectionFilter =>
    cases state
    · trivial
    · exact config_clearBits (Or.inr rfl)
  | _ => exact hbit _

/-- The pointers and the user-defined area. -/
lemma config_pointers : (do
    writeBufferPointer .ERXRDPT 0x2000#16
    writeBufferPointer .ERXWRPT 0x2000#16
    writeBufferPointer .EGPRDPT 0x0000#16
    writeBufferPointer .EGPWRPT 0x0000#16
    writeSfrUnbanked EUDAST 0x6000#16
    writeSfrUnbanked EUDAND 0x6001#16
    writeBufferPointer .EUDARDPT 0x0000#16
    writeBufferPointer .EUDAWRPT 0x0000#16 : Driver Unit).All IsConfigOp := by
  refine Prog.All.bind config_writePointer fun _ => ?_
  refine Prog.All.bind config_writePointer fun _ => ?_
  refine Prog.All.bind config_writePointer fun _ => ?_
  refine Prog.All.bind config_writePointer fun _ => ?_
  refine Prog.All.bind (config_writeSfr (by decide)) fun _ => ?_
  refine Prog.All.bind (config_writeSfr (by decide)) fun _ => ?_
  exact Prog.All.bind config_writePointer fun _ => config_writePointer

lemma config_initReceiveFilters : initReceiveFilters.All IsConfigOp := by
  refine Prog.All.bind config_configureReceiveFilter fun _ => ?_
  refine Prog.All.bind config_configureReceiveFilter fun _ => ?_
  refine Prog.All.bind config_configureReceiveFilter fun _ => ?_
  refine Prog.All.bind config_configureReceiveFilter fun _ => ?_
  refine Prog.All.bind config_configureReceiveFilter fun _ => ?_
  refine Prog.All.bind config_configureReceiveFilter fun _ => ?_
  refine Prog.All.bind config_configureReceiveFilter fun _ => ?_
  refine Prog.All.bind config_configureReceiveFilter fun _ => ?_
  refine Prog.All.bind config_configureReceiveFilter fun _ => ?_
  exact Prog.All.bind config_configureReceiveFilter fun _ => config_configureReceiveFilter

lemma config_macInit : (macInit config).All IsConfigOp := by
  refine Prog.All.bind (config_writeSfr (by decide)) fun _ => ?_
  refine Prog.All.bind (config_setBits (Or.inl rfl)) fun _ => ?_
  refine Prog.All.bind config_setMacAddress fun _ => ?_
  refine Prog.All.bind (config_writeSfr (by decide)) fun _ => ?_
  refine Prog.All.bind (config_switchMacBit (by decide)) fun _ => ?_
  refine Prog.All.bind (config_switchMacBit (by decide)) fun _ => ?_
  refine Prog.All.bind (config_clearMac (by decide)) fun _ => ?_
  exact Prog.All.bind (config_setMac (by decide)) fun _ => config_setMac (by decide)

lemma config_phyInit : (phyInit config).All IsConfigOp := by
  refine Prog.All.bind config_clearPhyBits fun _ => ?_
  refine Prog.All.bind config_switchPhyBit fun _ => ?_
  exact Prog.All.bind config_setPhyBits fun _ => config_setPhyBits

lemma config_awaitLink : awaitLink.All IsConfigOp := by
  have hbody : ∀ f : Word → Bool,
      ((readPhySfr PHSTAT1).bind fun r => .pure (f r)).All IsConfigOp :=
    fun f => Prog.All.bind config_readPhy fun _ => trivial
  exact ⟨hbody _, hbody _, trivial⟩

lemma config_setDuplex {estat : Word} : (setDuplex estat).All IsConfigOp := by
  unfold setDuplex
  split
  · refine Prog.All.bind (config_setMac (by decide)) fun _ => ?_
    exact Prog.All.bind (config_writeSfr (by decide)) fun _ => ⟨trivial, fun _ => trivial⟩
  · refine Prog.All.bind (config_clearMac (by decide)) fun _ => ?_
    exact Prog.All.bind (config_writeSfr (by decide)) fun _ => ⟨trivial, fun _ => trivial⟩

end Programs

end Enc624j600
