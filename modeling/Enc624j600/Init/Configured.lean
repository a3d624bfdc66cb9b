/-
# The configuration that the driver writes

What the functions called by `enc624j600_init` do to the registers, pointers and PHY registers
that they configure.  Each function has its effect on a `Shadow`; what is not written keeps
the value that the reset left, and so does every bit outside of the masks.
-/
import Enc624j600.Init.Phy
import Enc624j600.Init.Reset

namespace Enc624j600

open Interaction

namespace Shadow

variable (g : Shadow)

/-- Set bits of a register. -/
def setBits (a : Byte) (mask : Word) : Shadow := g.setSfr a (g.sfr a ||| mask)

/-- Clear bits of a register. -/
def clearBits (a : Byte) (mask : Word) : Shadow := g.setSfr a (g.sfr a &&& ~~~mask)

/-- Set or clear bits, as a flag of the configuration says. -/
def switchBits (flag : BitVec 1) (a : Byte) (mask : Word) : Shadow :=
  g.setSfr a (if flag = 1#1 then g.sfr a ||| mask else g.sfr a &&& ~~~mask)

/-- Set bits of a register of the PHY. -/
def setPhyBits (reg : Byte) (mask : Word) : Shadow :=
  g.setPhy (reg.setWidth 5) (g.phy (reg.setWidth 5) ||| mask)

/-- Clear bits of a register of the PHY. -/
def clearPhyBits (reg : Byte) (mask : Word) : Shadow :=
  g.setPhy (reg.setWidth 5) (g.phy (reg.setWidth 5) &&& ~~~mask)

/-- Set or clear bits of a register of the PHY, as a flag of the configuration says. -/
def switchPhyBits (flag : BitVec 1) (reg : Byte) (mask : Word) : Shadow :=
  g.setPhy (reg.setWidth 5) (if flag = 1#1 then g.phy (reg.setWidth 5) ||| mask
    else g.phy (reg.setWidth 5) &&& ~~~mask)

/-- The areas of the SRAM and the pointers into them. -/
def buffers : Shadow :=
  let g := { g.setSfr ERXST 0x2000#16 with nextReceiveFramePointer := 0x2000#16 }
  let g := ((g.setSfr ERXTAIL 0x5FFE#16).setPointer .ERXRDPT 0x2000#16).setPointer .ERXWRPT
    0x2000#16
  let g := (g.setPointer .EGPRDPT 0x0000#16).setPointer .EGPWRPT 0x0000#16
  let g := (g.setSfr EUDAST 0x6000#16).setSfr EUDAND 0x6001#16
  (g.setPointer .EUDARDPT 0x0000#16).setPointer .EUDAWRPT 0x0000#16

/-- The receive filters. -/
def filters : Shadow :=
  let g := (g.clearBits ERXFCON CRCEEN).clearBits ERXFCON RUNTEEN
  let g := ((g.setBits ERXFCON CRCEN).setBits ERXFCON RUNTEN).setBits ERXFCON UCEN
  let g := (g.clearBits ERXFCON NOTMEEN).clearBits ERXFCON MCEN
  let g := ((g.setBits ERXFCON BCEN).clearBits ERXFCON HTEN).clearBits ERXFCON MPEN
  g.clearBits ERXFCON (PMEN0 ||| PMEN1 ||| PMEN2 ||| PMEN3)

/-- The registers of the MAC address. -/
def macAddress (p : Ptr) : Shadow :=
  { g with sfr :=
      match p with
      | some m => (((g.setSfr MAADR1 (assemble (m 0) (m 1))).setSfr MAADR2
          (assemble (m 2) (m 3))).setSfr MAADR3 (assemble (m 4) (m 5))).sfr
      | none => g.sfr }

/-- The registers of the MAC. -/
def mac (config : Config) : Shadow :=
  let g := ((g.setSfr ERXWM 0xAA55#16).setBits ECON2 AUTOFC).macAddress config.macAddress
  let g := (g.setSfr MAMXFL 0x05EE#16).switchBits config.macHugeFrame MACON2 HFRMEN
  let g := g.switchBits config.macLoopback MACON1 LOOPBK
  ((g.clearBits MACON2 (PADCFG0 ||| PADCFG1 ||| PADCFG2)).setBits MACON2 PADCFG0).setBits
    MACON2 TXCRCEN

/-- The control registers of the PHY. -/
def phyControl (config : Config) : Shadow :=
  let g := (g.clearPhyBits PHCON1 PSLEEP).switchPhyBits config.phyLoppback PHCON1 PLOOPBK
  (g.setPhyBits PHCON1 ANEN).setPhyBits PHANA ADPAUS0

/-- The duplex mode, as `ESTAT` shows it. -/
def duplex (estat : Word) : Shadow :=
  { g with
    sfr :=
      if estat &&& PHYDPX > 0#16 then ((g.setBits MACON2 FULDPX).setSfr MABBIPG 0x0015#16).sfr
      else ((g.clearBits MACON2 FULDPX).setSfr MABBIPG 0x0012#16).sfr
    duplexMode := if estat &&& PHYDPX > 0#16 then .fullDuplex else .halfDuplex }

/-- Everything up to the first `ENABLERX`. -/
def beforeEnable (config : Config) : Shadow :=
  let g := (g.clearBits ECON2 (COCON0 ||| COCON1 ||| COCON2 ||| COCON3)).buffers.filters
  ((g.setBits ECON2 TXMAC).mac config).phyControl config

section Values

variable {g} {a b : Byte} {mask : Word} {flag : BitVec 1}

@[simp] lemma setBits_sfr :
    (g.setBits a mask).sfr b = if b = a then g.sfr a ||| mask else g.sfr b :=
  setSfr_sfr ..

@[simp] lemma clearBits_sfr :
    (g.clearBits a mask).sfr b = if b = a then g.sfr a &&& ~~~mask else g.sfr b :=
  setSfr_sfr ..

@[simp] lemma switchBits_sfr : (g.switchBits flag a mask).sfr b =
    if b = a then (if flag = 1#1 then g.sfr a ||| mask else g.sfr a &&& ~~~mask) else g.sfr b :=
  setSfr_sfr ..

end Values

end Shadow

/-! ### The functions of the driver -/

section Functions

variable {E : Surroundings} {g : Shadow} {config : Config}

lemma agrees_initBuffers :
    Triple machine E.rely noGuarantee (Agrees g) initBuffers fun _ => Agrees g.buffers := by
  refine Triple.bind (agrees_writeSfr (by decide)) fun _ => ?_
  refine Triple.bind agrees_setNext fun _ => ?_
  refine Triple.bind (agrees_writeSfr (by decide)) fun _ => ?_
  refine Triple.bind agrees_writePointer fun _ => ?_
  refine Triple.bind agrees_writePointer fun _ => ?_
  refine Triple.bind agrees_writePointer fun _ => ?_
  refine Triple.bind agrees_writePointer fun _ => ?_
  refine Triple.bind (agrees_writeSfr (by decide)) fun _ => ?_
  refine Triple.bind (agrees_writeSfr (by decide)) fun _ => ?_
  exact Triple.bind agrees_writePointer fun _ => agrees_writePointer

lemma agrees_initReceiveFilters :
    Triple machine E.rely noGuarantee (Agrees g) initReceiveFilters fun _ => Agrees g.filters := by
  refine Triple.bind (agrees_clearBits (by decide)) fun _ => ?_
  refine Triple.bind (agrees_clearBits (by decide)) fun _ => ?_
  refine Triple.bind (agrees_setBits (by decide)) fun _ => ?_
  refine Triple.bind (agrees_setBits (by decide)) fun _ => ?_
  refine Triple.bind (agrees_setBits (by decide)) fun _ => ?_
  refine Triple.bind (agrees_clearBits (by decide)) fun _ => ?_
  refine Triple.bind (agrees_clearBits (by decide)) fun _ => ?_
  refine Triple.bind (agrees_setBits (by decide)) fun _ => ?_
  refine Triple.bind (agrees_clearBits (by decide)) fun _ => ?_
  refine Triple.bind (agrees_clearBits (by decide)) fun _ => ?_
  exact agrees_clearBits (by decide)

lemma agrees_switchMacBit {flag : BitVec 1} {a : Byte} {mask : Word}
    (ha : IsTracked a ∧ a ≠ MISTAT) :
    Triple machine E.rely noGuarantee (Agrees g) (switchMacBit flag a mask)
      fun _ => Agrees (g.switchBits flag a mask) := by
  unfold switchMacBit Shadow.switchBits
  by_cases hf : flag = 1#1
  · simp only [if_pos hf]
    exact agrees_setMac ha
  · simp only [if_neg hf]
    exact agrees_clearMac ha

lemma agrees_switchPhyBit {flag : BitVec 1} {reg : Byte} {mask : Word}
    (hreg : ¬ IsPhyStatus (reg.setWidth 5)) :
    Triple machine E.rely noGuarantee (Agrees g) (switchPhyBit flag reg mask)
      fun _ => Agrees (g.switchPhyBits flag reg mask) := by
  unfold switchPhyBit Shadow.switchPhyBits
  by_cases hf : flag = 1#1
  · simp only [if_pos hf]
    exact agrees_setPhyBits hreg
  · simp only [if_neg hf]
    exact agrees_clearPhyBits hreg

lemma agrees_setMacAddress {p : Ptr} :
    Triple machine E.rely noGuarantee (Agrees g) (setMacAddress p)
      fun _ => Agrees (g.macAddress p) := by
  cases p with
  | none => exact Triple.pure stable_agrees fun _ h => h
  | some m =>
    refine Triple.bind (agrees_writeSfr (by decide)) fun _ => ?_
    exact Triple.bind (agrees_writeSfr (by decide)) fun _ => agrees_writeSfr (by decide)

lemma agrees_macInit :
    Triple machine E.rely noGuarantee (Agrees g) (macInit config)
      fun _ => Agrees (g.mac config) := by
  refine Triple.bind (agrees_writeSfr (by decide)) fun _ => ?_
  refine Triple.bind (agrees_setBits (by decide)) fun _ => ?_
  refine Triple.bind agrees_setMacAddress fun _ => ?_
  refine Triple.bind (agrees_writeSfr (by decide)) fun _ => ?_
  refine Triple.bind (agrees_switchMacBit (by decide)) fun _ => ?_
  refine Triple.bind (agrees_switchMacBit (by decide)) fun _ => ?_
  refine Triple.bind (agrees_clearMac (by decide)) fun _ => ?_
  refine Triple.bind (agrees_setMac (by decide)) fun _ => ?_
  exact agrees_setMac (by decide)

lemma agrees_phyInit :
    Triple machine E.rely noGuarantee (Agrees g) (phyInit config)
      fun _ => Agrees (g.phyControl config) := by
  refine Triple.bind (agrees_clearPhyBits (by decide)) fun _ => ?_
  refine Triple.bind (agrees_switchPhyBit (by decide)) fun _ => ?_
  exact Triple.bind (agrees_setPhyBits (by decide)) fun _ => agrees_setPhyBits (by decide)

/-- The waits for the auto-negotiation and the link change nothing. -/
lemma agrees_awaitLink :
    Triple machine E.rely noGuarantee (Agrees g) awaitLink fun _ => Agrees g := by
  have hbody : ∀ f : Word → Bool, Triple machine E.rely noGuarantee (Agrees g)
      ((readPhySfr PHSTAT1).bind fun r => .pure (f r)) fun _ => Agrees g := by
    intro f
    refine Triple.bind agrees_readPhy fun r => Triple.of_and fun _ => ?_
    exact Triple.pure stable_agrees fun _ h => h
  refine Triple.loop (T := fun _ => Agrees g) stable_agrees (hbody _) (fun _ h => h) ?_
  refine Triple.loop (T := fun _ => Agrees g) stable_agrees (hbody _) (fun _ h => h) ?_
  exact Triple.pure stable_agrees fun _ h => h

/-- What `matchDuplexMode` does with the value of `ESTAT` that it read. -/
def setDuplex (estat : Word) : Driver Unit :=
  if estat &&& PHYDPX > 0#16 then do
    bitFieldSetMacSfr MACON2 FULDPX
    writeSfrUnbanked MABBIPG 0x0015#16
    loc (.setDuplexMode .fullDuplex)
  else do
    bitFieldClearMacSfr MACON2 FULDPX
    writeSfrUnbanked MABBIPG 0x0012#16
    loc (.setDuplexMode .halfDuplex)

lemma agrees_setDuplex {estat : Word} :
    Triple machine E.rely noGuarantee (Agrees g) (setDuplex estat)
      fun _ => Agrees (g.duplex estat) := by
  unfold setDuplex Shadow.duplex
  by_cases hf : estat &&& PHYDPX > 0#16
  · simp only [if_pos hf]
    refine Triple.bind (agrees_setMac (by decide)) fun _ => ?_
    exact Triple.bind (agrees_writeSfr (by decide)) fun _ => agrees_setDuplexMode
  · simp only [if_neg hf]
    refine Triple.bind (agrees_clearMac (by decide)) fun _ => ?_
    exact Triple.bind (agrees_writeSfr (by decide)) fun _ => agrees_setDuplexMode

end Functions

end Enc624j600
