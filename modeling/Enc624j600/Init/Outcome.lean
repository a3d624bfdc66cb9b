/-
# What the initialisation reaches

The initialisation requests one system reset, after it found the chip following instructions and
its clock ready, and writes the configuration after the reset took effect.  Of a register that it
writes only in part, the other bits keep what the reset left in them.
-/
import Enc624j600.Init.Run

namespace Enc624j600

open Interaction

/-! ### The events of the reset -/

/-- The request for a system reset. -/
abbrev resetOp : Op := .spi (.single SETETHRST)

/-- What is performed before the reset is requested: `EUDAST` is written and read back until it
holds what was written, then `ESTAT` is read until `CLKRDY` is set. -/
def BeforeReset (t : List (Event Op Op.Res)) : Prop :=
  ∃ probes clock ready,
    (∀ e ∈ probes, e.1 = .spi (.writeSfr EUDAST 0x1234#16) ∨ e.1 = .spi (.readSfr EUDAST)) ∧
    (∀ e ∈ clock, e.1 = .spi (.readSfr ESTAT)) ∧ ready &&& CLKRDY ≠ 0#16 ∧
    t = probes ++ [sfrWrite EUDAST 0x1234#16, sfrRead EUDAST 0x1234#16] ++ clock ++
      [sfrRead ESTAT ready]

/-- What is performed while the reset takes effect. -/
def DuringReset (t : List (Event Op Op.Res)) : Prop :=
  ∀ e ∈ t, e.1 = .spi (.readSfr EUDAST) ∨ ∃ us, e.1 = .loc (.delay us)

section Reset

variable {R : World → World → Prop} {w v : World} {t : List (Event Op Op.Res)}

/-- One turn of the wait for the end of the power-on reset. -/
def probeEudast : Driver Bool := do
  writeSfrUnbanked EUDAST 0x1234#16
  let eudast ← readSfrUnbanked EUDAST
  return decide (eudast = 0x1234#16)

lemma returns_probeEudast {x : Bool} (h : Returns machine R probeEudast w t x v) :
    ∃ eudast, t = [sfrWrite EUDAST 0x1234#16, sfrRead EUDAST eudast] ∧
      x = decide (eudast = 0x1234#16) := by
  obtain ⟨_, _, _, _, -, -, rfl, h₁⟩ := returns_op_iff.1 h
  obtain ⟨_, eudast, _, _, -, -, rfl, h₂⟩ := returns_op_iff.1 h₁
  obtain ⟨rfl, rfl, -⟩ := returns_pure_iff.1 h₂
  exact ⟨eudast, rfl, rfl⟩

lemma returns_powerOn {α : Type} {k : Driver α} {a : α}
    (h : Returns machine R (.loop probeEudast k) w t a v) :
    ∃ probes rest u, (∀ e ∈ probes,
      e.1 = .spi (.writeSfr EUDAST 0x1234#16) ∨ e.1 = .spi (.readSfr EUDAST)) ∧
      t = probes ++ [sfrWrite EUDAST 0x1234#16, sfrRead EUDAST 0x1234#16] ++ rest ∧
      Returns machine R k u rest a v := by
  have hne : ∀ u s x u', Returns machine R probeEudast u s x u' → s ≠ [] := by
    intro u s x u' hb
    obtain ⟨_, rfl, -⟩ := returns_probeEudast hb
    simp
  obtain ⟨turns, last, rest, u, hturns, ⟨_, _, hlast⟩, rfl, hk⟩ := returns_loop_turns hne h
  obtain ⟨eudast, rfl, he⟩ := returns_probeEudast hlast
  obtain rfl : eudast = 0x1234#16 := of_decide_eq_true he.symm
  refine ⟨turns.flatten, rest, u, ?_, by simp, hk⟩
  intro e he
  obtain ⟨s, hs, hes⟩ := List.mem_flatten.1 he
  obtain ⟨_, _, hs⟩ := hturns s hs
  obtain ⟨_, rfl, -⟩ := returns_probeEudast hs
  simp only [List.mem_cons, List.not_mem_nil, or_false] at hes
  rcases hes with rfl | rfl
  · exact Or.inl rfl
  · exact Or.inr rfl

lemma returns_reset (h : Returns machine R reset w t () v) :
    ∃ t₁ t₂, BeforeReset t₁ ∧ DuringReset t₂ ∧ t = t₁ ++ ⟨resetOp, ()⟩ :: t₂ := by
  obtain ⟨probes, t₁, u₁, hprobes, rfl, h₁⟩ := returns_powerOn h
  obtain ⟨clock, t₂, u₂, ⟨busy, ready, -, hready, rfl⟩, rfl, h₂⟩ := returns_poll h₁
  obtain ⟨_, ⟨⟩, _, t₃, -, -, rfl, h₃⟩ := returns_op_iff.1 h₂
  obtain ⟨_, ⟨⟩, _, t₄, -, -, rfl, h₄⟩ := returns_op_iff.1 h₃
  obtain ⟨polls, t₅, _, hpolls, rfl, h₅⟩ := returns_poll h₄
  obtain ⟨_, ⟨⟩, _, t₆, -, -, rfl, h₆⟩ := returns_op_iff.1 h₅
  obtain ⟨rfl, -, -⟩ := returns_pure_iff.1 h₆
  refine ⟨_, _, ⟨probes, _, ready, hprobes, ?_, gt_zero_iff.1 (of_decide_eq_true hready), rfl⟩, ?_,
    by simp; rfl⟩
  · intro e he
    obtain ⟨r, -, rfl⟩ := List.mem_map.1 he
    rfl
  · intro e he
    rcases List.mem_cons.1 he with rfl | he
    · exact Or.inr ⟨_, rfl⟩
    · rcases List.mem_append.1 he with he | he
      · exact Or.inl (hpolls.op e he)
      · rw [List.mem_singleton.1 he]
        exact Or.inr ⟨_, rfl⟩

end Reset

/-! ### Registers that are written in part -/

/-- The bits in `mask` hold `value`, the others are those of `old`. -/
structure Holds (mask value old new : Word) : Prop where
  bits : new &&& mask = value
  others : new &&& ~~~mask = old &&& ~~~mask

namespace Holds

variable {mask value old new m : Word}

lemma refl (old : Word) : Holds 0#16 0#16 old old := ⟨by simp, rfl⟩

lemma setBits (h : Holds mask value old new) (m : Word) :
    Holds (mask ||| m) (value ||| m) old (new ||| m) := by
  obtain ⟨rfl, ho⟩ := h
  refine ⟨?_, ?_⟩
  · ext i hi
    simp only [BitVec.getElem_and, BitVec.getElem_or]
    grind
  · ext i hi
    have hb : (new &&& ~~~mask)[i] = (old &&& ~~~mask)[i] := by rw [ho]
    simp only [BitVec.getElem_and, BitVec.getElem_or, BitVec.getElem_not] at hb ⊢
    grind

lemma clearBits (h : Holds mask value old new) (m : Word) :
    Holds (mask ||| m) (value &&& ~~~m) old (new &&& ~~~m) := by
  obtain ⟨rfl, ho⟩ := h
  refine ⟨?_, ?_⟩
  · ext i hi
    simp only [BitVec.getElem_and, BitVec.getElem_or, BitVec.getElem_not]
    grind
  · ext i hi
    have hb : (new &&& ~~~mask)[i] = (old &&& ~~~mask)[i] := by rw [ho]
    simp only [BitVec.getElem_and, BitVec.getElem_or, BitVec.getElem_not] at hb ⊢
    grind

lemma congr {mask' value' : Word} (h : Holds mask value old new) (hm : mask = mask')
    (hv : value = value') : Holds mask' value' old new := by
  subst hm hv
  exact h

/-- The value of some of the bits that were written. -/
lemma and (h : Holds mask value old new) (hm : mask &&& m = m) : new &&& m = value &&& m := by
  rw [← h.bits, BitVec.and_assoc, hm]

lemma switchBits (h : Holds mask value old new) (m : Word) (φ : Prop) [Decidable φ] :
    Holds (mask ||| m) (if φ then value ||| m else value &&& ~~~m) old
      (if φ then new ||| m else new &&& ~~~m) := by
  split
  · exact h.setBits m
  · exact h.clearBits m

end Holds

/-! ### The configuration -/

/-- The registers that the initialisation writes, at least in part. -/
def IsConfigured (a : Byte) : Prop :=
  a ∈ [ERXST, ERXTAIL, EUDAST, EUDAND, ERXFCON, ECON2, ERXWM, MAADR1, MAADR2, MAADR3, MAMXFL,
    MACON1, MACON2, MABBIPG]

instance (a : Byte) : Decidable (IsConfigured a) := inferInstanceAs (Decidable (_ ∈ _))

/-- The chip and the driver after the initialisation.  The reset left the chip `before`, and
`estat` is the value of `ESTAT` that the driver read. -/
structure Configured (config : Config) (estat : Word) (before : Chip) (w : World) : Prop where
  next : w.nextReceiveFramePointer = 0x2000#16
  erxst : w.chip.sfr ERXST = 0x2000#16
  erxtail : w.chip.sfr ERXTAIL = 0x5FFE#16
  eudast : w.chip.sfr EUDAST = 0x6000#16
  eudand : w.chip.sfr EUDAND = 0x6001#16
  pointer : ∀ p, w.chip.pointer p = if p = .ERXRDPT ∨ p = .ERXWRPT then 0x2000#16 else 0x0000#16
  macAddress : ∀ m, config.macAddress = some m → w.chip.sfr MAADR1 = assemble (m 0) (m 1) ∧
    w.chip.sfr MAADR2 = assemble (m 2) (m 3) ∧ w.chip.sfr MAADR3 = assemble (m 4) (m 5)
  noMacAddress : config.macAddress = none → w.chip.sfr MAADR1 = before.sfr MAADR1 ∧
    w.chip.sfr MAADR2 = before.sfr MAADR2 ∧ w.chip.sfr MAADR3 = before.sfr MAADR3
  erxwm : w.chip.sfr ERXWM = 0xAA55#16
  mamxfl : w.chip.sfr MAMXFL = 0x05EE#16
  mabbipg : w.chip.sfr MABBIPG = if estat &&& PHYDPX ≠ 0#16 then 0x0015#16 else 0x0012#16
  duplexMode : w.duplexMode = if estat &&& PHYDPX ≠ 0#16 then .fullDuplex else .halfDuplex
  macon2 : Holds (HFRMEN ||| (PADCFG0 ||| PADCFG1 ||| PADCFG2) ||| TXCRCEN ||| FULDPX)
    ((if config.macHugeFrame = 1#1 then HFRMEN else 0#16) ||| PADCFG0 ||| TXCRCEN |||
      if estat &&& PHYDPX ≠ 0#16 then FULDPX else 0#16)
    (before.sfr MACON2) (w.chip.sfr MACON2)
  macon1 : Holds LOOPBK (if config.macLoopback = 1#1 then LOOPBK else 0#16)
    (before.sfr MACON1) (w.chip.sfr MACON1)
  econ2 : Holds (COCON0 ||| COCON1 ||| COCON2 ||| COCON3 ||| TXMAC ||| AUTOFC) (TXMAC ||| AUTOFC)
    (before.sfr ECON2) (w.chip.sfr ECON2)
  erxfcon : Holds (CRCEEN ||| RUNTEEN ||| CRCEN ||| RUNTEN ||| UCEN ||| NOTMEEN ||| MCEN |||
      BCEN ||| HTEN ||| MPEN ||| (PMEN0 ||| PMEN1 ||| PMEN2 ||| PMEN3))
    (CRCEN ||| RUNTEN ||| UCEN ||| BCEN) (before.sfr ERXFCON) (w.chip.sfr ERXFCON)
  phcon1 : Holds (PSLEEP ||| PLOOPBK ||| ANEN)
    ((if config.phyLoppback = 1#1 then PLOOPBK else 0#16) ||| ANEN)
    (before.phy (PHCON1.setWidth 5)) (w.chip.phy (PHCON1.setWidth 5))
  phana : Holds ADPAUS0 ADPAUS0 (before.phy (PHANA.setWidth 5)) (w.chip.phy (PHANA.setWidth 5))
  receiving : w.chip.Receiving
  sfr : ∀ a, IsTracked a → ¬ IsConfigured a → w.chip.sfr a = before.sfr a
  phy : ∀ reg, ¬ IsPhyStatus reg → reg ≠ PHCON1.setWidth 5 → reg ≠ PHANA.setWidth 5 →
    w.chip.phy reg = before.phy reg

namespace Shadow

variable {g : Shadow} {config : Config} {estat : Word} {a : Byte}

lemma duplex_sfr : (g.duplex estat).sfr a =
    if a = MABBIPG then if estat &&& PHYDPX ≠ 0#16 then 0x0015#16 else 0x0012#16
    else if a = MACON2 then
      if estat &&& PHYDPX ≠ 0#16 then g.sfr MACON2 ||| FULDPX else g.sfr MACON2 &&& ~~~FULDPX
    else g.sfr a := by
  unfold duplex
  by_cases h : estat &&& PHYDPX > 0#16
  · simp only [if_pos h, if_pos (gt_zero_iff.1 h), setSfr_sfr, setBits_sfr]
  · simp only [if_neg h, if_neg (mt gt_zero_iff.2 h), setSfr_sfr, clearBits_sfr]

/-- The duplex mode of the MAC concerns two registers. -/
lemma duplex_sfr_of_ne (h : a ≠ MABBIPG ∧ a ≠ MACON2) : (g.duplex estat).sfr a = g.sfr a := by
  rw [duplex_sfr, if_neg h.1, if_neg h.2]

lemma macAddress_sfr {p : Ptr} (h1 : a ≠ MAADR1) (h2 : a ≠ MAADR2) (h3 : a ≠ MAADR3) :
    (g.macAddress p).sfr a = g.sfr a := by
  cases p with
  | none => rfl
  | some m => simp only [macAddress, setSfr_sfr, if_neg h1, if_neg h2, if_neg h3]

lemma buffers_sfr : g.buffers.sfr a =
    if a = EUDAND then 0x6001#16 else if a = EUDAST then 0x6000#16
    else if a = ERXTAIL then 0x5FFE#16 else if a = ERXST then 0x2000#16 else g.sfr a := by
  simp [buffers, setSfr, Function.update_apply, setPointer]

lemma filters_sfr (h : a ≠ ERXFCON) : g.filters.sfr a = g.sfr a := by
  simp [filters, h]

/-- A register of the MAC that is not `MACON2`, and `ECON2`. -/
lemma mac_sfr (h : a ∉ [MAADR1, MAADR2, MAADR3, MACON2]) :
    (g.mac config).sfr a =
      if a = MACON1 then
        if config.macLoopback = 1#1 then g.sfr MACON1 ||| LOOPBK else g.sfr MACON1 &&& ~~~LOOPBK
      else if a = MAMXFL then 0x05EE#16
      else if a = ECON2 then g.sfr ECON2 ||| AUTOFC
      else if a = ERXWM then 0xAA55#16 else g.sfr a := by
  simp only [List.mem_cons, List.not_mem_nil, or_false, not_or] at h
  obtain ⟨h1, h2, h3, hmacon2⟩ := h
  simp +decide [mac, hmacon2, macAddress_sfr, h1, h2, h3]

lemma phyControl_sfr : (g.phyControl config).sfr = g.sfr := rfl

/-- The registers that are not written in part. -/
lemma beforeEnable_sfr (h : a ∉ [MAADR1, MAADR2, MAADR3, MACON2, MACON1, ECON2, ERXFCON]) :
    (g.beforeEnable config).sfr a =
      if a = MAMXFL then 0x05EE#16 else if a = ERXWM then 0xAA55#16
      else if a = EUDAND then 0x6001#16 else if a = EUDAST then 0x6000#16
      else if a = ERXTAIL then 0x5FFE#16 else if a = ERXST then 0x2000#16 else g.sfr a := by
  simp only [List.mem_cons, List.not_mem_nil, or_false, not_or] at h
  obtain ⟨h1, h2, h3, h4, h5, h6, h7⟩ := h
  rw [beforeEnable, phyControl_sfr, mac_sfr (by simp [h1, h2, h3, h4]), if_neg h5, if_neg h6,
    setBits_sfr, if_neg h6, filters_sfr h7, buffers_sfr, clearBits_sfr, if_neg h6]

lemma macon2 (g : Shadow) (config : Config) :
    Holds (HFRMEN ||| (PADCFG0 ||| PADCFG1 ||| PADCFG2) ||| TXCRCEN)
    ((if config.macHugeFrame = 1#1 then HFRMEN else 0#16) ||| PADCFG0 ||| TXCRCEN)
    (g.sfr MACON2) ((g.beforeEnable config).sfr MACON2) := by
  have h := ((((Holds.refl (g.sfr MACON2)).switchBits HFRMEN
    (config.macHugeFrame = 1#1)).clearBits (PADCFG0 ||| PADCFG1 ||| PADCFG2)).setBits
      PADCFG0).setBits TXCRCEN
  have he : (g.beforeEnable config).sfr MACON2 =
      (((if config.macHugeFrame = 1#1 then g.sfr MACON2 ||| HFRMEN
        else g.sfr MACON2 &&& ~~~HFRMEN) &&& ~~~(PADCFG0 ||| PADCFG1 ||| PADCFG2)) |||
          PADCFG0) ||| TXCRCEN := by
    rw [beforeEnable, phyControl_sfr]
    simp +decide [mac, macAddress_sfr, filters_sfr, buffers_sfr]
  rw [he]
  refine h.congr (by decide) ?_
  by_cases hf : config.macHugeFrame = 1#1
  · rw [if_pos hf, if_pos hf]
    decide
  · rw [if_neg hf, if_neg hf]
    decide

lemma macon1 : Holds LOOPBK (if config.macLoopback = 1#1 then LOOPBK else 0#16)
    (g.sfr MACON1) ((g.beforeEnable config).sfr MACON1) := by
  have h := (Holds.refl (g.sfr MACON1)).switchBits LOOPBK (config.macLoopback = 1#1)
  have he : (g.beforeEnable config).sfr MACON1 = if config.macLoopback = 1#1
      then g.sfr MACON1 ||| LOOPBK else g.sfr MACON1 &&& ~~~LOOPBK := by
    rw [beforeEnable, phyControl_sfr, mac_sfr (by decide)]
    simp +decide [filters_sfr, buffers_sfr]
  rw [he]
  refine h.congr (by decide) ?_
  by_cases hf : config.macLoopback = 1#1
  · rw [if_pos hf, if_pos hf]
    decide
  · rw [if_neg hf, if_neg hf]
    decide

lemma econ2 : Holds (COCON0 ||| COCON1 ||| COCON2 ||| COCON3 ||| TXMAC ||| AUTOFC)
    (TXMAC ||| AUTOFC) (g.sfr ECON2) ((g.beforeEnable config).sfr ECON2) := by
  have h := (((Holds.refl (g.sfr ECON2)).clearBits (COCON0 ||| COCON1 ||| COCON2 |||
    COCON3)).setBits TXMAC).setBits AUTOFC
  have he : (g.beforeEnable config).sfr ECON2 = ((g.sfr ECON2 &&& ~~~(COCON0 ||| COCON1 |||
      COCON2 ||| COCON3)) ||| TXMAC) ||| AUTOFC := by
    rw [beforeEnable, phyControl_sfr, mac_sfr (by decide),
      if_neg (by decide), if_neg (by decide), if_pos rfl, setBits_sfr, if_pos rfl,
      filters_sfr (by decide), buffers_sfr]
    simp +decide
  rw [he]
  exact h.congr (by decide) (by decide)

lemma erxfcon : Holds (CRCEEN ||| RUNTEEN ||| CRCEN ||| RUNTEN ||| UCEN ||| NOTMEEN ||| MCEN |||
      BCEN ||| HTEN ||| MPEN ||| (PMEN0 ||| PMEN1 ||| PMEN2 ||| PMEN3))
    (CRCEN ||| RUNTEN ||| UCEN ||| BCEN) (g.sfr ERXFCON)
    ((g.beforeEnable config).sfr ERXFCON) := by
  have h := (((((((((((Holds.refl (g.sfr ERXFCON)).clearBits CRCEEN).clearBits RUNTEEN).setBits
    CRCEN).setBits RUNTEN).setBits UCEN).clearBits NOTMEEN).clearBits MCEN).setBits BCEN).clearBits
      HTEN).clearBits MPEN).clearBits (PMEN0 ||| PMEN1 ||| PMEN2 ||| PMEN3)
  have he : (g.beforeEnable config).sfr ERXFCON = ((g.clearBits ECON2 (COCON0 ||| COCON1 |||
      COCON2 ||| COCON3)).buffers.filters).sfr ERXFCON := by
    rw [beforeEnable, phyControl_sfr, mac_sfr (by decide)]
    simp +decide
  rw [he]
  simp +decide only [filters, clearBits_sfr, setBits_sfr, buffers_sfr, if_true, if_false]
  exact h.congr (by decide) (by decide)

/-- The registers of the chip outside of the PHY do not reach it. -/
lemma beforePhy : ((((g.clearBits ECON2 (COCON0 ||| COCON1 ||| COCON2 |||
    COCON3)).buffers.filters).setBits ECON2 TXMAC).mac config).phy = g.phy := rfl

lemma phcon1 : Holds (PSLEEP ||| PLOOPBK ||| ANEN)
    ((if config.phyLoppback = 1#1 then PLOOPBK else 0#16) ||| ANEN)
    (g.phy (PHCON1.setWidth 5)) ((g.beforeEnable config).phy (PHCON1.setWidth 5)) := by
  have h := (((Holds.refl (g.phy (PHCON1.setWidth 5))).clearBits PSLEEP).switchBits PLOOPBK
    (config.phyLoppback = 1#1)).setBits ANEN
  have he : (g.beforeEnable config).phy (PHCON1.setWidth 5) =
      (if config.phyLoppback = 1#1 then g.phy (PHCON1.setWidth 5) &&& ~~~PSLEEP ||| PLOOPBK
        else (g.phy (PHCON1.setWidth 5) &&& ~~~PSLEEP) &&& ~~~PLOOPBK) ||| ANEN := by
    simp +decide [beforeEnable, phyControl, setPhyBits, switchPhyBits, clearPhyBits, beforePhy]
  rw [he]
  refine h.congr (by decide) ?_
  by_cases hf : config.phyLoppback = 1#1
  · rw [if_pos hf, if_pos hf]
    decide
  · rw [if_neg hf, if_neg hf]
    decide

lemma phana : Holds ADPAUS0 ADPAUS0 (g.phy (PHANA.setWidth 5))
    ((g.beforeEnable config).phy (PHANA.setWidth 5)) := by
  have h := (Holds.refl (g.phy (PHANA.setWidth 5))).setBits ADPAUS0
  have he : (g.beforeEnable config).phy (PHANA.setWidth 5) =
      g.phy (PHANA.setWidth 5) ||| ADPAUS0 := by
    simp +decide [beforeEnable, phyControl, setPhyBits, switchPhyBits, clearPhyBits, beforePhy]
  rw [he]
  exact h.congr (by decide) (by decide)

lemma beforeEnable_phy {reg : BitVec 5} (h1 : reg ≠ PHCON1.setWidth 5)
    (h2 : reg ≠ PHANA.setWidth 5) : (g.beforeEnable config).phy reg = g.phy reg := by
  simp only [beforeEnable, phyControl, setPhyBits, switchPhyBits, clearPhyBits, setPhy_phy,
    if_neg h1, if_neg h2, beforePhy]

lemma beforeEnable_macAddress {m : ℕ → Byte} (h : config.macAddress = some m) :
    (g.beforeEnable config).sfr MAADR1 = assemble (m 0) (m 1) ∧
      (g.beforeEnable config).sfr MAADR2 = assemble (m 2) (m 3) ∧
        (g.beforeEnable config).sfr MAADR3 = assemble (m 4) (m 5) := by
  refine ⟨?_, ?_, ?_⟩
  all_goals
    rw [beforeEnable, phyControl_sfr]
    simp +decide [mac, macAddress, h]

lemma beforeEnable_noMacAddress (h : config.macAddress = none) :
    (g.beforeEnable config).sfr MAADR1 = g.sfr MAADR1 ∧
      (g.beforeEnable config).sfr MAADR2 = g.sfr MAADR2 ∧
        (g.beforeEnable config).sfr MAADR3 = g.sfr MAADR3 := by
  refine ⟨?_, ?_, ?_⟩
  all_goals
    rw [beforeEnable, phyControl_sfr]
    simp +decide [mac, macAddress, h, filters_sfr, buffers_sfr]

end Shadow

section Registers

variable {n : ℕ} {config : Config} {estat : Word} {w u : World} {a : Byte}

/-- The duplex mode is the last that the driver sets. -/
lemma Initialised.sfr_eq (h : Initialised n (((shadowOf u).beforeEnable config).duplex estat) w)
    (ha : IsTracked a ∧ a ≠ MABBIPG ∧ a ≠ MACON2) :
    w.chip.sfr a = ((shadowOf u).beforeEnable config).sfr a := by
  rw [h.agrees.sfr a ha.1, Shadow.duplex_sfr_of_ne ha.2]

/-- The registers that are not written in part. -/
lemma Initialised.sfr_whole (h : Initialised n (((shadowOf u).beforeEnable config).duplex estat) w)
    (ha : IsTracked a ∧ a ≠ MABBIPG ∧
      a ∉ [MAADR1, MAADR2, MAADR3, MACON2, MACON1, ECON2, ERXFCON]) :
    w.chip.sfr a = if a = MAMXFL then 0x05EE#16 else if a = ERXWM then 0xAA55#16
      else if a = EUDAND then 0x6001#16 else if a = EUDAST then 0x6000#16
      else if a = ERXTAIL then 0x5FFE#16 else if a = ERXST then 0x2000#16
      else u.chip.sfr a := by
  obtain ⟨htracked, hmabbipg, hpart⟩ := ha
  have hmacon2 : a ≠ MACON2 := fun he => hpart (by simp [he])
  rw [h.sfr_eq ⟨htracked, hmabbipg, hmacon2⟩, Shadow.beforeEnable_sfr hpart]
  rfl

lemma Initialised.macon2 (h : Initialised n (((shadowOf u).beforeEnable config).duplex estat) w) :
    Holds (HFRMEN ||| (PADCFG0 ||| PADCFG1 ||| PADCFG2) ||| TXCRCEN ||| FULDPX)
      ((if config.macHugeFrame = 1#1 then HFRMEN else 0#16) ||| PADCFG0 ||| TXCRCEN |||
        if estat &&& PHYDPX ≠ 0#16 then FULDPX else 0#16)
      (u.chip.sfr MACON2) (w.chip.sfr MACON2) := by
  have hm := (Shadow.macon2 (shadowOf u) config).switchBits FULDPX (estat &&& PHYDPX ≠ 0#16)
  have he : w.chip.sfr MACON2 = if estat &&& PHYDPX ≠ 0#16
      then ((shadowOf u).beforeEnable config).sfr MACON2 ||| FULDPX
      else ((shadowOf u).beforeEnable config).sfr MACON2 &&& ~~~FULDPX := by
    rw [h.agrees.sfr _ (by decide), Shadow.duplex_sfr, if_neg (by decide), if_pos rfl]
  rw [he]
  refine hm.congr rfl ?_
  by_cases hd : estat &&& PHYDPX ≠ 0#16
  · rw [if_pos hd, if_pos hd]
  · rw [if_neg hd, if_neg hd]
    by_cases hf : config.macHugeFrame = 1#1
    · rw [if_pos hf]
      decide
    · rw [if_neg hf]
      decide

/-- The registers, as the driver leaves them. -/
lemma Initialised.configured
    (h : Initialised n (((shadowOf u).beforeEnable config).duplex estat) w) :
    Configured config estat u.chip w := by
  have hphy : ∀ reg, ¬ IsPhyStatus reg →
      w.chip.phy reg = ((shadowOf u).beforeEnable config).phy reg := h.agrees.phy
  -- the address
  have h1 : w.chip.sfr MAADR1 = _ := h.sfr_eq (by decide)
  have h2 : w.chip.sfr MAADR2 = _ := h.sfr_eq (by decide)
  have h3 : w.chip.sfr MAADR3 = _ := h.sfr_eq (by decide)
  refine ⟨h.agrees.next, h.sfr_whole (a := ERXST) (by decide),
    h.sfr_whole (a := ERXTAIL) (by decide), h.sfr_whole (a := EUDAST) (by decide),
    h.sfr_whole (a := EUDAND) (by decide), ?_, ?_, ?_, h.sfr_whole (a := ERXWM) (by decide),
    h.sfr_whole (a := MAMXFL) (by decide), ?_, ?_, h.macon2, ?_, ?_, ?_, ?_, ?_, h.receiving,
    ?_, ?_⟩
  · intro p
    rw [h.agrees.pointer]
    cases p <;> rfl
  · intro m hm
    rw [h1, h2, h3]
    exact Shadow.beforeEnable_macAddress hm
  · intro hm
    rw [h1, h2, h3]
    exact Shadow.beforeEnable_noMacAddress (g := shadowOf u) hm
  · rw [h.agrees.sfr _ (by decide), Shadow.duplex_sfr, if_pos rfl]
  · rw [h.agrees.duplexMode]
    simp only [Shadow.duplex, gt_zero_iff]
  · rw [h.sfr_eq (by decide)]
    exact Shadow.macon1 (g := shadowOf u)
  · rw [h.sfr_eq (by decide)]
    exact Shadow.econ2 (g := shadowOf u)
  · rw [h.sfr_eq (by decide)]
    exact Shadow.erxfcon (g := shadowOf u)
  · rw [hphy _ (by decide)]
    exact Shadow.phcon1 (g := shadowOf u)
  · rw [hphy _ (by decide)]
    exact Shadow.phana (g := shadowOf u)
  · intro a ha hc
    simp only [IsConfigured, List.mem_cons, List.not_mem_nil, or_false, not_or] at hc
    rw [h.sfr_whole ⟨ha, by simp [hc], by simp [hc]⟩]
    simp [hc]
  · intro reg hs h1 h2
    rw [hphy reg hs, Shadow.beforeEnable_phy h1 h2]
    rfl

end Registers

/-! ### The whole initialisation -/

lemma not_reset_of_switch {o : Op} (h : IsConfigOp o ∨ IsSwitch o) : o ≠ resetOp := by
  rintro rfl
  rcases h with h | h | h
  · exact h
  · exact absurd h (by decide)
  · exact absurd h (by decide)

/-- The configuration requests no further reset. -/
lemma not_reset_of_configure {o : Op} (h : IsConfigOp o ∨ IsAreaWrite o) : o ≠ resetOp := by
  rintro rfl
  rcases h with h | ⟨_, h | h⟩
  · exact h
  · exact absurd h (by simp)
  · exact absurd h (by simp)

/-- The operations of the initialisation. -/
def IsInitOp (o : Op) : Prop :=
  (IsConfigOp o ∨ IsAreaWrite o) ∨ (IsConfigOp o ∨ IsSwitch o) ∨ o = resetOp

lemma reset_all : reset.All IsInitOp := by
  have hc : ∀ {α : Type} {p : Driver α}, p.All IsConfigOp → p.All IsInitOp :=
    fun h => h.mono fun _ ho => Or.inl (Or.inl ho)
  have hread : (readSfrUnbanked EUDAST).All IsConfigOp :=
    ⟨Or.inl (by decide), fun _ => trivial⟩
  refine ⟨hc (Prog.All.bind (config_writeSfr (by decide)) fun _ => Prog.All.bind hread
    fun _ => trivial), hc (Prog.All.bind config_readEstat fun _ => trivial), ?_⟩
  refine ⟨Or.inr (Or.inr rfl), fun _ => hc ⟨trivial, fun _ => ?_⟩⟩
  exact ⟨Prog.All.bind hread fun _ => trivial, config_delay⟩

lemma init_all (config : Config) : (enc624j600Init config).All IsInitOp := by
  rw [enc624j600Init_eq]
  refine Prog.All.bind reset_all fun _ => ?_
  refine Prog.All.bind (configureChip_all.mono fun _ => Or.inl) fun _ => ?_
  refine Prog.All.bind (awaitLinkReceiving_all.mono fun _ h => Or.inr (Or.inl h)) fun _ => ?_
  refine Prog.All.bind (config_readEstat.mono fun _ h => Or.inl (Or.inl h)) fun _ => ?_
  exact finish_all.mono fun _ h => Or.inr (Or.inl h)

/-- **The initialisation reaches the configured state.** The system is reset once, after `EUDAST`
was read back and `CLKRDY` was seen; nothing else is written before the reset took effect; and
then the registers hold the configuration, all other bits being those that the reset left. -/
theorem init_outcome {E : Surroundings} {config : Config} {w₀ w : World}
    {t : List (Event Op Op.Res)} (hp : w₀.chip.resetPending = false)
    (h : Returns machine E.rely (enc624j600Init config) w₀ t () w) :
    ∃ (t₁ t₂ t₃ t₄ : List (Event Op Op.Res)) (u : World) (estat : Word),
      t = t₁ ++ ⟨resetOp, ()⟩ :: t₂ ++ t₃ ++ sfrRead ESTAT estat :: t₄ ∧
      BeforeReset t₁ ∧ DuringReset t₂ ∧ (∀ e ∈ t₃ ++ t₄, e.1 ≠ resetOp) ∧
      Returns machine E.rely reset w₀ (t₁ ++ ⟨resetOp, ()⟩ :: t₂) () u ∧
      u.chip.resets = w₀.chip.resets + 1 ∧ u.chip.resetPending = false ∧
      w.chip.resets = w₀.chip.resets + 1 ∧ w.stored = w₀.stored ∧
      Configured config estat u.chip w := by
  rw [enc624j600Init_eq] at h
  obtain ⟨_, u, t₁, s, hreset, h₁, rfl⟩ := returns_bind_iff.1 h
  rw [← Prog.bind_assoc] at h₁
  obtain ⟨_, w₁, t₂, s', hconf, h₂, rfl⟩ := returns_bind_iff.1 h₁
  obtain ⟨w₂, estat, w₃, t₃, hd, hs, rfl, hfin⟩ := returns_op_iff.1 h₂
  obtain rfl := step_readSfr hs
  -- the states between the parts
  have hdone := triple_reset.returns (unasked_self hp) hreset
  have hlinked := triple_untilLinked.returns
    ⟨hdone.fresh.agrees, hdone.fresh.toDormant, hdone.resets⟩ hconf
  have hw := triple_finish.returns (stable_linked.drift hlinked hd) hfin
  -- the events of the parts
  obtain ⟨s₁, s₂, hbefore, hduring, rfl⟩ := returns_reset hreset
  have hall : ((configureChip config).bind fun _ => awaitLinkReceiving).All (· ≠ resetOp) :=
    Prog.All.bind (configureChip_all.mono fun _ => not_reset_of_configure) fun _ =>
      awaitLinkReceiving_all.mono fun _ => not_reset_of_switch
  have hall' : (finish estat).All (· ≠ resetOp) := finish_all.mono fun _ => not_reset_of_switch
  refine ⟨s₁, s₂, t₂, t₃, u, estat, by simp, hbefore, hduring, ?_, hreset, hdone.resets,
    hdone.fresh.awake.resetPending, hw.collecting.resets, ?_, hw.configured⟩
  · intro e he
    rcases List.mem_append.1 he with he | he
    · exact (Reach.events hall hconf).1 e he
    · exact (Reach.events hall' hfin).1 e he
  · rw [hw.agrees.stored]
    exact hdone.stored

/-- A chip that has been reset three times, receives and sends, and has two frames pending. -/
def inUse : World where
  chip := { resetChip CLKRDY with
    sfr := fun a => if a = ESTAT then CLKRDY else 0xA5C3#16
    pointer := fun _ => 0x2468#16
    phy := fun _ => 0x1357#16
    pktcnt := 2#8
    resets := 3 }
  duplexMode := .halfDuplex
  nextReceiveFramePointer := 0x2468#16
  stored := []

/-- Both loopbacks, huge frames and a MAC address. -/
def fullConfig : Config := ⟨some fun i => BitVec.ofNat 8 (2 + i), 1#1, 1#1, 1#1⟩

theorem init_outcome_inUse : ∃ (u w : World) (estat : Word), u.chip.resets = 4 ∧
    Configured fullConfig estat u.chip w ∧ w.chip.sfr MAADR1 = 0x0302#16 ∧
      w.chip.sfr MAADR2 = 0x0504#16 ∧ w.chip.sfr MAADR3 = 0x0706#16 ∧
        w.chip.sfr MACON2 &&& (HFRMEN ||| FULDPX) = HFRMEN ||| FULDPX ∧
          w.duplexMode = .fullDuplex := by
  obtain ⟨t, w, hi, hd⟩ :=
    exists_evaluated fullConfig (CLKRDY ||| PHYDPX) .fullDuplex inUse (by decide +kernel)
  obtain ⟨_, _, _, _, u, estat, -, -, -, -, -, hu, -, -, -, hw⟩ := init_outcome rfl hi
  obtain ⟨h1, h2, h3⟩ := hw.macAddress _ rfl
  have hfull : estat &&& PHYDPX ≠ 0#16 := by
    intro hz
    have hhalf := hw.duplexMode
    rw [if_neg (not_not.2 hz), hd] at hhalf
    cases hhalf
  refine ⟨u, w, estat, hu, hw, h1.trans (by decide), h2.trans (by decide), h3.trans (by decide),
    ?_, hd⟩
  rw [hw.macon2.and (by decide), if_pos hfull]
  decide

end Enc624j600
