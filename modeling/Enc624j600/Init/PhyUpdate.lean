/-
# Updates of PHY registers

While no PHY register changes on its own, reading one answers with its content, whatever the
registers of the MII interface held before, and setting or clearing bits changes the addressed
register as the mask says, and no other.  The MII interface may take as many polls as it likes.
-/
import Enc624j600.Init.Run

namespace Enc624j600

open Interaction

/-- Surroundings in which no PHY register changes on its own. -/
def steadyPhy : Surroundings := fun _ e => ∀ reg value, e ≠ .phyStatus reg value

/-- The address of a PHY register in the driver. -/
abbrev phyAddr (reg : BitVec 5) : Byte := reg.setWidth 8

/-- The PHY registers hold `φ`, `MICMD` holds `cmd`, and no access is under way. -/
structure MiiIdle (φ : BitVec 5 → Word) (cmd : Word) (w : World) : Prop where
  awake : w.chip.Awake
  phy : w.chip.phy = φ
  micmd : w.chip.sfr MICMD = cmd
  mii : w.chip.mii = .idle

/-- And `reg` is selected. -/
structure MiiSelected (φ : BitVec 5 → Word) (cmd : Word) (reg : BitVec 5) (w : World) : Prop extends
    MiiIdle φ cmd w where
  miregadr : (w.chip.sfr MIREGADR).setWidth 5 = reg

/-- A read access to `reg` is under way, or it has ended and `MIRD` holds the register. -/
structure MiiReading (φ : BitVec 5 → Word) (reg : BitVec 5) (w : World) : Prop where
  awake : w.chip.Awake
  phy : w.chip.phy = φ
  mii : w.chip.mii = .reading reg ∨ w.chip.mii = .idle ∧ w.chip.sfr MIRD = φ reg

/-- And `MICMD` is cleared again. -/
structure MiiRead (φ : BitVec 5 → Word) (reg : BitVec 5) (w : World) : Prop extends
    MiiIdle φ 0#16 w where
  mird : w.chip.sfr MIRD = φ reg

/-- A write access to `reg` is under way, or it has ended. -/
structure MiiWriting (φ : BitVec 5 → Word) (cmd : Word) (reg : BitVec 5) (v : Word) (w : World) :
    Prop where
  awake : w.chip.Awake
  micmd : w.chip.sfr MICMD = cmd
  mii : w.chip.mii = .writing reg v ∧ w.chip.phy = φ ∨
    w.chip.mii = .idle ∧ w.chip.phy = Function.update φ reg v

variable {φ : BitVec 5 → Word} {cmd v mask : Word} {reg : BitVec 5} {w : World}

/-! ### Stability -/

/-- An access ends, or the chip leaves the PHY and the MII interface alone. -/
lemma phy_apply {c : Chip} {e : ChipEvent} (hc : c.Awake) (hE : steadyPhy c e)
    (he : e.Enabled c) : (e = .miiDone ∧ c.mii ≠ .idle) ∨
      ((e.apply c).mii = c.mii ∧ (e.apply c).phy = c.phy ∧
        (e.apply c).sfr MIRD = c.sfr MIRD) := by
  cases e with
  | powerUp => exact absurd he (by simp [ChipEvent.Enabled, hc.por])
  | noise => exact absurd he (by simp [ChipEvent.Enabled, hc.por])
  | resetDone post => exact absurd he.1 (by simp [hc.resetPending])
  | phyStatus reg value => exact absurd rfl (hE reg value)
  | miiDone => exact Or.inl ⟨rfl, he⟩
  | _ => exact Or.inr ⟨rfl, rfl, by simp +decide [ChipEvent.apply]⟩

lemma apply_miiDone_reading {c : Chip} (h : c.mii = .reading reg) :
    ChipEvent.miiDone.apply c = { c.setSfr MIRD (c.phy reg) with mii := .idle } := by
  simp only [ChipEvent.apply, h]

lemma apply_miiDone_writing {c : Chip} (h : c.mii = .writing reg v) :
    ChipEvent.miiDone.apply c = { c with phy := Function.update c.phy reg v, mii := .idle } := by
  simp only [ChipEvent.apply, h]

lemma stable_miiIdle : Stable steadyPhy.rely (MiiIdle φ cmd) := by
  rintro w _ h ⟨e, hE, he, rfl⟩
  have hu := ChipEvent.undisturbed h.awake he
  rcases phy_apply h.awake hE he with ⟨-, hn⟩ | ⟨hm, hp, -⟩
  · exact absurd h.mii hn
  · exact ⟨hu.awake h.awake, hp.trans h.phy, (hu.sfr _ (by decide)).trans h.micmd,
      hm.trans h.mii⟩

lemma stable_miiSelected : Stable steadyPhy.rely (MiiSelected φ cmd reg) := by
  intro w w' h hR
  refine ⟨stable_miiIdle w w' h.toMiiIdle hR, ?_⟩
  rw [(rely_undisturbed h.awake hR).sfr _ (by decide)]
  exact h.miregadr

lemma stable_miiRead : Stable steadyPhy.rely (MiiRead φ reg) := by
  intro w w' h hR
  refine ⟨stable_miiIdle w w' h.toMiiIdle hR, ?_⟩
  obtain ⟨e, -, he, rfl⟩ := hR
  exact (mird_apply h.awake h.mii he).trans h.mird

lemma stable_miiReading : Stable steadyPhy.rely (MiiReading φ reg) := by
  rintro w _ h ⟨e, hE, he, rfl⟩
  have hu := ChipEvent.undisturbed h.awake he
  rcases phy_apply h.awake hE he with ⟨rfl, hn⟩ | ⟨hm, hp, hd⟩
  · rcases h.mii with hm | ⟨hm, -⟩
    · refine ⟨hu.awake h.awake, ?_, Or.inr ?_⟩
      · rw [apply_miiDone_reading hm]
        exact h.phy
      · rw [apply_miiDone_reading hm]
        exact ⟨rfl, by simp [h.phy]⟩
    · exact absurd hm hn
  · refine ⟨hu.awake h.awake, hp.trans h.phy, ?_⟩
    rw [hm, hd]
    exact h.mii

lemma stable_miiWriting : Stable steadyPhy.rely (MiiWriting φ cmd reg v) := by
  rintro w _ h ⟨e, hE, he, rfl⟩
  have hu := ChipEvent.undisturbed h.awake he
  refine ⟨hu.awake h.awake, (hu.sfr _ (by decide)).trans h.micmd, ?_⟩
  rcases phy_apply h.awake hE he with ⟨rfl, hn⟩ | ⟨hm, hp, -⟩
  · rcases h.mii with ⟨hm, hp⟩ | ⟨hm, -⟩
    · rw [apply_miiDone_writing hm]
      exact Or.inr ⟨rfl, by rw [hp]⟩
    · exact absurd hm hn
  · rw [hm, hp]
    exact h.mii

/-! ### The access functions -/

lemma miregadr_phyAddr (reg : BitVec 5) :
    (0x0100#16 ||| (phyAddr reg).setWidth 16).setWidth 5 = reg := by
  rw [setWidth_miregadr]
  exact BitVec.setWidth_setWidth_of_le _ (by decide)

/-- Selecting a PHY register. -/
lemma MiiIdle.select (h : MiiIdle φ cmd w) (reg : BitVec 5) : MiiSelected φ cmd reg
    { w with chip := w.chip.setSfr MIREGADR (0x0100#16 ||| (phyAddr reg).setWidth 16) } := by
  refine ⟨⟨⟨h.awake.por, h.awake.resetPending⟩, h.phy, ?_, h.mii⟩, ?_⟩
  · simpa +decide using h.micmd
  · rw [Chip.setSfr_sfr, if_pos rfl, miregadr_phyAddr]

lemma triple_readMii :
    Triple machine steadyPhy.rely noGuarantee (MiiIdle φ cmd) (readPhySfr (phyAddr reg))
      fun r w => r = φ reg ∧ MiiIdle φ 0#16 w := by
  refine ReadAccess.triple (S := MiiSelected φ cmd reg) (A := MiiReading φ reg)
    (D := MiiRead φ reg) ⟨stable_miiIdle, stable_miiSelected, stable_miiReading, ?_,
      stable_miiRead, fun r => (stable_const _).and stable_miiIdle, ?_, fun w h => h.select reg,
      ?_, ?_, fun w h => ⟨h.mird, h.toMiiIdle⟩⟩
  · intro w w' h hR
    refine ⟨stable_miiReading w w' h.1 hR, ?_⟩
    obtain ⟨e, hE, he, rfl⟩ := hR
    rcases phy_apply h.1.awake hE he with ⟨-, hn⟩ | ⟨hm, -⟩
    · exact absurd h.2 hn
    · exact hm.trans h.2
  · rintro w (h | h | h | h)
    · exact h.awake.por
    · exact h.awake.por
    · exact h.awake.por
    · exact h.awake.por
  · intro w h
    rw [h.miregadr]
    exact ⟨⟨h.awake.por, h.awake.resetPending⟩, h.phy, Or.inl rfl⟩
  · intro w h hi
    have hmird : w.chip.sfr MIRD = φ reg := by
      rcases h.mii with hm | ⟨-, hd⟩
      · rw [hm] at hi
        cases hi
      · exact hd
    refine ⟨⟨⟨h.awake.por, h.awake.resetPending⟩, h.phy, ?_, hi⟩, ?_⟩
    · simp
    · simpa +decide using hmird

lemma triple_writeMii :
    Triple machine steadyPhy.rely noGuarantee (MiiIdle φ cmd) (writePhySfr (phyAddr reg) v)
      fun _ => MiiIdle (Function.update φ reg v) cmd := by
  have hend : ∀ w, MiiWriting φ cmd reg v w → w.chip.mii = .idle →
      MiiIdle (Function.update φ reg v) cmd w := by
    intro w h hi
    rcases h.mii with ⟨hm, -⟩ | ⟨-, hp⟩
    · rw [hm] at hi
      cases hi
    · exact ⟨h.awake, hp, h.micmd, hi⟩
  refine WriteAccess.triple (S := MiiSelected φ cmd reg) (A := MiiWriting φ cmd reg v)
    ⟨stable_miiIdle, stable_miiSelected, stable_miiWriting, ?_, ?_, fun w h => h.select reg, ?_,
      hend⟩
  · intro w w' h hR
    exact ⟨stable_miiWriting w w' h.1 hR, (stable_miiIdle w w' (hend w h.1 h.2) hR).mii⟩
  · rintro w (h | h | h)
    · exact h.awake.por
    · exact h.awake.por
    · exact h.awake.por
  · intro w h
    rw [h.miregadr]
    refine ⟨⟨h.awake.por, h.awake.resetPending⟩, ?_, Or.inl ⟨rfl, h.phy⟩⟩
    simpa +decide using h.micmd

lemma triple_setMii :
    Triple machine steadyPhy.rely noGuarantee (MiiIdle φ cmd) (bitFieldSetPhySfr (phyAddr reg) mask)
      fun _ => MiiIdle (Function.update φ reg (φ reg ||| mask)) 0#16 := by
  refine Triple.bind triple_readMii fun r => Triple.of_and ?_
  rintro rfl
  exact triple_writeMii

lemma triple_clearMii :
    Triple machine steadyPhy.rely noGuarantee (MiiIdle φ cmd)
      (bitFieldClearPhySfr (phyAddr reg) mask)
      fun _ => MiiIdle (Function.update φ reg (φ reg &&& ~~~mask)) 0#16 := by
  refine Triple.bind triple_readMii fun r => Triple.of_and ?_
  rintro rfl
  exact triple_writeMii

/-! ### Any number of polls -/

/-- The event is a read of `MISTAT` that finds the interface busy. -/
def isBusyPoll : Event Op Op.Res → Bool
  | ⟨.spi (.readSfr a), mistat⟩ => a = MISTAT && decide (mistat &&& BUSY ≠ 0#16)
  | _ => false

/-- How often the interface was found busy. -/
def busyPolls (t : List (Event Op Op.Res)) : ℕ := t.countP isBusyPoll

@[simp] lemma busyPolls_append (s t : List (Event Op Op.Res)) :
    busyPolls (s ++ t) = busyPolls s + busyPolls t := List.countP_append

lemma busy_of_mii {c : Chip} (h : c.mii ≠ .idle) : c.shown MISTAT &&& BUSY ≠ 0#16 := by
  intro hz
  exact h ((mistat_busy c).1 (by simp [hz]))

/-- The wait finds the interface busy `n` times before the access ends. -/
lemma exists_awaitMii (ha : w.chip.Awake) (hm : w.chip.mii ≠ .idle) (n : ℕ) :
    ∃ t v, Returns machine steadyPhy.rely awaitMii w t () v ∧ busyPolls t = n := by
  have hbody : ∀ {u : World}, u.chip.Awake → Returns machine steadyPhy.rely
      (.op (.spi (.readSfr MISTAT)) fun mistat => .pure (!decide (mistat &&& BUSY > 0#16))) u
        [sfrRead MISTAT (u.chip.shown MISTAT)]
          (!decide (u.chip.shown MISTAT &&& BUSY > 0#16)) u :=
    fun hu => Returns.op (step_spi hu.por (.readSfr MISTAT)) (Returns.pure_drift _ .refl)
  induction n with
  | zero =>
    -- the access ends before the first poll
    have hR : steadyPhy.rely w { w with chip := ChipEvent.miiDone.apply w.chip } :=
      ⟨.miiDone, by simp [steadyPhy], hm, rfl⟩
    have hi : (ChipEvent.miiDone.apply w.chip).mii = .idle := by
      cases hmii : w.chip.mii with
      | idle => exact absurd hmii hm
      | reading reg => rw [apply_miiDone_reading hmii]
      | writing reg v => rw [apply_miiDone_writing hmii]
    have hb := hbody (stable_awake _ _ ha hR)
    have hidle := (mistat_busy (ChipEvent.miiDone.apply w.chip)).2 hi
    rw [hidle] at hb
    refine ⟨_, _, Returns.drift_left (.single hR) (hb.loop (Returns.pure_drift () .refl)), ?_⟩
    have hz : (ChipEvent.miiDone.apply w.chip).shown MISTAT &&& BUSY = 0#16 := by
      simpa using hidle
    simp [busyPolls, isBusyPoll, hz]
  | succ n ih =>
    obtain ⟨t, v, ht, hn⟩ := ih
    have hbusy := busy_of_mii hm
    have hb := hbody ha
    have hfalse : (!decide (w.chip.shown MISTAT &&& BUSY > 0#16)) = false := by
      rw [decide_eq_true (gt_zero_iff.2 hbusy)]
      rfl
    rw [hfalse] at hb
    refine ⟨_, v, hb.loop ht, ?_⟩
    have h1 : busyPolls [sfrRead MISTAT (w.chip.shown MISTAT)] = 1 := by
      simp [busyPolls, isBusyPoll, hbusy]
    rw [busyPolls_append, h1, hn, Nat.add_comm]

/-- Only reads of `MISTAT` are polls. -/
lemma busyPolls_eq_zero {t : List (Event Op Op.Res)}
    (h : ∀ e ∈ t, e.1 ≠ .spi (.readSfr MISTAT)) : busyPolls t = 0 := by
  refine List.countP_eq_zero.2 fun e he hb => h e he ?_
  obtain ⟨o, r⟩ := e
  unfold isBusyPoll at hb
  split at hb
  · rename_i a mistat heq
    cases heq
    simp only [Bool.and_eq_true, decide_eq_true_eq] at hb
    rw [hb.1]
  · cases hb

/-- Two writes, the second of which starts an access, the delay, and the wait. -/
def accessMii (x : Word) (a : Byte) (y : Word) : Driver Unit := do
  writeSfrUnbanked MIREGADR x
  writeSfrUnbanked a y
  halDelay 30#8
  awaitMii

lemma exists_accessMii {x y : Word} {a : Byte} {c : Chip} (ha : w.chip.Awake)
    (hc : (w.chip.setSfr MIREGADR x).writeSfr a y = c) (hm : c.mii ≠ .idle) (hawake : c.Awake)
    (n : ℕ) : ∃ t v, Returns machine steadyPhy.rely (accessMii x a y) w t () v ∧
      busyPolls t = n := by
  subst hc
  let selected : World := { w with chip := w.chip.setSfr MIREGADR x }
  let started : World := { w with chip := (w.chip.setSfr MIREGADR x).writeSfr a y }
  have hselect : machine.step w (.spi (.writeSfr MIREGADR x)) () selected := by
    have hs := step_spi ha.por (.writeSfr MIREGADR x)
    simp only [Chip.perform] at hs
    rwa [Chip.writeSfr_of_ne _ (by decide)] at hs
  have hstart : machine.step selected (.spi (.writeSfr a y)) () started :=
    step_spi (w := selected) ha.por (.writeSfr a y)
  have hdelay : machine.step started (.loc (.delay 30#8)) () started := rfl
  obtain ⟨t, v, ht, hn⟩ := exists_awaitMii (w := started) hawake hm n
  refine ⟨_, v, Returns.op hselect (Returns.op hstart (Returns.op hdelay ht)), ?_⟩
  have hfront : busyPolls [sfrWrite MIREGADR x, sfrWrite a y, ⟨.loc (.delay 30#8), ()⟩] = 0 := rfl
  have hsplit := busyPolls_append [sfrWrite MIREGADR x, sfrWrite a y, ⟨.loc (.delay 30#8), ()⟩] t
  rw [hfront, hn, Nat.zero_add] at hsplit
  exact hsplit

variable (reg) in
lemma exists_readMii (ha : w.chip.Awake) (n : ℕ) : ∃ t r v,
    Returns machine steadyPhy.rely (readPhySfr (phyAddr reg)) w t r v ∧ busyPolls t = n := by
  have hw := (w.chip.setSfr MIREGADR (0x0100#16 ||| (phyAddr reg).setWidth 16)).writeSfr_micmd_one
  obtain ⟨t, u, ht, hn⟩ := exists_accessMii ha hw (by simp) ⟨ha.por, ha.resetPending⟩ n
  let rest : Driver Word := (writeSfrUnbanked MICMD 0x0000#16).bind fun _ => readSfrUnbanked MIRD
  have hsplit : readPhySfr (phyAddr reg) =
      (accessMii (0x0100#16 ||| (phyAddr reg).setWidth 16) MICMD 0x0001#16).bind fun _ => rest :=
    rfl
  obtain ⟨s, r, v, hs⟩ := exists_returns_of_loopFree (R := steadyPhy.rely) machine_total rest
    (fun _ _ => trivial) u
  have hall : rest.All (· ≠ .spi (.readSfr MISTAT)) :=
    ⟨by simp, fun _ => ⟨by decide, fun _ => trivial⟩⟩
  rw [hsplit]
  refine ⟨_, r, v, Returns.bind ht hs, ?_⟩
  rw [busyPolls_append, hn, busyPolls_eq_zero (Reach.events hall hs).1]
  rfl

variable (reg) in
lemma exists_writeMii (ha : w.chip.Awake) (n : ℕ) : ∃ t u,
    Returns machine steadyPhy.rely (writePhySfr (phyAddr reg) v) w t () u ∧ busyPolls t = n := by
  have hw := (w.chip.setSfr MIREGADR (0x0100#16 ||| (phyAddr reg).setWidth 16)).writeSfr_miwr v
  exact exists_accessMii ha hw (by simp) ⟨ha.por, ha.resetPending⟩ n

/-- **PHY bit-field updates are exact.** From any state in which no access is under way: a read
answers with the content of the register; setting and clearing bits changes the addressed register
by the mask, and no other one; `MICMD` is zero in the end; and all this for any number of polls
that find the interface busy. -/
theorem phy_bit_fields_exact (ha : w.chip.Awake) (hm : w.chip.mii = .idle) (reg : BitVec 5)
    (mask : Word) :
    (∀ t r v, Returns machine steadyPhy.rely (readPhySfr (phyAddr reg)) w t r v →
      r = w.chip.phy reg ∧ MiiIdle w.chip.phy 0#16 v) ∧
    (∀ t v, Returns machine steadyPhy.rely (bitFieldSetPhySfr (phyAddr reg) mask) w t () v →
      MiiIdle (Function.update w.chip.phy reg (w.chip.phy reg ||| mask)) 0#16 v) ∧
    (∀ t v, Returns machine steadyPhy.rely (bitFieldClearPhySfr (phyAddr reg) mask) w t () v →
      MiiIdle (Function.update w.chip.phy reg (w.chip.phy reg &&& ~~~mask)) 0#16 v) ∧
    ∀ n, (∃ t r v, Returns machine steadyPhy.rely (readPhySfr (phyAddr reg)) w t r v ∧
        busyPolls t = n) ∧
      (∃ t v, Returns machine steadyPhy.rely (bitFieldSetPhySfr (phyAddr reg) mask) w t () v ∧
        busyPolls t = n) ∧
      ∃ t v, Returns machine steadyPhy.rely (bitFieldClearPhySfr (phyAddr reg) mask) w t () v ∧
        busyPolls t = n := by
  have hw : MiiIdle w.chip.phy (w.chip.sfr MICMD) w := ⟨ha, rfl, rfl, hm⟩
  refine ⟨fun t r v h => triple_readMii.returns hw h, fun t v h => triple_setMii.returns hw h,
    fun t v h => triple_clearMii.returns hw h, fun n => ⟨exists_readMii reg ha n, ?_, ?_⟩⟩
  -- all polls but the last of the second access fall into the first one
  · obtain ⟨t, r, u, hr, hn⟩ := exists_readMii reg ha n
    obtain ⟨s, v, hv, h0⟩ := exists_writeMii reg (v := r ||| mask)
      (triple_readMii.returns hw hr).2.awake 0
    exact ⟨_, v, Returns.bind hr hv, by rw [busyPolls_append, hn, h0]; rfl⟩
  · obtain ⟨t, r, u, hr, hn⟩ := exists_readMii reg ha n
    obtain ⟨s, v, hv, h0⟩ := exists_writeMii reg (v := r &&& ~~~mask)
      (triple_readMii.returns hw hr).2.awake 0
    exact ⟨_, v, Returns.bind hr hv, by rw [busyPolls_append, hn, h0]; rfl⟩

/-- Enabling the auto-negotiation after a reset, with three polls that find the interface busy. -/
theorem phy_bit_fields_exact_phcon1 : ∃ t v,
    Returns machine steadyPhy.rely (bitFieldSetPhySfr PHCON1 ANEN)
      { powered with chip := resetChip CLKRDY } t () v ∧ busyPolls t = 3 ∧
        v.chip.phy 0#5 = ANEN ∧ v.chip.sfr MICMD = 0#16 := by
  obtain ⟨-, hset, -, hpolls⟩ := phy_bit_fields_exact
    (w := { powered with chip := resetChip CLKRDY }) ⟨rfl, rfl⟩ rfl 0#5 ANEN
  obtain ⟨-, ⟨t, v, h, hn⟩, -⟩ := hpolls 3
  have hv := hset t v h
  refine ⟨t, v, h, hn, ?_, hv.micmd⟩
  rw [hv.phy, Function.update_self]
  decide

end Enc624j600
