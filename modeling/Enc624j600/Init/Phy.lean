/-
# Access to the PHY registers

A PHY register is read and written through the MII interface: the driver selects it, starts
the access, and waits until `MISTAT` shows that the access ended.  An access under way is
part of the state of the chip; the loop ends when it is over, however long that takes.
-/
import Enc624j600.Init.Shadow

namespace Enc624j600

open Interaction

variable {E : Surroundings} {g : Shadow} {w : World} {reg : Byte} {v : Word}

/-- The agreement with the shadow while register `reg` is selected. -/
structure Selected (g : Shadow) (reg : Byte) (w : World) : Prop extends Agrees g w where
  miregadr : w.chip.sfr MIREGADR = 0x0100#16 ||| reg.setWidth 16

/-- A read access to `reg` is under way, or it has ended with the value of the register. -/
structure ReadingPhy (g : Shadow) (reg : Byte) (w : World) : Prop extends AgreesSfr g w where
  phy : AgreesPhy g w.chip
  mii : w.chip.mii = .reading (reg.setWidth 5) ∨ w.chip.mii = .idle ∧
    (¬ IsPhyStatus (reg.setWidth 5) → w.chip.sfr MIRD = g.phy (reg.setWidth 5))

/-- A write access to `reg` is under way, or it has ended. -/
structure WritingPhy (g : Shadow) (reg : Byte) (v : Word) (w : World) : Prop extends
    AgreesSfr g w where
  mii : w.chip.mii = .writing (reg.setWidth 5) v ∧ AgreesPhy g w.chip ∨
    w.chip.mii = .idle ∧ AgreesPhy (g.setPhy (reg.setWidth 5) v) w.chip

/-- The register that was read is in `MIRD`. -/
structure ReadPhy (g : Shadow) (reg : Byte) (w : World) : Prop extends Agrees g w where
  mird : ¬ IsPhyStatus (reg.setWidth 5) → w.chip.sfr MIRD = g.phy (reg.setWidth 5)

/-! ### Stability -/

lemma stable_selected : Stable E.rely (Selected g reg) := by
  intro w w' h hR
  refine ⟨stable_agrees w w' h.toAgrees hR, ?_⟩
  rw [(rely_undisturbed h.awake hR).sfr _ (by decide)]
  exact h.miregadr

/-- `MIRD` changes at the end of a read access only. -/
lemma mird_apply {c : Chip} {e : ChipEvent} (hc : c.Awake) (hi : c.mii = .idle)
    (he : e.Enabled c) : (e.apply c).sfr MIRD = c.sfr MIRD := by
  cases e with
  | powerUp => exact absurd he (by simp [ChipEvent.Enabled, hc.por])
  | noise => exact absurd he (by simp [ChipEvent.Enabled, hc.por])
  | resetDone post => exact absurd he.1 (by simp [hc.resetPending])
  | miiDone => exact absurd hi he
  | _ => simp +decide [ChipEvent.apply]

lemma stable_readPhy : Stable E.rely (ReadPhy g reg) := by
  intro w w' h hR
  refine ⟨stable_agrees w w' h.toAgrees hR, ?_⟩
  obtain ⟨e, -, he, rfl⟩ := hR
  rw [mird_apply h.awake h.idle he]
  exact h.mird

lemma stable_readingPhy : Stable E.rely (ReadingPhy g reg) := by
  rintro w _ h hR
  have hs := h.toAgreesSfr.rely hR
  obtain ⟨e, hE, he, rfl⟩ := hR
  rcases h.mii with hm | ⟨hi, hv⟩
  · -- the access is under way
    cases e with
    | powerUp => exact absurd he (by simp [ChipEvent.Enabled, h.awake.por])
    | noise => exact absurd he (by simp [ChipEvent.Enabled, h.awake.por])
    | resetDone post => exact absurd he.1 (by simp [h.awake.resetPending])
    | phyStatus reg' value =>
      refine ⟨hs, ?_, Or.inl hm⟩
      intro r hr
      have hne : r ≠ reg' := fun heq => hr (heq ▸ he)
      simpa [ChipEvent.apply, hne] using h.phy r hr
    | miiDone =>
      have hc : ChipEvent.miiDone.apply w.chip =
          { w.chip.setSfr MIRD (w.chip.phy (reg.setWidth 5)) with mii := .idle } := by
        simp only [ChipEvent.apply, hm]
      refine ⟨hs, ?_, Or.inr ⟨by rw [hc], ?_⟩⟩
      · rw [hc]
        exact h.phy
      · intro hr
        rw [hc, ← h.phy _ hr]
        simp
    | _ => exact ⟨hs, h.phy, Or.inl hm⟩
  · obtain ⟨hp, hi'⟩ := h.phy.apply h.awake hi he
    refine ⟨hs, hp, Or.inr ⟨hi', ?_⟩⟩
    rw [mird_apply h.awake hi he]
    exact hv

lemma stable_writingPhy : Stable E.rely (WritingPhy g reg v) := by
  rintro w _ h hR
  have hs := h.toAgreesSfr.rely hR
  obtain ⟨e, hE, he, rfl⟩ := hR
  rcases h.mii with ⟨hm, hp⟩ | ⟨hi, hp⟩
  · -- the access is under way
    cases e with
    | powerUp => exact absurd he (by simp [ChipEvent.Enabled, h.awake.por])
    | noise => exact absurd he (by simp [ChipEvent.Enabled, h.awake.por])
    | resetDone post => exact absurd he.1 (by simp [h.awake.resetPending])
    | phyStatus reg' value =>
      refine ⟨hs, Or.inl ⟨hm, ?_⟩⟩
      intro r hr
      have hne : r ≠ reg' := fun heq => hr (heq ▸ he)
      simpa [ChipEvent.apply, hne] using hp r hr
    | miiDone =>
      have hc : ChipEvent.miiDone.apply w.chip = { w.chip with
          phy := Function.update w.chip.phy (reg.setWidth 5) v, mii := .idle } := by
        simp only [ChipEvent.apply, hm]
      refine ⟨hs, Or.inr ⟨by rw [hc], ?_⟩⟩
      intro r hr
      rw [hc]
      simp only [Shadow.setPhy_phy, Function.update_apply, hp r hr]
    | _ => exact ⟨hs, Or.inl ⟨hm, hp⟩⟩
  · obtain ⟨hp', hi'⟩ := hp.apply h.awake hi he
    exact ⟨hs, Or.inr ⟨hi', hp'⟩⟩

/-! ### The access functions -/

/-- The busy wait ends with the access. -/
lemma mistat_busy (c : Chip) : (!decide (c.shown MISTAT &&& BUSY > 0#16)) = true ↔
    c.mii = .idle := by
  have hs : c.shown MISTAT = if c.mii = .idle then c.sfr MISTAT &&& ~~~BUSY
      else c.sfr MISTAT ||| BUSY := by simp +decide [Chip.shown]
  have hb : (BUSY : Word) ≠ 0#16 := by decide
  rw [hs]
  by_cases h : c.mii = .idle
  · simp [h]
  · simp [h]

/-- Waiting for the end of an access, in a state that the access and its end keep. -/
lemma triple_awaitMii {P : World → Prop} (hP : Stable E.rely P)
    (hpor : ∀ w, P w → w.chip.por = false) (hi : Stable E.rely fun w => P w ∧ w.chip.mii = .idle) :
    Triple machine E.rely noGuarantee P awaitMii fun _ w => P w ∧ w.chip.mii = .idle := by
  refine Triple.loop (T := fun x w => P w ∧ (x = true → w.chip.mii = .idle)) hP ?_
    (fun w h => h.1) ?_
  · have hst : ∀ x : Bool, Stable E.rely fun w => P w ∧ (x = true → w.chip.mii = .idle) := by
      intro x w w' h hR
      refine ⟨hP w w' h.1 hR, fun hx => (hi w w' ⟨h.1, h.2 hx⟩ hR).2⟩
    refine triple_spi (T := fun r w => P w ∧
      ((!decide (r &&& BUSY > 0#16)) = true → w.chip.mii = .idle)) hP hpor ?_ ?_
    · intro w h
      exact ⟨trivial, h, (mistat_busy w.chip).1⟩
    · intro r
      exact Triple.pure (hst _) fun w h => h
  · refine (Triple.pure hi fun w h => h).pre ?_
    exact fun w h => ⟨h.1, h.2 rfl⟩

/-- The states of a read access to `reg`: `P` before it, `S` with the register selected, `A` with
the access under way or over, and `D` with `MICMD` cleared again.  Each write leads from one to the
next. -/
structure ReadAccess (E : Surroundings) (reg : Byte) (P S A D : World → Prop)
    (Q : Word → World → Prop) : Prop where
  stable_before : Stable E.rely P
  stable_selected : Stable E.rely S
  stable_reading : Stable E.rely A
  stable_done : Stable E.rely fun w => A w ∧ w.chip.mii = .idle
  stable_read : Stable E.rely D
  stable_post : ∀ r, Stable E.rely (Q r)
  por : ∀ w, P w ∨ S w ∨ A w ∨ D w → w.chip.por = false
  select : ∀ w, P w →
    S { w with chip := w.chip.setSfr MIREGADR (0x0100#16 ||| reg.setWidth 16) }
  start : ∀ w, S w → A { w with chip := { w.chip.setSfr MICMD 0x0001#16 with
    mii := .reading ((w.chip.sfr MIREGADR).setWidth 5) } }
  clear : ∀ w, A w → w.chip.mii = .idle → D { w with chip := w.chip.setSfr MICMD 0x0000#16 }
  answer : ∀ w, D w → Q (w.chip.sfr MIRD) w

/-- The states of a write access to `reg`: `P` before it, `S` with the register selected, and `A`
with the access under way or over. -/
structure WriteAccess (E : Surroundings) (reg : Byte) (v : Word) (P S A Q : World → Prop) :
    Prop where
  stable_before : Stable E.rely P
  stable_selected : Stable E.rely S
  stable_writing : Stable E.rely A
  stable_done : Stable E.rely fun w => A w ∧ w.chip.mii = .idle
  por : ∀ w, P w ∨ S w ∨ A w → w.chip.por = false
  select : ∀ w, P w →
    S { w with chip := w.chip.setSfr MIREGADR (0x0100#16 ||| reg.setWidth 16) }
  start : ∀ w, S w → A { w with chip := { w.chip.setSfr MIWR v with
    mii := .writing ((w.chip.sfr MIREGADR).setWidth 5) v } }
  done : ∀ w, A w → w.chip.mii = .idle → Q w

/-- Selecting a PHY register. -/
lemma triple_select {α : Type} {P S : World → Prop} {Q : α → World → Prop} {k : Unit → Driver α}
    (hP : Stable E.rely P) (hpor : ∀ w, P w → w.chip.por = false)
    (hS : ∀ w, P w →
      S { w with chip := w.chip.setSfr MIREGADR (0x0100#16 ||| reg.setWidth 16) })
    (hk : Triple machine E.rely noGuarantee S (k ()) Q) :
    Triple machine E.rely noGuarantee P
      ((writeSfrUnbanked MIREGADR (0x0100#16 ||| reg.setWidth 16)).bind k) Q := by
  refine triple_spi (T := fun _ => S) hP hpor ?_ fun _ => hk
  intro w h
  simp only [Chip.perform]
  rw [Chip.writeSfr_of_ne _ (by decide)]
  exact ⟨trivial, hS w h⟩

lemma ReadAccess.triple {P S A D : World → Prop} {Q : Word → World → Prop}
    (h : ReadAccess E reg P S A D Q) :
    Triple machine E.rely noGuarantee P (readPhySfr reg) Q := by
  refine triple_select h.stable_before (fun w hw => h.por w (Or.inl hw)) h.select ?_
  -- the access starts
  refine triple_spi (T := fun _ => A) h.stable_selected
    (fun w hw => h.por w (Or.inr (Or.inl hw))) ?_ fun _ => ?_
  · intro w hw
    simp only [Chip.perform]
    rw [Chip.writeSfr_micmd_one]
    exact ⟨trivial, h.start w hw⟩
  refine triple_loc (T := fun _ => A) h.stable_reading (fun w hw => ⟨trivial, hw⟩) fun _ => ?_
  have hpor : ∀ w, A w → w.chip.por = false :=
    fun w hw => h.por w (Or.inr (Or.inr (Or.inl hw)))
  change Triple _ _ _ _ (awaitMii.bind _) _
  refine Triple.bind (triple_awaitMii h.stable_reading hpor h.stable_done) fun _ => ?_
  -- the access is over, and `MIRD` holds the register
  refine triple_spi (T := fun _ => D) h.stable_done (fun w hw => hpor w hw.1) ?_ fun _ => ?_
  · rintro w ⟨hw, hi⟩
    simp only [Chip.perform]
    rw [Chip.writeSfr_micmd_zero]
    exact ⟨trivial, h.clear w hw hi⟩
  refine triple_spi (T := Q) h.stable_read
    (fun w hw => h.por w (Or.inr (Or.inr (Or.inr hw)))) ?_
    fun r => Triple.pure (h.stable_post r) fun _ hw => hw
  intro w hw
  simp only [Chip.perform]
  rw [Chip.shown_of_ne _ (by decide)]
  exact ⟨trivial, h.answer w hw⟩

lemma WriteAccess.triple {P S A Q : World → Prop} (h : WriteAccess E reg v P S A Q) :
    Triple machine E.rely noGuarantee P (writePhySfr reg v) fun _ => Q := by
  refine triple_select h.stable_before (fun w hw => h.por w (Or.inl hw)) h.select ?_
  refine triple_spi (T := fun _ => A) h.stable_selected
    (fun w hw => h.por w (Or.inr (Or.inl hw))) ?_ fun _ => ?_
  · intro w hw
    simp only [Chip.perform]
    rw [Chip.writeSfr_miwr]
    exact ⟨trivial, h.start w hw⟩
  refine triple_loc (T := fun _ => A) h.stable_writing (fun w hw => ⟨trivial, hw⟩) fun _ => ?_
  exact (triple_awaitMii h.stable_writing (fun w hw => h.por w (Or.inr (Or.inr hw)))
    h.stable_done).post fun _ w hw => h.done w hw.1 hw.2

/-- `MIREGADR` selects the register by its low five bits. -/
lemma setWidth_miregadr (reg : Byte) :
    (0x0100#16 ||| reg.setWidth 16).setWidth 5 = reg.setWidth 5 := by
  revert reg
  decide

/-- Selecting a register leaves the agreement alone. -/
lemma Agrees.select (h : Agrees g w) (reg : Byte) : Selected g reg
    { w with chip := w.chip.setSfr MIREGADR (0x0100#16 ||| reg.setWidth 16) } :=
  ⟨h.setUntracked (by decide), by simp⟩

/-- **Reading a PHY register.** A register that only the driver changes is answered with its
value. -/
lemma agrees_readPhy :
    Triple machine E.rely noGuarantee (Agrees g) (readPhySfr reg) fun r w =>
      (¬ IsPhyStatus (reg.setWidth 5) → r = g.phy (reg.setWidth 5)) ∧ Agrees g w := by
  refine ReadAccess.triple (S := Selected g reg) (A := ReadingPhy g reg) (D := ReadPhy g reg)
    ⟨stable_agrees, stable_selected, stable_readingPhy, ?_, stable_readPhy,
      fun r => (stable_const _).and stable_agrees, ?_, fun w h => h.select reg, ?_, ?_,
      fun w h => ⟨h.mird, h.toAgrees⟩⟩
  · intro w w' h hR
    refine ⟨stable_readingPhy w w' h.1 hR, ?_⟩
    obtain ⟨e, -, he, rfl⟩ := hR
    exact (h.1.phy.apply h.1.awake h.2 he).2
  · rintro w (h | h | h | h)
    · exact h.awake.por
    · exact h.awake.por
    · exact h.awake.por
    · exact h.awake.por
  · intro w h
    rw [h.miregadr, setWidth_miregadr]
    refine ⟨⟨⟨h.awake.por, h.awake.resetPending⟩, ?_, h.pointer, h.duplexMode, h.next, h.stored⟩,
      h.phy, Or.inl rfl⟩
    intro b hb
    have hne : b ≠ MICMD := hb.2.1
    simp only [Chip.setSfr_sfr, if_neg hne, h.sfr b hb]
  · intro w h hi
    rcases h.mii with hm | ⟨-, hv⟩
    · rw [hm] at hi
      cases hi
    · have ha : Agrees g w := ⟨h.toAgreesSfr, h.phy, hi⟩
      exact ⟨ha.setUntracked (by decide), by simpa +decide using hv⟩

/-- **Writing a PHY register.** -/
lemma agrees_writePhy :
    Triple machine E.rely noGuarantee (Agrees g) (writePhySfr reg v)
      fun _ => Agrees (g.setPhy (reg.setWidth 5) v) := by
  have hend : ∀ w, WritingPhy g reg v w → w.chip.mii = .idle →
      Agrees (g.setPhy (reg.setWidth 5) v) w := by
    intro w h hi
    rcases h.mii with ⟨hm, -⟩ | ⟨-, hp⟩
    · rw [hm] at hi
      cases hi
    · exact ⟨⟨h.awake, h.sfr, h.pointer, h.duplexMode, h.next, h.stored⟩, hp, hi⟩
  refine WriteAccess.triple (S := Selected g reg) (A := WritingPhy g reg v)
    ⟨stable_agrees, stable_selected, stable_writingPhy, ?_, ?_, fun w h => h.select reg, ?_, hend⟩
  · intro w w' h hR
    exact ⟨stable_writingPhy w w' h.1 hR, (stable_agrees w w' (hend w h.1 h.2) hR).idle⟩
  · rintro w (h | h | h)
    · exact h.awake.por
    · exact h.awake.por
    · exact h.awake.por
  · intro w h
    rw [h.miregadr, setWidth_miregadr]
    refine ⟨⟨⟨h.awake.por, h.awake.resetPending⟩, ?_, h.pointer, h.duplexMode, h.next,
      h.stored⟩, Or.inl ⟨rfl, h.phy⟩⟩
    intro b hb
    have hne : b ≠ MIWR := hb.2.2.2
    simp only [Chip.setSfr_sfr, if_neg hne, h.sfr b hb]

lemma agrees_setPhyBits {mask : Word} (hreg : ¬ IsPhyStatus (reg.setWidth 5)) :
    Triple machine E.rely noGuarantee (Agrees g) (bitFieldSetPhySfr reg mask)
      fun _ => Agrees (g.setPhy (reg.setWidth 5) (g.phy (reg.setWidth 5) ||| mask)) := by
  refine Triple.bind agrees_readPhy fun r => Triple.of_and fun hr => ?_
  rw [hr hreg]
  exact agrees_writePhy

lemma agrees_clearPhyBits {mask : Word} (hreg : ¬ IsPhyStatus (reg.setWidth 5)) :
    Triple machine E.rely noGuarantee (Agrees g) (bitFieldClearPhySfr reg mask)
      fun _ => Agrees (g.setPhy (reg.setWidth 5) (g.phy (reg.setWidth 5) &&& ~~~mask)) := by
  refine Triple.bind agrees_readPhy fun r => Triple.of_and fun hr => ?_
  rw [hr hreg]
  exact agrees_writePhy

end Enc624j600
