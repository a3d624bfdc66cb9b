/-
# The reset

`reset` waits until the chip follows instructions and its clock is ready, requests a system
reset, and waits until `EUDAST` reads as zero.  Before the request `EUDAST` holds `0x1234`, so
the last wait ends after the reset took effect and not before.
-/
import Enc624j600.Init.Shadow

namespace Enc624j600

open Interaction

variable {E : Surroundings} {w w' w₀ : World}

/-- A chip that neither receives nor sends, and that has not done so since its last reset. -/
structure Dormant (c : Chip) : Prop where
  awake : c.Awake
  not_transmitting : ¬ c.Transmitting
  not_receiving : ¬ c.Receiving
  etxstat : c.sfr ETXSTAT = 0#16
  pktcnt : c.pktcnt = 0#8
  deposited : c.deposited = []
  delivered : c.delivered = 0
  wire : c.wire = []

/-- The chip after a system reset. -/
structure Fresh (c : Chip) : Prop extends Dormant c where
  mii : c.mii = .idle

lemma Dormant.apply {c : Chip} {e : ChipEvent} (h : Dormant c) (he : e.Enabled c) :
    Dormant (e.apply c) ∧ SameRing c (e.apply c) := by
  have hu := ChipEvent.undisturbed h.awake he
  have hrx : ¬ (e.apply c).Receiving := by
    rw [ChipEvent.receiving_iff h.awake he]
    exact h.not_receiving
  have ha : ¬ e.Arrives := by
    intro ha
    cases e with
    | store bytes => exact h.not_receiving he
    | deposit f rsv => exact h.not_receiving he.1
    | _ => exact ha
  have ht : ∀ o, e ≠ .transmitted o := by
    rintro o rfl
    exact h.not_transmitting he
  obtain ⟨htx, hstat, -, hwire⟩ := ChipEvent.sameTransmitter h.awake he ht
  have hs := ChipEvent.sameRing h.awake he ha
  refine ⟨⟨hu.awake h.awake, ?_, hrx, hstat.trans h.etxstat, hs.pktcnt.trans h.pktcnt,
    hs.deposited.trans h.deposited, hu.delivered.trans h.delivered, hwire.trans h.wire⟩, hs⟩
  rw [htx]
  exact h.not_transmitting

lemma Fresh.apply {c : Chip} {e : ChipEvent} (h : Fresh c) (he : e.Enabled c) :
    Fresh (e.apply c) := by
  refine ⟨(h.toDormant.apply he).1, ?_⟩
  cases e with
  | resetDone post => exact he.2.mii
  | miiDone => exact absurd h.mii he
  | _ => exact h.mii

lemma PostReset.fresh {c : Chip} (h : PostReset c) (n : ℕ) : Fresh { c with resets := n } := by
  refine ⟨⟨⟨h.por, h.resetPending⟩, ?_, ?_, h.etxstat, h.pktcnt, h.deposited, h.delivered,
    h.wire⟩, h.mii⟩
  · simp [Chip.Transmitting, h.econ1]
  · simp [Chip.Receiving, h.econ1]

/-- The variables of the driver, and what it stored for its callers. -/
structure SameDriver (w₀ w : World) : Prop where
  duplexMode : w.duplexMode = w₀.duplexMode
  next : w.nextReceiveFramePointer = w₀.nextReceiveFramePointer
  stored : w.stored = w₀.stored

lemma SameDriver.rely (h : SameDriver w₀ w) (hR : E.rely w w') : SameDriver w₀ w' := by
  obtain ⟨hd, hn, hs⟩ := rely_driver hR
  exact ⟨hd.trans h.duplexMode, hn.trans h.next, hs.trans h.stored⟩

/-! ### The stages of the reset -/

/-- No reset was requested since `w₀`. -/
structure Unasked (w₀ w : World) : Prop extends SameDriver w₀ w where
  resetPending : w.chip.resetPending = false
  resets : w.chip.resets = w₀.chip.resets

/-- The chip follows instructions. -/
structure Following (w₀ w : World) : Prop extends Unasked w₀ w where
  por : w.chip.por = false
  eudast : w.chip.sfr EUDAST = 0x1234#16

/-- The reset was requested and has not taken effect. -/
structure Asked (w₀ w : World) : Prop extends SameDriver w₀ w where
  por : w.chip.por = false
  resetPending : w.chip.resetPending = true
  resets : w.chip.resets = w₀.chip.resets
  eudast : w.chip.sfr EUDAST = 0x1234#16

/-- The reset took effect. -/
structure Done (w₀ w : World) : Prop extends SameDriver w₀ w where
  fresh : Fresh w.chip
  resets : w.chip.resets = w₀.chip.resets + 1

lemma stable_unasked : Stable E.rely (Unasked w₀) := by
  rintro w _ h ⟨e, hE, he, rfl⟩
  refine ⟨h.toSameDriver.rely ⟨e, hE, he, rfl⟩, ?_, ?_⟩
  all_goals
    cases e with
    | resetDone post => exact absurd he.1 (by simp [h.resetPending])
    | miiDone =>
      simp only [ChipEvent.apply]
      split
      · first | exact h.resetPending | exact h.resets
      · first | exact h.resetPending | exact h.resets
      · first | exact h.resetPending | exact h.resets
    | _ => first | exact h.resetPending | exact h.resets

lemma Following.awake (h : Following w₀ w) : w.chip.Awake := ⟨h.por, h.resetPending⟩

lemma stable_following : Stable E.rely (Following w₀) := by
  intro w w' h hR
  have hu := rely_undisturbed h.awake hR
  exact ⟨stable_unasked w w' h.toUnasked hR, hu.por.trans h.por,
    (hu.sfr _ (by decide)).trans h.eudast⟩

lemma stable_done : Stable E.rely (Done w₀) := by
  intro w w' h hR
  have hu := rely_undisturbed h.fresh.awake hR
  refine ⟨h.toSameDriver.rely hR, ?_, hu.resets.trans h.resets⟩
  obtain ⟨e, -, he, rfl⟩ := hR
  exact h.fresh.apply he

lemma stable_asked_or_done : Stable E.rely fun w => Asked w₀ w ∨ Done w₀ w := by
  rintro w w' (h | h) hR
  · have hd := h.toSameDriver.rely hR
    obtain ⟨e, hE, he, rfl⟩ := hR
    by_cases hr : ∃ post, e = .resetDone post
    · obtain ⟨post, rfl⟩ := hr
      exact Or.inr ⟨hd, he.2.fresh _, congrArg (· + 1) h.resets⟩
    · have hu := ChipEvent.undisturbed_of_running h.por (fun post hp => hr ⟨post, hp⟩) he
      exact Or.inl ⟨hd, hu.por.trans h.por, hu.resetPending.trans h.resetPending,
        hu.resets.trans h.resets, (hu.sfr _ (by decide)).trans h.eudast⟩
  · exact Or.inr (stable_done w w' h hR)

/-! ### The waits -/

/-- The wait for the end of the power-on reset. -/
lemma triple_powerOn {α : Type} {Q : α → World → Prop} {k : Driver α}
    (hk : Triple machine E.rely noGuarantee (Following w₀) k Q) :
    Triple machine E.rely noGuarantee (Unasked w₀) (.loop (do
      writeSfrUnbanked EUDAST 0x1234#16
      let eudast ← readSfrUnbanked EUDAST
      return decide (eudast = 0x1234#16)) k) Q := by
  refine Triple.loop (T := fun x w => Unasked w₀ w ∧ (x = true → Following w₀ w)) stable_unasked
    ?_ (fun w h => h.1) (hk.pre fun w h => h.2 rfl)
  refine Triple.op (T := fun _ => Unasked w₀) stable_unasked ?_ fun _ => ?_
  · intro w r w' h hs
    obtain ⟨rfl, rfl⟩ := machine_step_iff.1 hs
    have hkeep : (w.chip.exec (.writeSfr EUDAST 0x1234#16)).2.resetPending =
        w.chip.resetPending ∧
          (w.chip.exec (.writeSfr EUDAST 0x1234#16)).2.resets = w.chip.resets := by
      rw [Chip.exec]
      split
      · exact ⟨rfl, rfl⟩
      · simp only [Chip.perform]
        rw [Chip.writeSfr_of_ne _ (by decide)]
        exact ⟨rfl, rfl⟩
    exact ⟨trivial, ⟨h.duplexMode, h.next, h.stored⟩, hkeep.1.trans h.resetPending,
      hkeep.2.trans h.resets⟩
  · refine Triple.op (T := fun r w => Unasked w₀ w ∧ (r = 0x1234#16 → Following w₀ w))
      stable_unasked ?_ fun r => ?_
    · intro w r w' h hs
      obtain ⟨rfl, rfl⟩ := machine_step_iff.1 hs
      refine ⟨trivial, ?_⟩
      simp only [World.perform, Chip.exec]
      split
      · -- what the register seems to hold differs from what was written
        refine ⟨h, ?_⟩
        simp only [Chip.noiseAnswer, true_and]
        intro hr
        split at hr
        · simp at hr
        · contradiction
      · rename_i hp
        have hp' : w.chip.por = false := by simpa using hp
        refine ⟨h, ?_⟩
        simp only [Chip.perform]
        rw [Chip.shown_of_ne _ (by decide)]
        exact fun hr => ⟨h, hp', hr⟩
    · have hst : Stable E.rely fun w => Unasked w₀ w ∧ (r = 0x1234#16 → Following w₀ w) :=
        fun w w' h hR => ⟨stable_unasked w w' h.1 hR, fun hr => stable_following w w' (h.2 hr) hR⟩
      refine Triple.pure hst ?_
      intro w h
      exact ⟨h.1, fun hr => h.2 (by simpa using hr)⟩

/-- The wait for the clock. -/
lemma triple_clock {α : Type} {Q : α → World → Prop} {k : Driver α}
    (hk : Triple machine E.rely noGuarantee (Following w₀) k Q) :
    Triple machine E.rely noGuarantee (Following w₀) (.loop (do
      let estat ← readSfrUnbanked ESTAT
      return decide (estat &&& CLKRDY > 0#16)) k) Q := by
  refine Triple.loop (T := fun _ => Following w₀) stable_following ?_ (fun _ h => h) hk
  refine triple_spi (T := fun _ => Following w₀) stable_following (fun _ h => h.por)
    (fun _ h => ⟨trivial, h⟩) fun _ => ?_
  exact Triple.pure stable_following fun _ h => h

/-- The wait for the effect of the reset. -/
lemma triple_awaitReset {α : Type} {Q : α → World → Prop} {k : Driver α}
    (hk : Triple machine E.rely noGuarantee (Done w₀) k Q) :
    Triple machine E.rely noGuarantee (fun w => Asked w₀ w ∨ Done w₀ w) (.loop (do
      let eudast ← readSfrUnbanked EUDAST
      return decide (eudast = 0#16)) k) Q := by
  have hst : ∀ φ : Prop, Stable E.rely fun w => (Asked w₀ w ∨ Done w₀ w) ∧ (φ → Done w₀ w) :=
    fun φ w w' h hR => ⟨stable_asked_or_done w w' h.1 hR, fun hφ => stable_done w w' (h.2 hφ) hR⟩
  refine Triple.loop (T := fun x w => (Asked w₀ w ∨ Done w₀ w) ∧ (x = true → Done w₀ w))
    stable_asked_or_done ?_ (fun _ h => h.1) (hk.pre fun _ h => h.2 rfl)
  refine triple_spi (T := fun r w => (Asked w₀ w ∨ Done w₀ w) ∧ (r = 0#16 → Done w₀ w))
    stable_asked_or_done ?_ ?_ fun r => ?_
  · rintro w (h | h)
    · exact h.por
    · exact h.fresh.awake.por
  · intro w h
    refine ⟨trivial, h, ?_⟩
    simp only [Chip.perform]
    rw [Chip.shown_of_ne _ (by decide)]
    intro h0
    -- as long as the reset is ahead, `EUDAST` holds the value that was written to it
    rcases h with h | h
    · rw [h.eudast] at h0
      exact absurd h0 (by decide)
    · exact h
  · refine Triple.pure (hst _) ?_
    intro w h
    exact ⟨h.1, fun hr => h.2 (by simpa using hr)⟩

/-- **The reset took effect exactly once when `reset` returns.** -/
lemma triple_reset :
    Triple machine E.rely noGuarantee (Unasked w₀) reset fun _ => Done w₀ := by
  refine triple_powerOn (triple_clock ?_)
  refine triple_spi (T := fun _ w => Asked w₀ w ∨ Done w₀ w) stable_following (fun _ h => h.por)
    ?_ fun _ => ?_
  · intro w h
    simp only [Chip.perform]
    rw [Chip.single_setethrst]
    exact ⟨trivial, Or.inl ⟨⟨h.duplexMode, h.next, h.stored⟩, h.por, rfl, h.resets, h.eudast⟩⟩
  refine triple_loc (T := fun _ w => Asked w₀ w ∨ Done w₀ w) stable_asked_or_done
    (fun w h => ⟨trivial, h⟩) fun _ => ?_
  refine triple_awaitReset ?_
  exact triple_loc (T := fun _ => Done w₀) stable_done (fun w h => ⟨trivial, h⟩)
    fun _ => Triple.pure stable_done fun _ h => h

end Enc624j600
