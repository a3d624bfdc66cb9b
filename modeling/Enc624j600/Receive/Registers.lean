/-
# The configuration during reception

The only register that a receive call writes is `ERXTAIL`.  Every other register that only the
driver changes holds, in every state of a run, what the initialisation wrote to it.
-/
import Enc624j600.Init.Outcome
import Enc624j600.Receive.Operations

namespace Enc624j600

open Interaction

/-- The registers that only the driver changes, `ERXTAIL` apart, hold what the shadow holds. -/
structure RegistersOf (g : Shadow) (w : World) : Prop where
  awake : w.chip.Awake
  sfr : ∀ a, IsTracked a → a ≠ ERXTAIL → w.chip.sfr a = g.sfr a

section Kept

variable {E : Surroundings} {g : Shadow} {w w' w₀ : World}

lemma Agrees.registersOf (h : Agrees g w) : RegistersOf g w := ⟨h.awake, fun a ha _ => h.sfr a ha⟩

lemma stable_registersOf : Stable E.rely (RegistersOf g) := by
  intro w w' h hR
  have hu := rely_undisturbed h.awake hR
  exact ⟨hu.awake h.awake, fun a ha hne => (hu.sfr a ha.1).trans (h.sfr a ha hne)⟩

/-- One operation of a receive call. -/
lemma RegistersOf.op (h : RegistersOf g w) {o : Op} {r : o.Res} (ho : IsReceiveOp o)
    (hs : machine.step w o r w') : RegistersOf g w' := by
  have he := receiveEffect ho h.awake.por hs
  exact ⟨⟨he.por.trans h.awake.por, he.resetPending.trans h.awake.resetPending⟩,
    fun a ha hne => (he.sfr a hne).trans (h.sfr a ha hne)⟩

/-- A receive call, finished or not. -/
lemma RegistersOf.reach (h : RegistersOf g w) {t : List (Event Op Op.Res)}
    {q : Driver ReceiveResult} (hr : Reach machine E.rely receiveCall w t q w') :
    RegistersOf g w' :=
  (hr.invariant receiveCall_all (fun _ _ _ _ ho hu hs => hu.op ho hs) stable_registersOf h).1

/-- A run of receive calls. -/
lemma Running.registersOf {ι : Type} {config : Config} {v : World}
    {h : List (DriverCall ι ReceiveResult)}
    (hrun : Running E config (fun _ : ι => receiveCall) w₀ h v) :
    ∃ g estat, RegistersOf ((Shadow.beforeEnable g config).duplex estat) v := by
  refine hrun.invariant (J := fun _ v => ∃ g estat,
    RegistersOf ((Shadow.beforeEnable g config).duplex estat) v) ?_ ?_ ?_
  · intro t w hp hi
    obtain ⟨g, estat, -, hw⟩ := triple_init.returns (unasked_self hp) hi
    exact ⟨g, estat, hw.agrees.registersOf⟩
  · exact fun _ => Stable.exists fun g => Stable.exists fun estat => stable_registersOf
  · rintro h c ⟨g, estat, hc⟩ hr
    exact ⟨g, estat, hc.reach hr⟩

end Kept

/-! ### What the initialisation wrote -/

namespace RegistersOf

variable {g : Shadow} {config : Config} {estat : Word} {w : World}

lemma sfr_eq (h : RegistersOf ((g.beforeEnable config).duplex estat) w) {a : Byte}
    (ha : (IsTracked a ∧ a ≠ ERXTAIL) ∧ a ≠ MABBIPG ∧ a ≠ MACON2) :
    w.chip.sfr a = (g.beforeEnable config).sfr a := by
  rw [h.sfr a ha.1.1 ha.1.2, Shadow.duplex_sfr_of_ne ha.2]

lemma erxwm (h : RegistersOf ((g.beforeEnable config).duplex estat) w) :
    w.chip.sfr ERXWM = 0xAA55#16 := by
  rw [h.sfr_eq (by decide), Shadow.beforeEnable_sfr (by decide)]
  rfl

lemma mamxfl (h : RegistersOf ((g.beforeEnable config).duplex estat) w) :
    w.chip.sfr MAMXFL = 0x05EE#16 := by
  rw [h.sfr_eq (by decide), Shadow.beforeEnable_sfr (by decide), if_pos rfl]

/-- The bits of `ERXFCON` that the initialisation wrote. -/
lemma erxfcon (h : RegistersOf ((g.beforeEnable config).duplex estat) w) {m : Word}
    (hm : (CRCEEN ||| RUNTEEN ||| CRCEN ||| RUNTEN ||| UCEN ||| NOTMEEN ||| MCEN |||
      BCEN ||| HTEN ||| MPEN ||| (PMEN0 ||| PMEN1 ||| PMEN2 ||| PMEN3)) &&& m = m) :
    w.chip.sfr ERXFCON &&& m = (CRCEN ||| RUNTEN ||| UCEN ||| BCEN) &&& m := by
  rw [h.sfr_eq (by decide), Shadow.erxfcon.and hm]

/-- The bits of `MACON2` that the initialisation wrote, `FULDPX` apart. -/
lemma macon2 (h : RegistersOf ((g.beforeEnable config).duplex estat) w) {m : Word}
    (hm : (HFRMEN ||| (PADCFG0 ||| PADCFG1 ||| PADCFG2) ||| TXCRCEN) &&& m = m) :
    w.chip.sfr MACON2 &&& m =
      ((if config.macHugeFrame = 1#1 then HFRMEN else 0#16) ||| PADCFG0 ||| TXCRCEN) &&& m := by
  have hd : FULDPX &&& m = 0#16 := by
    rw [← hm, ← BitVec.and_assoc]
    have h0 : FULDPX &&& (HFRMEN ||| (PADCFG0 ||| PADCFG1 ||| PADCFG2) ||| TXCRCEN) = 0#16 := by
      decide
    rw [h0, BitVec.zero_and]
  rw [h.sfr MACON2 (by decide) (by decide), Shadow.duplex_sfr, if_neg (by decide), if_pos rfl]
  split
  · rw [or_and_of_disjoint hd, (Shadow.macon2 g config).and hm]
  · rw [and_not_and_of_disjoint hd, (Shadow.macon2 g config).and hm]

end RegistersOf

end Enc624j600
