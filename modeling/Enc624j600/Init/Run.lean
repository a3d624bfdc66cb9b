/-
# Runs of the driver

The driver is initialised once and then serves calls.  A concrete run of the initialisation,
on a chip that is just powered, shows that it can come to its end.
-/
import Enc624j600.Init.Spec
import Enc624j600.Lib.Evaluate
import Enc624j600.Lib.Sessions

namespace Enc624j600

open Interaction

/-- A call of the driver that has returned. -/
abbrev DriverCall (ι α : Type) : Type := Call Op Op.Res World ι α

/-- The driver was initialised, starting from the world `w₀` in which no system reset is under
way, and then performed the calls `h`. -/
def Running {ι α : Type} (E : Surroundings) (config : Config) (p : ι → Driver α) (w₀ : World)
    (h : List (DriverCall ι α)) (v : World) : Prop :=
  w₀.chip.resetPending = false ∧ ∃ t w, Returns machine E.rely (enc624j600Init config) w₀ t () w ∧
    Session machine E.rely p w h v

lemma Running.env {ι α : Type} {E : Surroundings} {config : Config} {p : ι → Driver α}
    {w₀ v v' : World} {h : List (DriverCall ι α)} (hr : Running E config p w₀ h v)
    (hR : E.rely v v') : Running E config p w₀ h v' := by
  obtain ⟨hp, t, w, hi, hs⟩ := hr
  exact ⟨hp, t, w, hi, hs.env hR⟩

lemma Running.call {ι α : Type} {E : Surroundings} {config : Config} {p : ι → Driver α}
    {w₀ : World} {h : List (DriverCall ι α)} {c : DriverCall ι α}
    (hr : Running E config p w₀ h c.before)
    (hc : Returns machine E.rely (p c.program) c.before c.trace c.answer c.after) :
    Running E config p w₀ (h ++ [c]) c.after := by
  obtain ⟨hp, t, w, hi, hs⟩ := hr
  exact ⟨hp, t, w, hi, hs.call hc⟩

lemma Running.mono {ι α : Type} {E E' : Surroundings} {config : Config} {p : ι → Driver α}
    {w₀ v : World} {h : List (DriverCall ι α)} (hE : ∀ c e, E c e → E' c e)
    (hr : Running E config p w₀ h v) : Running E' config p w₀ h v := by
  obtain ⟨hp, t, w, hi, hs⟩ := hr
  exact ⟨hp, t, w, hi.mono fun _ _ => Surroundings.rely_mono hE,
    hs.mono fun _ _ => Surroundings.rely_mono hE⟩

/-- What the initialisation establishes, and what every call and the surroundings keep. -/
lemma Running.invariant {ι α : Type} {E : Surroundings} {config : Config} {p : ι → Driver α}
    {w₀ v : World} {h : List (DriverCall ι α)} {J : List (DriverCall ι α) → World → Prop}
    (hr : Running E config p w₀ h v)
    (hinit : ∀ t w, w₀.chip.resetPending = false →
      Returns machine E.rely (enc624j600Init config) w₀ t () w → J [] w)
    (hst : ∀ h, Stable E.rely (J h))
    (hc : ∀ h c, J h c.before →
      Returns machine E.rely (p c.program) c.before c.trace c.answer c.after →
      J (h ++ [c]) c.after) : J h v := by
  obtain ⟨hp, t, w, hi, hs⟩ := hr
  exact hs.invariant (hinit t w hp hi) hst hc

lemma unasked_self {w : World} (h : w.chip.resetPending = false) : Unasked w w :=
  ⟨⟨rfl, rfl, rfl⟩, h, rfl⟩

/-! ### A concrete run of the initialisation -/

/-- A chip after a reset, with the given value of `ESTAT` and with the link up. -/
def resetChip (estat : Word) : Chip where
  por := false
  noise := 0#16
  resetPending := false
  sfr a := if a = ESTAT then estat else 0#16
  pointer _ := 0#16
  sram _ := 0#8
  phy reg := if reg = PHSTAT1.setWidth 5 then ANDONE ||| LLSTAT else 0#16
  mii := .idle
  pktcnt := 0#8
  resets := 0
  deposited := []
  delivered := 0
  wire := []

lemma postReset_resetChip (estat : Word) : PostReset (resetChip estat) :=
  ⟨rfl, rfl, by simp +decide [resetChip], by simp +decide [resetChip], by simp +decide [resetChip],
    rfl, rfl, rfl, rfl, rfl⟩

/-- The world when the power is switched on. -/
def powered : World where
  chip := { resetChip CLKRDY with por := true }
  duplexMode := .halfDuplex
  nextReceiveFramePointer := 0#16
  stored := []

/-- The chip does without delay what the driver waits for. -/
def boot (estat : Word) (w : World) : World :=
  { w with chip :=
      if w.chip.por then ChipEvent.powerUp.apply w.chip
      else if w.chip.resetPending then (ChipEvent.resetDone (resetChip estat)).apply w.chip
      else ChipEvent.miiDone.apply w.chip }

/-- The events that the driver waits for in the initialisation. -/
def ChipEvent.IsBoot : ChipEvent → Prop
  | .powerUp => True
  | .resetDone _ => True
  | .miiDone => True
  | _ => False

/-- Surroundings in which the chip only does what the driver waits for. -/
def booting : Surroundings := fun _ e => e.IsBoot

lemma drift_boot (estat : Word) (w : World) : Drift booting.rely w (boot estat w) := by
  by_cases hpor : w.chip.por = true
  · refine .single ⟨.powerUp, trivial, hpor, ?_⟩
    simp [boot, hpor]
  by_cases hreset : w.chip.resetPending = true
  · refine .single ⟨.resetDone (resetChip estat), trivial, ⟨hreset, postReset_resetChip estat⟩, ?_⟩
    simp [boot, hpor, hreset]
  by_cases hmii : w.chip.mii = .idle
  · have hw : boot estat w = w := by simp [boot, hpor, hreset, ChipEvent.apply, hmii]
    rw [hw]
  · refine .single ⟨.miiDone, trivial, hmii, ?_⟩
    simp [boot, hpor, hreset]

/-- No frame arrives while the chip is only booting. -/
lemma triple_init_booting {config : Config} {w₀ : World} :
    Triple machine booting.rely noGuarantee (Unasked w₀) (enc624j600Init config)
      fun _ w => w.chip.deposited = [] := by
  have hrest : ∀ {α : Type} {p : Driver α}, p.All (fun o => IsConfigOp o ∨ IsSwitch o) →
      Triple machine booting.rely noGuarantee (fun w => w.chip.Awake ∧ w.chip.deposited = []) p
        fun _ w => w.chip.Awake ∧ w.chip.deposited = [] := by
    intro α p hp
    refine Triple.of_all hp ?_ ?_
    · rintro w o r w' ho ⟨ha, hd⟩ hs
      have hc := calm_of_config ho ha.por hs
      exact ⟨trivial, hc.awake ha, hc.deposited.trans hd⟩
    · rintro w _ ⟨ha, hd⟩ ⟨e, hE, he, rfl⟩
      have hna : ¬ e.Arrives := by
        intro h
        cases e with
        | store bytes => exact hE
        | deposit f rsv => exact hE
        | _ => exact h
      exact ⟨(ChipEvent.undisturbed ha he).awake ha,
        (ChipEvent.sameRing ha he hna).deposited.trans hd⟩
  rw [enc624j600Init_eq]
  refine Triple.bind triple_reset fun _ => ?_
  refine Triple.bind (settled_configureChip.pre fun w h => ⟨h.fresh.toDormant, h.resets⟩)
    fun _ => ?_
  refine Triple.pre ?_ fun w (h : Settled _ w.chip) => And.intro h.awake h.deposited
  have hlast : ((readSfrUnbanked ESTAT).bind finish).All fun o => IsConfigOp o ∨ IsSwitch o :=
    Prog.All.bind (config_or_switch config_readEstat) fun _ => finish_all
  refine Triple.bind (hrest awaitLinkReceiving_all) fun _ => ?_
  exact (hrest hlast).post fun _ w h => h.2

/-- What is known of the world after such a run, in the duplex mode `d`. -/
structure Booted (config : Config) (d : DuplexMode) (w : World) : Prop where
  initialised : ∃ (g : Shadow) (estat : Word),
    Initialised 1 ((g.beforeEnable config).duplex estat) w
  deposited : w.chip.deposited = []
  duplexMode : w.duplexMode = d

/-- The initialisation comes to its end if it does so by evaluation. -/
lemma exists_evaluated (config : Config) (estat : Word) (d : DuplexMode) (w₀ : World)
    (h : ((enc624j600Init config).evaluate World.perform (boot estat) 300 w₀).map
      (fun r => r.2.duplexMode) = some d) :
    ∃ t w, Returns machine booting.rely (enc624j600Init config) w₀ t () w ∧ w.duplexMode = d := by
  obtain ⟨⟨a, w⟩, hw, hd⟩ := Option.map_eq_some_iff.1 h
  obtain ⟨t, ht⟩ := Prog.evaluate_sound (M := machine) (R := booting.rely) (fun _ _ => rfl)
    (drift_boot estat) hw
  exact ⟨t, w, ht, hd⟩

/-- The initialisation can come to its end before a frame arrives. -/
lemma exists_init {E : Surroundings} (hE : ∀ c e, ChipEvent.IsBoot e → E c e) (config : Config)
    (estat : Word) (d : DuplexMode)
    (h : ((enc624j600Init config).evaluate World.perform (boot estat) 300 powered).map
      (fun r => r.2.duplexMode) = some d) :
    ∃ t w, Returns machine E.rely (enc624j600Init config) powered t () w ∧ Booted config d w := by
  obtain ⟨t, w, ht, hd⟩ := exists_evaluated config estat d powered h
  obtain ⟨g, estat', -, hi⟩ := triple_init.returns (unasked_self rfl) ht
  exact ⟨t, w, ht.mono fun _ _ => Surroundings.rely_mono hE, ⟨g, estat', hi⟩,
    triple_init_booting.returns (unasked_self rfl) ht, hd⟩

/-- A configuration without loopback and without a MAC address. -/
def plainConfig : Config := ⟨none, 0#1, 0#1, 0#1⟩

/-- The driver can be initialised, in half duplex. -/
lemma exists_running {ι α : Type} {E : Surroundings} (hE : ∀ c e, ChipEvent.IsBoot e → E c e)
    (p : ι → Driver α) :
    ∃ v, Running E plainConfig p powered [] v ∧ Booted plainConfig .halfDuplex v := by
  obtain ⟨t, w, h, hw⟩ := exists_init hE plainConfig CLKRDY .halfDuplex (by decide +kernel)
  exact ⟨w, ⟨rfl, t, w, h, .start⟩, hw⟩

end Enc624j600
