/-
# The initialisation

What holds when `enc624j600_init` returns: the reset took effect once, the registers hold the
configuration, and the receive buffer is a queue that starts at its first address.
-/
import Enc624j600.Init.Quiet

namespace Enc624j600

open Cyclic Interaction

/-! ### The parts of the initialisation -/

/-- From the reset to the first `ENABLERX`. -/
def configureChip (config : Config) : Driver Unit := do
  bitFieldClearSfrUnbanked ECON2 (COCON0 ||| COCON1 ||| COCON2 ||| COCON3)
  initBuffers
  initReceiveFilters
  bitFieldSetSfrUnbanked ECON2 TXMAC
  macInit config
  phyInit config

/-- From the first `ENABLERX` to the read of `ESTAT`. -/
def awaitLinkReceiving : Driver Unit := do
  executeSingleByteInstruction ENABLERX
  awaitLink
  executeSingleByteInstruction DISABLERX

/-- What follows the read of `ESTAT`. -/
def finish (estat : Word) : Driver Unit := do
  setDuplex estat
  executeSingleByteInstruction ENABLERX

lemma enc624j600Init_eq (config : Config) : enc624j600Init config =
    reset.bind fun _ => (configureChip config).bind fun _ => awaitLinkReceiving.bind fun _ =>
      (readSfrUnbanked ESTAT).bind finish := by
  simp only [enc624j600Init, configureChip, awaitLinkReceiving, matchDuplexMode,
    Prog.monad_bind, Prog.bind_assoc]
  rfl

lemma configureChip_all {config : Config} :
    (configureChip config).All fun o => IsConfigOp o ∨ IsAreaWrite o := by
  have hc : ∀ {p : Driver Unit}, p.All IsConfigOp → p.All fun o => IsConfigOp o ∨ IsAreaWrite o :=
    fun h => h.mono fun _ => Or.inl
  have hbuffers : initBuffers.All fun o => IsConfigOp o ∨ IsAreaWrite o :=
    ⟨Or.inr ⟨_, Or.inl rfl⟩, fun _ => ⟨Or.inl trivial, fun _ => ⟨Or.inr ⟨_, Or.inr rfl⟩,
      fun _ => hc config_pointers⟩⟩⟩
  refine Prog.All.bind (hc (config_clearBits (Or.inl rfl))) fun _ => ?_
  refine Prog.All.bind hbuffers fun _ => Prog.All.bind (hc config_initReceiveFilters) fun _ => ?_
  refine Prog.All.bind (hc (config_setBits (Or.inl rfl))) fun _ => ?_
  exact Prog.All.bind (hc config_macInit) fun _ => hc config_phyInit

lemma config_or_switch {α : Type} {p : Driver α} (h : p.All IsConfigOp) :
    p.All fun o => IsConfigOp o ∨ IsSwitch o :=
  h.mono fun _ => Or.inl

lemma switch_all {opcode : Byte} (ho : opcode = ENABLERX ∨ opcode = DISABLERX) :
    (executeSingleByteInstruction opcode).All fun o => IsConfigOp o ∨ IsSwitch o := by
  refine ⟨Or.inr ?_, fun _ => trivial⟩
  rcases ho with rfl | rfl
  · exact Or.inl rfl
  · exact Or.inr rfl

lemma awaitLinkReceiving_all : awaitLinkReceiving.All fun o => IsConfigOp o ∨ IsSwitch o := by
  refine Prog.All.bind (switch_all (Or.inl rfl)) fun _ => ?_
  exact Prog.All.bind (config_or_switch config_awaitLink) fun _ => switch_all (Or.inr rfl)

lemma finish_all {estat : Word} : (finish estat).All fun o => IsConfigOp o ∨ IsSwitch o :=
  Prog.All.bind (config_or_switch config_setDuplex) fun _ => switch_all (Or.inl rfl)

/-! ### The receive buffer during the initialisation -/

/-- The receive buffer starts at `0x2000`, and nothing was stored there. -/
structure Starting (n : ℕ) (c : Chip) : Prop extends Dormant c where
  erxst : c.sfr ERXST = 0x2000#16
  erxhead : c.sfr ERXHEAD = 0x2000#16
  resets : c.resets = n

/-- The tail is set, too. -/
structure Settled (n : ℕ) (c : Chip) : Prop extends Starting n c where
  erxtail : c.sfr ERXTAIL = 0x5FFE#16

/-- Frames may have been stored in the ring; nothing was released or sent. -/
structure Collecting (n : ℕ) (c : Chip) : Prop where
  awake : c.Awake
  erxst : c.sfr ERXST = 0x2000#16
  has_head : rxRegion.Has c.head
  counted : Counted c
  delivered : c.delivered = 0
  not_transmitting : ¬ c.Transmitting
  etxstat : c.sfr ETXSTAT = 0#16
  wire : c.wire = []
  resets : c.resets = n

section Traffic

variable {E : Surroundings} {T : ℕ → ℕ → Chip → Prop} {Good : ℕ → Prop} {n : ℕ} {c c' : Chip}
  {config : Config}

lemma Dormant.calm (h : Dormant c) (hc : Calm c c') (hr : c'.Receiving ↔ c.Receiving) :
    Dormant c' := by
  refine ⟨hc.awake h.awake, ?_, ?_, hc.etxstat.trans h.etxstat, hc.pktcnt.trans h.pktcnt,
    hc.deposited.trans h.deposited, hc.delivered.trans h.delivered, hc.wire.trans h.wire⟩
  · rw [hc.transmitting]
    exact h.not_transmitting
  · rw [hr]
    exact h.not_receiving

lemma stable_dormant : Stable E.rely fun w => Dormant w.chip ∧ w.chip.resets = n := by
  rintro w _ ⟨h, hn⟩ ⟨e, -, he, rfl⟩
  exact ⟨(h.apply he).1, (ChipEvent.undisturbed h.awake he).resets.trans hn⟩

lemma stable_starting : Stable E.rely fun w => Starting n w.chip := by
  rintro w _ h ⟨e, -, he, rfl⟩
  have hu := ChipEvent.undisturbed h.awake he
  obtain ⟨hd, hs⟩ := h.toDormant.apply he
  exact ⟨hd, (hu.sfr _ (by decide)).trans h.erxst, hs.erxhead.trans h.erxhead,
    hu.resets.trans h.resets⟩

lemma stable_settled : Stable E.rely fun w => Settled n w.chip := by
  intro w w' h hR
  refine ⟨stable_starting w w' h.toStarting hR, ?_⟩
  exact ((rely_undisturbed h.awake hR).sfr _ (by decide)).trans h.erxtail

lemma stable_collecting : Stable E.rely fun w => Collecting n w.chip := by
  rintro w _ h ⟨e, -, he, rfl⟩
  have hu := ChipEvent.undisturbed h.awake he
  have hne : ∀ o, e ≠ .transmitted o := by
    rintro o rfl
    exact h.not_transmitting he
  obtain ⟨htx, hstat, -, hwire⟩ := ChipEvent.sameTransmitter h.awake he hne
  refine ⟨hu.awake h.awake, (hu.sfr _ (by decide)).trans h.erxst,
    has_head_apply h.awake h.erxst h.has_head he, h.counted.apply h.awake he,
    hu.delivered.trans h.delivered, ?_, hstat.trans h.etxstat, hwire.trans h.wire,
    hu.resets.trans h.resets⟩
  rw [htx]
  exact h.not_transmitting

lemma Starting.calm (h : Starting n c) (hc : Calm c c') (hr : c'.Receiving ↔ c.Receiving) :
    Starting n c' :=
  ⟨h.toDormant.calm hc hr, hc.erxst.trans h.erxst, hc.erxhead.trans h.erxhead,
    hc.resets.trans h.resets⟩

lemma Settled.calm (h : Settled n c) (hc : Calm c c') (hr : c'.Receiving ↔ c.Receiving) :
    Settled n c' :=
  ⟨h.toStarting.calm hc hr, hc.erxtail.trans h.erxtail⟩

lemma Collecting.calm (h : Collecting n c) (hc : Calm c c') : Collecting n c' := by
  refine ⟨hc.awake h.awake, hc.erxst.trans h.erxst, ?_, ?_, hc.delivered.trans h.delivered, ?_,
    hc.etxstat.trans h.etxstat, hc.wire.trans h.wire, hc.resets.trans h.resets⟩
  · rw [Chip.head, hc.erxhead]
    exact h.has_head
  · rw [Counted, hc.pktcnt, hc.delivered, hc.deposited]
    exact h.counted
  · rw [hc.transmitting]
    exact h.not_transmitting

lemma Settled.collecting (h : Settled n c) : Collecting n c := by
  refine ⟨h.awake, h.erxst, ?_, ?_, h.delivered, h.not_transmitting, h.etxstat, h.wire, h.resets⟩
  · rw [Chip.head, h.erxhead]
    exact Region.has_base
  · simp [Counted, h.pktcnt, h.delivered, h.deposited]

/-- The receive buffer is a queue from its first moment on. -/
lemma Settled.ring (hT : Protection E T Good) (h : Settled n c) :
    Ring 0 0x2000 c ∧ T 0 0x2000 c := by
  refine ⟨⟨h.erxst, Region.has_base, by decide, Nat.zero_le _, ?_, ?_⟩,
    hT.start h.deposited h.delivered h.erxtail⟩
  · rw [h.deposited, List.drop_nil, layout_nil_iff, Chip.head, h.erxhead]
    rfl
  · simp [Chip.occupied, h.deposited]

lemma settled_of_config {p : Driver Unit} (hp : p.All IsConfigOp) :
    Triple machine E.rely noGuarantee (fun w => Settled n w.chip) p
      fun _ w => Settled n w.chip := by
  refine Triple.of_all hp ?_ stable_settled
  intro w o r w' ho h hs
  obtain ⟨hc, hr⟩ := calm_of_quiet ho.isQuiet h.awake.por hs
  exact ⟨trivial, h.calm hc hr⟩

lemma settled_initBuffers :
    Triple machine E.rely noGuarantee (fun w => Dormant w.chip ∧ w.chip.resets = n) initBuffers
      fun _ w => Settled n w.chip := by
  refine triple_spi (T := fun _ w => Starting n w.chip) stable_dormant (fun _ h => h.1.awake.por)
    ?_ fun _ => ?_
  · rintro w ⟨h, hn⟩
    simp only [Chip.perform]
    rw [Chip.writeSfr_erxst]
    refine ⟨trivial, ⟨⟨h.awake.por, h.awake.resetPending⟩, ?_, ?_, ?_, h.pktcnt, h.deposited,
      h.delivered, h.wire⟩, ?_, ?_, hn⟩
    · simpa +decide [Chip.Transmitting] using h.not_transmitting
    · simpa +decide [Chip.Receiving] using h.not_receiving
    · simpa +decide using h.etxstat
    · simp +decide
    · simp +decide
  refine triple_loc (T := fun _ w => Starting n w.chip) stable_starting
    (fun w h => ⟨trivial, h⟩) fun _ => ?_
  refine triple_spi (T := fun _ w => Settled n w.chip) stable_starting (fun _ h => h.awake.por)
    ?_ fun _ => ?_
  · intro w h
    simp only [Chip.perform]
    rw [Chip.writeSfr_of_ne _ (by decide)]
    refine ⟨trivial, ⟨⟨⟨h.awake.por, h.awake.resetPending⟩, ?_, ?_, ?_, h.pktcnt, h.deposited,
      h.delivered, h.wire⟩, ?_, ?_, h.resets⟩, ?_⟩
    · simpa +decide [Chip.Transmitting] using h.not_transmitting
    · simpa +decide [Chip.Receiving] using h.not_receiving
    · simpa +decide using h.etxstat
    · simpa +decide using h.erxst
    · simpa +decide using h.erxhead
    · simp
  -- the pointers and the user-defined area
  exact settled_of_config config_pointers

lemma settled_configureChip :
    Triple machine E.rely noGuarantee (fun w => Dormant w.chip ∧ w.chip.resets = n)
      (configureChip config) fun _ w => Settled n w.chip := by
  have hclear : Triple machine E.rely noGuarantee (fun w => Dormant w.chip ∧ w.chip.resets = n)
      (bitFieldClearSfrUnbanked ECON2 (COCON0 ||| COCON1 ||| COCON2 ||| COCON3))
      fun _ w => Dormant w.chip ∧ w.chip.resets = n := by
    refine Triple.of_all (config_clearBits (Or.inl rfl)) ?_ stable_dormant
    intro w o r w' ho h hs
    obtain ⟨hc, hr⟩ := calm_of_quiet ho.isQuiet h.1.awake.por hs
    exact ⟨trivial, h.1.calm hc hr, hc.resets.trans h.2⟩
  refine Triple.bind hclear fun _ => ?_
  refine Triple.bind settled_initBuffers fun _ => ?_
  refine Triple.bind (settled_of_config config_initReceiveFilters) fun _ => ?_
  refine Triple.bind (settled_of_config (config_setBits (Or.inl rfl))) fun _ => ?_
  exact Triple.bind (settled_of_config config_macInit) fun _ => settled_of_config config_phyInit

lemma collecting_of_all {α : Type} {p : Driver α} (hp : p.All fun o => IsConfigOp o ∨ IsSwitch o) :
    Triple machine E.rely noGuarantee (fun w => Collecting n w.chip) p
      fun _ w => Collecting n w.chip := by
  refine Triple.of_all hp ?_ stable_collecting
  intro w o r w' ho h hs
  exact ⟨trivial, h.calm (calm_of_config ho h.awake.por hs)⟩

/-- While the reception is switched on and off, the receive buffer remains a queue. -/
lemma ring_of_all (hT : Protection E T Good) {α : Type} {p : Driver α}
    (hp : p.All fun o => IsConfigOp o ∨ IsSwitch o) :
    Triple machine E.rely noGuarantee
      (fun w => w.chip.Awake ∧ Ring 0 0x2000 w.chip ∧ T 0 0x2000 w.chip) p
      fun _ w => w.chip.Awake ∧ Ring 0 0x2000 w.chip ∧ T 0 0x2000 w.chip := by
  refine Triple.of_all hp ?_ hT.stable
  rintro w o r w' ho ⟨ha, hr, ht⟩ hs
  have hc := calm_of_config ho ha.por hs
  exact ⟨trivial, hc.awake ha, hr.congr hc.toSameRing hc.erxst,
    hT.congr ht hc.erxtail hc.deposited (Or.inl hc.delivered)⟩

/-- The reception is enabled in the end. -/
lemma receiving_enable :
    Triple machine E.rely noGuarantee (fun w => w.chip.Awake)
      (executeSingleByteInstruction ENABLERX) fun _ w => w.chip.Awake ∧ w.chip.Receiving := by
  have hst : Stable E.rely fun w => w.chip.Awake ∧ w.chip.Receiving := by
    rintro w w' ⟨ha, hr⟩ hR
    refine ⟨stable_awake w w' ha hR, ?_⟩
    obtain ⟨e, -, he, rfl⟩ := hR
    exact (ChipEvent.receiving_iff ha he).2 hr
  refine triple_spi (T := fun _ w => w.chip.Awake ∧ w.chip.Receiving) stable_awake
    (fun _ h => h.por) ?_ fun _ => Triple.pure hst fun w h => h
  intro w h
  simp only [Chip.perform]
  rw [Chip.single_enablerx]
  refine ⟨trivial, ⟨h.por, h.resetPending⟩, ?_⟩
  rw [Chip.Receiving, Chip.setSfr_sfr, if_pos rfl, or_and_self_mask]
  decide

end Traffic

/-! ### The whole initialisation -/

/-- The shadow of a world. -/
def shadowOf (w : World) : Shadow :=
  ⟨w.chip.sfr, w.chip.pointer, w.chip.phy, w.duplexMode, w.nextReceiveFramePointer, w.stored⟩

lemma Fresh.agrees {w : World} (h : Fresh w.chip) : Agrees (shadowOf w) w :=
  ⟨⟨h.awake, fun _ _ => rfl, rfl, rfl, rfl, rfl⟩, fun _ _ => rfl, h.mii⟩

section Init

variable {E : Surroundings} {T : ℕ → ℕ → Chip → Prop} {Good : ℕ → Prop} {g : Shadow} {n : ℕ}
  {config : Config} {w₀ : World}

lemma agrees_configureChip :
    Triple machine E.rely noGuarantee (Agrees g) (configureChip config)
      fun _ => Agrees (g.beforeEnable config) := by
  refine Triple.bind (agrees_clearBits (by decide)) fun _ => ?_
  refine Triple.bind agrees_initBuffers fun _ => ?_
  refine Triple.bind agrees_initReceiveFilters fun _ => ?_
  refine Triple.bind (agrees_setBits (by decide)) fun _ => ?_
  exact Triple.bind agrees_macInit fun _ => agrees_phyInit

lemma agrees_awaitLinkReceiving :
    Triple machine E.rely noGuarantee (Agrees g) awaitLinkReceiving fun _ => Agrees g := by
  refine Triple.bind (agrees_switchRx (Or.inl rfl)) fun _ => ?_
  exact Triple.bind agrees_awaitLink fun _ => agrees_switchRx (Or.inr rfl)

/-- The state when the driver reads `ESTAT`. -/
structure Linked (n : ℕ) (g : Shadow) (w : World) : Prop where
  agrees : Agrees g w
  collecting : Collecting n w.chip

lemma stable_linked : Stable E.rely (Linked n g) :=
  fun w w' h hR => ⟨stable_agrees w w' h.agrees hR, stable_collecting w w' h.collecting hR⟩

/-- The state when the initialisation ended. -/
structure Initialised (n : ℕ) (g : Shadow) (w : World) : Prop extends Linked n g w where
  receiving : w.chip.Receiving

lemma triple_untilLinked :
    Triple machine E.rely noGuarantee (fun w => Agrees g w ∧ Dormant w.chip ∧ w.chip.resets = n)
      ((configureChip config).bind fun _ => awaitLinkReceiving)
      fun _ => Linked n (g.beforeEnable config) := by
  have hreg : Triple machine E.rely noGuarantee (Agrees g)
      ((configureChip config).bind fun _ => awaitLinkReceiving)
      fun _ => Agrees (g.beforeEnable config) :=
    Triple.bind agrees_configureChip fun _ => agrees_awaitLinkReceiving
  have hrx : Triple machine E.rely noGuarantee (fun w => Dormant w.chip ∧ w.chip.resets = n)
      ((configureChip config).bind fun _ => awaitLinkReceiving)
      fun _ w => Collecting n w.chip := by
    refine Triple.bind settled_configureChip fun _ => ?_
    exact (collecting_of_all awaitLinkReceiving_all).pre fun w h => h.collecting
  refine ((hreg.both hrx).guarantee fun _ _ _ _ _ => trivial).post ?_
  exact fun _ w h => ⟨h.1, h.2⟩

lemma triple_finish {estat : Word} :
    Triple machine E.rely noGuarantee (Linked n g) (finish estat)
      fun _ => Initialised n (g.duplex estat) := by
  have hreg : Triple machine E.rely noGuarantee (Agrees g) (finish estat)
      fun _ => Agrees (g.duplex estat) :=
    Triple.bind agrees_setDuplex fun _ => agrees_switchRx (Or.inl rfl)
  have hrx : Triple machine E.rely noGuarantee (Agrees g) (finish estat)
      fun _ w => w.chip.Awake ∧ w.chip.Receiving :=
    Triple.bind agrees_setDuplex fun _ => receiving_enable.pre fun w h => h.awake
  have hboth := (hreg.both (collecting_of_all finish_all (n := n))).both hrx
  refine ((hboth.guarantee fun _ _ _ _ _ => trivial).pre ?_).post ?_
  · exact fun w h => ⟨⟨h.agrees, h.collecting⟩, h.agrees⟩
  · exact fun _ w h => ⟨⟨h.1.1, h.1.2⟩, h.2.2⟩

/-- What the initialisation starts from, after the reset: the registers hold anything, the
driver has its variables. -/
structure ResetShadow (w₀ : World) (g : Shadow) : Prop where
  duplexMode : g.duplexMode = w₀.duplexMode
  next : g.nextReceiveFramePointer = w₀.nextReceiveFramePointer
  stored : g.stored = w₀.stored

lemma Done.exists_shadow {w : World} (h : Done w₀ w) : ∃ g, ResetShadow w₀ g ∧ Agrees g w ∧
    Dormant w.chip ∧ w.chip.resets = w₀.chip.resets + 1 :=
  ⟨shadowOf w, ⟨h.duplexMode, h.next, h.stored⟩, h.fresh.agrees, h.fresh.toDormant, h.resets⟩

/-- **The initialisation.** `estat` is the value of `ESTAT` that the driver read. -/
theorem triple_init :
    Triple machine E.rely noGuarantee (Unasked w₀) (enc624j600Init config) fun _ w =>
      ∃ g estat, ResetShadow w₀ g ∧
        Initialised (w₀.chip.resets + 1) ((g.beforeEnable config).duplex estat) w := by
  rw [enc624j600Init_eq]
  refine Triple.bind triple_reset fun _ => ?_
  refine Triple.pre (Triple.of_exists fun g => Triple.of_and fun hr => ?_) fun w h =>
    h.exists_shadow
  rw [← Prog.bind_assoc]
  refine Triple.bind triple_untilLinked fun _ => ?_
  refine triple_spi (T := fun _ => Linked _ _) stable_linked (fun _ h => h.agrees.awake.por)
    (fun w h => ⟨trivial, h⟩) fun estat => ?_
  exact triple_finish.post fun _ w h => ⟨g, estat, hr, h⟩

lemma triple_init_ring (hT : Protection E T Good) :
    Triple machine E.rely noGuarantee (Unasked w₀) (enc624j600Init config)
      fun _ w => Ring 0 0x2000 w.chip ∧ T 0 0x2000 w.chip := by
  rw [enc624j600Init_eq]
  refine Triple.bind triple_reset fun _ => ?_
  refine Triple.bind (settled_configureChip.pre fun w h => ⟨h.fresh.toDormant, h.resets⟩)
    fun _ => ?_
  refine Triple.pre ?_ fun w (h : Settled _ w.chip) => And.intro h.awake (h.ring hT)
  have hlast : ((readSfrUnbanked ESTAT).bind finish).All fun o => IsConfigOp o ∨ IsSwitch o :=
    Prog.All.bind (config_or_switch config_readEstat) fun _ => finish_all
  refine Triple.bind (ring_of_all hT awaitLinkReceiving_all) fun _ => ?_
  exact (ring_of_all hT hlast).post fun _ w h => h.2

/-- The initialised driver is ready to receive. -/
lemma Initialised.ready {estat : Word} {w : World}
    (h : Initialised n ((g.beforeEnable config).duplex estat) w)
    (hr : Ring 0 0x2000 w.chip ∧ T 0 0x2000 w.chip) : Ready T 0 0x2000 w.stored w := by
  have hc := h.collecting
  refine ⟨hc.awake, hr.1, hr.2, hc.counted, hc.delivered, ?_, rfl⟩
  rw [h.agrees.next]
  rfl

/-- The initialised driver is ready to receive. -/
lemma triple_init_ready (hT : Protection E T Good) :
    Triple machine E.rely noGuarantee (Unasked w₀) (enc624j600Init config)
      fun _ w => Ready T 0 0x2000 w.stored w := by
  refine ((((triple_init).both (triple_init_ring hT)).guarantee fun _ _ _ _ _ => trivial).pre
    fun w h => ⟨h, h⟩).post ?_
  rintro _ w ⟨⟨g, estat, -, hw⟩, hr⟩
  exact hw.ready hr

end Init

end Enc624j600
