/-
# The buffer of the caller

The header promises that a buffer of 1500 bytes suffices for every received frame.  What frames
the chip admits depends on what the initialisation wrote to `ERXFCON`, `MAMXFL` and `MACON2`:
without huge frames none is longer than 1518 bytes, with huge frames any frame that fits in the
receive buffer is admitted.
-/
import Enc624j600.Init.Outcome
import Enc624j600.Receive.Fifo

namespace Enc624j600

open Cyclic Interaction

/-- The chip takes the frame, as its filters and its limit are set. -/
structure Admits (c : Chip) (f : Frame) : Prop where
  runt : c.sfr ERXFCON &&& RUNTEN ≠ 0#16 → 64 ≤ f.length
  limit : c.sfr MACON2 &&& HFRMEN = 0#16 → f.length ≤ (c.sfr MAMXFL).toNat

/-- Surroundings that spare the counted frames and store only frames that the chip admits. -/
def admitting : Surroundings := fun c e =>
  sparing c e ∧ ∀ f rsv, e = .deposit f rsv → Admits c f

/-- The buffer of 1500 bytes was large enough for the frame that the call handed over. -/
def Suffices {ι : Type} (f : Frame) (c : DriverCall ι ReceiveResult) : Prop :=
  ∃ stores, c.after.stored = c.before.stored ++ stores ∧
    (∃ n, .receivedBytes n ∈ stores ∧ n.toNat + 18 = f.length) ∧
    (∀ n, .receivedBytes n ∈ stores → 46 ≤ n.toNat ∧ n.toNat ≤ 1500) ∧
    ∀ bs, .bytes .buffer bs ∈ stores → bs.length ≤ 1500

/-- The registers that decide what the chip admits. -/
def IsFilter (a : Byte) : Prop := a = ERXFCON ∨ a = MAMXFL ∨ a = MACON2

instance (a : Byte) : Decidable (IsFilter a) := inferInstanceAs (Decidable (_ ∨ _ ∨ _))

/-- What the filters and the limit let through. -/
structure Admissible (config : Config) (f : Frame) : Prop where
  le : 64 ≤ f.length
  limit : config.macHugeFrame ≠ 1#1 → f.length ≤ 1518

/-- The registers that decide what the chip admits hold what the initialisation wrote, and the
chip stored admissible frames only. -/
structure Filtered (config : Config) (w : World) : Prop where
  awake : w.chip.Awake
  erxfcon : w.chip.sfr ERXFCON &&& RUNTEN ≠ 0#16
  mamxfl : w.chip.sfr MAMXFL = 0x05EE#16
  macon2 : config.macHugeFrame ≠ 1#1 → w.chip.sfr MACON2 &&& HFRMEN = 0#16
  frames : ∀ f ∈ w.chip.deposited, Admissible config f

section Invariant

variable {config : Config} {w w' w₀ : World} {E : Surroundings}

lemma Filtered.congr (h : Filtered config w) (ha : w'.chip.Awake)
    (hs : ∀ a, IsFilter a → w'.chip.sfr a = w.chip.sfr a)
    (hd : w'.chip.deposited = w.chip.deposited) : Filtered config w' := by
  refine ⟨ha, ?_, (hs _ (by decide)).trans h.mamxfl, ?_, hd ▸ h.frames⟩
  · rw [hs _ (by decide)]
    exact h.erxfcon
  · rw [hs _ (by decide)]
    exact h.macon2

lemma stable_filtered (hE : ∀ c e, E c e → admitting c e) : Stable E.rely (Filtered config) := by
  rintro w _ h ⟨e, hEe, he, rfl⟩
  have hu := ChipEvent.undisturbed h.awake he
  have hs : ∀ a, IsFilter a → (e.apply w.chip).sfr a = w.chip.sfr a := by
    rintro a (rfl | rfl | rfl)
    · exact hu.sfr _ (by decide)
    · exact hu.sfr _ (by decide)
    · exact hu.sfr _ (by decide)
  by_cases ha : ∃ f rsv, e = .deposit f rsv
  · obtain ⟨f, rsv, rfl⟩ := ha
    have hf := (hE _ _ hEe).2 f rsv rfl
    refine ⟨hu.awake h.awake, ?_, (hs _ (by decide)).trans h.mamxfl, ?_, ?_⟩
    · rw [hs _ (by decide)]
      exact h.erxfcon
    · rw [hs _ (by decide)]
      exact h.macon2
    · intro g hg
      rcases List.mem_append.1 hg with hg | hg
      · exact h.frames g hg
      · rw [List.mem_singleton.1 hg]
        refine ⟨hf.runt h.erxfcon, fun hh => ?_⟩
        have hlim := hf.limit (h.macon2 hh)
        rwa [h.mamxfl] at hlim
  · refine h.congr (hu.awake h.awake) hs ?_
    cases e with
    | deposit f rsv => exact absurd ⟨f, rsv, rfl⟩ ha
    | store bytes => rfl
    | _ => exact (ChipEvent.sameRing h.awake he id).deposited

/-- The operation does not write the registers that decide what the chip admits. -/
def LeavesFilters : Op → Prop
  | .spi (.writeSfr a _) => ¬ IsFilter a
  | .spi (.setBits a _) => ¬ IsFilter a
  | .spi (.clearBits a _) => ¬ IsFilter a
  | _ => True

lemma setSfr_filter {c : Chip} {a b : Byte} {v : Word} (hb : ¬ IsFilter b) (ha : IsFilter a) :
    (c.setSfr b v).sfr a = c.sfr a := by
  rw [Chip.setSfr_sfr, if_neg]
  rintro rfl
  exact hb ha

lemma writeSfr_filter {c : Chip} {a b : Byte} {v : Word} (hb : ¬ IsFilter b) (ha : IsFilter a) :
    (c.writeSfr b v).sfr a = c.sfr a := by
  unfold Chip.writeSfr
  split
  · rw [setSfr_filter (by decide) ha, setSfr_filter (by decide) ha]
  · split
    · split
      · exact setSfr_filter (by decide) ha
      · exact setSfr_filter (by decide) ha
    · split
      · exact setSfr_filter (by decide) ha
      · exact setSfr_filter hb ha

lemma single_filter {c : Chip} {a opcode : Byte} (ha : IsFilter a) :
    (c.single opcode).sfr a = c.sfr a := by
  have hecon1 : ∀ v, (c.setSfr ECON1 v).sfr a = c.sfr a := fun v => setSfr_filter (by decide) ha
  unfold Chip.single
  split
  · rfl
  · split
    · exact hecon1 _
    · split
      · split <;> rfl
      · split
        · exact hecon1 _
        · split
          · exact hecon1 _
          · rfl

lemma LeavesFilters.sfr {o : Op} {r : o.Res} (ho : LeavesFilters o) (hs : machine.step w o r w')
    {a : Byte} (ha : IsFilter a) : w'.chip.sfr a = w.chip.sfr a := by
  obtain ⟨-, rfl⟩ := machine_step_iff.1 hs
  cases o with
  | loc l => cases l <;> rfl
  | spi i =>
    simp only [World.perform, Chip.exec]
    split
    · rfl
    · cases i with
      | single opcode => exact single_filter ha
      | readPointer p => rfl
      | writePointer p v => rfl
      | readSfr b => rfl
      | writeSfr b v => exact writeSfr_filter ho ha
      | setBits b m =>
        simp only [Chip.perform, Chip.setBits]
        split
        · rfl
        · exact setSfr_filter ho ha
      | clearBits b m =>
        simp only [Chip.perform, Chip.clearBits]
        split
        · rfl
        · exact setSfr_filter ho ha
      | readWindow reg n => rfl
      | writeWindow reg bs => rfl

lemma filtered_of_all (hE : ∀ c e, E c e → admitting c e) {α : Type} {p : Driver α}
    (hp : p.All fun o => (IsConfigOp o ∨ IsSwitch o) ∧ LeavesFilters o) :
    Triple machine E.rely noGuarantee (Filtered config) p fun _ => Filtered config := by
  refine Triple.of_all hp ?_ (stable_filtered hE)
  rintro w o r w' ⟨ho, hl⟩ h hs
  have hc := calm_of_config ho h.awake.por hs
  exact ⟨trivial, h.congr (hc.awake h.awake) (fun a ha => hl.sfr hs ha) hc.deposited⟩

/-! ### The initialisation -/

lemma leavesFilters_awaitLinkReceiving : awaitLinkReceiving.All LeavesFilters := by
  have hwrite : ∀ {a v}, ¬ IsFilter a → (writeSfrUnbanked a v).All LeavesFilters :=
    fun h => ⟨h, fun _ => trivial⟩
  have hphy : (readPhySfr PHSTAT1).All LeavesFilters := by
    refine Prog.All.bind (hwrite (by decide)) fun _ => ?_
    refine Prog.All.bind (hwrite (by decide)) fun _ => ?_
    refine Prog.All.bind ⟨trivial, fun _ => trivial⟩ fun _ => ?_
    refine Prog.All.bind ⟨⟨trivial, fun _ => trivial⟩, trivial⟩ fun _ => ?_
    exact Prog.All.bind (hwrite (by decide)) fun _ => ⟨trivial, fun _ => trivial⟩
  have hbody : ∀ f : Word → Bool,
      ((readPhySfr PHSTAT1).bind fun r => .pure (f r)).All LeavesFilters :=
    fun f => Prog.All.bind hphy fun _ => trivial
  have hlink : awaitLink.All LeavesFilters := ⟨hbody _, hbody _, trivial⟩
  refine Prog.All.bind ⟨trivial, fun _ => trivial⟩ fun _ => ?_
  exact Prog.All.bind hlink fun _ => ⟨trivial, fun _ => trivial⟩

/-- A change of `MACON2` that does not concern `HFRMEN`. -/
lemma filtered_macon2 (hE : ∀ c e, E c e → admitting c e) {f : Word → Word}
    (hf : ∀ v, f v &&& HFRMEN = v &&& HFRMEN) :
    Triple machine E.rely noGuarantee (Filtered config)
      ((readSfrUnbanked MACON2).bind fun v => writeSfrUnbanked MACON2 (f v))
      fun _ => Filtered config := by
  refine triple_spi (T := fun v w => (config.macHugeFrame ≠ 1#1 → v &&& HFRMEN = 0#16) ∧
    Filtered config w) (stable_filtered hE) (fun _ h => h.awake.por) ?_ fun v => ?_
  · intro w h
    simp only [Chip.perform]
    rw [Chip.shown_of_ne _ (by decide)]
    exact ⟨trivial, h.macon2, h⟩
  refine Triple.of_and fun hv => ?_
  refine triple_spi (T := fun _ => Filtered config) (stable_filtered hE)
    (fun _ h => h.awake.por) ?_ fun _ => Triple.pure (stable_filtered hE) fun _ h => h
  intro w h
  simp only [Chip.perform]
  rw [Chip.writeSfr_of_ne _ (by decide)]
  refine ⟨trivial, ⟨h.awake.por, h.awake.resetPending⟩, ?_, ?_, ?_, h.frames⟩
  · simpa +decide using h.erxfcon
  · simpa +decide using h.mamxfl
  · intro hh
    rw [Chip.setSfr_sfr, if_pos rfl, hf]
    exact hv hh

lemma filtered_finish (hE : ∀ c e, E c e → admitting c e) {estat : Word} :
    Triple machine E.rely noGuarantee (Filtered config) (finish estat)
      fun _ => Filtered config := by
  have hrest : ∀ (v : Word) (d : DuplexMode), Triple machine E.rely noGuarantee (Filtered config)
      ((writeSfrUnbanked MABBIPG v).bind fun _ => loc (.setDuplexMode d))
      fun _ => Filtered config := by
    intro v d
    refine filtered_of_all hE (Prog.All.and (config_or_switch ?_) ?_)
    · exact Prog.All.bind (config_writeSfr (by decide)) fun _ => ⟨trivial, fun _ => trivial⟩
    · exact ⟨(by decide : ¬ IsFilter MABBIPG), fun _ => ⟨trivial, fun _ => trivial⟩⟩
  refine Triple.bind (T := fun _ => Filtered config) ?_ fun _ =>
    filtered_of_all hE (Prog.All.and (switch_all (Or.inl rfl)) ⟨trivial, fun _ => trivial⟩)
  unfold setDuplex
  split
  · exact Triple.bind (filtered_macon2 hE fun v => or_and_of_disjoint (by decide)) fun _ =>
      hrest _ _
  · exact Triple.bind (filtered_macon2 hE fun v => and_not_and_of_disjoint (by decide)) fun _ =>
      hrest _ _

/-- The filters are set before the reception is enabled for the first time. -/
lemma Agrees.filtered {g : Shadow} {n : ℕ} (h : Agrees (g.beforeEnable config) w)
    (hs : Settled n w.chip) : Filtered config w := by
  refine ⟨h.awake, ?_, ?_, ?_, ?_⟩
  · rw [h.sfr ERXFCON (by decide), Shadow.erxfcon.and (by decide)]
    decide
  · rw [h.sfr MAMXFL (by decide), Shadow.beforeEnable_sfr (by decide), if_pos rfl]
  · intro hh
    rw [h.sfr MACON2 (by decide), (Shadow.macon2 g config).and (by decide), if_neg hh]
    decide
  · rw [hs.deposited]
    simp

lemma triple_init_filtered (hE : ∀ c e, E c e → admitting c e) :
    Triple machine E.rely noGuarantee (Unasked w₀) (enc624j600Init config)
      fun _ => Filtered config := by
  rw [enc624j600Init_eq]
  refine Triple.bind triple_reset fun _ => ?_
  refine Triple.pre (Triple.of_exists fun g => ?_) fun w h => h.exists_shadow
  refine Triple.of_and fun _ => ?_
  have hconf : Triple machine E.rely noGuarantee
      (fun w => Agrees g w ∧ Dormant w.chip ∧ w.chip.resets = w₀.chip.resets + 1)
      (configureChip config) fun _ => Filtered config :=
    ((agrees_configureChip.both settled_configureChip).guarantee fun _ _ _ _ _ => trivial).post
      fun _ w h => h.1.filtered h.2
  refine Triple.bind hconf fun _ => ?_
  refine Triple.bind (filtered_of_all hE
    (awaitLinkReceiving_all.and leavesFilters_awaitLinkReceiving)) fun _ => ?_
  exact triple_spi (T := fun _ => Filtered config) (stable_filtered hE) (fun _ h => h.awake.por)
    (fun w h => ⟨trivial, h⟩) fun _ => filtered_finish hE

/-! ### Receive calls -/

lemma triple_receive_filtered (hE : ∀ c e, E c e → admitting c e) :
    Triple machine E.rely noGuarantee (Filtered config) receiveCall fun _ => Filtered config := by
  refine Triple.of_all receiveCall_all ?_ (stable_filtered hE)
  intro w o r w' ho h hs
  have he := receiveEffect ho h.awake.por hs
  have ha : w'.chip.Awake := ⟨he.por.trans h.awake.por, he.resetPending.trans h.awake.resetPending⟩
  refine ⟨trivial, h.congr ha (fun a hf => he.sfr a ?_) he.deposited⟩
  rintro rfl
  exact absurd hf (by decide)

lemma filtered_of_running {ι : Type} {h : List (DriverCall ι ReceiveResult)}
    (hE : ∀ c e, E c e → admitting c e)
    (hrun : Running E config (fun _ : ι => receiveCall) w₀ h w) : Filtered config w := by
  refine hrun.invariant (J := fun _ => Filtered config) ?_ (fun _ => stable_filtered hE) ?_
  · intro t w hp hi
    exact (triple_init_filtered hE).returns (unasked_self hp) hi
  · intro h c hc hr
    exact (triple_receive_filtered hE).returns hc hr

end Invariant

/-! ### The result -/

section Result

variable {ι : Type} {config : Config} {f : Frame}

/-- Whether the buffer suffices for a frame that was handed over. -/
lemma suffices_iff {c : DriverCall ι ReceiveResult} (hc : HandsOver f c)
    (hf : Admissible config f) : Suffices f c ↔ (config.macHugeFrame ≠ 1#1 ∨ f.length ≤ 1518) := by
  obtain ⟨n, hn, hp, hst⟩ := hc
  have hle := hf.le
  constructor
  · rintro ⟨stores, -, ⟨m, hm, hmn⟩, hbound, -⟩
    have := (hbound m hm).2
    exact Or.inr (by omega)
  · intro hh
    have hlim : f.length ≤ 1518 := by
      rcases hh with hh | hh
      · exact hf.limit hh
      · exact hh
    refine ⟨_, hst, ⟨n, by simp, hn⟩, ?_, ?_⟩
    · intro m hm
      obtain rfl : m = n := by simpa using hm
      omega
    · intro bs hbs
      obtain rfl : bs = f.payload := by simpa using hbs
      omega

lemma admitting_of_boot (c : Chip) (e : ChipEvent) (he : e.IsBoot) : admitting c e := by
  refine ⟨?_, ?_⟩
  · cases e <;> trivial
  · rintro f rsv rfl
    exact he.elim

/-- After the initialisation there is room for such a frame, and the chip admits it. -/
lemma Booted.admitting_kilobyte {d : DuplexMode} {v : World} (hb : Booted config d v)
    (hv : Filtered config v) (rsv : List Byte) : admitting v.chip (.deposit kilobyte rsv) := by
  refine ⟨?_, ?_⟩
  · change v.chip.used + kilobyte.slotSize ≤ rxRegion.size
    rw [hb.used, kilobyte_slotSize]
    decide
  · rintro f rsv ⟨⟩
    refine ⟨fun _ => by rw [kilobyte_length]; decide, fun _ => ?_⟩
    rw [hv.mamxfl, kilobyte_length]
    decide

/-- A frame that carries 1501 bytes of data. -/
def jumbo : Frame := { kilobyte with payload := List.replicate 1501 0#8 }

lemma jumbo_length : jumbo.length = 1519 := by
  rw [Frame.length_eq, jumbo, List.length_replicate]

/-- A configuration with huge frames. -/
def hugeConfig : Config := ⟨none, 1#1, 0#1, 0#1⟩

/-- With huge frames, the chip takes every frame that fits in the receive buffer. -/
lemma Booted.admits {d : DuplexMode} {w : World} (h : Booted hugeConfig d w)
    (hf : 64 ≤ f.length) : Admits w.chip f := by
  refine ⟨fun _ => hf, fun hzero => ?_⟩
  obtain ⟨g, estat, hi⟩ := h.initialised
  have hbit : w.chip.sfr MACON2 &&& HFRMEN = HFRMEN := by
    have hg := (Shadow.macon2 g hugeConfig).and (m := HFRMEN) (by decide)
    have hval : (((if hugeConfig.macHugeFrame = 1#1 then HFRMEN else 0#16) ||| PADCFG0 |||
      TXCRCEN) &&& HFRMEN) = HFRMEN := by decide
    rw [hval] at hg
    rw [hi.agrees.sfr MACON2 (by decide), Shadow.duplex_sfr, if_neg (by decide), if_pos rfl]
    split
    · rw [or_and_of_disjoint (by decide), hg]
    · rw [and_not_and_of_disjoint (by decide), hg]
  rw [hbit] at hzero
  exact absurd hzero (by decide)

end Result

end Enc624j600
