/-
# What a transmit call does

From a state in which no transmission is under way, a call with valid arguments refuses and
leaves the view of the sending side as it is, or it loads the frame, and the view it leaves is
the one after the end of its transmission.  Whenever `TXRTS` is set, the frame of the call lies
in the SRAM at `ETXST`, cyclically, and `ETXLEN` is its length.
-/
import Enc624j600.Transmit.View

namespace Enc624j600

open Cyclic Interaction

variable {fc : Prop} {Ends : TxView → TxOutcome → Prop} {τ : TxView} {d : DuplexMode}
  {bs cs : List Byte} {w : World}

/-! ### Loading a frame -/

/-- The frame that is selected for transmission is `bs`. -/
structure Buffered (bs : List Byte) (c : Chip) : Prop where
  has_etxst : gpRegion.Has (c.sfr ETXST).toNat
  etxlen : (c.sfr ETXLEN).toNat = bs.length
  bytes : readFrom gpRegion.next c.sram (c.sfr ETXST).toNat bs.length = bs

/-- Whatever is being sent is `bs`. -/
structure Sound (bs : List Byte) (c : Chip) : Prop where
  agrees : ∃ τ, TxAgrees False τ c
  buffered : c.Transmitting → Buffered bs c

lemma TxAgrees.mono {φ ψ : Prop} {c : Chip} (h : TxAgrees φ τ c) (hi : ψ → φ) :
    TxAgrees ψ τ c :=
  { h with fcop := fun hψ => h.fcop (hi hψ) }

lemma TxIdle.sound (h : TxIdle fc τ d w) : Sound bs w.chip :=
  ⟨⟨τ, h.agrees.mono False.elim⟩, fun ht => absurd ht h.not_transmitting⟩

lemma TxView.write_write (h : gpRegion.Has τ.start) :
    (τ.write bs).write cs = τ.write (bs ++ cs) := by
  have hs : (τ.write bs).start = gpRegion.loc τ.start bs.length := by
    simp only [TxView.start, TxView.write, Function.update_self]
    exact toNat_gpRegion_loc
  simp only [TxView.write] at hs ⊢
  rw [hs, Function.update_idem, Region.loc_loc, List.length_append, Region.writeTo_append h]

/-- A frame of at most one lap is found where it was loaded. -/
lemma TxAgrees.buffered {c : Chip} (h : TxAgrees fc (τ.load bs) c) (hs : gpRegion.Has τ.start)
    (hlen : bs.length ≤ gpRegion.size) : Buffered bs c := by
  have hsize : gpRegion.size = 0x2000 := rfl
  have hst : (c.sfr ETXST).toNat = τ.start := by
    rw [h.sfr _ (by decide) (by decide)]
    simp +decide [TxView.load, TxView.setSfr, TxView.start]
  have hn : (c.sfr ETXLEN).toNat = bs.length := by
    have he : c.sfr ETXLEN = BitVec.ofNat 16 bs.length := by
      rw [h.sfr _ (by decide) (by decide)]
      simp [TxView.load, TxView.setSfr]
    rw [he, BitVec.toNat_ofNat, Nat.mod_eq_of_lt (by omega)]
  refine ⟨hst ▸ hs, hn, ?_⟩
  rw [hst]
  calc readFrom gpRegion.next c.sram τ.start bs.length
      = readFrom gpRegion.next (τ.load bs).sram τ.start bs.length :=
        Region.readFrom_congr_region hs h.sram
    _ = bs := Region.readFrom_writeTo hs bs hlen

lemma Buffered.congr {c c' : Chip} (h : Buffered bs c) (hc : TxAgrees fc τ c)
    (hc' : TxAgrees fc τ c') : Buffered bs c' := by
  have hsfr : ∀ a, ¬ IsVolatile a → a ≠ ERXTAIL → c'.sfr a = c.sfr a :=
    fun a ha hne => (hc'.sfr a ha hne).trans (hc.sfr a ha hne).symm
  have hst : c'.sfr ETXST = c.sfr ETXST := hsfr _ (by decide) (by decide)
  have hlen : c'.sfr ETXLEN = c.sfr ETXLEN := hsfr _ (by decide) (by decide)
  refine ⟨hst ▸ h.has_etxst, hlen ▸ h.etxlen, ?_⟩
  rw [hst, ← Region.readFrom_congr_region h.has_etxst
    fun a ha => (hc.sram a ha).trans (hc'.sram a ha).symm]
  exact h.bytes

/-- The surroundings do not change what is being sent. -/
lemma stable_sound : Stable (TxEnv False fun _ _ => True) fun w => Sound bs w.chip := by
  rintro w w' ⟨⟨τ, hτ⟩, hb⟩ hR
  rcases hR.change τ hτ with ⟨hτ', ht⟩ | ⟨-, hn, o, -, hτ'⟩
  · exact ⟨⟨τ, hτ'⟩, fun ht' => (hb (ht.1 ht')).congr hτ hτ'⟩
  · exact ⟨⟨_, hτ'⟩, fun ht' => absurd ht' hn⟩

lemma TxIdle.setSfr (h : TxIdle fc τ d w) {a : Byte} (ha : a = ETXST ∨ a = ETXLEN) (v : Word) :
    TxIdle fc (τ.setSfr a v) d { w with chip := w.chip.setSfr a v } := by
  have hne : ∀ b, IsVolatile b ∨ b = ERXST → b ≠ a := by
    rintro b hb rfl
    rcases ha with rfl | rfl
    · exact absurd hb (by decide)
    · exact absurd hb (by decide)
  have hsfr : ∀ b, IsVolatile b ∨ b = ERXST → (w.chip.setSfr a v).sfr b = w.chip.sfr b :=
    fun b hb => by rw [Chip.setSfr_sfr, if_neg (hne b hb)]
  have hτ := h.agrees
  refine ⟨⟨⟨hτ.awake.por, hτ.awake.resetPending⟩, ?_, ?_, hτ.has_start, ?_, hτ.pointer, hτ.sram,
    ?_, ?_, ?_, hτ.wire⟩, ?_, h.duplexMode⟩
  · exact (hsfr _ (Or.inr rfl)).trans hτ.erxst
  · rw [Chip.head, hsfr _ (by decide)]
    exact hτ.has_head
  · intro b hb hb'
    simp only [Chip.setSfr, TxView.setSfr, Function.update_apply]
    rw [hτ.sfr b hb hb']
  · exact (hsfr _ (by decide)).trans hτ.etxstat
  · exact (hsfr _ (by decide)).trans hτ.etxwire
  · intro hfc
    rw [hsfr _ (by decide)]
    exact hτ.fcop hfc
  · rw [Chip.Transmitting, hsfr _ (by decide)]
    exact h.not_transmitting

lemma TxIdle.writeWindow (h : TxIdle fc τ d w) (bs : List Byte) :
    TxIdle fc (τ.write bs) d { w with chip := w.chip.writeWindow .EGPDATA bs } := by
  have hτ := h.agrees
  have hp : w.chip.pointer .EGPWRPT = τ.pointer .EGPWRPT := hτ.pointer _ (by decide)
  have hs : gpRegion.Has (τ.pointer .EGPWRPT).toNat := hτ.has_start
  refine ⟨⟨⟨hτ.awake.por, hτ.awake.resetPending⟩, hτ.erxst, hτ.has_head, ?_, hτ.sfr, ?_, ?_,
    hτ.etxstat, hτ.etxwire, hτ.fcop, hτ.wire⟩, h.not_transmitting, h.duplexMode⟩
  · simp only [TxView.start, TxView.write, Function.update_self]
    rw [toNat_gpRegion_loc]
    exact Region.has_loc
  · intro p hne
    simp only [Chip.writeWindow, Chip.writePointerOf, Chip.setPointer, hp, TxView.write,
      advance_egpdata hτ.erxst hs, Function.update_apply]
    split
    · rfl
    · exact hτ.pointer p hne
  · intro a ha
    simp only [Chip.writeWindow, Chip.writePointerOf, TxView.write, windowNext_egpdata hτ.erxst,
      hp]
    exact writeTo_apply_congr (hτ.sram a ha)

/-- The frame of the view is being sent. -/
lemma TxIdle.start (h : TxIdle fc τ d w) :
    TxBusy fc Ends τ d { w with chip := w.chip.single SETTXRTS } := by
  have hτ := h.agrees
  refine ⟨h.duplexMode, Or.inl ?_⟩
  rw [Chip.single_settxrts]
  refine ⟨⟨⟨hτ.awake.por, hτ.awake.resetPending⟩, ?_, ?_, hτ.has_start, ?_, hτ.pointer, hτ.sram,
    ?_, ?_, ?_, hτ.wire⟩, ?_⟩
  · simpa +decide using hτ.erxst
  · have hh : (w.chip.setSfr ECON1 (w.chip.sfr ECON1 ||| TXRTS)).head = w.chip.head := by
      simp +decide [Chip.head]
    rw [hh]
    exact hτ.has_head
  · intro a ha hne
    -- `ECON1` is not one of the registers that the view fixes
    rw [Chip.setSfr_sfr, if_neg]
    · exact hτ.sfr a ha hne
    · rintro rfl
      exact ha (by decide)
  · simpa +decide using hτ.etxstat
  · simpa +decide using hτ.etxwire
  · intro hfc
    rw [Chip.setSfr_sfr, if_pos rfl, or_and_of_disjoint (by decide)]
    exact hτ.fcop hfc
  · rw [Chip.Transmitting, Chip.setSfr_sfr, if_pos rfl, or_and_self_mask]
    decide

/-! ### The call -/

section Call

variable {destinationMac lengthType data : ℕ → Byte} {length : Word}

/-- Every instruction leaves a sound chip. -/
def Sends (bs : List Byte) : Guarantee Op Op.Res World := fun _ _ _ w' => Sound bs w'.chip

lemma shown_flowControl {c : Chip} (mode : DuplexMode) :
    c.shown (flowControlSfr mode) = c.sfr (flowControlSfr mode) := by
  cases mode <;> simp +decide [Chip.shown, flowControlSfr]

lemma shown_result {c : Chip} (mode : DuplexMode) :
    c.shown (resultSfr mode) = c.sfr (resultSfr mode) := by
  cases mode <;> simp +decide [Chip.shown, resultSfr]

lemma TxIdle.active_iff (h : TxIdle fc τ d w) (hd : fc ∨ d = .halfDuplex) :
    w.chip.sfr (flowControlSfr d) &&& flowControlMask d ≠ 0#16 ↔ τ.Active d := by
  cases d with
  | fullDuplex =>
    have hf := h.agrees.fcop (hd.resolve_right (by decide))
    simp only [flowControlSfr, flowControlMask, TxView.Active, ← hf]
  | halfDuplex => simp only [flowControlSfr, flowControlMask, TxView.Active, h.agrees.etxstat]

lemma TxIdle.result (h : TxIdle fc τ d w) (mode : DuplexMode) :
    w.chip.sfr (resultSfr mode) = τ.result mode := by
  cases mode with
  | fullDuplex => exact h.agrees.etxwire
  | halfDuplex => exact h.agrees.etxstat

lemma triple_flowControlActive :
    Triple machine (TxEnv fc Ends) (Sends bs) (TxIdle fc τ d) flowControlActive fun active w =>
      ((fc ∨ d = .halfDuplex) → (active = true ↔ τ.Active d)) ∧ TxIdle fc τ d w := by
  rw [flowControlActive_eq]
  refine triple_loc (T := fun mode w => mode = d ∧ TxIdle fc τ d w) stable_txIdle
    (fun w h => ⟨h.sound, h.duplexMode, h⟩) fun mode => Triple.of_and ?_
  rintro rfl
  refine triple_spi (T := fun status w => ((fc ∨ mode = .halfDuplex) →
    (status &&& flowControlMask mode ≠ 0#16 ↔ τ.Active mode)) ∧ TxIdle fc τ mode w) stable_txIdle
    (fun w h => h.agrees.awake.por) ?_ fun status => Triple.of_and fun hs => ?_
  · intro w h
    refine ⟨h.sound, fun hd => ?_, h⟩
    simp only [Chip.perform, shown_flowControl]
    exact h.active_iff hd
  · exact Triple.pure stable_txIdle fun w h => ⟨fun hd => decide_eq_true_iff.trans (hs hd), h⟩

lemma triple_writeWindow {α : Type} {k : Unit → Driver α} {Q : α → World → Prop}
    (hk : Triple machine (TxEnv fc Ends) (Sends bs) (TxIdle fc (τ.write cs) d) (k ()) Q) :
    Triple machine (TxEnv fc Ends) (Sends bs) (TxIdle fc τ d)
      (.op (.spi (.writeWindow .EGPDATA cs)) k) Q :=
  triple_spi stable_txIdle (fun _ h => h.agrees.awake.por)
    (fun _ h => ⟨(h.writeWindow cs).sound, h.writeWindow cs⟩) fun _ => hk

lemma triple_writeSfr {α : Type} {a : Byte} (ha : a = ETXST ∨ a = ETXLEN) {v : Word}
    {k : Unit → Driver α} {Q : α → World → Prop}
    (hk : Triple machine (TxEnv fc Ends) (Sends bs) (TxIdle fc (τ.setSfr a v) d) (k ()) Q) :
    Triple machine (TxEnv fc Ends) (Sends bs) (TxIdle fc τ d) (.op (.spi (.writeSfr a v)) k)
      Q := by
  refine triple_spi (T := fun _ => TxIdle fc (τ.setSfr a v) d) stable_txIdle
    (fun _ h => h.agrees.awake.por) ?_ fun _ => hk
  intro w h
  have he : w.chip.writeSfr a v = w.chip.setSfr a v := by
    rcases ha with rfl | rfl
    · exact w.chip.writeSfr_of_ne (by decide) v
    · exact w.chip.writeSfr_of_ne (by decide) v
  simp only [Chip.perform]
  rw [he]
  exact ⟨(h.setSfr ha v).sound, h.setSfr ha v⟩

lemma length_bytesOf (data : ℕ → Byte) (n : ℕ) : (bytesOf data n).length = n := by
  simp [bytesOf]

lemma length_frameBytes :
    (frameBytes destinationMac lengthType data length).length = 8 + length.toNat := by
  simp only [frameBytes, List.length_append, length_bytesOf]

/-- The three writes, and the registers written after them. -/
lemma TxView.load_frameBytes (h : gpRegion.Has τ.start) :
    ((((τ.write (bytesOf destinationMac 6)).write (bytesOf lengthType 2)).write
      (bytesOf data length.toNat)).setSfr ETXST (τ.pointer .EGPWRPT)).setSfr ETXLEN
        (8#16 + length) = τ.load (frameBytes destinationMac lengthType data length) := by
  have hlen : 8#16 + length =
      BitVec.ofNat 16 (frameBytes destinationMac lengthType data length).length := by
    rw [length_frameBytes, BitVec.ofNat_add, BitVec.ofNat_toNat, BitVec.setWidth_eq]
  rw [TxView.write_write h, TxView.write_write h, hlen]
  rfl

lemma triple_loadFrame :
    Triple machine (TxEnv fc Ends) (Sends bs) (TxIdle fc τ d)
      (loadFrame destinationMac lengthType data length)
      fun _ => TxIdle fc (τ.load (frameBytes destinationMac lengthType data length)) d := by
  refine Triple.of_fact (fun w h => h.agrees.has_start) fun hs => ?_
  refine triple_spi (T := fun p w => p = τ.pointer .EGPWRPT ∧ TxIdle fc τ d w) stable_txIdle
    (fun w h => h.agrees.awake.por)
    (fun w h => ⟨h.sound, h.agrees.pointer _ (by decide), h⟩) fun p => Triple.of_and ?_
  rintro rfl
  refine triple_writeWindow (triple_writeWindow (triple_writeWindow ?_))
  refine triple_writeSfr (Or.inl rfl) (triple_writeSfr (Or.inr rfl) ?_)
  rw [TxView.load_frameBytes hs]
  exact Triple.pure stable_txIdle fun w h => h

/-- While the frame is sent, and afterwards. -/
lemma TxBusy.sound (h : TxBusy fc Ends (τ.load bs) d w) (hs : gpRegion.Has τ.start)
    (hlen : bs.length ≤ gpRegion.size) : Sound bs w.chip := by
  rcases h.sending with ⟨hτ, -⟩ | ⟨o, -, hi⟩
  · exact ⟨⟨_, hτ.mono False.elim⟩, fun _ => hτ.buffered hs hlen⟩
  · exact hi.sound

/-- How a call with valid arguments ends, and the view it leaves. -/
inductive TxResult (fc : Prop) (Ends : TxView → TxOutcome → Prop) (τ : TxView) (d : DuplexMode)
    (bs : List Byte) (length : Word) : TransmitResult → TxView → Prop where
  | refused : ((fc ∨ d = .halfDuplex) → τ.Active d) →
      TxResult fc Ends τ d bs length .encFlowControlActive τ
  | sent {o : TxOutcome} : ((fc ∨ d = .halfDuplex) → ¬ τ.Active d) → Ends (τ.load bs) o →
      TxResult fc Ends τ d bs length (verdict length d (((τ.load bs).finish o).result d))
        ((τ.load bs).finish o)

/-- The wait for the end of a transmission. -/
lemma triple_awaitTransmission (hs : gpRegion.Has τ.start) (hlen : bs.length ≤ gpRegion.size) :
    Triple machine (TxEnv fc Ends) (Sends bs) (TxBusy fc Ends (τ.load bs) d) awaitTransmission
      fun _ w => ∃ o, Ends (τ.load bs) o ∧ TxIdle fc ((τ.load bs).finish o) d w := by
  have hdone : Stable (TxEnv fc Ends)
      fun w => ∃ o, Ends (τ.load bs) o ∧ TxIdle fc ((τ.load bs).finish o) d w :=
    Stable.exists fun o => (stable_const _).and stable_txIdle
  have hst : ∀ φ : Prop, Stable (TxEnv fc Ends) fun w => TxBusy fc Ends (τ.load bs) d w ∧
      (φ → ∃ o, Ends (τ.load bs) o ∧ TxIdle fc ((τ.load bs).finish o) d w) :=
    fun φ w w' h hR => ⟨stable_txBusy w w' h.1 hR, fun hφ => hdone w w' (h.2 hφ) hR⟩
  refine Triple.loop (T := fun x w => TxBusy fc Ends (τ.load bs) d w ∧ (x = true →
    ∃ o, Ends (τ.load bs) o ∧ TxIdle fc ((τ.load bs).finish o) d w)) stable_txBusy ?_
    (fun w h => h.1) ?_
  · refine triple_spi (T := fun econ1 w => TxBusy fc Ends (τ.load bs) d w ∧
      (econ1 &&& TXRTS = 0#16 →
        ∃ o, Ends (τ.load bs) o ∧ TxIdle fc ((τ.load bs).finish o) d w)) stable_txBusy ?_ ?_ ?_
    · intro w h
      rcases h.sending with ⟨hτ, -⟩ | ⟨o, -, hi⟩
      · exact hτ.awake.por
      · exact hi.agrees.awake.por
    · intro w h
      refine ⟨h.sound hs hlen, h, ?_⟩
      simp only [Chip.perform]
      rw [Chip.shown_of_ne _ (by decide)]
      -- a poll that finds `TXRTS` clear finds the transmission ended
      intro hclear
      exact h.sending.resolve_left fun hsend => hsend.2 hclear
    · intro econ1
      exact Triple.pure (hst _) fun w h => ⟨h.1, fun hx => h.2 (of_decide_eq_true hx)⟩
  · exact (Triple.pure hdone fun w h => h).pre fun w h => h.2 rfl

lemma triple_transmissionResult :
    Triple machine (TxEnv fc Ends) (Sends bs) (TxIdle fc τ d) (transmissionResult length)
      fun a w => a = verdict length d (τ.result d) ∧ TxIdle fc τ d w := by
  rw [transmissionResult_eq]
  refine triple_loc (T := fun mode w => mode = d ∧ TxIdle fc τ d w) stable_txIdle
    (fun w h => ⟨h.sound, h.duplexMode, h⟩) fun mode => Triple.of_and ?_
  rintro rfl
  refine triple_spi (T := fun value w => value = τ.result mode ∧ TxIdle fc τ mode w)
    stable_txIdle (fun w h => h.agrees.awake.por) ?_ fun value => Triple.of_and ?_
  · intro w h
    refine ⟨h.sound, ?_, h⟩
    simp only [Chip.perform, shown_result]
    exact h.result mode
  · rintro rfl
    exact Triple.pure stable_txIdle fun w h => ⟨rfl, h⟩

lemma triple_sendFrame (hs : gpRegion.Has τ.start) (hlen : bs.length ≤ gpRegion.size) :
    Triple machine (TxEnv fc Ends) (Sends bs) (TxIdle fc (τ.load bs) d) (sendFrame length)
      fun a w => ∃ o, Ends (τ.load bs) o ∧
        a = verdict length d (((τ.load bs).finish o).result d) ∧
          TxIdle fc ((τ.load bs).finish o) d w := by
  refine triple_spi (T := fun _ => TxBusy fc Ends (τ.load bs) d) stable_txIdle
    (fun w h => h.agrees.awake.por) ?_ fun _ => ?_
  · intro w h
    have hb : TxBusy fc Ends (τ.load bs) d { w with chip := w.chip.single SETTXRTS } := h.start
    exact ⟨hb.sound hs hlen, hb⟩
  change Triple _ _ _ _ (awaitTransmission.bind fun _ => transmissionResult length) _
  refine Triple.bind (triple_awaitTransmission hs hlen) fun _ => ?_
  refine Triple.of_exists fun o => Triple.of_and fun ho => ?_
  exact triple_transmissionResult.post fun a w h => ⟨o, ho, h⟩

/-- **A transmit call with valid arguments.** -/
theorem triple_transmit (h8 : 8 ≤ length.toNat) (h1500 : length.toNat ≤ 1500) :
    Triple machine (TxEnv fc Ends) (Sends (frameBytes destinationMac lengthType data length))
      (TxIdle fc τ d)
      (enc624j600Transmit (some destinationMac) (some lengthType) (some data) length)
      fun a w => ∃ τ', TxResult fc Ends τ d (frameBytes destinationMac lengthType data length)
        length a τ' ∧ TxIdle fc τ' d w := by
  have hlen : (frameBytes destinationMac lengthType data length).length ≤ gpRegion.size := by
    rw [length_frameBytes, gpRegion_size]
    omega
  rw [transmit_eq h8 h1500]
  refine Triple.of_fact (fun w h => h.agrees.has_start) fun hs => ?_
  refine Triple.bind triple_flowControlActive fun active => Triple.of_and fun hactive => ?_
  cases active with
  | true =>
    refine Triple.pure stable_txIdle fun w h => ⟨τ, .refused fun hd => (hactive hd).1 rfl, h⟩
  | false =>
    have hn : (fc ∨ d = .halfDuplex) → ¬ τ.Active d :=
      fun hd h => absurd ((hactive hd).2 h) (by decide)
    refine Triple.bind triple_loadFrame fun _ => (triple_sendFrame hs hlen).post ?_
    rintro a w ⟨o, ho, rfl, h⟩
    exact ⟨_, .sent hn ho, h⟩

end Call

end Enc624j600
