/-
# The operations of a transmit call

A call of `enc624j600_transmit` with valid arguments asks for the flow control, loads the frame
into the SRAM, sets `TXRTS`, waits for the end of the transmission and asks how it ended.  Its
only operations with an effect on the chip are the writes to the SRAM through the window of the
general-purpose area, the writes of `ETXST` and `ETXLEN`, and the setting of `TXRTS`.
-/
import Enc624j600.Chip.Stability

namespace Enc624j600

open Cyclic Interaction

/-! ### The parts of a transmit call -/

/-- The register that shows the flow control. -/
def flowControlSfr : DuplexMode → Byte
  | .fullDuplex => ECON1
  | .halfDuplex => ETXSTAT

/-- The bits that show an active flow control. -/
def flowControlMask : DuplexMode → Word
  | .fullDuplex => FCOP0 ||| FCOP1
  | .halfDuplex => DEFER

/-- The register that shows how a transmission ended. -/
def resultSfr : DuplexMode → Byte
  | .fullDuplex => ETXWIRE
  | .halfDuplex => ETXSTAT

/-- The value of that register after a successful transmission: in full duplex the bytes of the
padded frame and of its checksum were counted, in half duplex no error is shown. -/
def Acknowledges (length : Word) : DuplexMode → Word → Prop
  | .fullDuplex, etxwire => etxwire.toNat = max (14 + length.toNat) 60 + 4
  | .halfDuplex, etxstat => etxstat &&& (LATECOL ||| MAXCOL ||| EXDEFER) = 0#16

instance (length : Word) (mode : DuplexMode) (value : Word) :
    Decidable (Acknowledges length mode value) :=
  match mode with
  | .fullDuplex => inferInstanceAs (Decidable (_ = _))
  | .halfDuplex => inferInstanceAs (Decidable (_ = _))

/-- What the call returns after a transmission. -/
def verdict (length : Word) (mode : DuplexMode) (value : Word) : TransmitResult :=
  if Acknowledges length mode value then .encTransmitSucceeded else .encTransmitFailed

lemma verdict_ne_flowControl {length value : Word} {mode : DuplexMode} :
    verdict length mode value ≠ .encFlowControlActive := by
  unfold verdict
  split
  · decide
  · decide

/-- A frame before the chip adds the source address, the padding and the checksum. -/
def frameBytes (destinationMac lengthType data : ℕ → Byte) (length : Word) : List Byte :=
  bytesOf destinationMac 6 ++ bytesOf lengthType 2 ++ bytesOf data length.toNat

/-- `startTransmission` before its last instruction. -/
def loadFrame (destinationMac lengthType data : ℕ → Byte) (length : Word) : Driver Unit := do
  let gpwrptValue ← readBufferPointer .EGPWRPT
  writeToWindowReg .EGPDATA destinationMac 6
  writeToWindowReg .EGPDATA lengthType 2
  writeToWindowReg .EGPDATA data length.toNat
  writeSfrUnbanked ETXST gpwrptValue
  writeSfrUnbanked ETXLEN (8#16 + length)

/-- What follows the loading. -/
def sendFrame (length : Word) : Driver TransmitResult := do
  executeSingleByteInstruction SETTXRTS
  awaitTransmission
  transmissionResult length

variable {destinationMac lengthType data : ℕ → Byte} {length : Word}

lemma flowControlActive_eq : flowControlActive = (loc .getDuplexMode).bind fun mode =>
    (readSfrUnbanked (flowControlSfr mode)).bind fun status =>
      .pure (decide (status &&& flowControlMask mode ≠ 0#16)) := by
  unfold flowControlActive
  simp only [Prog.monad_bind]
  refine congrArg (Prog.bind _) (funext fun mode => ?_)
  cases mode with
  | fullDuplex =>
    rw [if_pos rfl]
    exact congrArg (Prog.bind _) (funext fun econ1 =>
      congrArg Prog.pure (decide_eq_decide.2 gt_zero_iff))
  | halfDuplex =>
    rw [if_neg (by decide)]
    exact congrArg (Prog.bind _) (funext fun etxstat =>
      congrArg Prog.pure (decide_eq_decide.2 gt_zero_iff))

/-- The comparison of the source, which replaces lengths below 46, counts the padding. -/
lemma wire_count_ne_iff {etxwire : Word} :
    etxwire.toNat ≠ 18 + (if length < 46#16 then 46#16 else length).toNat ↔
      ¬ Acknowledges length .fullDuplex etxwire := by
  have hmax : 18 + (if length < 46#16 then 46#16 else length).toNat =
      max (14 + length.toNat) 60 + 4 := by
    have h46 : (46#16).toNat = 46 := rfl
    split
    · rename_i h
      rw [BitVec.lt_def, h46] at h
      omega
    · rename_i h
      rw [BitVec.lt_def, h46] at h
      omega
  rw [hmax]
  rfl

lemma transmissionResult_eq : transmissionResult length = (loc .getDuplexMode).bind fun mode =>
    (readSfrUnbanked (resultSfr mode)).bind fun value => .pure (verdict length mode value) := by
  have hif : ∀ {φ ψ : Prop} [Decidable φ] [Decidable ψ], (φ ↔ ¬ ψ) →
      (if φ then .pure .encTransmitFailed else .pure .encTransmitSucceeded :
        Driver TransmitResult) =
        .pure (if ψ then .encTransmitSucceeded else .encTransmitFailed) := by
    intro φ ψ _ _ h
    by_cases hψ : ψ
    · rw [if_neg (fun hφ => h.1 hφ hψ), if_pos hψ]
    · rw [if_pos (h.2 hψ), if_neg hψ]
  unfold transmissionResult
  simp only [Prog.monad_bind]
  refine congrArg (Prog.bind _) (funext fun mode => ?_)
  cases mode with
  | fullDuplex =>
    rw [if_pos rfl]
    exact congrArg (Prog.bind _) (funext fun etxwire => hif wire_count_ne_iff)
  | halfDuplex =>
    rw [if_neg (by decide)]
    exact congrArg (Prog.bind _) (funext fun etxstat => hif gt_zero_iff)

/-- A call with valid arguments. -/
lemma transmit_eq (h8 : 8 ≤ length.toNat) (h1500 : length.toNat ≤ 1500) :
    enc624j600Transmit (some destinationMac) (some lengthType) (some data) length =
      flowControlActive.bind fun active =>
        if active then .pure .encFlowControlActive
        else (loadFrame destinationMac lengthType data length).bind fun _ => sendFrame length := by
  have h1 : ¬ length ≤ 7#16 := by
    rw [BitVec.le_def]
    simp
    omega
  have h2 : ¬ length > 1500#16 := by
    rw [gt_iff_lt, BitVec.lt_def]
    simp
    omega
  simp only [enc624j600Transmit, if_neg h1, if_neg h2]
  rfl

/-! ### What the operations do -/

/-- The instruction that starts a transmission. -/
abbrev startOp : Op := .spi (.single SETTXRTS)

/-- The operations that a transmit call may perform. -/
def IsTransmitOp : Op → Prop
  | .spi (.single opcode) => opcode = SETTXRTS
  | .spi (.readPointer _) => True
  | .spi (.writePointer _ _) => False
  | .spi (.readSfr _) => True
  | .spi (.writeSfr a _) => a = ETXST ∨ a = ETXLEN
  | .spi (.setBits _ _) => False
  | .spi (.clearBits _ _) => False
  | .spi (.readWindow _ _) => False
  | .spi (.writeWindow reg _) => reg = .EGPDATA
  | .loc .getDuplexMode => True
  | .loc _ => False

lemma awaitTransmission_all : awaitTransmission.All IsTransmitOp :=
  ⟨⟨trivial, fun _ => trivial⟩, trivial⟩

lemma loadFrame_all : (loadFrame destinationMac lengthType data length).All fun o =>
    IsTransmitOp o ∧ o ≠ startOp := by
  refine ⟨⟨trivial, by simp⟩, fun _ => ⟨⟨rfl, by simp⟩, fun _ => ⟨⟨rfl, by simp⟩, fun _ => ?_⟩⟩⟩
  exact ⟨⟨rfl, by simp⟩, fun _ => ⟨⟨Or.inl rfl, by simp⟩, fun _ => ⟨⟨Or.inr rfl, by simp⟩,
    fun _ => trivial⟩⟩⟩

lemma flowControlActive_all : flowControlActive.All fun o =>
    IsTransmitOp o ∧ o ≠ startOp := by
  rw [flowControlActive_eq]
  exact ⟨⟨trivial, by simp⟩, fun _ => ⟨⟨trivial, by simp⟩, fun _ => trivial⟩⟩

lemma sendFrame_all : (sendFrame length).All IsTransmitOp := by
  have hset : (executeSingleByteInstruction SETTXRTS).All IsTransmitOp := ⟨rfl, fun _ => trivial⟩
  refine Prog.All.bind hset fun _ => Prog.All.bind awaitTransmission_all fun _ => ?_
  rw [transmissionResult_eq]
  exact ⟨trivial, fun _ => ⟨trivial, fun _ => trivial⟩⟩

/-- A property of programs that goes over from the parts of a transmit call to the call. -/
lemma transmit_of {Φ : ∀ {α : Type}, Driver α → Prop} {destinationMac lengthType data : Ptr}
    (hpure : ∀ {α : Type} (a : α), Φ (.pure a : Driver α))
    (hbind : ∀ {α β : Type} {p : Driver α} {f : α → Driver β}, Φ p → (∀ a, Φ (f a)) →
      Φ (p.bind f))
    (hflow : Φ flowControlActive) (hload : ∀ d l p, Φ (loadFrame d l p length))
    (hsend : Φ (sendFrame length)) :
    Φ (enc624j600Transmit destinationMac lengthType data length) := by
  unfold enc624j600Transmit
  split
  · rename_i destinationMac lengthType data
    split
    · exact hpure _
    · split
      · exact hpure _
      · refine hbind hflow fun active => ?_
        split
        · exact hpure _
        · change Φ ((loadFrame destinationMac lengthType data length).bind
            fun _ => sendFrame length)
          exact hbind (hload _ _ _) fun _ => hsend
  · exact hpure _

lemma transmit_all_of {S : Op → Prop} {destinationMac lengthType data : Ptr}
    (hflow : flowControlActive.All S) (hload : ∀ d l p, (loadFrame d l p length).All S)
    (hsend : (sendFrame length).All S) :
    (enc624j600Transmit destinationMac lengthType data length).All S :=
  transmit_of (Φ := fun p => p.All S) (fun _ => trivial) Prog.All.bind hflow hload hsend

lemma transmit_all (destinationMac lengthType data : Ptr) (length : Word) :
    (enc624j600Transmit destinationMac lengthType data length).All IsTransmitOp :=
  transmit_all_of (flowControlActive_all.mono fun _ h => h.1)
    (fun _ _ _ => loadFrame_all.mono fun _ h => h.1) sendFrame_all

/-- What an operation of a transmit call does to the chip. -/
structure TransmitEffect (o : Op) (c c' : Chip) : Prop where
  por : c'.por = c.por
  resetPending : c'.resetPending = c.resetPending
  pktcnt : c'.pktcnt = c.pktcnt
  deposited : c'.deposited = c.deposited
  delivered : c'.delivered = c.delivered
  wire : c'.wire = c.wire
  sfr : ∀ a, a ≠ ETXST → a ≠ ETXLEN → a ≠ ECON1 → c'.sfr a = c.sfr a
  pointer : ∀ p, p ≠ .EGPWRPT → c'.pointer p = c.pointer p
  sram : c.sfr ERXST = 0x2000#16 → gpRegion.Has (c.pointer .EGPWRPT).toNat →
    gpRegion.Has (c'.pointer .EGPWRPT).toNat ∧ ∀ a, ¬ gpRegion.Has a → c'.sram a = c.sram a
  receiving : c'.Receiving ↔ c.Receiving
  econ1 : o ≠ startOp → c'.sfr ECON1 = c.sfr ECON1

lemma TransmitEffect.sfr_of_ne {o : Op} {c c' : Chip} (h : TransmitEffect o c c') {a : Byte}
    (ha : a ≠ ETXST ∧ a ≠ ETXLEN ∧ a ≠ ECON1) : c'.sfr a = c.sfr a :=
  h.sfr a ha.1 ha.2.1 ha.2.2

/-- The window of the general-purpose area wraps around at its end. -/
lemma windowNext_egpdata {c : Chip} (h : c.sfr ERXST = 0x2000#16) :
    c.windowNext .EGPDATA = gpRegion.next := by
  funext a
  simp only [Chip.windowNext, h, Region.next, gpRegion_base, gpRegion_size]
  rfl

lemma toNat_gpRegion_loc {a k : ℕ} :
    (BitVec.ofNat 16 (gpRegion.loc a k)).toNat = gpRegion.loc a k := by
  have h : gpRegion.loc a k < 0x2000 := gpRegion_has_iff.1 Region.has_loc
  rw [BitVec.toNat_ofNat, Nat.mod_eq_of_lt (by omega)]

/-- The write pointer after `n` bytes. -/
lemma advance_egpdata {c : Chip} (h : c.sfr ERXST = 0x2000#16) {p : Word}
    (hp : gpRegion.Has p.toNat) (n : ℕ) :
    c.advance .EGPDATA p n = BitVec.ofNat 16 (gpRegion.loc p.toNat n) := by
  rw [Chip.advance, windowNext_egpdata h, Region.iterate_next hp]

/-- A transmit call leaves the variables of the driver alone. -/
lemma transmitOp_driver {w w' : World} {o : Op} {r : o.Res} (ho : IsTransmitOp o)
    (hs : machine.step w o r w') : w'.duplexMode = w.duplexMode ∧
      w'.nextReceiveFramePointer = w.nextReceiveFramePointer ∧ w'.stored = w.stored := by
  obtain ⟨-, rfl⟩ := machine_step_iff.1 hs
  cases o with
  | spi i => exact ⟨rfl, rfl, rfl⟩
  | loc l =>
    cases l with
    | getDuplexMode => exact ⟨rfl, rfl, rfl⟩
    | _ => exact absurd ho id

lemma transmitEffect {w w' : World} {o : Op} {r : o.Res} (ho : IsTransmitOp o)
    (hp : w.chip.por = false) (hs : machine.step w o r w') :
    TransmitEffect o w.chip w'.chip := by
  obtain ⟨-, rfl⟩ := machine_step_iff.1 hs
  have hsame : ∀ o, TransmitEffect o w.chip w.chip := fun o =>
    ⟨rfl, rfl, rfl, rfl, rfl, rfl, fun _ _ _ _ => rfl, fun _ _ => rfl,
      fun _ h => ⟨h, fun _ _ => rfl⟩, Iff.rfl, fun _ => rfl⟩
  have hwrite : ∀ o v a, a = ETXST ∨ a = ETXLEN →
      TransmitEffect o w.chip (w.chip.setSfr a v) := by
    intro o v a ha
    have hne : ECON1 ≠ a := by
      rcases ha with rfl | rfl
      · decide
      · decide
    refine ⟨rfl, rfl, rfl, rfl, rfl, rfl, fun b h1 h2 _ => ?_, fun _ _ => rfl,
      fun _ h => ⟨h, fun _ _ => rfl⟩, ?_, fun _ => ?_⟩
    · rw [Chip.setSfr_sfr, if_neg]
      rintro rfl
      exact ha.elim h1 h2
    · rw [Chip.Receiving, Chip.setSfr_sfr, if_neg hne]
      rfl
    · rw [Chip.setSfr_sfr, if_neg hne]
  cases o with
  | loc l =>
    have hc : (w.perform (.loc l)).2.chip = w.chip := by cases l <;> rfl
    rw [hc]
    exact hsame _
  | spi i =>
    rw [World.perform_spi hp]
    cases i with
    | single opcode =>
      obtain rfl : opcode = SETTXRTS := ho
      simp only [Chip.perform]
      rw [Chip.single_settxrts]
      refine ⟨rfl, rfl, rfl, rfl, rfl, rfl, fun a _ _ ha => by rw [Chip.setSfr_sfr, if_neg ha],
        fun _ _ => rfl, fun _ h => ⟨h, fun _ _ => rfl⟩, ?_, fun h => absurd rfl h⟩
      rw [Chip.Receiving, Chip.setSfr_sfr, if_pos rfl, or_and_of_disjoint (by decide)]
      rfl
    | readPointer p => exact hsame _
    | writePointer p v => exact absurd ho id
    | readSfr a => exact hsame _
    | writeSfr a v =>
      have he : w.chip.writeSfr a v = w.chip.setSfr a v := by
        rcases ho with rfl | rfl
        · exact w.chip.writeSfr_of_ne (by decide) v
        · exact w.chip.writeSfr_of_ne (by decide) v
      simp only [Chip.perform]
      rw [he]
      exact hwrite _ _ _ ho
    | setBits a m => exact absurd ho id
    | clearBits a m => exact absurd ho id
    | readWindow reg n => exact absurd ho id
    | writeWindow reg bs =>
      obtain rfl : reg = .EGPDATA := ho
      refine ⟨rfl, rfl, rfl, rfl, rfl, rfl, fun _ _ _ _ => rfl, ?_, ?_, Iff.rfl, fun _ => rfl⟩
      · intro p hp
        simp only [Chip.perform, Chip.writeWindow, Chip.writePointerOf]
        rw [Chip.setPointer_pointer, if_neg hp]
      · intro hst hh
        simp only [Chip.perform, Chip.writeWindow, Chip.writePointerOf, windowNext_egpdata hst,
          advance_egpdata hst hh]
        refine ⟨?_, fun a ha => Region.writeTo_apply_of_not_has hh ha⟩
        rw [Chip.setPointer_pointer, if_pos rfl, toNat_gpRegion_loc]
        exact Region.has_loc

/-- Setting `TXRTS` sets it. -/
lemma transmitting_of_start {u u' : World} (hu : u.chip.Awake)
    (hs : machine.step u startOp () u') : u'.chip.Transmitting ∧ u'.duplexMode = u.duplexMode := by
  obtain ⟨-, rfl⟩ := machine_step_iff.1 hs
  refine ⟨?_, rfl⟩
  rw [World.perform_spi hu.por, Chip.perform, Chip.single_settxrts, Chip.Transmitting,
    Chip.setSfr_sfr, if_pos rfl, or_and_self_mask]
  decide

/-! ### A transmit call can come to its end -/

lemma awake_of_transmitOp (w : World) (o : Op) (r : o.Res) (w' : World) (ho : IsTransmitOp o)
    (ha : w.chip.Awake) (hs : machine.step w o r w') : w'.chip.Awake := by
  have he := transmitEffect ho ha.por hs
  exact ⟨he.por.trans ha.por, he.resetPending.trans ha.resetPending⟩

lemma transmitOp_awake {R : World → World → Prop} {α : Type} {p q : Driver α} {w v : World}
    {t : List (Event Op Op.Res)} (hR : Stable R fun w => w.chip.Awake) (hp : p.All IsTransmitOp)
    (hw : w.chip.Awake) (h : Reach machine R p w t q v) : v.chip.Awake :=
  (h.invariant (F := fun u : World => u.chip.Awake) hp awake_of_transmitOp hR hw).1

/-- A transmission that is under way can end. -/
def Completes (E : Surroundings) : Prop := ∀ c : Chip, c.Transmitting → ∃ o, E c (.transmitted o)

lemma not_transmitting_transmitted {c : Chip} {o : TxOutcome} :
    ¬ ((ChipEvent.transmitted o).apply c).Transmitting := by
  have h : ChipEvent.withFcop (c.sfr ECON1 &&& ~~~TXRTS) o.fcop &&& TXRTS = 0#16 := by
    rw [ChipEvent.withFcop_and (by decide), and_not_and_self_mask]
  simp +decide [ChipEvent.apply, Chip.Transmitting, h]

variable {E : Surroundings}

lemma exists_not_transmitting (hE : Completes E) (w : World) :
    ∃ w', Drift E.rely w w' ∧ ¬ w'.chip.Transmitting := by
  by_cases h : w.chip.Transmitting
  · obtain ⟨o, ho⟩ := hE _ h
    exact ⟨_, .single ⟨.transmitted o, ho, h, rfl⟩, not_transmitting_transmitted⟩
  · exact ⟨w, .refl, h⟩

/-- The loop of the wait for the end of a transmission. -/
def transmissionPoll : Driver Bool :=
  .op (.spi (.readSfr ECON1)) fun econ1 => .pure (decide (econ1 &&& TXRTS = 0#16))

lemma transmissionPoll_loopFree : transmissionPoll.LoopFree := fun _ => trivial

lemma transmit_loopsOf (destinationMac lengthType data : Ptr) (length : Word) :
    (enc624j600Transmit destinationMac lengthType data length).LoopsOf transmissionPoll := by
  refine transmit_of (Φ := fun p => p.LoopsOf transmissionPoll) (fun _ => trivial)
    Prog.LoopsOf.bind ?_ ?_ ?_
  · rw [flowControlActive_eq]
    exact fun _ _ => trivial
  · exact fun _ _ _ _ _ _ _ _ _ => trivial
  · have hset : (executeSingleByteInstruction SETTXRTS).LoopsOf transmissionPoll :=
      fun _ => trivial
    have hwait : awaitTransmission.LoopsOf transmissionPoll := ⟨rfl, trivial⟩
    refine hset.bind fun _ => hwait.bind fun _ => ?_
    rw [transmissionResult_eq]
    exact fun _ _ => trivial

/-- In every state, a transmission that is under way can end before the next poll. -/
lemma exists_transmissionPoll (hE : Completes E) {w : World} (hw : w.chip.Awake) :
    ∃ t v, Returns machine E.rely transmissionPoll w t true v := by
  obtain ⟨w', hd, hn⟩ := exists_not_transmitting hE w
  have ha : w'.chip.Awake := stable_awake.drift hw hd
  have hs : machine.step w' (.spi (.readSfr ECON1)) (w'.chip.sfr ECON1) w' := by
    rw [← w'.chip.shown_of_ne (a := ECON1) (by decide)]
    exact step_spi ha.por (.readSfr ECON1)
  have hc : decide (w'.chip.sfr ECON1 &&& TXRTS = 0#16) = true := decide_eq_true (not_not.1 hn)
  have hpoll : Returns machine E.rely transmissionPoll w' _ _ w' :=
    Returns.op hs (Returns.pure_drift _ .refl)
  rw [hc] at hpoll
  exact ⟨_, w', hpoll.drift_left hd⟩

/-- A transmit call can come to its end from every point that it reaches, in whatever
surroundings. -/
lemma exists_transmit_reach (hE : Completes E) {R : World → World → Prop}
    {destinationMac lengthType data : Ptr} {length : Word} {w u : World}
    {s : List (Event Op Op.Res)} {q : Driver TransmitResult}
    (hr : Reach machine R (enc624j600Transmit destinationMac lengthType data length) w s q u)
    (hu : u.chip.Awake) : ∃ t a v, Returns machine E.rely q u t a v := by
  have hq := (hr.events (transmit_all _ _ _ _)).2
  have hloops := hr.loopsOf transmissionPoll_loopFree (transmit_loopsOf _ _ _ _)
  exact exists_returns_of_loopsOf machine_total awake_of_transmitOp stable_awake
    (fun u hu => exists_transmissionPoll hE hu) q hq hloops u hu

/-- Every transmit call can come to its end. -/
lemma exists_transmit (hE : Completes E) (destinationMac lengthType data : Ptr) (length : Word)
    {w : World} (hw : w.chip.Awake) : ∃ t a v, Returns machine E.rely
      (enc624j600Transmit destinationMac lengthType data length) w t a v :=
  exists_transmit_reach (R := E.rely) hE .refl hw

end Enc624j600
