/-
# Outcomes

How a call of `enc624j600_transmit` or `enc624j600_receive` can end, and what it did by then.
A call that refuses has not written anything, and the state it leaves is one that the
surroundings of the driver lead to on their own.
-/
import Enc624j600.Transmit.Operations
import Enc624j600.Receive.Operations
import Enc624j600.Init.Run

namespace Enc624j600

open Interaction

/-- The events of `loadFrame`, when the write pointer is at `p`. -/
def loadEvents (destinationMac lengthType data : ℕ → Byte) (length p : Word) :
    List (Event Op Op.Res) :=
  [⟨.spi (.readPointer .EGPWRPT), p⟩, windowWrite (bytesOf destinationMac 6),
    windowWrite (bytesOf lengthType 2), windowWrite (bytesOf data length.toNat),
    sfrWrite ETXST p, sfrWrite ETXLEN (8#16 + length)]

/-- The wait for the end of a transmission: `TXRTS` reads as clear in its last poll, and only
there. -/
def TransmissionPolls (t : List (Event Op Op.Res)) : Prop :=
  Polls (.spi (.readSfr ECON1)) (fun econ1 => decide (econ1 &&& TXRTS = 0#16)) t

/-- The run of `p` performs `t₁`, finds `TXRTS` clear, sets it, and performs `t₂` then. -/
def SetsTxrts (R : World → World → Prop) (p : Driver TransmitResult) (w : World)
    (t₁ t₂ : List (Event Op Op.Res)) (a : TransmitResult) (v : World) : Prop :=
  ∃ k u u', Reach machine R p w t₁ (.op startOp k) u ∧ ¬ u.chip.Transmitting ∧
    machine.step u startOp () u' ∧ u'.chip.Transmitting ∧ Returns machine R (k ()) u' t₂ a v

/-- Nothing happened between `w` and `v` but what the surroundings did on their own; the
variables of the driver and the objects of its callers are as they were. -/
structure Untouched (R : World → World → Prop) (w v : World) : Prop where
  drift : Drift R w v
  same : SameDriver w v

/-- How a transmit call ends that started in `w` and performed `t`. -/
inductive TransmitOutcome (R : World → World → Prop) (length : Word) (w v : World) :
    Ptr → Ptr → Ptr → List (Event Op Op.Res) → TransmitResult → Prop where
  | nullPointer {destinationMac lengthType data : Ptr} :
      destinationMac = none ∨ lengthType = none ∨ data = none → Untouched R w v →
      TransmitOutcome R length w v destinationMac lengthType data [] .encTransmitFailed
  | tooSmall {destinationMac lengthType data : ℕ → Byte} :
      length.toNat ≤ 7 → Untouched R w v →
      TransmitOutcome R length w v (some destinationMac) (some lengthType) (some data) []
        .encTransmitDataIsTooSmall
  | exceedMtu {destinationMac lengthType data : ℕ → Byte} :
      1500 < length.toNat → Untouched R w v →
      TransmitOutcome R length w v (some destinationMac) (some lengthType) (some data) []
        .encTransmitDataExceedMtu
  | flowControl {destinationMac lengthType data : ℕ → Byte} {status : Word} :
      8 ≤ length.toNat → length.toNat ≤ 1500 →
      status &&& flowControlMask w.duplexMode ≠ 0#16 → Untouched R w v →
      TransmitOutcome R length w v (some destinationMac) (some lengthType) (some data)
        [modeRead w.duplexMode, sfrRead (flowControlSfr w.duplexMode) status]
        .encFlowControlActive
  | sent {destinationMac lengthType data : ℕ → Byte} {status p value : Word}
      {polls : List (Event Op Op.Res)} :
      8 ≤ length.toNat → length.toNat ≤ 1500 →
      status &&& flowControlMask w.duplexMode = 0#16 → TransmissionPolls polls →
      (w.chip.Awake → ¬ w.chip.Transmitting →
        SetsTxrts R
          (enc624j600Transmit (some destinationMac) (some lengthType) (some data) length) w
          ([modeRead w.duplexMode, sfrRead (flowControlSfr w.duplexMode) status] ++
            loadEvents destinationMac lengthType data length p)
          (polls ++ [modeRead w.duplexMode, sfrRead (resultSfr w.duplexMode) value])
          (verdict length w.duplexMode value) v) →
      TransmitOutcome R length w v (some destinationMac) (some lengthType) (some data)
        ([modeRead w.duplexMode, sfrRead (flowControlSfr w.duplexMode) status] ++
          loadEvents destinationMac lengthType data length p ++ ⟨startOp, ()⟩ :: polls ++
            [modeRead w.duplexMode, sfrRead (resultSfr w.duplexMode) value])
        (verdict length w.duplexMode value)

/-- How a receive call ends that started in `w` and performed `t`; `u` is the world in which
it read the packet counter. -/
inductive ReceiveOutcome (R : World → World → Prop) (w v : World) :
    OutPtr → OutPtr → OutPtr → OutPtr → OutPtr → List (Event Op Op.Res) → ReceiveResult →
      Prop where
  | nullPointer {destinationMac sourceMac lengthType buffer receivedBytes : OutPtr} :
      destinationMac = .null ∨ sourceMac = .null ∨ lengthType = .null ∨ buffer = .null ∨
        receivedBytes = .null → Untouched R w v →
      ReceiveOutcome R w v destinationMac sourceMac lengthType buffer receivedBytes []
        .encReceiveFailed
  | noPendingFrame {u : World} {estat : Word} :
      Untouched R w u → (u.chip.por = false → u.chip.pktcnt = 0#8) → estat &&& PKTCNT = 0#16 →
      Untouched R u v →
      ReceiveOutcome R w v .object .object .object .object .object [sfrRead ESTAT estat]
        .encReceiveNoPendingFrame
  | received {u : World} {estat : Word} {t : List (Event Op Op.Res)} :
      Untouched R w u → (u.chip.por = false → u.chip.pktcnt ≠ 0#8) → estat &&& PKTCNT ≠ 0#16 →
      ReceiveOutcome R w v .object .object .object .object .object (sfrRead ESTAT estat :: t)
        .encReceiveSucceeded

section Inversion

variable {E : Surroundings} {w v : World} {t : List (Event Op Op.Res)} {a : TransmitResult}
  {destinationMac lengthType data : ℕ → Byte} {length : Word}

lemma untouched (h : Drift E.rely w v) : Untouched E.rely w v := by
  refine ⟨h, ?_⟩
  induction h with
  | refl => exact ⟨rfl, rfl, rfl⟩
  | tail _ hR ih => exact ih.rely hR

/-- The read of the duplex mode and of the register for it. -/
lemma returns_query {β : Type} {b : DuplexMode → Byte} {f : DuplexMode → Word → β} {c : β}
    (h : Returns machine E.rely ((loc .getDuplexMode).bind fun mode =>
      (readSfrUnbanked (b mode)).bind fun r => .pure (f mode r)) w t c v) :
    ∃ r, t = [modeRead w.duplexMode, sfrRead (b w.duplexMode) r] ∧ c = f w.duplexMode r ∧
      Drift E.rely w v := by
  obtain ⟨w₁, mode, w₂, t₁, hd₁, hs₁, rfl, h₁⟩ := returns_op_iff.1 h
  obtain ⟨w₃, r, w₄, t₂, hd₂, hs₂, rfl, h₂⟩ := returns_op_iff.1 h₁
  obtain ⟨rfl, rfl, hd₃⟩ := returns_pure_iff.1 h₂
  obtain ⟨rfl, rfl⟩ : mode = w₁.duplexMode ∧ w₂ = w₁ := machine_step_iff.1 hs₁
  obtain rfl := step_readSfr hs₂
  rw [(untouched hd₁).same.duplexMode]
  exact ⟨r, rfl, rfl, (hd₁.trans hd₂).trans hd₃⟩

lemma returns_loadFrame
    (h : Returns machine E.rely (loadFrame destinationMac lengthType data length) w t () v) :
    ∃ p, t = loadEvents destinationMac lengthType data length p := by
  obtain ⟨_, p, _, t₁, -, -, rfl, h₁⟩ := returns_op_iff.1 h
  obtain ⟨_, _, _, t₂, -, -, rfl, h₂⟩ := returns_op_iff.1 h₁
  obtain ⟨_, _, _, t₃, -, -, rfl, h₃⟩ := returns_op_iff.1 h₂
  obtain ⟨_, _, _, t₄, -, -, rfl, h₄⟩ := returns_op_iff.1 h₃
  obtain ⟨_, _, _, t₅, -, -, rfl, h₅⟩ := returns_op_iff.1 h₄
  obtain ⟨_, _, _, t₆, -, -, rfl, h₆⟩ := returns_op_iff.1 h₅
  obtain ⟨rfl, -, -⟩ := returns_pure_iff.1 h₆
  exact ⟨p, rfl⟩

/-- The state before `TXRTS` is set. -/
lemma reach_transmitOp {α : Type} {p q : Driver α}
    (hp : p.All fun o => IsTransmitOp o ∧ o ≠ startOp) (h : Reach machine E.rely p w t q v) :
    v.duplexMode = w.duplexMode ∧ (w.chip.Awake → ¬ w.chip.Transmitting →
      v.chip.Awake ∧ ¬ v.chip.Transmitting) := by
  have hmode : v.duplexMode = w.duplexMode := by
    refine (h.invariant (F := fun u => u.duplexMode = w.duplexMode) hp ?_ ?_ rfl).1
    · exact fun u o r u' ho hu hs => (transmitOp_driver ho.1 hs).1.trans hu
    · exact fun u u' hu hR => (rely_driver hR).1.trans hu
  refine ⟨hmode, fun ha hn => ?_⟩
  refine (h.invariant (F := fun u => u.chip.Awake ∧ ¬ u.chip.Transmitting) hp ?_ ?_ ⟨ha, hn⟩).1
  · rintro u o r u' ho ⟨ha, hn⟩ hs
    have he := transmitEffect ho.1 ha.por hs
    refine ⟨⟨he.por.trans ha.por, he.resetPending.trans ha.resetPending⟩, ?_⟩
    rw [Chip.Transmitting, he.econ1 ho.2]
    exact hn
  · rintro u u' ⟨ha, hn⟩ hR
    obtain ⟨ha', hn', -⟩ := stable_not_transmitting u u' ⟨ha, hn, rfl⟩ hR
    exact ⟨ha', hn'⟩

/-- The wait and the check after `TXRTS` was set. -/
lemma returns_awaitTransmission {d : DuplexMode} (hd : w.duplexMode = d)
    (h : Returns machine E.rely (awaitTransmission.bind fun _ => transmissionResult length) w t a
      v) :
    ∃ polls value, TransmissionPolls polls ∧ a = verdict length d value ∧
      t = polls ++ [modeRead d, sfrRead (resultSfr d) value] := by
  obtain ⟨_, u, t₁, t₂, h₁, h₂, rfl⟩ := returns_bind_iff.1 h
  have hu : u.duplexMode = d := by
    refine (Reach.invariant (F := fun u => u.duplexMode = d) awaitTransmission_all ?_ ?_ hd h₁).1
    · exact fun u o r u' ho hu hs => (transmitOp_driver ho hs).1.trans hu
    · exact fun u u' hu hR => (rely_driver hR).1.trans hu
  obtain ⟨polls, t₃, u', hp, rfl, h₃⟩ := returns_poll h₁
  obtain ⟨rfl, -, -⟩ := returns_pure_iff.1 h₃
  rw [transmissionResult_eq] at h₂
  obtain ⟨value, rfl, rfl, -⟩ := returns_query h₂
  rw [hu]
  exact ⟨polls, value, hp, rfl, by simp⟩

/-- A call with valid arguments. -/
lemma transmit_outcome_of_valid (h8 : 8 ≤ length.toNat) (h1500 : length.toNat ≤ 1500)
    (h : Returns machine E.rely
      (enc624j600Transmit (some destinationMac) (some lengthType) (some data) length) w t a v) :
    TransmitOutcome E.rely length w v (some destinationMac) (some lengthType) (some data) t a := by
  rw [transmit_eq h8 h1500] at h
  obtain ⟨active, w₁, t₁, t₂, h₁, h₂, rfl⟩ := returns_bind_iff.1 h
  have hquery := h₁
  rw [flowControlActive_eq] at hquery
  obtain ⟨status, rfl, hactive, hd₁⟩ := returns_query hquery
  cases active with
  | true =>
    obtain ⟨rfl, rfl, hd⟩ := returns_pure_iff.1 h₂
    exact .flowControl h8 h1500 (of_decide_eq_true hactive.symm) (untouched (hd₁.trans hd))
  | false =>
    have hstatus : status &&& flowControlMask w.duplexMode = 0#16 :=
      not_not.1 (of_decide_eq_false hactive.symm)
    obtain ⟨_, w₂, t₃, t₄, h₃, h₄, rfl⟩ := returns_bind_iff.1 h₂
    obtain ⟨p, rfl⟩ := returns_loadFrame h₃
    obtain ⟨u, ⟨⟩, u', t₅, hd, hs, rfl, h₅⟩ := returns_op_iff.1 h₄
    -- the instructions up to here leave `ECON1` alone
    obtain ⟨hm₁, hn₁⟩ := reach_transmitOp flowControlActive_all h₁
    obtain ⟨hm₂, hn₂⟩ := reach_transmitOp loadFrame_all (Reach.trans h₃ (Reach.drift hd))
    have hm' : u'.duplexMode = w.duplexMode :=
      (transmitOp_driver (o := startOp) rfl hs).1.trans (hm₂.trans hm₁)
    obtain ⟨polls, value, hpolls, rfl, rfl⟩ := returns_awaitTransmission hm' h₅
    refine TransmitOutcome.sent h8 h1500 hstatus hpolls fun ha hn => ?_
    obtain ⟨ha₁, hn₁⟩ := hn₁ ha hn
    obtain ⟨ha₂, hn₂⟩ := hn₂ ha₁ hn₁
    refine ⟨fun _ => awaitTransmission.bind fun _ => transmissionResult length, u, u', ?_, hn₂,
      hs, (transmitting_of_start ha₂ hs).1, h₅⟩
    rw [transmit_eq h8 h1500]
    exact (Reach.bind _ h₁).trans (Reach.bind _ (h₃.drift_right hd))

lemma transmit_outcome {destinationMac lengthType data : Ptr}
    (h : Returns machine E.rely (enc624j600Transmit destinationMac lengthType data length) w t a
      v) : TransmitOutcome E.rely length w v destinationMac lengthType data t a := by
  cases destinationMac with
  | none =>
    obtain ⟨rfl, rfl, hd⟩ := returns_pure_iff.1 h
    exact .nullPointer (Or.inl rfl) (untouched hd)
  | some destinationMac =>
    cases lengthType with
    | none =>
      obtain ⟨rfl, rfl, hd⟩ := returns_pure_iff.1 h
      exact .nullPointer (Or.inr (Or.inl rfl)) (untouched hd)
    | some lengthType =>
      cases data with
      | none =>
        obtain ⟨rfl, rfl, hd⟩ := returns_pure_iff.1 h
        exact .nullPointer (Or.inr (Or.inr rfl)) (untouched hd)
      | some data =>
        by_cases h7 : length ≤ 7#16
        · simp only [enc624j600Transmit, if_pos h7] at h
          obtain ⟨rfl, rfl, hd⟩ := returns_pure_iff.1 h
          exact .tooSmall (by simpa [BitVec.le_def] using h7) (untouched hd)
        · have h8 : 8 ≤ length.toNat := by
            rw [BitVec.le_def] at h7
            exact Nat.lt_of_not_le h7
          by_cases h1500 : length > 1500#16
          · simp only [enc624j600Transmit, if_neg h7, if_pos h1500] at h
            obtain ⟨rfl, rfl, hd⟩ := returns_pure_iff.1 h
            exact .exceedMtu (by simpa [BitVec.lt_def] using h1500) (untouched hd)
          · refine transmit_outcome_of_valid h8 ?_ h
            simpa [BitVec.lt_def] using h1500

lemma receive_outcome {destinationMac sourceMac lengthType buffer receivedBytes : OutPtr}
    {b : ReceiveResult}
    (h : Returns machine E.rely
      (enc624j600Receive destinationMac sourceMac lengthType buffer receivedBytes) w t b v) :
    ReceiveOutcome E.rely w v destinationMac sourceMac lengthType buffer receivedBytes t b := by
  by_cases hnull : destinationMac = .null ∨ sourceMac = .null ∨ lengthType = .null ∨
      buffer = .null ∨ receivedBytes = .null
  · rw [enc624j600Receive, if_pos hnull] at h
    obtain ⟨rfl, rfl, hd⟩ := returns_pure_iff.1 h
    exact .nullPointer hnull (untouched hd)
  obtain ⟨rfl, rfl, rfl, rfl, rfl⟩ := objects_of_not_null hnull
  change Returns machine E.rely receiveCall w t b v at h
  rw [receiveCall_eq] at h
  obtain ⟨u, estat, u', t₁, hd, hs, rfl, h₁⟩ := returns_op_iff.1 h
  have hcount : u.chip.por = false → (estat &&& PKTCNT = 0#16 ↔ u.chip.pktcnt = 0#8) := by
    intro hp
    obtain ⟨rfl, -⟩ := machine_step_iff.1 hs
    rw [World.perform_spi hp]
    exact pktcnt_eq_zero_iff _
  obtain rfl := step_readSfr hs
  by_cases hz : estat &&& PKTCNT = 0#16
  · rw [if_pos hz] at h₁
    obtain ⟨rfl, rfl, hd'⟩ := returns_pure_iff.1 h₁
    exact .noPendingFrame (untouched hd) (fun hp => (hcount hp).1 hz) hz (untouched hd')
  · rw [if_neg hz] at h₁
    obtain ⟨_, u₂, t₂, t₃, -, h₂, rfl⟩ := returns_bind_iff.1 h₁
    obtain ⟨rfl, rfl, -⟩ := returns_pure_iff.1 h₂
    exact .received (untouched hd) (fun hp h => hz ((hcount hp).2 h)) hz

end Inversion

/-- **How the calls end.** A transmit call refuses for one of four reasons, in this order of
precedence, and has then written nothing; else it loads the frame, sets `TXRTS` once, waits
until `TXRTS` reads as clear, and judges the value that it reads then.  A receive call with a
`NULL` pointer or without a pending frame has written nothing. -/
theorem transmit_receive_outcome {E : Surroundings} {w v : World}
    {t : List (Event Op Op.Res)} :
    (∀ destinationMac lengthType data length a, Returns machine E.rely
        (enc624j600Transmit destinationMac lengthType data length) w t a v →
      TransmitOutcome E.rely length w v destinationMac lengthType data t a) ∧
    ∀ destinationMac sourceMac lengthType buffer receivedBytes a, Returns machine E.rely
        (enc624j600Receive destinationMac sourceMac lengthType buffer receivedBytes) w t a v →
      ReceiveOutcome E.rely w v destinationMac sourceMac lengthType buffer receivedBytes t a :=
  ⟨fun _ _ _ _ _ h => transmit_outcome h, fun _ _ _ _ _ _ h => receive_outcome h⟩

/-- A transmit call with eight bytes and a receive call without `NULL`. -/
theorem transmit_receive_outcome_eight : ∃ w : World, w.chip.Awake ∧ ¬ w.chip.Transmitting ∧
    (∃ t a v, TransmitOutcome anything.rely 8#16 w v (some fun _ => 0#8) (some fun _ => 0#8)
      (some fun _ => 0#8) t a) ∧
    ∃ t a v, ReceiveOutcome anything.rely w v .object .object .object .object .object t a := by
  refine ⟨{ powered with chip := resetChip CLKRDY }, ⟨rfl, rfl⟩,
    by simp +decide [Chip.Transmitting], ?_, ?_⟩
  · obtain ⟨t, a, v, h⟩ := exists_transmit (E := anything)
      (fun _ _ => ⟨⟨0#16, 0#16, 0#16, none⟩, trivial⟩) (some fun _ => 0#8) (some fun _ => 0#8)
      (some fun _ => 0#8) 8#16 (w := { powered with chip := resetChip CLKRDY }) ⟨rfl, rfl⟩
    exact ⟨t, a, v, transmit_receive_outcome.1 _ _ _ _ _ h⟩
  · obtain ⟨t, a, v, h⟩ := exists_receive anything.rely { powered with chip := resetChip CLKRDY }
    exact ⟨t, a, v, transmit_receive_outcome.2 _ _ _ _ _ _ h⟩

end Enc624j600
