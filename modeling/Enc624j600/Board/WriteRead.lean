/-
# A transfer of the SPI master

`SPI2_WriteRead` sends the elements of its transmit buffer and, if more are to be received than
sent, dummies after them; what comes back goes to the receive buffer as long as there is room,
and is dropped afterwards.  The loop runs in two phases: while the receive buffer has room, each
word is answered before the next one is written, and afterwards the next word is written while
the one before it is exchanged.

Whatever the timing of the peripheral, a call that returns has exchanged every word, in order,
and leaves nothing behind.
-/
import Enc624j600.Board.InFlight

namespace Enc624j600

open Interaction

variable {W : Type} {B : Bus W} {a : Transfer W} {data : ℕ → Byte} {txSize rxSize dummySize : ℕ}
  {m : ℕ → Byte}

/-- The words that are sent: `txSize` elements and `dummySize` dummies. -/
def wordsSent (con : Word32) (data : ℕ → Byte) (txSize dummySize : ℕ) : List Word32 :=
  (List.range txSize).map (fun i => truncate con (elementAt data (sizeOf con) i)) ++
    List.replicate dummySize (truncate con 0xff#32)

@[simp] lemma length_wordsSent (con : Word32) (data : ℕ → Byte) (txSize dummySize : ℕ) :
    (wordsSent con data txSize dummySize).length = txSize + dummySize := by
  simp [wordsSent]

lemma wordsSent_element (con : Word32) (data : ℕ → Byte) (dummySize : ℕ) {i : ℕ} (hi : i < txSize) :
    (wordsSent con data txSize dummySize)[i]? =
      some (truncate con (elementAt data (sizeOf con) i)) := by
  rw [wordsSent, List.getElem?_append_left (by simpa using hi)]
  simp [hi]

lemma wordsSent_dummy (con : Word32) (data : ℕ → Byte) (txSize : ℕ) {i : ℕ} (hi : i < dummySize) :
    (wordsSent con data txSize dummySize)[txSize + i]? = some (truncate con 0xff#32) := by
  rw [wordsSent, List.getElem?_append_right (by simp)]
  simp [hi]

/-! ### The transfer loop -/

/-- The number of words written so far. -/
def Counts.written (c : Counts) (dummySize : ℕ) : ℕ := c.txCount + (dummySize - c.dummySize)

/-- How far the loop is with the words `sent` and `got`, in the middle of a turn if `extra` is
one: a word was written, and its turn has read nothing yet. -/
structure Progress (a : Transfer W) (data : ℕ → Byte) (txSize rxSize dummySize extra : ℕ)
    (c : Counts) (sent got : List Word32) : Prop where
  sent_eq : sent = (wordsSent a.con data txSize dummySize).take (c.written dummySize)
  tx_le : c.txCount ≤ txSize
  dummy_le : c.dummySize ≤ dummySize
  order : c.txCount < txSize → c.dummySize = dummySize
  got_length : got.length = c.rxCount + c.dummyRxCntr
  rx_le : c.rxCount ≤ rxSize
  /-- While there is room in the receive buffer, every word was answered and stored. -/
  lockstep : c.rxCount < rxSize → c.dummyRxCntr = 0 ∧ c.written dummySize = c.rxCount + extra
  /-- Afterwards one word is ahead. -/
  pipelined : c.rxCount = rxSize →
    got.length + extra ≤ c.written dummySize ∧ c.written dummySize ≤ got.length + 1 + extra ∧
      (rxSize + extra < c.written dummySize → c.written dummySize = got.length + 1 + extra)

/-- The bytes stored for the words `got`, of which the first `n` have room. -/
def storedBytes (con : Word32) (got : List Word32) (n : ℕ) : List Byte :=
  (got.take n).flatMap (elementBytes (sizeOf con))

/-- The states between the turns of the loop. -/
def LoopAtCounts (B : Bus W) (a : Transfer W) (data : ℕ → Byte) (txSize rxSize dummySize : ℕ)
    (m : ℕ → Byte) (c : Counts) (s : Board W) : Prop :=
  ∃ sent got, Progress a data txSize rxSize dummySize 0 c sent got ∧
    InFlight B a sent got (putBytes m 0 (storedBytes a.con got c.rxCount)) s ∧ s.spi2.txb = none

/-- The sizes of a request: with dummies, all words are answered in the receive buffer, and one
word may be ahead unless more than one is sent after it is full. -/
structure Sizes (a : Transfer W) (txSize rxSize dummySize : ℕ) : Prop where
  dummies : 0 < dummySize → txSize + dummySize ≤ rxSize
  lead_pos : 0 < a.lead
  lead : rxSize + 1 < txSize → 2 ≤ a.lead

namespace Progress

variable {c : Counts} {sent got : List Word32}

lemma written_le (h : Progress a data txSize rxSize dummySize 0 c sent got) :
    c.written dummySize ≤ txSize + dummySize := by
  have := h.tx_le
  simp only [Counts.written]
  omega

lemma written_lt (h : Progress a data txSize rxSize dummySize 0 c sent got)
    (hc : c.txCount ≠ txSize ∨ c.dummySize ≠ 0) : c.written dummySize < txSize + dummySize := by
  have := h.tx_le
  have := h.dummy_le
  simp only [Counts.written]
  omega

lemma sent_length {extra : ℕ} (h : Progress a data txSize rxSize dummySize extra c sent got) :
    sent.length = c.written dummySize := by
  have := h.tx_le
  have hle : c.written dummySize ≤ txSize + dummySize := by
    simp only [Counts.written]
    omega
  rw [h.sent_eq, List.length_take, length_wordsSent, Nat.min_eq_left hle]

/-- One more word may be written. -/
lemma ahead (h : Progress a data txSize rxSize dummySize 0 c sent got)
    (hsz : Sizes a txSize rxSize dummySize) (hlt : c.written dummySize < txSize + dummySize) :
    sent.length + 1 ≤ got.length + a.lead := by
  rw [h.sent_length]
  have hlead := hsz.lead_pos
  rcases Nat.lt_or_ge c.rxCount rxSize with hrx | hrx
  · have hlock := (h.lockstep hrx).2
    have hgot := h.got_length
    omega
  · -- the receive buffer is full
    have hpipe := h.pipelined (Nat.le_antisymm h.rx_le hrx)
    have hgot := h.got_length
    rcases Nat.lt_or_ge (rxSize + 1) txSize with htx | htx
    · have := hsz.lead htx
      omega
    · have hd := hsz.dummies
      omega

/-- A word was written, and the counters say so. -/
lemma send {c' : Counts} {x : Word32}
    (h : Progress a data txSize rxSize dummySize 0 c sent got)
    (hx : (wordsSent a.con data txSize dummySize)[c.written dummySize]? = some x)
    (hw : c'.written dummySize = c.written dummySize + 1) (htx : c'.txCount ≤ txSize)
    (hd : c'.dummySize ≤ dummySize) (ho : c'.txCount < txSize → c'.dummySize = dummySize)
    (hrx : c'.rxCount = c.rxCount) (hdr : c'.dummyRxCntr = c.dummyRxCntr) :
    Progress a data txSize rxSize dummySize 1 c' (sent ++ [x]) got where
  sent_eq := by rw [hw, List.take_add_one, hx, Option.toList_some, ← h.sent_eq]
  tx_le := htx
  dummy_le := hd
  order := ho
  got_length := by rw [hrx, hdr, h.got_length]
  rx_le := hrx ▸ h.rx_le
  lockstep hlt := by
    rw [hrx] at hlt ⊢
    rw [hdr, hw, (h.lockstep hlt).2]
    exact ⟨(h.lockstep hlt).1, rfl⟩
  pipelined heq := by
    rw [hrx] at heq
    have := h.pipelined heq
    rw [hw]
    omega

/-- The answer was stored. -/
lemma store (h : Progress a data txSize rxSize dummySize 1 c sent got) (hrx : c.rxCount < rxSize)
    (r : Word32) : Progress a data txSize rxSize dummySize 0 { c with rxCount := c.rxCount + 1 }
      sent (got ++ [r]) where
  sent_eq := h.sent_eq
  tx_le := h.tx_le
  dummy_le := h.dummy_le
  order := h.order
  got_length := by
    have := h.got_length
    simp only [List.length_append, List.length_singleton]
    omega
  rx_le := hrx
  lockstep _ := h.lockstep hrx
  pipelined _ := by
    have hlock := h.lockstep hrx
    have hgot := h.got_length
    simp only [Counts.written, List.length_append, List.length_singleton] at hlock ⊢
    omega

/-- In the second phase no dummies were sent, since there is no room for their answers. -/
lemma written_eq (h : Progress a data txSize rxSize dummySize 1 c sent got)
    (hdummies : 0 < dummySize → txSize + dummySize ≤ rxSize) (hrx : c.rxCount = rxSize) :
    c.written dummySize = c.txCount := by
  have hpipe := h.pipelined hrx
  have hgot := h.got_length
  have htx := h.tx_le
  have hd := h.dummy_le
  rcases Nat.eq_zero_or_pos dummySize with h0 | h0
  · simp [Counts.written, h0]
  · have := hdummies h0
    simp only [Counts.written] at hpipe
    omega

/-- Dummies were received, all but the last one. -/
lemma receiveDummies (h : Progress a data txSize rxSize dummySize 1 c sent got)
    (hdummies : 0 < dummySize → txSize + dummySize ≤ rxSize) (hrx : c.rxCount = rxSize)
    {ys : List Word32} (hys : ys.length = c.txCount - c.rxCount - 1 - c.dummyRxCntr) :
    Progress a data txSize rxSize dummySize 0
      { c with dummyRxCntr := c.txCount - c.rxCount - 1 } sent (got ++ ys) where
  sent_eq := h.sent_eq
  tx_le := h.tx_le
  dummy_le := h.dummy_le
  order := h.order
  got_length := by
    have hw := h.written_eq hdummies hrx
    have hpipe := h.pipelined hrx
    have hgot := h.got_length
    rw [List.length_append, hys]
    simp only
    omega
  rx_le := h.rx_le
  lockstep hlt := absurd hlt (by simp [hrx])
  pipelined _ := by
    have hw := h.written_eq hdummies hrx
    have hpipe := h.pipelined hrx
    have hgot := h.got_length
    have hw' : Counts.written { c with dummyRxCntr := c.txCount - c.rxCount - 1 } dummySize =
        c.txCount := hw
    rw [hw', List.length_append, hys]
    omega

end Progress

section Loop

variable {c : Counts}

/-- Write a word. -/
lemma triple_sendWord {sent got : List Word32} {v : Word32} {c' : Counts} {x : Word32}
    (hahead : sent.length + 1 ≤ got.length + a.lead) (hx : truncate a.con v = x) :
    Triple (boardMachine B) (Board.Rely B) (TransferGuarantee a)
      (fun s => InFlight B a sent got m s ∧ s.spi2.txb = none)
      (.op (.writeReg .SPI2BUF v) fun _ => .pure c')
      fun r s => r = c' ∧ InFlight B a (sent ++ [x]) got m s := by
  subst hx
  refine Triple.op (T := fun _ => InFlight B a (sent ++ [truncate a.con v]) got m)
    (stable_inFlight.and stable_vacant) ?_
    fun _ => Triple.pure stable_inFlight fun s hs => ⟨rfl, hs⟩
  rintro s r s' ⟨hs, htxb⟩ rfl
  exact ⟨⟨htxb, hs.safe⟩, hs.send htxb hahead v⟩

/-- The first half of a turn. -/
lemma triple_sendNext {sent got : List Word32}
    (h : Progress a data txSize rxSize dummySize 0 c sent got)
    (hahead : sent.length + 1 ≤ got.length + a.lead)
    (hc : c.txCount ≠ txSize ∨ c.dummySize ≠ 0) :
    Triple (boardMachine B) (Board.Rely B) (TransferGuarantee a)
      (fun s => InFlight B a sent got m s ∧ s.spi2.txb = none) (sendNext data txSize c)
      fun c' s => c'.rxCount = c.rxCount ∧ ∃ x,
        Progress a data txSize rxSize dummySize 1 c' (sent ++ [x]) got ∧
          InFlight B a (sent ++ [x]) got m s := by
  have htx := h.tx_le
  have hd := h.dummy_le
  unfold sendNext
  split
  · -- an element
    rename_i hne
    have hlt : c.txCount < txSize := by omega
    have hdummy := h.order hlt
    have hw : c.written dummySize = c.txCount := by simp [Counts.written, hdummy]
    have hx := wordsSent_element a.con data dummySize hlt
    refine Triple.bind (triple_elementSize (stable_inFlight.and stable_vacant)
      (fun s hs => hs.1.safe) fun s hs => hs.1.con) fun size => Triple.of_and ?_
    rintro rfl
    refine (triple_sendWord hahead rfl).post ?_
    rintro c' s ⟨rfl, hs⟩
    refine ⟨rfl, _, h.send (hw ▸ hx) ?_ hlt hd (fun _ => hdummy) rfl rfl, hs⟩
    simp only [Counts.written]
    omega
  · split
    · -- a dummy
      rename_i heq hpos
      have heq : c.txCount = txSize := by simpa using heq
      have hw : c.written dummySize = txSize + (dummySize - c.dummySize) := by
        simp [Counts.written, heq]
      have hx := wordsSent_dummy a.con data txSize
        (show dummySize - c.dummySize < dummySize by omega)
      refine (triple_sendWord hahead rfl).post ?_
      rintro c' s ⟨rfl, hs⟩
      refine ⟨rfl, _, h.send (hw ▸ hx) ?_ htx ?_ ?_ rfl rfl, hs⟩
      · simp only [Counts.written]
        omega
      · simp only
        omega
      · simp only [heq, lt_irrefl, false_implies]
    · rename_i heq hpos
      exact absurd hc (by omega)

/-- The second half of a turn. -/
lemma triple_receiveNext {sent got : List Word32}
    (h : Progress a data txSize rxSize dummySize 1 c sent got)
    (hdummies : 0 < dummySize → txSize + dummySize ≤ rxSize) :
    Triple (boardMachine B) (Board.Rely B) (TransferGuarantee a)
      (InFlight B a sent got (putBytes m 0 (storedBytes a.con got c.rxCount)))
      (receiveNext rxSize c)
      fun c' s => c'.txCount = c.txCount ∧ c'.dummySize = c.dummySize ∧
        LoopAtCounts B a data txSize rxSize dummySize m c' s := by
  have hrx := h.rx_le
  unfold receiveNext
  split
  · -- the receive buffer is full
    rename_i heq
    refine Triple.bind (triple_awaitStat (F := fun s => s.txb = none) (fun s hs => ?_)
      stable_inFlight (fun s hs => hs.safe) (stable_inFlight.and stable_vacant)) fun _ => ?_
    · simpa using mt s.stat_tbe.2 hs
    refine Triple.bind (triple_receiveDummies _) fun _ => ?_
    refine Triple.pure ?_ ?_
    · exact Stable.exists fun ys s s' hs hR => ⟨hs.1, stable_inFlight _ _ hs.2.1 hR,
        stable_vacant _ _ hs.2.2 hR⟩
    · rintro s ⟨ys, hys, hs, htxb⟩
      refine ⟨rfl, rfl, sent, got ++ ys, h.receiveDummies hdummies heq hys, ?_, htxb⟩
      have hle : c.rxCount ≤ got.length := by
        have := h.got_length
        omega
      have hstored : storedBytes a.con (got ++ ys) c.rxCount = storedBytes a.con got c.rxCount := by
        rw [storedBytes, storedBytes, List.take_append_of_le_length hle]
      simpa only [hstored] using hs
  · rename_i hne
    have hlt : c.rxCount < rxSize := by omega
    have hlock := h.lockstep hlt
    have hgot := h.got_length
    have hlen : sent.length ≤ got.length + 1 := by
      rw [h.sent_length]
      omega
    refine Triple.bind (triple_awaitStat (F := fun s => s.rbf = true) (fun s hs => ?_)
      stable_inFlight (fun s hs => hs.safe) (stable_inFlight.and stable_full)) fun _ => ?_
    · simpa using mt s.stat_rbf.2 hs
    refine (triple_takeWord fun r => ?_).pre fun s hs => ⟨⟨hs.1, hs.1.vacant hs.2 hlen⟩, hs.2⟩
    rw [Prog.pure_bind, if_pos hlt]
    refine Triple.bind (triple_elementSize (stable_inFlight.and stable_vacant)
      (fun s hs => hs.1.safe) fun s hs => hs.1.con) fun size => Triple.of_and ?_
    rintro rfl
    refine Triple.op (T := fun _ => LoopAtCounts B a data txSize rxSize dummySize m
      { c with rxCount := c.rxCount + 1 }) (stable_inFlight.and stable_vacant) ?_ fun _ => ?_
    · rintro s _ s' ⟨hs, htxb⟩ rfl
      refine ⟨hs.safe, sent, got ++ [r], h.store hlt r, ?_, htxb⟩
      -- the bytes stored before are those of the words before
      have hall : c.rxCount = got.length := by omega
      have hbytes : (storedBytes a.con got c.rxCount).length = sizeOf a.con * c.rxCount := by
        rw [hall, storedBytes, List.take_length, List.length_flatMap]
        simp [Nat.mul_comm]
      have hstored : storedBytes a.con (got ++ [r]) (c.rxCount + 1) =
          storedBytes a.con got c.rxCount ++ elementBytes (sizeOf a.con) r := by
        rw [storedBytes, storedBytes, hall, List.take_length,
          List.take_of_length_le (by simp), List.flatMap_append, List.flatMap_singleton]
      have hput := hs.put (sizeOf a.con * c.rxCount) (elementBytes (sizeOf a.con) r)
      rw [← hbytes, putBytes_append, ← hstored] at hput
      rw [← hbytes]
      exact hput
    · refine Triple.pure ?_ fun s hs => ⟨rfl, rfl, hs⟩
      exact Stable.exists fun sent => Stable.exists fun got s s' hs hR => ⟨hs.1,
        stable_inFlight _ _ hs.2.1 hR, stable_vacant _ _ hs.2.2 hR⟩

lemma stable_loopAtCounts :
    Stable (Board.Rely B) (LoopAtCounts B a data txSize rxSize dummySize m c) :=
  Stable.exists fun _ => Stable.exists fun _ _ _ hs hR => ⟨hs.1, stable_inFlight _ _ hs.2.1 hR,
    stable_vacant _ _ hs.2.2 hR⟩

/-- The loop writes every word. -/
lemma triple_transferLoop (hsz : Sizes a txSize rxSize dummySize) (n : ℕ) (c : Counts)
    (hn : txSize + dummySize ≤ c.written dummySize + n) :
    Triple (boardMachine B) (Board.Rely B) (TransferGuarantee a)
      (LoopAtCounts B a data txSize rxSize dummySize m c) (transferLoop data txSize rxSize n c)
      fun c' s => c'.written dummySize = txSize + dummySize ∧
        LoopAtCounts B a data txSize rxSize dummySize m c' s := by
  have hdone : ∀ c : Counts, ¬ (c.txCount ≠ txSize ∨ c.dummySize ≠ 0) →
      c.written dummySize = txSize + dummySize := by
    intro c hc
    simp only [Counts.written]
    omega
  induction n generalizing c with
  | zero =>
    refine Triple.pure stable_loopAtCounts ?_
    rintro s ⟨sent, got, h, hs⟩
    exact ⟨Nat.le_antisymm h.written_le hn, sent, got, h, hs⟩
  | succ n ih =>
    unfold transferLoop
    split
    · rename_i hc
      refine Triple.of_exists fun sent => Triple.of_exists fun got => Triple.of_and fun h => ?_
      refine Triple.bind (triple_sendNext h (h.ahead hsz (h.written_lt hc)) hc)
        fun c₁ => Triple.of_and fun hrx => ?_
      refine Triple.of_exists fun x => Triple.of_and fun h₁ => ?_
      rw [← hrx]
      refine Triple.bind (triple_receiveNext h₁ hsz.dummies) fun c₂ => Triple.of_and fun htx =>
        Triple.of_and fun hd => ih c₂ ?_
      have hw : c₂.written dummySize = c₁.written dummySize := by
        simp only [Counts.written, htx, hd]
      have h₂ := h₁.sent_length
      rw [List.length_append, h.sent_length, List.length_singleton] at h₂
      omega
    · rename_i hc
      exact Triple.pure stable_loopAtCounts fun s hs => ⟨hdone c hc, hs⟩

end Loop

/-! ### The whole transfer -/

/-- In front of a transfer the module is still; a word from an earlier one may be unread. -/
structure Resting (B : Bus W) (a : Transfer W) (m : ℕ → Byte) (s : Board W) : Prop where
  con : s.spi2.con = a.con
  cs : s.cs = a.cs
  memory : s.memory = m
  still : s.spi2.Still
  bus : B.Exchanged a.bus [] s.bus

lemma stable_resting : Stable (Board.Rely B) (Resting B a m) := by
  intro s s' h hR
  have hstill := stable_still _ _ h.still hR
  cases hR with
  | load _ _ htxb => simp [h.still.1] at htxb
  | finish hsr => simp [h.still.2] at hsr
  | tick => exact ⟨h.con, h.cs, h.memory, h.still, h.bus⟩
  | bus hw => exact ⟨h.con, h.cs, h.memory, h.still, h.bus.env hw⟩
  | lat hp => exact ⟨h.con, (Board.cs_update hp).trans h.cs, h.memory, h.still, h.bus⟩

/-- Without words on their way nothing comes back. -/
lemma stable_resting_and {F : Spi2 → Prop} :
    Stable (Board.Rely B) fun s => Resting B a m s ∧ F s.spi2 := by
  intro s s' h hR
  refine ⟨stable_resting _ _ h.1 hR, ?_⟩
  cases hR with
  | load _ _ htxb => simp [h.1.still.1] at htxb
  | finish hsr => simp [h.1.still.2] at hsr
  | _ => exact h.2

lemma Resting.inFlight {s : Board W} (h : Resting B a m s) (hrbf : s.spi2.rbf = false)
    (hrov : s.spi2.rov = false) : InFlight B a [] [] m s := by
  refine ⟨h.con, h.cs, h.memory, Nat.zero_le _, fun _ => hrov, [], [], h.bus, ?_, ?_,
    by simp [hrov]⟩
  · simp [h.still.1, h.still.2]
  · simp [Spi2.unread, hrbf]

/-- One turn of `flush`. -/
def flushTurn : OnBoard Bool :=
  .op (.readReg .SPI2STAT) fun stat =>
    if stat &&& SPI2STAT_SPIRBF = 0#32 then .pure true
    else .op (.readReg .SPI2BUF) fun _ => .pure false

lemma flush_eq : flush = .loop flushTurn (.pure ()) := rfl

lemma triple_flushTurn :
    Triple (boardMachine B) (Board.Rely B) (TransferGuarantee a)
      (fun s => Resting B a m s ∧ s.spi2.rov = false) flushTurn
      fun x s => Resting B a m s ∧ (s.spi2.rov = false ∧ (x = true → s.spi2.rbf = false)) := by
  have hst : ∀ φ : Prop, Stable (Board.Rely B) fun s => Resting B a m s ∧
      (s.spi2.rov = false ∧ (φ → s.spi2.rbf = false)) :=
    fun φ => stable_resting_and (F := fun s => s.rov = false ∧ (φ → s.rbf = false))
  refine triple_readReg (T := fun stat s => Resting B a m s ∧ (s.spi2.rov = false ∧
    (stat &&& SPI2STAT_SPIRBF = 0#32 → s.spi2.rbf = false))) (by decide)
    (stable_resting_and (F := fun s => s.rov = false)) (fun s hs _ => hs.2)
    (fun s hs => ⟨hs.1, hs.2, s.spi2.stat_rbf.1⟩) fun stat => ?_
  split
  · rename_i h0
    exact Triple.pure (hst _) fun s hs => ⟨hs.1, hs.2.1, fun _ => hs.2.2 h0⟩
  · refine Triple.op (T := fun _ s => Resting B a m s ∧ (s.spi2.rov = false ∧
      (false = true → s.spi2.rbf = false))) (hst _) ?_ fun _ => Triple.pure (hst _) fun s hs => hs
    rintro s r s' ⟨hs, hrov, -⟩ ⟨rfl, rfl⟩
    exact ⟨fun _ => hrov, ⟨hs.con, hs.cs, hs.memory, hs.still, hs.bus⟩, hrov, by simp⟩

/-- The words from earlier transfers are flushed out. -/
lemma triple_flush :
    Triple (boardMachine B) (Board.Rely B) (TransferGuarantee a)
      (fun s => Resting B a m s ∧ s.spi2.rov = false) flush
      fun _ s => InFlight B a [] [] m s ∧ s.spi2.txb = none := by
  rw [flush_eq]
  refine Triple.loop (stable_resting_and (F := fun s => s.rov = false)) triple_flushTurn
    (fun s hs => ⟨hs.1, hs.2.1⟩) ?_
  refine (Triple.pure (stable_inFlight.and stable_vacant) fun s hs => hs).pre ?_
  exact fun s hs => ⟨hs.1.inFlight (hs.2.2 rfl) hs.2.1, hs.1.still.1⟩

/-- What a transfer of these words leaves: all were exchanged, the receive buffer holds the
answers for which it has room, and the module is idle. -/
structure Transferred (B : Bus W) (a : Transfer W) (words : List Word32) (rxSize : ℕ)
    (m : ℕ → Byte) (s : Board W) : Prop where
  con : s.spi2.con = a.con
  cs : s.cs = a.cs
  idle : s.spi2.Idle
  exchanged : ∃ xs : List (Word32 × Word32), B.Exchanged a.bus xs s.bus ∧
    xs.map Prod.fst = words ∧ s.memory =
      putBytes m 0 (storedBytes a.con (xs.map fun x => truncate a.con x.2) rxSize)

lemma stable_transferred {words : List Word32} :
    Stable (Board.Rely B) (Transferred B a words rxSize m) := by
  intro s s' h hR
  obtain ⟨xs, hx, hwords, hmem⟩ := h.exchanged
  cases hR with
  | load _ _ htxb => simp [h.idle.still.1] at htxb
  | finish hsr => simp [h.idle.still.2] at hsr
  | tick => exact ⟨h.con, h.cs, h.idle, xs, hx, hwords, hmem⟩
  | bus hw => exact ⟨h.con, h.cs, h.idle, xs, hx.env hw, hwords, hmem⟩
  | lat hp => exact ⟨h.con, (Board.cs_update hp).trans h.cs, h.idle, xs, hx, hwords, hmem⟩

/-- After the loop, the answer to a word that is ahead is still to be received. -/
lemma Progress.rest {c : Counts} {sent got : List Word32}
    (h : Progress a data txSize rxSize dummySize 0 c sent got)
    (hsz : Sizes a txSize rxSize dummySize) (hw : c.written dummySize = txSize + dummySize) :
    sent = wordsSent a.con data txSize dummySize ∧
    (¬ txSize > rxSize → sent.length = got.length ∧ c.rxCount = min (txSize + dummySize) rxSize) ∧
    (txSize > rxSize → c.rxCount = rxSize ∧
      sent.length = got.length + (c.txCount - c.rxCount - c.dummyRxCntr)) := by
  have hlen := h.sent_length
  have hgot := h.got_length
  have hrx := h.rx_le
  have htx := h.tx_le
  have hd := hsz.dummies
  have hlock := h.lockstep
  have hpipe := h.pipelined
  refine ⟨?_, fun hle => ?_, fun hlt => ?_⟩
  · rw [h.sent_eq, hw, List.take_of_length_le (by simp)]
  · rcases Nat.lt_or_ge c.rxCount rxSize with hlt | hge
    · have := hlock hlt
      omega
    · have := hpipe (Nat.le_antisymm hrx hge)
      rcases Nat.eq_zero_or_pos dummySize with h0 | h0
      · omega
      · have := hd h0
        omega
  · have h0 : dummySize = 0 := by
      by_contra h0
      have := hd (Nat.pos_of_ne_zero h0)
      omega
    have heq : c.rxCount = rxSize := by
      by_contra hne
      have := hlock (by omega)
      omega
    have := hpipe heq
    simp only [Counts.written] at *
    omega

/-- The sizes that a request leads to. -/
lemma sizes_of_request {txSize rxSize : ℕ} {a : Transfer W} (hlead : 0 < a.lead)
    (hahead : rxSize / sizeOf a.con + 1 < txSize / sizeOf a.con → 2 ≤ a.lead) :
    Sizes a (txSize / sizeOf a.con) (rxSize / sizeOf a.con)
      ((if rxSize > txSize then rxSize - txSize else 0) / sizeOf a.con) := by
  refine ⟨fun hpos => ?_, hlead, hahead⟩
  split at hpos
  · rename_i hgt
    rw [if_pos hgt]
    have hadd := Nat.div_add_div_le_add_div (x := txSize) (y := rxSize - txSize)
      (z := sizeOf a.con)
    rwa [Nat.add_sub_cancel' (by omega)] at hadd
  · simp at hpos

/-- In front of the first turn. -/
lemma loopAtCounts_start {s : Board W} (h : InFlight B a [] [] m s ∧ s.spi2.txb = none) :
    LoopAtCounts B a data txSize rxSize dummySize m ⟨0, 0, dummySize, 0⟩ s := by
  refine ⟨[], [], ⟨?_, Nat.zero_le _, le_rfl, fun _ => rfl, rfl, Nat.zero_le _, fun _ => ?_,
    fun _ => ?_⟩, ?_, h.2⟩
  · simp [Counts.written]
  · simp [Counts.written]
  · simp [Counts.written]
  · simpa [storedBytes, putBytes_nil] using h.1

/-- **A transfer exchanges its words.** -/
theorem triple_transferElements {data : ℕ → Byte} {txSize rxSize : ℕ} {a : Transfer W}
    (hlead : 0 < a.lead)
    (hahead : rxSize / sizeOf a.con + 1 < txSize / sizeOf a.con → 2 ≤ a.lead) :
    Triple (boardMachine B) (Board.Rely B) (TransferGuarantee a) (Resting B a m)
      (transferElements data txSize rxSize)
      fun _ => Transferred B a (wordsSent a.con data (txSize / sizeOf a.con)
        ((if rxSize > txSize then rxSize - txSize else 0) / sizeOf a.con)) (rxSize / sizeOf a.con)
        m := by
  have hsz := sizes_of_request hlead hahead
  have hP : Stable (Board.Rely B) fun s => InFlight B a [] [] m s ∧ s.spi2.txb = none :=
    stable_inFlight.and stable_vacant
  refine Triple.op (T := fun _ s => Resting B a m s ∧ s.spi2.rov = false) stable_resting ?_
    fun _ => ?_
  · rintro s _ s' hs rfl
    exact ⟨trivial, ⟨hs.con, hs.cs, hs.memory, hs.still, hs.bus⟩, rfl⟩
  rw [Prog.pure_bind]
  refine Triple.bind triple_flush fun _ => ?_
  refine Triple.bind (triple_elementSize hP (fun s hs => hs.1.safe) fun s hs => hs.1.con)
    fun size => Triple.of_and ?_
  rintro rfl
  refine Triple.bind (triple_awaitStat (F := fun s => s.txb = none) (fun s hs => ?_) hP
    (fun s hs => hs.1.safe) (hP.and stable_vacant)) fun _ => ?_
  · simpa using mt s.stat_tbe.2 hs
  refine Triple.bind ((triple_transferLoop hsz _ _ ?_).pre
    fun s hs => loopAtCounts_start hs.1) fun c => ?_
  · simp [Counts.written]
  refine Triple.of_and fun hw => Triple.of_exists fun sent => Triple.of_exists fun got =>
    Triple.of_and fun h => ?_
  obtain ⟨hsent, hle, hgt⟩ := h.rest hsz hw
  split
  · -- the answer to the last word is dropped
    rename_i htx
    obtain ⟨hrx, hlen⟩ := hgt htx
    refine ((triple_receiveDummies _).post ?_)
    rintro _ s ⟨ys, hys, hs, -⟩
    obtain ⟨hidle, xs, hx, hfst, hsnd⟩ := hs.finished (by rw [List.length_append, hys, hlen])
    refine ⟨hs.con, hs.cs, hidle, xs, hx, hfst.trans hsent, ?_⟩
    have hroom : c.rxCount ≤ got.length := by
      have := h.got_length
      omega
    rw [hs.memory, hsnd, ← hrx, storedBytes, storedBytes, List.take_append_of_le_length hroom]
  · rename_i htx
    obtain ⟨hlen, hrx⟩ := hle htx
    refine Triple.pure (stable_inFlight.and stable_vacant) ?_
    rintro s ⟨hs, -⟩
    obtain ⟨hidle, xs, hx, hfst, hsnd⟩ := hs.finished hlen
    refine ⟨hs.con, hs.cs, hidle, xs, hx, hfst.trans hsent, ?_⟩
    have hall : got.length = (wordsSent a.con data (txSize / sizeOf a.con)
        ((if rxSize > txSize then rxSize - txSize else 0) / sizeOf a.con)).length := by
      rw [← hlen, hsent]
    rw [length_wordsSent] at hall
    rw [hs.memory, hsnd, hrx, ← hall, storedBytes, storedBytes, ← List.take_take,
      List.take_of_length_le (i := got.length) (List.length_take_le' _ _)]

end Enc624j600
