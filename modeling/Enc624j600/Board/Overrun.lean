/-
# Overruns

A transfer can be finished from everything that it reaches, unless a word is lost: then the call
waits for ever for a word that will not come.  A word can be lost as soon as two are ahead, which
happens in the calls that send at least two elements more than they receive, and in no other.
-/
import Enc624j600.Board.WriteRead

namespace Enc624j600

open Interaction

variable {W : Type} {B : Bus W} {a : Transfer W} {sent got : List Word32} {m : ℕ → Byte}
  {data : ℕ → Byte} {txSize rxSize dummySize : ℕ} {α : Type}

/-- From `w` on, the other side answers every word. -/
def Bus.Answers (B : Bus W) (w : W) : Prop :=
  ∀ xs v, B.Exchanged w xs v → ∀ x, ∃ y v', B.exchange v x y v'

/-- The module is switched on. -/
def IsOn (con : Word32) : Prop := con &&& SPI2CON_ON ≠ 0#32

instance (con : Word32) : Decidable (IsOn con) := inferInstanceAs (Decidable (_ ≠ _))

/-! ### What the peripheral can do -/

/-- The word in the shift register can be exchanged. -/
lemma InFlight.exists_finish (hB : B.Answers a.bus) {s : Board W} (h : InFlight B a sent got m s)
    {x : Word32} (hsr : s.spi2.sr = some x) : ∃ s', Drift (Board.Rely B) s s' ∧
      InFlight B a sent got m s' ∧ s'.spi2.sr = none ∧ s'.spi2.txb = s.spi2.txb ∧
      (s.spi2.rbf = true → s'.spi2.rov = true ∧ s'.spi2.rbf = true) ∧
      (s.spi2.rbf = false → s.spi2.rov = false → s'.spi2.rbf = true) := by
  obtain ⟨xs, -, hx, -⟩ := h.trace
  obtain ⟨y, w, hy⟩ := hB xs s.bus hx x
  have hstep : Board.Rely B s { s with spi2 := s.spi2.finish (truncate s.spi2.con y), bus := w } :=
    .finish hsr hy
  refine ⟨_, .single hstep, stable_inFlight _ _ h hstep, ?_, ?_, ?_, ?_⟩
  · simp only [Spi2.finish]
    split <;> rfl
  · simp only [Spi2.finish]
    split <;> rfl
  · intro hrbf
    simp [Spi2.finish, hrbf]
  · intro hrbf hrov
    simp [Spi2.finish, hrbf, hrov]

/-- A waiting word can be loaded. -/
lemma InFlight.exists_load (hon : IsOn a.con) {s : Board W} (h : InFlight B a sent got m s)
    {x : Word32} (hsr : s.spi2.sr = none) (htxb : s.spi2.txb = some x) :
    ∃ s', Drift (Board.Rely B) s s' ∧ InFlight B a sent got m s' ∧ s'.spi2.sr = some x ∧
      s'.spi2.txb = none ∧ s'.spi2.rbf = s.spi2.rbf ∧ s'.spi2.rov = s.spi2.rov := by
  have hstep : Board.Rely B s { s with spi2 := { s.spi2 with txb := none, sr := some x } } :=
    .load (h.con ▸ hon) hsr htxb
  exact ⟨_, .single hstep, stable_inFlight _ _ h hstep, rfl, rfl, rfl, rfl⟩

/-- The transmit buffer can become empty. -/
lemma InFlight.exists_vacant (hB : B.Answers a.bus) (hon : IsOn a.con) {s : Board W}
    (h : InFlight B a sent got m s) :
    ∃ s', Drift (Board.Rely B) s s' ∧ s'.spi2.txb = none := by
  cases htxb : s.spi2.txb with
  | none => exact ⟨s, .refl, htxb⟩
  | some x =>
    -- the word before it leaves the shift register first
    obtain ⟨s₁, hd₁, h₁, hsr₁, htxb₁⟩ : ∃ s₁, Drift (Board.Rely B) s s₁ ∧
        InFlight B a sent got m s₁ ∧ s₁.spi2.sr = none ∧ s₁.spi2.txb = some x := by
      cases hsr : s.spi2.sr with
      | none => exact ⟨s, .refl, h, hsr, htxb⟩
      | some y =>
        obtain ⟨s₁, hd, h₁, hsr₁, htxb₁, -⟩ := h.exists_finish hB hsr
        exact ⟨s₁, hd, h₁, hsr₁, htxb₁.trans htxb⟩
    obtain ⟨s₂, hd₂, -, -, htxb₂, -⟩ := h₁.exists_load hon hsr₁ htxb₁
    exact ⟨s₂, hd₁.trans hd₂, htxb₂⟩

/-- The answer to a word can come back, if none was lost. -/
lemma InFlight.exists_full (hB : B.Answers a.bus) (hon : IsOn a.con) {s : Board W}
    (h : InFlight B a sent got m s) (hrov : s.spi2.rov = false) (hlt : got.length < sent.length) :
    ∃ s', Drift (Board.Rely B) s s' ∧ s'.spi2.rbf = true := by
  obtain ⟨lost, hcount, hlost⟩ := h.count
  obtain rfl := hlost.1 hrov
  cases hrbf : s.spi2.rbf with
  | true => exact ⟨s, .refl, hrbf⟩
  | false =>
    have hunread : s.spi2.unread = [] := by simp [Spi2.unread, hrbf]
    cases hsr : s.spi2.sr with
    | some x =>
      obtain ⟨s', hd, -, -, -, -, hfull⟩ := h.exists_finish hB hsr
      exact ⟨s', hd, hfull hrbf hrov⟩
    | none =>
      cases htxb : s.spi2.txb with
      | none =>
        simp only [hunread, hsr, htxb, List.length_nil, Option.toList_none] at hcount
        omega
      | some x =>
        obtain ⟨s₁, hd₁, h₁, hsr₁, -, hrbf₁, hrov₁⟩ := h.exists_load hon hsr htxb
        obtain ⟨s₂, hd₂, -, -, -, -, hfull⟩ := h₁.exists_finish hB hsr₁
        exact ⟨s₂, hd₁.trans hd₂, hfull (hrbf₁.trans hrbf) (hrov₁.trans hrov)⟩

/-! ### Transfers that can be finished -/

section Completion

variable {P : Board W → Prop}

lemma completes_readReg {reg : Spi2Reg} {k : Word32 → OnBoard α} {T : Word32 → Board W → Prop}
    (hP : Stable (Board.Rely B) P)
    (hT : ∀ s, P s → T (s.spi2.read reg).1 { s with spi2 := (s.spi2.read reg).2 })
    (hk : ∀ r, Completes (boardMachine B) (Board.Rely B) (T r) (k r)) :
    Completes (boardMachine B) (Board.Rely B) P (.op (.readReg reg) k) := by
  refine Completes.op hP (fun s _ => ⟨_, _, rfl, rfl⟩) ?_ hk
  rintro s r s' hs ⟨rfl, rfl⟩
  exact hT s hs

lemma completes_writeReg {reg : Spi2Reg} {v : Word32} {k : Unit → OnBoard α} {T : Board W → Prop}
    (hP : Stable (Board.Rely B) P)
    (hT : ∀ s, P s → T { s with spi2 := s.spi2.write v reg })
    (hk : Completes (boardMachine B) (Board.Rely B) T (k ())) :
    Completes (boardMachine B) (Board.Rely B) P (.op (.writeReg reg v) k) := by
  refine Completes.op (T := fun _ => T) hP (fun s _ => ⟨(), _, rfl⟩) ?_ fun _ => hk
  rintro s r s' hs rfl
  exact hT s hs

/-- Waiting for a bit of `SPI2STAT` that the peripheral can always set. -/
lemma completes_awaitStat {flag : Word32} (hP : Stable (Board.Rely B) P)
    (hcan : ∀ s, P s → ∃ s', Drift (Board.Rely B) s s' ∧ s'.spi2.stat &&& flag ≠ 0#32) :
    Completes (boardMachine B) (Board.Rely B) P (awaitStat flag) := by
  refine Completes.loop (G := noGuarantee) (T := fun _ => P) hP ?_ (fun _ h => h) ?_ ?_ (.pure ())
  · refine Triple.op (T := fun _ => P) hP ?_ fun _ => Triple.pure hP fun _ h => h
    rintro s r s' hs ⟨rfl, rfl⟩
    exact ⟨trivial, hs⟩
  · exact completes_readReg (T := fun _ _ => True) hP (fun _ _ => trivial) fun _ => .pure _
  · intro s hs
    obtain ⟨s', hd, hset⟩ := hcan s hs
    have hstep : (boardMachine B).step s' (.readReg .SPI2STAT) s'.spi2.stat s' := ⟨rfl, rfl⟩
    have hx : (!decide (s'.spi2.stat &&& flag = 0#32)) = true := by simp [hset]
    have hret : Returns (boardMachine B) (Board.Rely B)
        (.pure (!decide (s'.spi2.stat &&& flag = 0#32))) s' [] true s' := by
      rw [hx]
      exact Reach.refl
    exact ⟨_, s', (Returns.op hstep hret).drift_left hd⟩

lemma completes_elementSize (hP : Stable (Board.Rely B) P) :
    Completes (boardMachine B) (Board.Rely B) P elementSize := by
  rw [elementSize_eq]
  refine completes_readReg (T := fun _ => P) hP (fun _ h => h) fun con => ?_
  split
  · exact .pure _
  · refine completes_readReg (T := fun _ _ => True) hP (fun _ _ => trivial) fun con => ?_
    split
    · exact .pure _
    · exact .pure _

lemma completes_receiveDummies (hB : B.Answers a.bus) (hon : IsOn a.con) (hlead : a.lead ≤ 1)
    (n : ℕ) (hn : got.length + n ≤ sent.length) :
    Completes (boardMachine B) (Board.Rely B)
      (fun s => InFlight B a sent got m s ∧ s.spi2.txb = none) (receiveDummies n) := by
  have hP : ∀ {got : List Word32}, Stable (Board.Rely B) fun s =>
      InFlight B a sent got m s ∧ s.spi2.txb = none := stable_inFlight.and stable_vacant
  induction n generalizing got with
  | zero => exact .pure _
  | succ n ih =>
    refine Completes.bind (completes_awaitStat hP fun s hs => ?_) (triple_awaitStat (a := a)
      (F := fun s => s.rbf = true) (fun s h => ?_) hP (fun s hs => hs.1.safe)
      (hP.and stable_full)) fun _ => ?_
    · obtain ⟨s', hd, hfull⟩ := hs.1.exists_full hB hon (hs.1.safe hlead) (by omega)
      exact ⟨s', hd, fun h => by simp [s'.spi2.stat_rbf.1 h] at hfull⟩
    · simpa using mt s.stat_rbf.2 h
    · refine completes_readReg (T := fun r s => InFlight B a sent (got ++ [r]) m s ∧
        s.spi2.txb = none) (hP.and stable_full) (fun s hs => ⟨hs.1.1.receive hs.2, hs.1.2⟩)
        fun r => ih ?_
      rw [List.length_append, List.length_singleton]
      omega

variable {c : Counts}

lemma completes_sendNext (data : ℕ → Byte) (txSize : ℕ) (c : Counts) :
    Completes (boardMachine B) (Board.Rely B)
      (fun s => InFlight B a sent got m s ∧ s.spi2.txb = none) (sendNext data txSize c) := by
  have hP : Stable (Board.Rely B) fun s => InFlight B a sent got m s ∧ s.spi2.txb = none :=
    stable_inFlight.and stable_vacant
  unfold sendNext
  split
  · refine Completes.bind (completes_elementSize hP) (triple_elementSize hP
      (fun s hs => hs.1.safe) fun s hs => hs.1.con) fun size => ?_
    refine completes_writeReg (T := fun _ => True) ?_ (fun _ _ => trivial) (.pure _)
    exact fun s s' hs hR => ⟨hs.1, hP _ _ hs.2 hR⟩
  · split
    · exact completes_writeReg (T := fun _ => True) hP (fun _ _ => trivial) (.pure _)
    · exact .pure _

lemma completes_receiveNext (hB : B.Answers a.bus) (hon : IsOn a.con) (hlead : a.lead ≤ 1)
    (h : Progress a data txSize rxSize dummySize 1 c sent got)
    (hdummies : 0 < dummySize → txSize + dummySize ≤ rxSize) :
    Completes (boardMachine B) (Board.Rely B) (InFlight B a sent got m) (receiveNext rxSize c) := by
  have hgot := h.got_length
  have hsent := h.sent_length
  unfold receiveNext
  split
  · rename_i heq
    have hw := h.written_eq hdummies heq
    have hpipe := h.pipelined heq
    refine Completes.bind (completes_awaitStat stable_inFlight fun s hs => ?_) (triple_awaitStat
      (a := a) (F := fun s => s.txb = none) (fun s hs => ?_) stable_inFlight (fun s hs => hs.safe)
      (stable_inFlight.and stable_vacant)) fun _ => ?_
    · obtain ⟨s', hd, hvacant⟩ := hs.exists_vacant hB hon
      refine ⟨s', hd, fun h => ?_⟩
      have hfilled := s'.spi2.stat_tbe.1 h
      simp [hvacant] at hfilled
    · simpa using mt s.stat_tbe.2 hs
    · refine Completes.bind (completes_receiveDummies hB hon hlead _ ?_)
        (triple_receiveDummies _) fun _ => .pure _
      omega
  · rename_i hne
    have hlt : c.rxCount < rxSize := lt_of_le_of_ne h.rx_le hne
    have hlock := h.lockstep hlt
    refine Completes.bind (completes_awaitStat stable_inFlight fun s hs => ?_) (triple_awaitStat
      (a := a) (F := fun s => s.rbf = true) (fun s hs => ?_) stable_inFlight (fun s hs => hs.safe)
      (stable_inFlight.and stable_full)) fun _ => ?_
    · obtain ⟨s', hd, hfull⟩ := hs.exists_full hB hon (hs.safe hlead) (by omega)
      exact ⟨s', hd, fun h => by simp [s'.spi2.stat_rbf.1 h] at hfull⟩
    · simpa using mt s.stat_rbf.2 hs
    · refine completes_readReg (T := fun r => InFlight B a sent (got ++ [r]) m)
        (stable_inFlight.and stable_full) (fun s hs => hs.1.receive hs.2) fun r => ?_
      rw [Prog.pure_bind, if_pos hlt]
      refine Completes.bind (completes_elementSize stable_inFlight) (triple_elementSize
        stable_inFlight (fun s hs => hs.safe) fun s hs => hs.con) fun size => ?_
      refine Completes.op (T := fun _ _ => True) ?_ (fun s _ => ⟨(), _, rfl⟩)
        (fun _ _ _ _ _ => trivial) fun _ => .pure _
      exact fun s s' hs hR => ⟨hs.1, stable_inFlight _ _ hs.2 hR⟩

lemma completes_transferLoop (hB : B.Answers a.bus) (hon : IsOn a.con) (hlead : a.lead ≤ 1)
    (hsz : Sizes a txSize rxSize dummySize) (n : ℕ) (c : Counts) :
    Completes (boardMachine B) (Board.Rely B) (LoopAtCounts B a data txSize rxSize dummySize m c)
      (transferLoop data txSize rxSize n c) := by
  induction n generalizing c with
  | zero => exact .pure _
  | succ n ih =>
    unfold transferLoop
    split
    · rename_i hc
      refine Completes.of_exists fun sent => Completes.of_exists fun got => ?_
      rintro s ⟨h, hs⟩
      have hlt := h.written_lt hc
      refine Completes.bind (completes_sendNext _ _ _) (triple_sendNext h (h.ahead hsz hlt) hc)
        (fun c₁ => ?_) s hs
      rintro s₁ ⟨hrx, x, h₁, hs₁⟩
      rw [← hrx] at hs₁
      refine Completes.bind (completes_receiveNext hB hon hlead h₁ hsz.dummies)
        (triple_receiveNext h₁ hsz.dummies) (fun c₂ => ?_) s₁ hs₁
      exact (ih c₂).pre fun s₂ hs₂ => hs₂.2.2
    · exact .pure _

lemma completes_flush :
    Completes (boardMachine B) (Board.Rely B)
      (fun s => Resting B a m s ∧ s.spi2.rov = false) flush := by
  have hP : Stable (Board.Rely B) fun s => Resting B a m s ∧ s.spi2.rov = false :=
    stable_resting_and (F := fun s => s.rov = false)
  -- a turn that finds the receive buffer empty is the last one
  have hlast : ∀ s : Board W, s.spi2.rbf = false → ∃ t a v,
      Returns (boardMachine B) (Board.Rely B) flush s t a v := by
    intro s hrbf
    have hread : (boardMachine B).step s (.readReg .SPI2STAT) s.spi2.stat s := ⟨rfl, rfl⟩
    have hturn : Returns (boardMachine B) (Board.Rely B)
        (if s.spi2.stat &&& SPI2STAT_SPIRBF = 0#32 then .pure true
          else .op (.readReg .SPI2BUF) fun _ => .pure false) s [] true s := by
      rw [if_pos (s.spi2.stat_rbf.2 hrbf)]
      exact Reach.refl
    rw [flush_eq]
    exact ⟨_, (), s, Returns.loop (Returns.op hread hturn) .refl⟩
  rw [flush_eq] at hlast ⊢
  refine Completes.loop_of_front hP (triple_flushTurn (a := a) (m := m))
    (fun s hs => ⟨hs.1, hs.2.1⟩) ?_ ?_ (.pure ())
  · refine completes_readReg (T := fun _ s => Resting B a m s) hP (fun s hs => ?_) fun stat => ?_
    · exact ⟨hs.1.con, hs.1.cs, hs.1.memory, hs.1.still, hs.1.bus⟩
    · split
      · exact .pure _
      · exact completes_readReg (T := fun _ _ => True) stable_resting (fun _ _ => trivial)
          fun _ => .pure _
  · intro s hs
    cases hrbf : s.spi2.rbf with
    | false => exact hlast s hrbf
    | true =>
      -- the unread word is read first
      have hread : (boardMachine B).step s (.readReg .SPI2STAT) s.spi2.stat s := ⟨rfl, rfl⟩
      have hne : ¬ s.spi2.stat &&& SPI2STAT_SPIRBF = 0#32 := by
        rw [s.spi2.stat_rbf, hrbf]
        decide
      have htake : (boardMachine B).step s (.readReg .SPI2BUF) s.spi2.rxb
          { s with spi2 := (s.spi2.read .SPI2BUF).2 } := ⟨rfl, rfl⟩
      have hturn : Returns (boardMachine B) (Board.Rely B)
          (if s.spi2.stat &&& SPI2STAT_SPIRBF = 0#32 then .pure true
            else .op (.readReg .SPI2BUF) fun _ => .pure false) s
          [⟨.readReg .SPI2BUF, s.spi2.rxb⟩] false
          { s with spi2 := (s.spi2.read .SPI2BUF).2 } := by
        rw [if_neg hne]
        exact Returns.op htake .refl
      obtain ⟨t, x, v, h⟩ := hlast { s with spi2 := (s.spi2.read .SPI2BUF).2 } rfl
      exact ⟨_, x, v, Returns.loop (Returns.op hread hturn) h⟩

/-- A transfer that is never more than one word ahead can always be finished. -/
lemma completes_transferElements (data : ℕ → Byte) {a : Transfer W} {txSize rxSize : ℕ}
    (hB : B.Answers a.bus)
    (hon : IsOn a.con) (hlead : a.lead = 1)
    (hsize : txSize / sizeOf a.con ≤ rxSize / sizeOf a.con + 1) :
    Completes (boardMachine B) (Board.Rely B) (Resting B a m)
      (transferElements data txSize rxSize) := by
  have hsz := sizes_of_request (a := a) (by omega) fun h => absurd h (Nat.not_lt.2 hsize)
  have hP : Stable (Board.Rely B) fun s => InFlight B a [] [] m s ∧ s.spi2.txb = none :=
    stable_inFlight.and stable_vacant
  refine completes_writeReg (T := fun s => Resting B a m s ∧ s.spi2.rov = false) stable_resting
    (fun s hs => ⟨⟨hs.con, hs.cs, hs.memory, hs.still, hs.bus⟩, rfl⟩) ?_
  rw [Prog.pure_bind]
  refine Completes.bind completes_flush (triple_flush (a := a)) fun _ => ?_
  refine Completes.bind (completes_elementSize hP) (triple_elementSize hP (fun s hs => hs.1.safe)
    fun s hs => hs.1.con) fun size => ?_
  rintro s ⟨rfl, hs⟩
  refine Completes.bind (completes_awaitStat hP fun s hs => ⟨s, .refl, fun h => ?_⟩)
    (triple_awaitStat (a := a) (F := fun s => s.txb = none) (fun s hs => ?_) hP
      (fun s hs => hs.1.safe) (hP.and stable_vacant)) (fun _ => ?_) s hs
  · have hfilled := s.spi2.stat_tbe.1 h
    simp [hs.2] at hfilled
  · simpa using mt s.stat_tbe.2 hs
  refine Completes.pre (Completes.bind (completes_transferLoop hB hon
    (by omega) hsz _ _) (triple_transferLoop hsz _ _ ?_) fun c => ?_) fun s hs =>
      loopAtCounts_start hs.1
  · simp [Counts.written]
  · rintro s ⟨hw, sent, got, h, hs⟩
    obtain ⟨-, -, hgt⟩ := h.rest hsz hw
    split
    · rename_i htx
      obtain ⟨-, hlen⟩ := hgt htx
      exact completes_receiveDummies hB hon (by omega) _ (by omega) s hs
    · exact Completes.pure (P := fun _ => True) _ s trivial

end Completion

/-! ### How a word is lost -/

/-- Words may be allowed to be further ahead. -/
lemma InFlight.more {s : Board W} (h : InFlight B a sent got m s) {n : ℕ} (hn : a.lead ≤ n)
    (h2 : 2 ≤ n) : InFlight B { a with lead := n } sent got m s := by
  have hahead := h.ahead
  exact ⟨h.con, h.cs, h.memory, by simp only; omega, fun h1 => absurd h1 (by simp only; omega),
    h.trace⟩

/-- When two words are ahead, the second one can find the receive buffer full. -/
lemma InFlight.exists_overrun (hB : B.Answers a.bus) (hon : IsOn a.con) {s : Board W}
    (h : InFlight B a sent got m s) (hlen : sent.length = got.length + 2) :
    ∃ s', Drift (Board.Rely B) s s' ∧ s'.spi2.rov = true := by
  cases hrov : s.spi2.rov with
  | true => exact ⟨s, .refl, hrov⟩
  | false =>
    -- the first word comes back
    obtain ⟨s₁, hd₁, hrbf₁⟩ := h.exists_full hB hon hrov (by omega)
    have h₁ := stable_inFlight.drift h hd₁
    cases hrov₁ : s₁.spi2.rov with
    | true => exact ⟨s₁, hd₁, hrov₁⟩
    | false =>
      obtain ⟨lost, hcount, hlost⟩ := h₁.count
      obtain rfl := hlost.1 hrov₁
      have hunread : s₁.spi2.unread.length = 1 := by simp [Spi2.unread, hrbf₁]
      -- and so does the second one
      obtain ⟨s₂, hd₂, h₂, hrbf₂, x, hsr₂⟩ : ∃ s₂, Drift (Board.Rely B) s₁ s₂ ∧
          InFlight B a sent got m s₂ ∧ s₂.spi2.rbf = true ∧ ∃ x, s₂.spi2.sr = some x := by
        cases hsr : s₁.spi2.sr with
        | some x => exact ⟨s₁, .refl, h₁, hrbf₁, x, hsr⟩
        | none =>
          cases htxb : s₁.spi2.txb with
          | none =>
            simp only [hsr, htxb, Option.toList_none, List.length_nil] at hcount
            omega
          | some x =>
            obtain ⟨s₂, hd₂, h₂, hsr₂, -, hrbf₂, -⟩ := h₁.exists_load hon hsr htxb
            exact ⟨s₂, hd₂, h₂, hrbf₂.trans hrbf₁, x, hsr₂⟩
      obtain ⟨s₃, hd₃, -, -, -, hover, -⟩ := h₂.exists_finish hB hsr₂
      exact ⟨s₃, (hd₁.trans hd₂).trans hd₃, (hover hrbf₂).1⟩

/-- The first turns of the loop, up to the first word that is ahead, can be made without a
loss. -/
lemma exists_turns (hB : B.Answers a.bus) (hon : IsOn a.con) (hlead : a.lead = 1) {c₀ : Counts}
    (hc₀ : c₀.written 0 = 0) (j n : ℕ) (hj : j ≤ rxSize + 1) (htx : j ≤ txSize) {s₀ : Board W}
    (hs₀ : LoopAtCounts B a data txSize rxSize 0 m c₀ s₀) :
    ∃ t c s, Reach (boardMachine B) (Board.Rely B) (transferLoop data txSize rxSize (j + n) c₀) s₀ t
        (transferLoop data txSize rxSize n c) s ∧ c.written 0 = j ∧
      LoopAtCounts B a data txSize rxSize 0 m c s := by
  induction j generalizing n with
  | zero =>
    rw [Nat.zero_add]
    exact ⟨[], c₀, s₀, .refl, hc₀, hs₀⟩
  | succ j ih =>
    obtain ⟨t, c, s, hr, hw, sent, got, h, hs⟩ := ih (n + 1) (by omega) (by omega)
    have hc : c.txCount ≠ txSize ∨ c.dummySize ≠ 0 := by
      simp only [Counts.written] at hw
      omega
    have hahead : sent.length + 1 ≤ got.length + a.lead := by
      have hsent := h.sent_length
      have hgot := h.got_length
      have hlock := h.lockstep
      have hrx := h.rx_le
      omega
    obtain ⟨t₁, c₁, s₁, h₁⟩ := (completes_sendNext data txSize c).start hs
    obtain ⟨hrx, x, hp₁, hs₁⟩ := (triple_sendNext h hahead hc).returns hs h₁
    rw [← hrx] at hs₁
    obtain ⟨t₂, c₂, s₂, h₂⟩ := (completes_receiveNext hB hon (by omega) hp₁ (by simp)).start hs₁
    obtain ⟨htx', hd', hs₂⟩ := (triple_receiveNext hp₁ (by simp)).returns hs₁ h₂
    have hsent := hp₁.sent_length
    have hsent' := h.sent_length
    rw [List.length_append, List.length_singleton] at hsent
    refine ⟨t ++ (t₁ ++ t₂), c₂, s₂, ?_, ?_, hs₂⟩
    · rw [Nat.add_right_comm]
      refine hr.trans ?_
      rw [transferLoop, if_pos hc]
      exact (Reach.bind _ h₁).trans (Reach.bind _ h₂)
    · simp only [Counts.written, htx', hd'] at *
      omega

/-- An access other than the one that clears `SPIROV`. -/
def KeepsOverrun (o : BoardOp) : Prop := ∀ v, o ≠ .writeReg .SPI2STATCLR v

lemma keepsOverrun_readReg (reg : Spi2Reg) : KeepsOverrun (.readReg reg) := by
  simp [KeepsOverrun]

lemma awaitStat_keeps (flag : Word32) : (awaitStat flag).All KeepsOverrun :=
  ⟨⟨keepsOverrun_readReg _, fun _ => trivial⟩, trivial⟩

lemma elementSize_keeps : elementSize.All KeepsOverrun := by
  rw [elementSize_eq]
  refine ⟨keepsOverrun_readReg _, fun con => ?_⟩
  beta_reduce
  split
  · trivial
  · refine ⟨keepsOverrun_readReg _, fun con => ?_⟩
    beta_reduce
    split <;> trivial

lemma receiveDummies_keeps (n : ℕ) : (receiveDummies n).All KeepsOverrun := by
  induction n with
  | zero => trivial
  | succ n ih => exact (awaitStat_keeps _).bind fun _ => ⟨keepsOverrun_readReg _, fun _ => ih⟩

lemma sendNext_keeps (data : ℕ → Byte) (txSize : ℕ) (c : Counts) :
    (sendNext data txSize c).All KeepsOverrun := by
  unfold sendNext
  split
  · exact elementSize_keeps.bind fun _ => ⟨by simp [KeepsOverrun], fun _ => trivial⟩
  · split
    · exact ⟨by simp [KeepsOverrun], fun _ => trivial⟩
    · trivial

lemma receiveNext_keeps (rxSize : ℕ) (c : Counts) : (receiveNext rxSize c).All KeepsOverrun := by
  unfold receiveNext
  split
  · exact (awaitStat_keeps _).bind fun _ => (receiveDummies_keeps _).bind fun _ => trivial
  · refine (awaitStat_keeps _).bind fun _ => ⟨keepsOverrun_readReg _, fun r => ?_⟩
    beta_reduce
    rw [Prog.pure_bind]
    split
    · exact elementSize_keeps.bind fun _ => ⟨by simp [KeepsOverrun], fun _ => trivial⟩
    · trivial

lemma transferLoop_keeps (data : ℕ → Byte) (txSize rxSize n : ℕ) (c : Counts) :
    (transferLoop data txSize rxSize n c).All KeepsOverrun := by
  induction n generalizing c with
  | zero => trivial
  | succ n ih =>
    unfold transferLoop
    split
    · exact (sendNext_keeps _ _ _).bind fun _ => (receiveNext_keeps _ _).bind fun _ => ih _
    · trivial

/-- With an overrun the loop goes on, and the call can lose a word. -/
lemma exists_overrun_loop (data : ℕ → Byte) (hB : B.Answers a.bus) (hon : IsOn a.con)
    (hlead : a.lead = 1) (htx : rxSize + 1 < txSize) {s : Board W}
    (hs : LoopAtCounts B a data txSize rxSize 0 m ⟨0, 0, 0, 0⟩ s) :
    ∃ t q v, Reach (boardMachine B) (Board.Rely B)
        (transferLoop data txSize rxSize txSize ⟨0, 0, 0, 0⟩) s t q v ∧
      q.All KeepsOverrun ∧ v.spi2.rov = true := by
  obtain ⟨n, rfl⟩ : ∃ n, txSize = rxSize + 1 + (n + 1) := ⟨txSize - (rxSize + 1) - 1, by omega⟩
  obtain ⟨t, c, s₁, hr, hw, sent, got, h, hs₁, htxb⟩ := exists_turns hB hon hlead rfl (rxSize + 1)
    (n + 1) le_rfl (by omega) hs
  -- one word is ahead, and another one is written
  have hsent := h.sent_length
  have hlock := h.lockstep
  have hpipe := h.pipelined
  have hrx := h.rx_le
  have hgot : sent.length = got.length + 1 := by omega
  have hc : c.txCount ≠ rxSize + 1 + (n + 1) ∨ c.dummySize ≠ 0 := by
    simp only [Counts.written] at hw
    omega
  have h₁ := hs₁.more (n := 2) (by omega) le_rfl
  obtain ⟨t₁, c₁, s₂, hret⟩ := (completes_sendNext data (rxSize + 1 + (n + 1)) c).start ⟨h₁, htxb⟩
  have hp : Progress { a with lead := 2 } data (rxSize + 1 + (n + 1)) rxSize 0 0 c sent got :=
    ⟨h.sent_eq, h.tx_le, h.dummy_le, h.order, h.got_length, h.rx_le, h.lockstep, h.pipelined⟩
  obtain ⟨-, x, -, hs₂⟩ := (triple_sendNext hp (by simp only; omega) hc).returns ⟨h₁, htxb⟩ hret
  have hlen : (sent ++ [x]).length = got.length + 2 := by
    rw [List.length_append, List.length_singleton, hgot]
  obtain ⟨s₃, hd, hrov⟩ := InFlight.exists_overrun (a := ⟨a.bus, a.con, a.cs, 2⟩) hB hon hs₂ hlen
  refine ⟨t ++ (t₁ ++ []), (receiveNext rxSize c₁).bind
    (transferLoop data (rxSize + 1 + (n + 1)) rxSize n), s₃, ?_, ?_, hrov⟩
  · refine hr.trans ?_
    rw [transferLoop, if_pos hc]
    exact (Reach.bind _ hret).trans (.drift hd)
  · exact (receiveNext_keeps _ _).bind fun _ => transferLoop_keeps _ _ _ _ _

/-- A transfer that sends at least two elements more than it receives can lose a word. -/
lemma exists_overrun_transfer (data : ℕ → Byte) {a : Transfer W} {txSize rxSize : ℕ}
    (hB : B.Answers a.bus)
    (hon : IsOn a.con) (hlead : a.lead = 1)
    (hsize : rxSize / sizeOf a.con + 1 < txSize / sizeOf a.con) {s : Board W}
    (hs : Resting B a m s) :
    ∃ t q v, Reach (boardMachine B) (Board.Rely B) (transferElements data txSize rxSize) s t q v ∧
      q.All KeepsOverrun ∧ v.spi2.rov = true := by
  have hP : Stable (Board.Rely B) fun s => InFlight B a [] [] m s ∧ s.spi2.txb = none :=
    stable_inFlight.and stable_vacant
  have hdummy : (if rxSize > txSize then rxSize - txSize else 0) = 0 := by
    rw [if_neg]
    intro hgt
    exact absurd (Nat.div_le_div_right (c := sizeOf a.con) hgt.le) (by omega)
  -- up to the loop
  have hclear : (boardMachine B).step s (.writeReg .SPI2STATCLR SPI2STAT_SPIROV) ()
      { s with spi2 := s.spi2.write SPI2STAT_SPIROV .SPI2STATCLR } := rfl
  have hs₁ : Resting B a m { s with spi2 := s.spi2.write SPI2STAT_SPIROV .SPI2STATCLR } ∧
      (s.spi2.write SPI2STAT_SPIROV .SPI2STATCLR).rov = false :=
    ⟨⟨hs.con, hs.cs, hs.memory, hs.still, hs.bus⟩, rfl⟩
  obtain ⟨t₁, u₁, s₂, h₁⟩ := completes_flush.start hs₁
  have hs₂ := (triple_flush (a := a) (m := m)).returns hs₁ h₁
  obtain ⟨t₂, size, s₃, h₂⟩ := (completes_elementSize hP).start hs₂
  obtain ⟨rfl, hs₃⟩ := (triple_elementSize hP (fun s hs => hs.1.safe) fun s hs =>
    hs.1.con).returns hs₂ h₂
  have hfree : ∀ s : Board W, InFlight B a [] [] m s ∧ s.spi2.txb = none →
      s.spi2.stat &&& SPI2STAT_SPITBE ≠ 0#32 := by
    intro s hs h
    have hfilled := s.spi2.stat_tbe.1 h
    simp [hs.2] at hfilled
  obtain ⟨t₃, u₃, s₄, h₃⟩ := (completes_awaitStat hP fun s hs => ⟨s, .refl, hfree s hs⟩).start hs₃
  have hs₄ := (triple_awaitStat (a := a) (F := fun _ => True) (fun _ _ => trivial) hP
    (fun s hs => hs.1.safe) (hP.and fun _ _ _ _ => trivial)).returns hs₃ h₃
  obtain ⟨t₄, q, v, h₄, hq, hrov⟩ := exists_overrun_loop data hB hon hlead hsize
    (loopAtCounts_start hs₄.1)
  -- the loop is followed by dummies only
  have hloop : Reach (boardMachine B) (Board.Rely B)
      (transferLoop data (txSize / sizeOf a.con) (rxSize / sizeOf a.con)
        (txSize / sizeOf a.con + (if rxSize > txSize then rxSize - txSize else 0) / sizeOf a.con)
        ⟨0, 0, (if rxSize > txSize then rxSize - txSize else 0) / sizeOf a.con, 0⟩) s₄ t₄ q v := by
    rw [hdummy, Nat.zero_div, Nat.add_zero]
    exact h₄
  refine ⟨_ ++ (t₁ ++ (t₂ ++ (t₃ ++ t₄))), q.bind fun c =>
    if txSize / sizeOf a.con > rxSize / sizeOf a.con then
      receiveDummies (c.txCount - c.rxCount - c.dummyRxCntr) else return (), v,
    (Reach.single (.op hclear)).trans ((Reach.bind _ h₁).trans ((Reach.bind _ h₂).trans
      ((Reach.bind _ h₃).trans ?_))), ?_, hrov⟩
  · rw [Prog.pure_bind]
    exact Reach.bind _ hloop
  · refine hq.bind fun c => ?_
    split
    · exact receiveDummies_keeps _
    · trivial

end Enc624j600
