/-
# Words in flight

While a transfer is under way, some words were written to `SPI2BUF` and some were read from it.
`InFlight` says where the others are: in the transmit buffer, in the shift register, or already
exchanged and waiting in the receive buffer, or lost.  A transfer that is never more than one
word ahead of what it has read loses none.
-/
import Enc624j600.Board.State
import Enc624j600.Lib.Completion

namespace Enc624j600

open Interaction

/-- The setting of a transfer. -/
structure Transfer (W : Type) where
  /-- The other side of the bus at the start. -/
  bus : W
  con : Word32
  cs : Bool
  /-- How many words may be written before the answer to the first of them is read. -/
  lead : ℕ

variable {W : Type} {B : Bus W} {a : Transfer W} {sent got : List Word32} {m : ℕ → Byte}

/-- What is in the receive buffer. -/
def Spi2.unread (s : Spi2) : List Word32 := if s.rbf then [s.rxb] else []

/-- No word is on its way out. -/
def Spi2.Still (s : Spi2) : Prop := s.txb = none ∧ s.sr = none

/-- No word is on its way, and none is waiting or was lost. -/
structure Spi2.Idle (s : Spi2) : Prop where
  still : s.Still
  rbf : s.rbf = false
  rov : s.rov = false

/-- The words `sent` were written and `got` were read, and `m` is in the memory. -/
structure InFlight (B : Bus W) (a : Transfer W) (sent got : List Word32) (m : ℕ → Byte)
    (s : Board W) : Prop where
  con : s.spi2.con = a.con
  cs : s.cs = a.cs
  memory : s.memory = m
  ahead : sent.length ≤ got.length + a.lead
  safe : a.lead ≤ 1 → s.spi2.rov = false
  /-- The words `xs` were exchanged, and the last ones of what came back were lost. -/
  trace : ∃ (xs : List (Word32 × Word32)) (lost : List Word32), B.Exchanged a.bus xs s.bus ∧
    xs.map Prod.fst ++ (s.spi2.sr.toList ++ s.spi2.txb.toList) = sent ∧
    xs.map (fun x => truncate a.con x.2) = got ++ (s.spi2.unread ++ lost) ∧
    (s.spi2.rov = false ↔ lost = [])

/-- What a transfer promises about its accesses: a word is written into an empty transmit buffer,
no port pin is touched, and if it may be one word ahead only, nothing is ever lost. -/
def TransferGuarantee (a : Transfer W) (s : Board W) (o : BoardOp) (_ : o.Res) (_ : Board W) :
    Prop :=
  match o with
  | .readReg _ => a.lead ≤ 1 → s.spi2.rov = false
  | .writeReg .SPI2BUF _ => s.spi2.txb = none ∧ (a.lead ≤ 1 → s.spi2.rov = false)
  | .writeReg .SPI2STATCLR _ => True
  | .put _ _ => a.lead ≤ 1 → s.spi2.rov = false
  | _ => False

/-! ### Stability -/

/-- The chip select is a pin of port F. -/
lemma Board.cs_update {s : Board W} {port : ℕ} {v : Word32} (hp : port ≠ GPIO_PIN_RF12.port) :
    ({ s with lat := Function.update s.lat port v } : Board W).cs = s.cs := by
  simp only [Board.cs, Function.update_of_ne hp.symm]

/-- A transmit buffer that was left empty stays so. -/
lemma stable_vacant : Stable (Board.Rely B) fun s => s.spi2.txb = none := by
  intro s s' h hR
  cases hR with
  | load _ _ ht => simp [h] at ht
  | finish =>
    simp only [Spi2.finish]
    split <;> exact h
  | _ => exact h

/-- A module without words to send stays still. -/
lemma stable_still : Stable (Board.Rely B) fun s => s.spi2.Still := by
  intro s s' h hR
  cases hR with
  | load _ _ ht => simp [h.1] at ht
  | finish hs => simp [h.2] at hs
  | _ => exact h

/-- A full receive buffer stays full. -/
lemma stable_full : Stable (Board.Rely B) fun s => s.spi2.rbf = true := by
  intro s s' h hR
  cases hR with
  | finish =>
    simp only [Spi2.finish]
    split
    · exact h
    · rfl
  | _ => exact h

lemma stable_inFlight : Stable (Board.Rely B) (InFlight B a sent got m) := by
  intro s s' h hR
  obtain ⟨hcon, hcs, hmem, hahead, hsafe, xs, lost, hx, hsent, hgot, hlost⟩ := h
  cases hR with
  | @load x _ hsr htxb =>
    refine ⟨hcon, hcs, hmem, hahead, hsafe, xs, lost, hx, ?_, hgot, hlost⟩
    rw [hsr, htxb] at hsent
    simpa using hsent
  | @finish x y w hsr hy =>
    have hlen := congrArg List.length hsent
    have hlen' := congrArg List.length hgot
    rw [hsr] at hlen hsent
    simp only [List.length_append, List.length_map, Option.toList_some,
      List.length_singleton] at hlen
    simp only [List.length_append, List.length_map] at hlen'
    have hsent' : (xs ++ [(x, y)]).map Prod.fst ++ s.spi2.txb.toList = sent := by
      simpa using hsent
    refine ⟨?_, hcs, hmem, hahead, ?_, xs ++ [(x, y)],
      lost ++ if s.spi2.rbf || s.spi2.rov then [truncate a.con y] else [], hx.step hy, ?_, ?_, ?_⟩
    · simp only [Spi2.finish]
      split <;> exact hcon
    · -- losing a word would mean that two words were ahead
      intro hlead
      have hrov := hsafe hlead
      have hrbf : s.spi2.rbf = false := by
        by_contra hrbf
        have hrbf : s.spi2.rbf = true := by simpa using hrbf
        simp only [Spi2.unread, hrbf, if_true, List.length_singleton] at hlen'
        omega
      simp [Spi2.finish, hrbf, hrov]
    · simp only [Spi2.finish]
      split <;> simpa using hsent'
    · rw [List.map_append, hgot, hcon]
      by_cases hfull : s.spi2.rbf = true ∨ s.spi2.rov = true
      · have hfull' : (s.spi2.rbf || s.spi2.rov) = true := by simpa using hfull
        simp [Spi2.finish, Spi2.unread, hfull']
      · obtain ⟨hrbf, hrov⟩ : s.spi2.rbf = false ∧ s.spi2.rov = false := by simpa using hfull
        obtain rfl := hlost.1 hrov
        simp [Spi2.finish, Spi2.unread, hrbf, hrov]
    · by_cases hfull : s.spi2.rbf = true ∨ s.spi2.rov = true
      · have hfull' : (s.spi2.rbf || s.spi2.rov) = true := by simpa using hfull
        simp [Spi2.finish, hfull']
      · obtain ⟨hrbf, hrov⟩ : s.spi2.rbf = false ∧ s.spi2.rov = false := by simpa using hfull
        simp [Spi2.finish, hrbf, hrov, hlost.1 hrov]
  | tick => exact ⟨hcon, hcs, hmem, hahead, hsafe, xs, lost, hx, hsent, hgot, hlost⟩
  | bus hw => exact ⟨hcon, hcs, hmem, hahead, hsafe, xs, lost, hx.env hw, hsent, hgot, hlost⟩
  | lat hp =>
    exact ⟨hcon, (Board.cs_update hp).trans hcs, hmem, hahead, hsafe, xs, lost, hx, hsent, hgot,
      hlost⟩

namespace InFlight

variable {s : Board W}

/-- Where the words are, counted. -/
lemma count (h : InFlight B a sent got m s) : ∃ lost : List Word32,
    sent.length = got.length + s.spi2.unread.length + lost.length + s.spi2.sr.toList.length +
      s.spi2.txb.toList.length ∧ (s.spi2.rov = false ↔ lost = []) := by
  obtain ⟨xs, lost, -, hsent, hgot, hlost⟩ := h.trace
  have hlen := congrArg List.length hsent
  have hlen' := congrArg List.length hgot
  simp only [List.length_append, List.length_map] at hlen hlen'
  exact ⟨lost, by omega, hlost⟩

/-- A full receive buffer of a transfer that is one word ahead holds the last word. -/
lemma vacant (h : InFlight B a sent got m s) (hrbf : s.spi2.rbf = true)
    (hlen : sent.length ≤ got.length + 1) : s.spi2.txb = none := by
  obtain ⟨lost, hcount, -⟩ := h.count
  have hunread : s.spi2.unread.length = 1 := by simp [Spi2.unread, hrbf]
  cases htxb : s.spi2.txb with
  | none => rfl
  | some x =>
    simp only [htxb, Option.toList_some, List.length_singleton] at hcount
    omega

/-- When every word was answered, nothing is on its way. -/
lemma finished (h : InFlight B a sent got m s) (hlen : sent.length = got.length) :
    s.spi2.Idle ∧ ∃ xs : List (Word32 × Word32), B.Exchanged a.bus xs s.bus ∧
      xs.map Prod.fst = sent ∧ xs.map (fun x => truncate a.con x.2) = got := by
  obtain ⟨lost, hcount, -⟩ := h.count
  obtain ⟨xs, lost', hx, hsent, hgot, hlost⟩ := h.trace
  have hunread : s.spi2.unread = [] := List.eq_nil_of_length_eq_zero (by omega)
  have hsr : s.spi2.sr = none := by
    cases hsr : s.spi2.sr with
    | none => rfl
    | some x =>
      simp only [hsr, Option.toList_some, List.length_singleton] at hcount
      omega
  have htxb : s.spi2.txb = none := by
    cases htxb : s.spi2.txb with
    | none => rfl
    | some x =>
      simp only [htxb, Option.toList_some, List.length_singleton] at hcount
      omega
  have hrbf : s.spi2.rbf = false := by
    by_contra hrbf
    simp [Spi2.unread, hrbf] at hunread
  rw [hsr, htxb] at hsent
  rw [hunread] at hgot
  have hl : lost' = [] := by
    have h₁ := congrArg List.length hsent
    have h₂ := congrArg List.length hgot
    simp only [List.length_append, List.length_map] at h₁ h₂
    exact List.eq_nil_of_length_eq_zero (by simp at h₁ h₂; omega)
  subst hl
  exact ⟨⟨⟨htxb, hsr⟩, hrbf, hlost.2 rfl⟩, xs, hx, by simpa using hsent, by simpa using hgot⟩

/-- Write a word. -/
lemma send (h : InFlight B a sent got m s) (htxb : s.spi2.txb = none)
    (hahead : sent.length + 1 ≤ got.length + a.lead) (v : Word32) :
    InFlight B a (sent ++ [truncate a.con v]) got m
      { s with spi2 := s.spi2.write v .SPI2BUF } := by
  obtain ⟨hcon, hcs, hmem, -, hsafe, xs, lost, hx, hsent, hgot, hlost⟩ := h
  refine ⟨hcon, hcs, hmem, by simpa using hahead, hsafe, xs, lost, hx, ?_, hgot, hlost⟩
  rw [htxb] at hsent
  rw [← hsent, ← hcon]
  simp [Spi2.write]

/-- Read a word that came back. -/
lemma receive (h : InFlight B a sent got m s) (hrbf : s.spi2.rbf = true) :
    InFlight B a sent (got ++ [s.spi2.rxb]) m { s with spi2 := (s.spi2.read .SPI2BUF).2 } := by
  obtain ⟨hcon, hcs, hmem, hahead, hsafe, xs, lost, hx, hsent, hgot, hlost⟩ := h
  refine ⟨hcon, hcs, hmem, ?_, hsafe, xs, lost, hx, hsent, ?_, hlost⟩
  · rw [List.length_append]
    omega
  · rw [hgot]
    simp [Spi2.unread, Spi2.read, hrbf]

/-- Store bytes. -/
lemma put (h : InFlight B a sent got m s) (offset : ℕ) (bytes : List Byte) :
    InFlight B a sent got (putBytes m offset bytes)
      { s with memory := putBytes s.memory offset bytes } := by
  obtain ⟨hcon, hcs, hmem, hahead, hsafe, htrace⟩ := h
  exact ⟨hcon, hcs, by rw [hmem], hahead, hsafe, htrace⟩

end InFlight

/-! ### The accesses of a transfer -/

section Accesses

variable {α : Type} {P : Board W → Prop} {Q : α → Board W → Prop}

/-- Read a register other than the buffer, which leaves the board as it is. -/
lemma triple_readReg {reg : Spi2Reg} {k : Word32 → OnBoard α} {T : Word32 → Board W → Prop}
    (hreg : reg ≠ .SPI2BUF) (hP : Stable (Board.Rely B) P)
    (hsafe : ∀ s, P s → a.lead ≤ 1 → s.spi2.rov = false)
    (hT : ∀ s, P s → T (s.spi2.read reg).1 s)
    (hk : ∀ r, Triple (boardMachine B) (Board.Rely B) (TransferGuarantee a) (T r) (k r) Q) :
    Triple (boardMachine B) (Board.Rely B) (TransferGuarantee a) P (.op (.readReg reg) k) Q := by
  refine Triple.op hP ?_ hk
  rintro s r s' hs ⟨rfl, rfl⟩
  have hsame : (s.spi2.read reg).2 = s.spi2 := by
    cases reg with
    | SPI2BUF => exact absurd rfl hreg
    | _ => rfl
  rw [hsame]
  exact ⟨hsafe s hs, hT s hs⟩

/-- Wait for a bit of `SPI2STAT` that stands for `F`. -/
lemma triple_awaitStat {flag : Word32} {F : Spi2 → Prop} (hF : ∀ s, s.stat &&& flag ≠ 0#32 → F s)
    (hP : Stable (Board.Rely B) P) (hsafe : ∀ s, P s → a.lead ≤ 1 → s.spi2.rov = false)
    (hst : Stable (Board.Rely B) fun s => P s ∧ F s.spi2) :
    Triple (boardMachine B) (Board.Rely B) (TransferGuarantee a) P (awaitStat flag)
      fun _ s => P s ∧ F s.spi2 := by
  refine Triple.loop (T := fun x s => P s ∧ (x = true → F s.spi2)) hP ?_ (fun s hs => hs.1) ?_
  · have hst' : ∀ x : Bool, Stable (Board.Rely B) fun s => P s ∧ (x = true → F s.spi2) :=
      fun x s s' hs hR => ⟨hP s s' hs.1 hR, fun hx => (hst s s' ⟨hs.1, hs.2 hx⟩ hR).2⟩
    refine triple_readReg (T := fun stat s => P s ∧ ((!decide (stat &&& flag = 0#32)) = true →
      F s.spi2)) (by decide) hP hsafe ?_ fun stat => Triple.pure (hst' _) fun s hs => hs
    exact fun s hs => ⟨hs, fun h => hF s.spi2 (of_decide_eq_false ((Bool.not_eq_true' _).mp h))⟩
  · exact (Triple.pure hst fun s hs => hs).pre fun s hs => ⟨hs.1, hs.2 rfl⟩

/-- The size of an element in the mode that `con` selects. -/
def sizeOf (con : Word32) : ℕ :=
  if con &&& SPI2CON_MODE32 = SPI2CON_MODE32 then 4
  else if con &&& SPI2CON_MODE16 = SPI2CON_MODE16 then 2 else 1

lemma elementSize_eq : elementSize = .op (.readReg .SPI2CON) fun con =>
    if con &&& SPI2CON_MODE32 = SPI2CON_MODE32 then .pure 4
    else .op (.readReg .SPI2CON) fun con =>
      if con &&& SPI2CON_MODE16 = SPI2CON_MODE16 then .pure 2 else .pure 1 := rfl

lemma triple_elementSize (hP : Stable (Board.Rely B) P)
    (hsafe : ∀ s, P s → a.lead ≤ 1 → s.spi2.rov = false) (hcon : ∀ s, P s → s.spi2.con = a.con) :
    Triple (boardMachine B) (Board.Rely B) (TransferGuarantee a) P elementSize
      fun size s => size = sizeOf a.con ∧ P s := by
  have hst : ∀ con : Word32, Stable (Board.Rely B) fun s => con = a.con ∧ P s :=
    fun con s s' hs hR => ⟨hs.1, hP s s' hs.2 hR⟩
  have hread : ∀ s, P s → (s.spi2.read .SPI2CON).1 = a.con ∧ P s := fun s hs => ⟨hcon s hs, hs⟩
  rw [elementSize_eq]
  refine triple_readReg (T := fun con s => con = a.con ∧ P s) (by decide) hP hsafe hread
    fun con => ?_
  refine Triple.of_and fun hc => ?_
  subst hc
  split
  · rename_i h32
    exact Triple.pure hP fun s hs => ⟨by rw [sizeOf, if_pos h32], hs⟩
  · rename_i h32
    refine triple_readReg (T := fun con s => con = a.con ∧ P s) (by decide) hP hsafe hread
      fun con => ?_
    refine Triple.of_and fun hc => ?_
    subst hc
    split
    · rename_i h16
      exact Triple.pure hP fun s hs => ⟨by rw [sizeOf, if_neg h32, if_pos h16], hs⟩
    · rename_i h16
      exact Triple.pure hP fun s hs => ⟨by rw [sizeOf, if_neg h32, if_neg h16], hs⟩

/-- Read a word that came back. -/
lemma triple_takeWord {k : Word32 → OnBoard α}
    (hk : ∀ r, Triple (boardMachine B) (Board.Rely B) (TransferGuarantee a)
      (fun s => InFlight B a sent (got ++ [r]) m s ∧ s.spi2.txb = none) (k r) Q) :
    Triple (boardMachine B) (Board.Rely B) (TransferGuarantee a)
      (fun s => (InFlight B a sent got m s ∧ s.spi2.txb = none) ∧ s.spi2.rbf = true)
      (.op (.readReg .SPI2BUF) k) Q := by
  refine Triple.op ((stable_inFlight.and stable_vacant).and stable_full) ?_ hk
  rintro s r s' ⟨⟨hs, htxb⟩, hrbf⟩ ⟨rfl, rfl⟩
  exact ⟨hs.safe, hs.receive hrbf, htxb⟩

/-- Receive `n` dummies. -/
lemma triple_receiveDummies (n : ℕ) :
    Triple (boardMachine B) (Board.Rely B) (TransferGuarantee a)
      (fun s => InFlight B a sent got m s ∧ s.spi2.txb = none) (receiveDummies n)
      fun _ s => ∃ ys : List Word32, ys.length = n ∧ InFlight B a sent (got ++ ys) m s ∧
        s.spi2.txb = none := by
  induction n generalizing got with
  | zero =>
    refine Triple.pure (stable_inFlight.and stable_vacant) fun s hs => ⟨[], rfl, ?_, hs.2⟩
    simpa using hs.1
  | succ n ih =>
    refine Triple.bind (triple_awaitStat (F := fun s => s.rbf = true) (fun s h => ?_)
      (stable_inFlight.and stable_vacant) (fun s hs => hs.1.safe)
      ((stable_inFlight.and stable_vacant).and stable_full)) fun _ => ?_
    · simpa using mt s.stat_rbf.2 h
    · refine triple_takeWord fun r => ih.post ?_
      rintro _ s ⟨ys, hys, hs, htxb⟩
      exact ⟨r :: ys, by simp [hys], by simpa using hs, htxb⟩

end Accesses

end Enc624j600
