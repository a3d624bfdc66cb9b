/-
# The operations of a receive call

The only operations of `enc624j600_receive` with an effect on the chip are the move of the
read pointer of the receive buffer, the write of `ERXTAIL` and the decrement of the packet
counter.
-/
import Enc624j600.Receive.Spec

namespace Enc624j600

open Cyclic Interaction

/-- The operations that a receive call may perform. -/
def IsReceiveOp : Op → Prop
  | .spi (.single opcode) => opcode = SETPKTDEC
  | .spi (.readPointer _) => False
  | .spi (.writePointer p _) => p = .ERXRDPT
  | .spi (.readSfr a) => a = ESTAT
  | .spi (.writeSfr a _) => a = ERXTAIL
  | .spi (.setBits _ _) => False
  | .spi (.clearBits _ _) => False
  | .spi (.readWindow reg _) => reg = .ERXDATA
  | .spi (.writeWindow _ _) => False
  | .loc (.delay _) => False
  | .loc .getDuplexMode => False
  | .loc (.setDuplexMode _) => False
  | .loc _ => True

lemma receiveFrame_all : receiveFrame.All IsReceiveOp := by
  have hread : ∀ param n, (readFromWindowRegTo .ERXDATA param n).All IsReceiveOp :=
    fun _ _ => ⟨rfl, fun _ => ⟨trivial, fun _ => trivial⟩⟩
  refine ⟨trivial, fun _ => ⟨rfl, fun _ => ⟨rfl, fun _ => ⟨trivial, fun _ => ⟨rfl, fun _ =>
    ⟨trivial, fun _ => ?_⟩⟩⟩⟩⟩⟩
  change ((readFromWindowRegTo .ERXDATA .destinationMac 6).bind _).All IsReceiveOp
  refine Prog.All.bind (hread _ _) fun _ => Prog.All.bind (hread _ _) fun _ => ?_
  refine Prog.All.bind (hread _ _) fun _ => Prog.All.bind (hread _ _) fun _ => ?_
  exact ⟨trivial, fun _ => ⟨rfl, fun _ => ⟨rfl, fun _ => trivial⟩⟩⟩

lemma receive_all (destinationMac sourceMac lengthType buffer receivedBytes : OutPtr) :
    (enc624j600Receive destinationMac sourceMac lengthType buffer receivedBytes).All
      IsReceiveOp := by
  unfold enc624j600Receive
  split
  · trivial
  · refine ⟨rfl, fun estat => ?_⟩
    change (ite _ _ _ : Driver ReceiveResult).All IsReceiveOp
    split
    · trivial
    · exact Prog.All.bind receiveFrame_all fun _ => trivial

lemma receiveCall_all : receiveCall.All IsReceiveOp := receive_all ..

/-- The write of `ERXTAIL`. -/
def IsTailWrite (o : Op) : Prop := ∃ v, o = .spi (.writeSfr ERXTAIL v)

instance (o : Op) : Decidable (IsTailWrite o) :=
  match o with
  | .spi (.writeSfr a v) =>
    if h : a = ERXTAIL then .isTrue ⟨v, h ▸ rfl⟩
    else .isFalse fun ⟨_, he⟩ => h (Instr.writeSfr.inj (Op.spi.inj he)).1
  | .spi (.single _) => .isFalse fun ⟨_, he⟩ => nomatch he
  | .spi (.readPointer _) => .isFalse fun ⟨_, he⟩ => nomatch he
  | .spi (.writePointer _ _) => .isFalse fun ⟨_, he⟩ => nomatch he
  | .spi (.readSfr _) => .isFalse fun ⟨_, he⟩ => nomatch he
  | .spi (.setBits _ _) => .isFalse fun ⟨_, he⟩ => nomatch he
  | .spi (.clearBits _ _) => .isFalse fun ⟨_, he⟩ => nomatch he
  | .spi (.readWindow _ _) => .isFalse fun ⟨_, he⟩ => nomatch he
  | .spi (.writeWindow _ _) => .isFalse fun ⟨_, he⟩ => nomatch he
  | .loc _ => .isFalse fun ⟨_, he⟩ => nomatch he

/-- What an operation of a receive call does to the chip. -/
structure ReceiveEffect (o : Op) (c c' : Chip) : Prop where
  por : c'.por = c.por
  resetPending : c'.resetPending = c.resetPending
  sram : c'.sram = c.sram
  deposited : c'.deposited = c.deposited
  wire : c'.wire = c.wire
  sfr : ∀ a, a ≠ ERXTAIL → c'.sfr a = c.sfr a
  pointer : ∀ p, p ≠ .ERXRDPT → c'.pointer p = c.pointer p
  erxtail : ∀ v, o = .spi (.writeSfr ERXTAIL v) → c'.sfr ERXTAIL = v
  kept : ¬ IsTailWrite o → c'.sfr ERXTAIL = c.sfr ERXTAIL

lemma receiveEffect {w w' : World} {o : Op} {r : o.Res} (ho : IsReceiveOp o)
    (hp : w.chip.por = false) (hs : machine.step w o r w') :
    ReceiveEffect o w.chip w'.chip := by
  obtain ⟨-, rfl⟩ := machine_step_iff.1 hs
  have hsame : ∀ o, (∀ v, o ≠ .spi (.writeSfr ERXTAIL v)) → ReceiveEffect o w.chip w.chip :=
    fun o hne => ⟨rfl, rfl, rfl, rfl, rfl, fun _ _ => rfl, fun _ _ => rfl,
      fun v hv => absurd hv (hne v), fun _ => rfl⟩
  have hptr : ∀ o v, (∀ v, o ≠ .spi (.writeSfr ERXTAIL v)) →
      ReceiveEffect o w.chip (w.chip.setPointer .ERXRDPT v) :=
    fun o v hne => ⟨rfl, rfl, rfl, rfl, rfl, fun _ _ => rfl,
      fun p hp => by rw [Chip.setPointer_pointer, if_neg hp],
      fun v hv => absurd hv (hne v), fun _ => rfl⟩
  cases o with
  | loc l =>
    have hc : (w.perform (.loc l)).2.chip = w.chip := by cases l <;> rfl
    rw [hc]
    exact hsame _ (by simp)
  | spi i =>
    rw [World.perform_spi hp]
    cases i with
    | single opcode =>
      obtain rfl : opcode = SETPKTDEC := ho
      simp only [Chip.perform]
      rw [Chip.single_setpktdec]
      split
      · exact hsame _ (by simp)
      · exact ⟨rfl, rfl, rfl, rfl, rfl, fun _ _ => rfl, fun _ _ => rfl,
          by simp, fun _ => rfl⟩
    | readPointer p => exact absurd ho id
    | writePointer p v =>
      obtain rfl : p = .ERXRDPT := ho
      exact hptr _ _ (by simp)
    | readSfr a => exact hsame _ (by simp)
    | writeSfr a v =>
      obtain rfl : a = ERXTAIL := ho
      simp only [Chip.perform]
      rw [Chip.writeSfr_of_ne _ (by decide)]
      refine ⟨rfl, rfl, rfl, rfl, rfl, fun a ha => by rw [Chip.setSfr_sfr, if_neg ha],
        fun _ _ => rfl, ?_, fun h => absurd ⟨v, rfl⟩ h⟩
      rintro v' ⟨⟩
      rw [Chip.setSfr_sfr, if_pos rfl]
    | setBits a m => exact absurd ho id
    | clearBits a m => exact absurd ho id
    | readWindow reg n =>
      obtain rfl : reg = .ERXDATA := ho
      exact hptr _ _ (by simp)
    | writeWindow reg bs => exact absurd ho id

lemma receiveCall_loopFree : receiveCall.LoopFree := by
  rw [receiveCall_eq]
  intro estat
  change (ite _ _ _ : Driver ReceiveResult).LoopFree
  split
  · trivial
  · exact fun _ _ _ _ _ _ _ _ _ _ _ _ _ _ _ _ _ => trivial

/-- Every receive call can come to its end. -/
lemma exists_receive (R : World → World → Prop) (w : World) :
    ∃ t a v, Returns machine R receiveCall w t a v :=
  exists_returns_of_loopFree machine_total _ receiveCall_loopFree w

/-- A receive call does not touch what the chip stored. -/
lemma triple_receive_deposited {E : Surroundings} (fs : List Frame) :
    Triple machine E.rely (fun _ o _ _ => IsReceiveOp o)
      (fun w => w.chip.Awake ∧ fs <+: w.chip.deposited) receiveCall
      fun _ w => w.chip.Awake ∧ fs <+: w.chip.deposited := by
  refine Triple.of_all receiveCall_all ?_ ?_
  · rintro w o r w' ho ⟨ha, hd⟩ hs
    have he := receiveEffect ho ha.por hs
    refine ⟨ho, ⟨he.por.trans ha.por, he.resetPending.trans ha.resetPending⟩, ?_⟩
    rw [he.deposited]
    exact hd
  · rintro w _ ⟨ha, hd⟩ ⟨e, -, he, rfl⟩
    exact ⟨(ChipEvent.undisturbed ha he).awake ha, hd.trans (deposited_le_apply ha he)⟩

/-! ### Counting -/

section Counting

variable {E : Surroundings} {k : ℕ} {w w' : World}

lemma stable_tally_lt :
    Stable E.rely fun w => Tally k w ∧ k < w.chip.deposited.length := by
  rintro w w' ⟨hw, hlt⟩ hR
  refine ⟨stable_tally w w' hw hR, ?_⟩
  obtain ⟨e, -, he, rfl⟩ := hR
  exact hlt.trans_le (deposited_le_apply hw.awake he).length_le

/-- An operation of a receive call, the decrement of the packet counter apart, does not touch
the count. -/
lemma Tally.op {o : Op} {r : o.Res} (h : Tally k w) (ho : IsReceiveOp o)
    (hne : o ≠ .spi (.single SETPKTDEC)) (hs : machine.step w o r w') : Tally k w' := by
  have he := receiveEffect ho h.awake.por hs
  obtain ⟨-, rfl⟩ := machine_step_iff.1 hs
  have hsame : (w.perform o).2.chip.pktcnt = w.chip.pktcnt ∧
      (w.perform o).2.chip.delivered = w.chip.delivered := by
    cases o with
    | loc l => cases l <;> exact ⟨rfl, rfl⟩
    | spi i =>
      rw [World.perform_spi h.awake.por]
      cases i with
      | single opcode => exact absurd (congrArg (fun c => Op.spi (.single c)) ho) hne
      | writeSfr a v =>
        obtain rfl : a = ERXTAIL := ho
        simp only [Chip.perform]
        rw [Chip.writeSfr_of_ne _ (by decide)]
        exact ⟨rfl, rfl⟩
      | setBits a m => exact absurd ho id
      | clearBits a m => exact absurd ho id
      | _ => exact ⟨rfl, rfl⟩
  refine ⟨⟨he.por.trans h.awake.por, he.resetPending.trans h.awake.resetPending⟩, ?_,
    hsame.2.trans h.delivered⟩
  rw [Counted, hsame.1, hsame.2, he.deposited]
  exact h.counted

private lemma triple_keepTally {α : Type} {o : Op} {K : o.Res → Driver α} {Q : α → World → Prop}
    (ho : IsReceiveOp o) (hne : o ≠ .spi (.single SETPKTDEC))
    (hk : ∀ r, Triple machine E.rely noGuarantee
      (fun w => Tally k w ∧ k < w.chip.deposited.length) (K r) Q) :
    Triple machine E.rely noGuarantee (fun w => Tally k w ∧ k < w.chip.deposited.length)
      (.op o K) Q := by
  refine Triple.op stable_tally_lt ?_ hk
  rintro w r w' ⟨hw, hlt⟩ hs
  refine ⟨trivial, hw.op ho hne hs, ?_⟩
  rw [(receiveEffect ho hw.awake.por hs).deposited]
  exact hlt

/-- Whatever lies in the receive buffer, a frame is counted as handed over exactly once. -/
lemma triple_receiveFrame_tally :
    Triple machine E.rely noGuarantee (fun w => Tally k w ∧ k < w.chip.deposited.length)
      receiveFrame fun _ => Tally (k + 1) := by
  have hread : ∀ {α : Type} {Q : α → World → Prop} (param : OutParam) (n : ℕ)
      (K : Unit → Driver α), Triple machine E.rely noGuarantee
        (fun w => Tally k w ∧ k < w.chip.deposited.length) (K ()) Q →
      Triple machine E.rely noGuarantee (fun w => Tally k w ∧ k < w.chip.deposited.length)
        ((readFromWindowRegTo .ERXDATA param n).bind K) Q := fun param n K hK =>
    triple_keepTally rfl (by simp) fun _ => triple_keepTally trivial (by simp) fun _ => hK
  refine triple_keepTally trivial (by simp) fun _ => triple_keepTally rfl (by simp) fun _ => ?_
  refine triple_keepTally rfl (by simp) fun _ => triple_keepTally trivial (by simp) fun _ => ?_
  refine triple_keepTally rfl (by simp) fun _ => triple_keepTally trivial (by simp) fun _ => ?_
  refine hread .destinationMac 6 _ (hread .sourceMac 6 _ ?_)
  refine hread .lengthType 2 _ (hread .buffer _ _ ?_)
  refine triple_keepTally trivial (by simp) fun _ => triple_keepTally rfl (by simp) fun _ => ?_
  refine triple_spi (T := fun _ => Tally (k + 1)) stable_tally_lt (fun w hw => hw.1.awake.por) ?_
    fun _ => Triple.pure stable_tally fun _ hw => hw
  exact fun w hw => ⟨trivial, hw.1.decrement hw.2⟩

end Counting

/-- A receive call alone leaves the frames and the reception as they are. -/
lemma receive_alone {R : World → World → Prop} (hR : ∀ w w', ¬ R w w') {w v : World}
    {t : List (Event Op Op.Res)} {a : ReceiveResult} (hw : w.chip.Awake)
    (hr : Returns machine R receiveCall w t a v) :
    v.chip.deposited = w.chip.deposited ∧ (v.chip.Receiving ↔ w.chip.Receiving) := by
  have hall : Triple machine R noGuarantee (fun u => u.chip.Awake ∧
      u.chip.deposited = w.chip.deposited ∧ u.chip.sfr ECON1 = w.chip.sfr ECON1) receiveCall
      fun _ u => u.chip.Awake ∧ u.chip.deposited = w.chip.deposited ∧
        u.chip.sfr ECON1 = w.chip.sfr ECON1 := by
    refine Triple.of_all receiveCall_all ?_ fun u u' _ h => absurd h (hR u u')
    rintro u o r u' ho ⟨ha, hd, hx⟩ hs
    have he := receiveEffect ho ha.por hs
    exact ⟨trivial, ⟨he.por.trans ha.por, he.resetPending.trans ha.resetPending⟩,
      he.deposited.trans hd, (he.sfr _ (by decide)).trans hx⟩
  obtain ⟨-, hd, hx⟩ := hall.returns ⟨hw, rfl, rfl⟩ hr
  exact ⟨hd, by rw [Chip.Receiving, hx, Chip.Receiving]⟩

end Enc624j600
