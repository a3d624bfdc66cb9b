/-
# The receiving side as a call sees it

Two states look alike to a receive call if they agree on the SRAM outside of the general-purpose
area, on the pointer, the register and the counter that the call uses, and on the variables of
the driver.  A receive call has one outcome for all states that look alike.
-/
import Enc624j600.Lib.Interleaving
import Enc624j600.Receive.Operations

namespace Enc624j600

open Cyclic Interaction

/-- A chip that a receive call can work with.  Inside a slot, which `φ` says, the read pointer is
in the receive buffer. -/
structure Listening (φ : Prop) (c : Chip) : Prop where
  awake : c.Awake
  erxst : c.sfr ERXST = 0x2000#16
  has : φ → rxRegion.Has (c.pointer .ERXRDPT).toNat

/-- The states look alike to a receive call. -/
structure SameReceiver (φ : Prop) (w w' : World) : Prop where
  left : Listening φ w.chip
  right : Listening φ w'.chip
  sram : ∀ a, ¬ gpRegion.Has a → w'.chip.sram a = w.chip.sram a
  erxrdpt : w'.chip.pointer .ERXRDPT = w.chip.pointer .ERXRDPT
  erxtail : w'.chip.sfr ERXTAIL = w.chip.sfr ERXTAIL
  pktcnt : w'.chip.pktcnt = w.chip.pktcnt
  next : w'.nextReceiveFramePointer = w.nextReceiveFramePointer
  stored : w'.stored = w.stored

variable {φ : Prop} {w w' v v' : World}

lemma isView_sameReceiver : IsView (SameReceiver φ) := by
  refine ⟨fun h => ?_, fun h h' => ?_⟩
  · exact ⟨h.right, h.left, fun a ha => (h.sram a ha).symm, h.erxrdpt.symm, h.erxtail.symm,
      h.pktcnt.symm, h.next.symm, h.stored.symm⟩
  · exact ⟨h.left, h'.right, fun a ha => (h'.sram a ha).trans (h.sram a ha),
      h'.erxrdpt.trans h.erxrdpt, h'.erxtail.trans h.erxtail, h'.pktcnt.trans h.pktcnt,
      h'.next.trans h.next, h'.stored.trans h.stored⟩

lemma SameReceiver.mono {ψ : Prop} (h : SameReceiver φ w w') (hψ : ψ → φ) :
    SameReceiver ψ w w' :=
  { h with
    left := { h.left with has := fun hp => h.left.has (hψ hp) }
    right := { h.right with has := fun hp => h.right.has (hψ hp) } }

/-! ### Inside a slot -/

/-- The operations of a receive call once it points to the slot. -/
def IsSlotOp : Op → Prop
  | .spi (.readWindow reg _) => reg = .ERXDATA
  | .spi (.writeSfr a _) => a = ERXTAIL
  | .spi (.single opcode) => opcode = SETPKTDEC
  | .spi _ => False
  | .loc .getNextReceiveFramePointer => True
  | .loc (.setNextReceiveFramePointer _) => True
  | .loc (.store _ _) => True
  | .loc (.storeReceivedBytes _) => True
  | .loc _ => False

/-- Reading the receive buffer. -/
lemma SameReceiver.readWindow (h : SameReceiver True w w') (n : ℕ) :
    (w.chip.readWindow .ERXDATA n).1 = (w'.chip.readWindow .ERXDATA n).1 ∧
      SameReceiver True { w with chip := (w.chip.readWindow .ERXDATA n).2 }
        { w' with chip := (w'.chip.readWindow .ERXDATA n).2 } := by
  have hnext : ∀ c : Chip, c.sfr ERXST = 0x2000#16 → c.windowNext .ERXDATA = rxRegion.next :=
    fun c hc => rxNext_eq hc
  have hhas := h.left.has trivial
  have hadv : rxRegion.Has (BitVec.ofNat 16
      (rxRegion.next^[n] (w.chip.pointer .ERXRDPT).toNat)).toNat := by
    rw [Region.iterate_next hhas, toNat_ofNat_of_has Region.has_loc]
    exact Region.has_loc
  have hpointer : ∀ c : Chip, c.sfr ERXST = 0x2000#16 →
      c.pointer .ERXRDPT = w.chip.pointer .ERXRDPT →
      (c.readWindow .ERXDATA n).2.pointer .ERXRDPT =
        BitVec.ofNat 16 (rxRegion.next^[n] (w.chip.pointer .ERXRDPT).toNat) := by
    intro c hc hp
    simp only [Chip.readWindow, Chip.readPointerOf, Chip.advance, hnext c hc, hp]
    rw [Chip.setPointer_pointer, if_pos rfl]
  have hl := hpointer _ h.left.erxst rfl
  have hr := hpointer _ h.right.erxst h.erxrdpt
  refine ⟨?_, ?_⟩
  · simp only [Chip.readWindow, Chip.readPointerOf, hnext _ h.left.erxst, hnext _ h.right.erxst,
      h.erxrdpt]
    refine Region.readFrom_congr_region hhas fun a ha => (h.sram a ?_).symm
    obtain ⟨h1, -⟩ := rxRegion_has_iff.1 ha
    rw [gpRegion_has_iff]
    omega
  · refine ⟨⟨⟨h.left.awake.por, h.left.awake.resetPending⟩, h.left.erxst, fun _ => ?_⟩,
      ⟨⟨h.right.awake.por, h.right.awake.resetPending⟩, h.right.erxst, fun _ => ?_⟩, h.sram,
      hr.trans hl.symm, h.erxtail, h.pktcnt, h.next, h.stored⟩
    · change rxRegion.Has ((w.chip.readWindow .ERXDATA n).2.pointer .ERXRDPT).toNat
      rw [hl]
      exact hadv
    · change rxRegion.Has ((w'.chip.readWindow .ERXDATA n).2.pointer .ERXRDPT).toNat
      rw [hr]
      exact hadv

lemma SameReceiver.writeTail (h : SameReceiver φ w w') (x : Word) :
    SameReceiver φ { w with chip := w.chip.setSfr ERXTAIL x }
      { w' with chip := w'.chip.setSfr ERXTAIL x } := by
  have hst : ∀ c : Chip, c.sfr ERXST = 0x2000#16 → (c.setSfr ERXTAIL x).sfr ERXST = 0x2000#16 := by
    intro c hc
    rw [Chip.setSfr_sfr, if_neg (by decide), hc]
  refine ⟨⟨⟨h.left.awake.por, h.left.awake.resetPending⟩, hst _ h.left.erxst, h.left.has⟩,
    ⟨⟨h.right.awake.por, h.right.awake.resetPending⟩, hst _ h.right.erxst, h.right.has⟩, h.sram,
    h.erxrdpt, ?_, h.pktcnt, h.next, h.stored⟩
  simp

lemma SameReceiver.decrement (h : SameReceiver φ w w') :
    SameReceiver φ { w with chip := w.chip.single SETPKTDEC }
      { w' with chip := w'.chip.single SETPKTDEC } := by
  rw [Chip.single_setpktdec, Chip.single_setpktdec, h.pktcnt]
  split
  · exact h
  · exact ⟨⟨⟨h.left.awake.por, h.left.awake.resetPending⟩, h.left.erxst, h.left.has⟩,
      ⟨⟨h.right.awake.por, h.right.awake.resetPending⟩, h.right.erxst, h.right.has⟩, h.sram,
      h.erxrdpt, h.erxtail, rfl, h.next, h.stored⟩

/-- The driver points to the slot. -/
lemma SameReceiver.seek (h : SameReceiver φ w w') {p : Word} (hp : rxRegion.Has p.toNat) :
    SameReceiver True { w with chip := w.chip.setPointer .ERXRDPT p }
      { w' with chip := w'.chip.setPointer .ERXRDPT p } := by
  refine ⟨⟨⟨h.left.awake.por, h.left.awake.resetPending⟩, h.left.erxst, fun _ => ?_⟩,
    ⟨⟨h.right.awake.por, h.right.awake.resetPending⟩, h.right.erxst, fun _ => ?_⟩, h.sram, ?_,
    h.erxtail, h.pktcnt, h.next, h.stored⟩
  · simpa using hp
  · simpa using hp
  · simp

/-- The operations inside a slot cannot tell such states apart. -/
lemma consistent_sameReceiver : Consistent machine IsSlotOp (SameReceiver True) := by
  intro u u' o r r' x x' ho h hs hs'
  obtain ⟨rfl, rfl⟩ := machine_step_iff.1 hs
  obtain ⟨rfl, rfl⟩ := machine_step_iff.1 hs'
  cases o with
  | loc l =>
    cases l with
    | getNextReceiveFramePointer => exact ⟨h.next.symm, h⟩
    | setNextReceiveFramePointer p => exact ⟨rfl, { h with next := rfl }⟩
    | store param bytes => exact ⟨rfl, { h with stored := congrArg (· ++ _) h.stored }⟩
    | storeReceivedBytes n => exact ⟨rfl, { h with stored := congrArg (· ++ _) h.stored }⟩
    | _ => exact absurd ho id
  | spi i =>
    rw [World.perform_spi h.left.awake.por, World.perform_spi h.right.awake.por]
    cases i with
    | readWindow reg n =>
      obtain rfl : reg = .ERXDATA := ho
      exact h.readWindow n
    | writeSfr a value =>
      obtain rfl : a = ERXTAIL := ho
      have he : ∀ c : Chip, c.writeSfr ERXTAIL value = c.setSfr ERXTAIL value :=
        fun c => c.writeSfr_of_ne (by decide) value
      simp only [Chip.perform, he]
      exact ⟨trivial, h.writeTail value⟩
    | single opcode =>
      obtain rfl : opcode = SETPKTDEC := ho
      exact ⟨rfl, h.decrement⟩
    | _ => exact absurd ho id

/-! ### The call -/

/-- `receiveFrame` once it points to the slot. -/
def readSlot : Driver Unit := do
  let nextFrameAddress ← readFromWindowReg .ERXDATA 2
  loc (.setNextReceiveFramePointer
    (assemble (nextFrameAddress.getD 0 0#8) (nextFrameAddress.getD 1 0#8)))
  let rsv ← readFromWindowReg .ERXDATA 6
  let frameLength := assemble (rsv.getD 0 0#8) (rsv.getD 1 0#8)
  let dataLength := frameLength - 18#16
  loc (.storeReceivedBytes dataLength)
  readFromWindowRegTo .ERXDATA .destinationMac 6
  readFromWindowRegTo .ERXDATA .sourceMac 6
  readFromWindowRegTo .ERXDATA .lengthType 2
  readFromWindowRegTo .ERXDATA .buffer dataLength.toNat
  let nextReceiveFramePointer ← loc .getNextReceiveFramePointer
  writeSfrUnbanked ERXTAIL (nextReceiveFramePointer - 2#16)
  executeSingleByteInstruction SETPKTDEC

lemma receiveFrame_eq : receiveFrame = .op (.loc .getNextReceiveFramePointer) fun p =>
    .op (.spi (.writePointer .ERXRDPT p)) fun _ => readSlot := rfl

lemma readSlot_all : readSlot.All IsSlotOp := by
  have hread : ∀ param n, (readFromWindowRegTo .ERXDATA param n).All IsSlotOp :=
    fun _ _ => ⟨rfl, fun _ => ⟨trivial, fun _ => trivial⟩⟩
  refine ⟨rfl, fun _ => ⟨trivial, fun _ => ⟨rfl, fun _ => ⟨trivial, fun _ => ?_⟩⟩⟩⟩
  change ((readFromWindowRegTo .ERXDATA .destinationMac 6).bind _).All IsSlotOp
  refine Prog.All.bind (hread _ _) fun _ => Prog.All.bind (hread _ _) fun _ => ?_
  refine Prog.All.bind (hread _ _) fun _ => Prog.All.bind (hread _ _) fun _ => ?_
  exact ⟨trivial, fun _ => ⟨rfl, fun _ => ⟨rfl, fun _ => trivial⟩⟩⟩

lemma readSlot_loopFree : readSlot.LoopFree :=
  fun _ _ _ _ _ _ _ _ _ _ _ _ _ _ _ => trivial

/-- Steps that no receive call notices. -/
def Unheard (w w' : World) : Prop := ∀ φ, SameReceiver φ w w → SameReceiver φ w w'

lemma respects_unheard : Respects Unheard (SameReceiver φ) := fun _ _ h hR => hR φ h

variable {t t' : List (Event Op Op.Res)}

/-- Handing over a frame has one outcome. -/
lemma receiveFrame_unique (h : SameReceiver False w w')
    (hp : rxRegion.Has w.nextReceiveFramePointer.toNat)
    (hr : Returns machine Unheard receiveFrame w t () v)
    (hr' : Returns machine Unheard receiveFrame w' t' () v') : SameReceiver False v v' := by
  rw [receiveFrame_eq] at hr hr'
  obtain ⟨u, p, x, s, u', p', x', s', hwu, hu, hs, hs', rfl, rfl, hk, hk'⟩ :=
    respects_unheard.returns_op isView_sameReceiver h hr hr'
  obtain ⟨hp₁, hx⟩ : p = u.nextReceiveFramePointer ∧ x = u := machine_step_iff.1 hs
  obtain ⟨hp₁', hx'⟩ : p' = u'.nextReceiveFramePointer ∧ x' = u' := machine_step_iff.1 hs'
  -- both read the same value of `next_receive_frame_pointer`
  rw [hp₁, hx, hwu.next] at hk
  rw [hp₁', hx', hu.next, hwu.next] at hk'
  obtain ⟨y, _, z, s₁, y', _, z', s₁', -, hy, hs₁, hs₁', rfl, rfl, hk₁, hk₁'⟩ :=
    respects_unheard.returns_op isView_sameReceiver hu hk hk'
  obtain ⟨-, rfl⟩ := machine_step_iff.1 hs₁
  obtain ⟨-, rfl⟩ := machine_step_iff.1 hs₁'
  rw [World.perform_spi hy.left.awake.por] at hk₁
  rw [World.perform_spi hy.right.awake.por] at hk₁'
  have hv := (consistent_sameReceiver.returns_unique isView_sameReceiver respects_unheard
    readSlot_all readSlot_loopFree (hy.seek hp) hk₁ hk₁').2.2
  exact hv.mono False.elim

/-- A receive call has one outcome. -/
lemma receiveCall_unique {a a' : ReceiveResult} (h : SameReceiver False w w')
    (hp : rxRegion.Has w.nextReceiveFramePointer.toNat)
    (hr : Returns machine Unheard receiveCall w t a v)
    (hr' : Returns machine Unheard receiveCall w' t' a' v') :
    a = a' ∧ SameReceiver False v v' := by
  rw [receiveCall_eq] at hr hr'
  obtain ⟨u, estat, x, s, u', estat', x', s', hwu, hu, hs, hs', rfl, rfl, hk, hk'⟩ :=
    respects_unheard.returns_op isView_sameReceiver h hr hr'
  obtain rfl := step_readSfr hs
  obtain rfl := step_readSfr hs'
  have he : estat &&& PKTCNT = x.chip.pktcnt.setWidth 16 := by
    rw [(machine_step_iff.1 hs).1, World.perform_spi hu.left.awake.por]
    exact shown_and_pktcnt _
  have he' : estat' &&& PKTCNT = x.chip.pktcnt.setWidth 16 := by
    rw [(machine_step_iff.1 hs').1, World.perform_spi hu.right.awake.por, ← hu.pktcnt]
    exact shown_and_pktcnt _
  rw [he] at hk
  rw [he'] at hk'
  -- both calls go the same way
  by_cases hz : x.chip.pktcnt.setWidth 16 = 0#16
  · rw [if_pos hz] at hk hk'
    obtain ⟨-, rfl, hd⟩ := returns_pure_iff.1 hk
    obtain ⟨-, rfl, hd'⟩ := returns_pure_iff.1 hk'
    exact ⟨rfl, respects_unheard.drift₂ isView_sameReceiver hu hd hd'⟩
  · rw [if_neg hz] at hk hk'
    obtain ⟨_, y, s₁, s₂, hf, hend, rfl⟩ := returns_bind_iff.1 hk
    obtain ⟨_, y', s₁', s₂', hf', hend', rfl⟩ := returns_bind_iff.1 hk'
    obtain ⟨-, rfl, hd⟩ := returns_pure_iff.1 hend
    obtain ⟨-, rfl, hd'⟩ := returns_pure_iff.1 hend'
    have hy := receiveFrame_unique hu (hwu.next.symm ▸ hp) hf hf'
    exact ⟨rfl, respects_unheard.drift₂ isView_sameReceiver hy hd hd'⟩

end Enc624j600
