/-
# A receive call

From a state in which the frames not yet released lie in the receive buffer, a call of
`enc624j600_receive` finds no frame, or it hands over the oldest one and releases its slot.
The chip may store further frames between any two transactions of the call.
-/
import Enc624j600.Receive.Ring

namespace Enc624j600

open Cyclic Interaction

/-! ### The fields of a slot -/

section Fields

variable {next : ℕ} {status : List Byte} {f : Frame}

lemma slotBytes_next : ((slotBytes next status f).drop 0).take 2 = le16 next := rfl

lemma slotBytes_rsv (h : status.length = 4) :
    ((slotBytes next status f).drop 2).take 6 = le16 f.length ++ status := by
  simp [slotBytes, le16, h]

/-- The bytes of the frame itself. -/
lemma slotBytes_frame (h : status.length = 4) (j n : ℕ) :
    ((slotBytes next status f).drop (8 + j)).take n = (f.bytes.drop j).take n := by
  have hl : (le16 next ++ (le16 f.length ++ status)).length = 8 := by simp [le16, h]
  rw [slotBytes, ← List.drop_drop, List.drop_left' hl]

lemma bytes_destination : (f.bytes.drop 0).take 6 = f.destination := by
  simp [Frame.bytes, f.length_destination]

lemma bytes_source : (f.bytes.drop 6).take 6 = f.source := by
  simp [Frame.bytes, f.length_destination, f.length_source]

lemma bytes_lengthType : (f.bytes.drop 12).take 2 = f.lengthType := by
  have hl : (f.destination ++ f.source).length = 12 := by
    simp [f.length_destination, f.length_source]
  rw [Frame.bytes, List.append_assoc, List.append_assoc, List.drop_left' hl,
    List.take_left' f.length_lengthType]

lemma bytes_payload : (f.bytes.drop 14).take f.payload.length = f.payload := by
  have hl : (f.destination ++ f.source ++ f.lengthType).length = 14 := by
    simp [f.length_destination, f.length_source, f.length_lengthType]
  rw [Frame.bytes, List.append_assoc, List.drop_left' hl, List.take_left' rfl]

lemma assemble_le16 (v : ℕ) (rest : List Byte) :
    assemble ((le16 v ++ rest).getD 0 0#8) ((le16 v ++ rest).getD 1 0#8) = BitVec.ofNat 16 v :=
  assemble_lsb_msb _

end Fields

/-! ### The states of a receive call -/

/-- What the driver stores for its caller when it hands over a frame. -/
def delivery (f : Frame) : List Stored :=
  [.receivedBytes (BitVec.ofNat 16 f.payload.length), .bytes .destinationMac f.destination,
    .bytes .sourceMac f.source, .bytes .lengthType f.lengthType, .bytes .buffer f.payload]

variable {E : Surroundings} {T : ℕ → ℕ → Chip → Prop} {Good : ℕ → Prop}
  {k d s n : ℕ} {f : Frame} {next tail : Word} {m : List Stored} {w : World}

/-- The packet counter is in step with the calls: `k` frames were handed over. -/
structure Tally (k : ℕ) (w : World) : Prop where
  awake : w.chip.Awake
  counted : Counted w.chip
  delivered : w.chip.delivered = k

/-- The state between two receive calls: `k` frames were handed over, the following one lies
at `s`. -/
structure Ready (T : ℕ → ℕ → Chip → Prop) (k s : ℕ) (m : List Stored) (w : World) : Prop where
  awake : w.chip.Awake
  ring : Ring k s w.chip
  protected_ : T k s w.chip
  counted : Counted w.chip
  delivered : w.chip.delivered = k
  next : w.nextReceiveFramePointer.toNat = s
  stored : w.stored = m

/-- The driver is about to read the slot of the `k`-th frame `f` at `s`.  The chip released `d`
frames; these are `k` as long as no frame was skipped. -/
structure AtSlot (T : ℕ → ℕ → Chip → Prop) (k d s : ℕ) (f : Frame) (m : List Stored)
    (w : World) : Prop where
  awake : w.chip.Awake
  ring : Ring k s w.chip
  protected_ : T k s w.chip
  counted : Counted w.chip
  delivered : w.chip.delivered = d
  le : d ≤ k
  frame : w.chip.deposited[k]? = some f
  next : w.nextReceiveFramePointer.toNat = s
  stored : w.stored = m

/-- The state while the `k`-th frame `f` is read: `n` bytes of its slot were read. -/
structure Reading (T : ℕ → ℕ → Chip → Prop) (k d s : ℕ) (f : Frame) (n : ℕ) (next : Word)
    (m : List Stored) (w : World) : Prop where
  awake : w.chip.Awake
  ring : Ring k s w.chip
  protected_ : T k s w.chip
  counted : Counted w.chip
  delivered : w.chip.delivered = d
  le : d ≤ k
  frame : w.chip.deposited[k]? = some f
  pointer : (w.chip.pointer .ERXRDPT).toNat = rxRegion.loc s n
  next : w.nextReceiveFramePointer = next
  stored : w.stored = m

/-- The state after `ERXTAIL` was written; `d` frames are released on the chip. -/
structure Released (T : ℕ → ℕ → Chip → Prop) (Good : ℕ → Prop) (k s : ℕ) (f : Frame)
    (m : List Stored) (d : ℕ) (w : World) : Prop where
  awake : w.chip.Awake
  ring : Good (rxRegion.loc s f.slotSize) →
    Ring (k + 1) (rxRegion.loc s f.slotSize) w.chip ∧
      T (k + 1) (rxRegion.loc s f.slotSize) w.chip
  counted : Counted w.chip
  delivered : w.chip.delivered = d
  frame : w.chip.deposited[k]? = some f
  length_le : f.length ≤ 0x4000
  erxtail : w.chip.sfr ERXTAIL = BitVec.ofNat 16 (rxRegion.loc s f.slotSize) - 2#16
  next : w.nextReceiveFramePointer = BitVec.ofNat 16 (rxRegion.loc s f.slotSize)
  stored : w.stored = m ++ delivery f

/-- What a receive call relies on: the frames not handed over stay in the receive buffer, and what
the driver and the chip keep for the reception is left alone. -/
structure RxEnv (T : ℕ → ℕ → Chip → Prop) (w w' : World) : Prop where
  next : w'.nextReceiveFramePointer = w.nextReceiveFramePointer
  stored : w'.stored = w.stored
  awake : w.chip.Awake → w'.chip.Awake
  ring : ∀ {k s}, w.chip.Awake → Ring k s w.chip → T k s w.chip → Ring k s w'.chip ∧ T k s w'.chip
  counted : w.chip.Awake → Counted w.chip → Counted w'.chip
  delivered : w.chip.Awake → w'.chip.delivered = w.chip.delivered
  deposited : w.chip.Awake → w.chip.deposited <+: w'.chip.deposited
  erxtail : w.chip.Awake → w'.chip.sfr ERXTAIL = w.chip.sfr ERXTAIL
  erxrdpt : w.chip.Awake → w'.chip.pointer .ERXRDPT = w.chip.pointer .ERXRDPT

section Stable

variable {w' : World}

lemma rxEnv_of_rely (hT : Protection E T Good) (hR : E.rely w w') : RxEnv T w w' := by
  obtain ⟨hd, hn, hs⟩ := rely_driver hR
  obtain ⟨e, hE, he, rfl⟩ := hR
  refine ⟨hn, hs, fun ha => ?_, fun ha hr ht => hT.apply ha hr ht hE he,
    fun ha hc => hc.apply ha he, fun ha => ?_, fun ha => deposited_le_apply ha he, fun ha => ?_,
    fun ha => ?_⟩
  · exact (ChipEvent.undisturbed ha he).awake ha
  · exact (ChipEvent.undisturbed ha he).delivered
  · exact (ChipEvent.undisturbed ha he).sfr _ (by decide)
  · rw [(ChipEvent.undisturbed ha he).pointer]

lemma RxEnv.getElem? (hR : RxEnv T w w') (ha : w.chip.Awake)
    (hf : w.chip.deposited[k]? = some f) : w'.chip.deposited[k]? = some f := by
  obtain ⟨fs, hfs⟩ := hR.deposited ha
  obtain ⟨hk, -⟩ := List.getElem?_eq_some_iff.1 hf
  rw [← hfs, List.getElem?_append_left hk, hf]

lemma Ready.stable : Stable (RxEnv T) (Ready T k s m) := by
  intro w w' hw hR
  obtain ⟨hr, ht⟩ := hR.ring hw.awake hw.ring hw.protected_
  exact ⟨hR.awake hw.awake, hr, ht, hR.counted hw.awake hw.counted,
    (hR.delivered hw.awake).trans hw.delivered, by rw [hR.next, hw.next],
    hR.stored.trans hw.stored⟩

lemma Reading.stable : Stable (RxEnv T) (Reading T k d s f n next m) := by
  intro w w' hw hR
  obtain ⟨hr, ht⟩ := hR.ring hw.awake hw.ring hw.protected_
  exact ⟨hR.awake hw.awake, hr, ht, hR.counted hw.awake hw.counted,
    (hR.delivered hw.awake).trans hw.delivered, hw.le, hR.getElem? hw.awake hw.frame,
    by rw [hR.erxrdpt hw.awake, hw.pointer], hR.next.trans hw.next, hR.stored.trans hw.stored⟩

lemma Released.stable : Stable (RxEnv T) (Released T Good k s f m d) := by
  intro w w' hw hR
  refine ⟨hR.awake hw.awake, fun hg => ?_, hR.counted hw.awake hw.counted,
    (hR.delivered hw.awake).trans hw.delivered, hR.getElem? hw.awake hw.frame, hw.length_le,
    (hR.erxtail hw.awake).trans hw.erxtail, hR.next.trans hw.next, hR.stored.trans hw.stored⟩
  obtain ⟨hr, ht⟩ := hw.ring hg
  exact hR.ring hw.awake hr ht

lemma AtSlot.stable : Stable (RxEnv T) (AtSlot T k d s f m) := by
  intro w w' hw hR
  obtain ⟨hr, ht⟩ := hR.ring hw.awake hw.ring hw.protected_
  exact ⟨hR.awake hw.awake, hr, ht, hR.counted hw.awake hw.counted,
    (hR.delivered hw.awake).trans hw.delivered, hw.le, hR.getElem? hw.awake hw.frame,
    by rw [hR.next, hw.next], hR.stored.trans hw.stored⟩

lemma stable_ready (hT : Protection E T Good) : Stable E.rely (Ready T k s m) :=
  fun w w' hw hR => Ready.stable w w' hw (rxEnv_of_rely hT hR)

lemma stable_ready_frame (hT : Protection E T Good) :
    Stable E.rely fun w => Ready T k s m w ∧ w.chip.deposited[k]? = some f :=
  fun w w' hw hR => ⟨stable_ready hT w w' hw.1 hR,
    (rxEnv_of_rely hT hR).getElem? hw.1.awake hw.2⟩

lemma stable_tally : Stable E.rely (Tally k) := by
  rintro w _ hw ⟨e, -, he, rfl⟩
  have hu := ChipEvent.undisturbed hw.awake he
  exact ⟨hu.awake hw.awake, hw.counted.apply hw.awake he, hu.delivered.trans hw.delivered⟩

lemma Tally.le (h : Tally k w) : k ≤ w.chip.deposited.length := by
  have hc := h.counted
  rw [Counted, h.delivered] at hc
  omega

lemma Tally.none_left_iff (h : Tally k w) :
    w.chip.pktcnt = 0#8 ↔ w.chip.deposited.length = k := by
  have hc := h.counted
  rw [Counted, h.delivered] at hc
  refine ⟨fun hz => ?_, fun hd => BitVec.eq_of_toNat_eq ?_⟩
  · rw [hz, BitVec.toNat_ofNat] at hc
    omega
  · rw [BitVec.toNat_ofNat]
    omega

lemma Tally.some_left_iff (h : Tally k w) :
    w.chip.pktcnt ≠ 0#8 ↔ k < w.chip.deposited.length := by
  have hle := h.le
  rw [Ne, h.none_left_iff]
  omega

/-- The packet counter can count one more frame. -/
lemma Tally.not_full (h : Tally k w) (hlt : w.chip.deposited.length < k + 255) :
    w.chip.pktcnt ≠ 255#8 := by
  intro h255
  have hc := h.counted
  rw [Counted, h.delivered, h255, BitVec.toNat_ofNat] at hc
  omega

/-- A frame that the surroundings let in is stored. -/
lemma Tally.deposit (h : Tally k w) (hrx : w.chip.Receiving)
    (hlt : w.chip.deposited.length < k + 255) {b : List Byte} (hb : b.length = 4)
    (hE : E w.chip (.deposit f b)) :
    E.rely w { w with chip := (ChipEvent.deposit f b).apply w.chip } ∧
      ((ChipEvent.deposit f b).apply w.chip).Receiving := by
  have hen : (ChipEvent.deposit f b).Enabled w.chip := ⟨hrx, h.not_full hlt, hb⟩
  exact ⟨⟨_, hE, hen, rfl⟩, (ChipEvent.receiving_iff h.awake hen).2 hrx⟩

/-- The decrement of a packet counter that is not zero. -/
lemma Tally.decrement (h : Tally k w) (hlt : k < w.chip.deposited.length) :
    Tally (k + 1) { w with chip := (w.chip.perform (.single SETPKTDEC)).2 } := by
  have hp : w.chip.pktcnt ≠ 0#8 := h.some_left_iff.2 hlt
  have hcount := h.counted
  rw [Counted, h.delivered] at hcount
  have hone : (1#8 : BitVec 8) ≤ w.chip.pktcnt := by
    rw [BitVec.le_def]
    simp only [BitVec.toNat_ofNat]
    omega
  simp only [Chip.perform]
  rw [Chip.single_setpktdec, if_neg hp]
  refine ⟨⟨h.awake.por, h.awake.resetPending⟩, ?_, congrArg (· + 1) h.delivered⟩
  rw [Counted]
  simp only [BitVec.toNat_sub_of_le hone, BitVec.toNat_ofNat, h.delivered]
  omega

lemma Ready.tally (h : Ready T k s m w) : Tally k w := ⟨h.awake, h.counted, h.delivered⟩

lemma AtSlot.tally (h : AtSlot T k d s f m w) : Tally d w := ⟨h.awake, h.counted, h.delivered⟩

lemma AtSlot.lt (h : AtSlot T k d s f m w) : d < w.chip.deposited.length :=
  h.le.trans_lt (List.getElem?_eq_some_iff.1 h.frame).1

lemma Released.tally (h : Released T Good k s f m d w) : Tally d w :=
  ⟨h.awake, h.counted, h.delivered⟩

lemma Ready.atSlot (h : Ready T k s m w) (hf : w.chip.deposited[k]? = some f) :
    AtSlot T k k s f m w :=
  ⟨h.awake, h.ring, h.protected_, h.counted, h.delivered, le_rfl, hf, h.next, h.stored⟩

/-- A frame that is counted can be read. -/
lemma Ready.exists_frame (h : Ready T k s m w) (hp : w.chip.pktcnt ≠ 0#8) :
    ∃ f, w.chip.deposited[k]? = some f := by
  exact ⟨_, List.getElem?_eq_getElem (h.tally.some_left_iff.1 hp)⟩

end Stable

/-! ### The operations of a receive call -/

/-- Moving a buffer pointer does not touch the receive buffer. -/
lemma sameRing_setPointer (c : Chip) (p : BufferPointer) (v : Word) :
    SameRing c (c.setPointer p v) := ⟨rfl, rfl, rfl, rfl⟩

/-- The driver points to the slot. -/
lemma AtSlot.seek (hT : Protection E T Good) (h : AtSlot T k d s f m w)
    (hn : w.nextReceiveFramePointer = next) : Reading T k d s f 0 next m
      { w with chip := (w.chip.perform (.writePointer .ERXRDPT next)).2 } := by
  refine ⟨⟨h.awake.por, h.awake.resetPending⟩, h.ring.congr (sameRing_setPointer ..) rfl,
    hT.congr h.protected_ rfl rfl (Or.inl rfl), h.counted, h.delivered, h.le, h.frame, ?_, hn,
    h.stored⟩
  have hv : next.toNat = s := hn ▸ h.next
  simp [Chip.perform, hv, Region.loc_zero h.ring.has]

namespace Reading

/-- Reading moves on in the slot. -/
lemma step (hT : Protection E T Good) (h : Reading T k d s f n next m w) (l : ℕ) :
    Reading T k d s f (n + l) next m
      { w with chip := (w.chip.perform (.readWindow .ERXDATA l)).2 } := by
  refine ⟨⟨h.awake.por, h.awake.resetPending⟩, h.ring.congr (sameRing_setPointer ..) rfl,
    hT.congr h.protected_ rfl rfl (Or.inl rfl), h.counted, h.delivered, h.le, h.frame, ?_, h.next,
    h.stored⟩
  have hnext : w.chip.windowNext .ERXDATA = rxRegion.next := rxNext_eq h.ring.erxst
  have hp : w.chip.advance .ERXDATA (w.chip.pointer .ERXRDPT) l =
      BitVec.ofNat 16 (rxRegion.loc s (n + l)) := by
    rw [Chip.advance, hnext, h.pointer, Region.iterate_next Region.has_loc, Region.loc_loc]
  have hv := toNat_ofNat_of_has (Region.has_loc (r := rxRegion) (a := s) (k := n + l))
  simpa [Chip.perform, Chip.readWindow, Chip.readPointerOf, hp] using hv

/-- What is read from the slot. -/
lemma answer (h : Reading T k d s f n next m w) {l : ℕ} (hl : n + l ≤ 8 + f.length) :
    ∃ status, status.length = 4 ∧ (w.chip.perform (.readWindow .ERXDATA l)).1 =
      ((slotBytes (rxRegion.loc s f.slotSize) status f).drop n).take l := by
  obtain ⟨status, hst, hs⟩ := h.ring.readFrom_slot h.frame
  refine ⟨status, hst, ?_⟩
  have hnext : w.chip.windowNext .ERXDATA = rxRegion.next := rxNext_eq h.ring.erxst
  have hread := Region.readFrom_loc h.ring.has hs hl
  have hp : (w.chip.pointer (Chip.readPointerOf .ERXDATA)).toNat = rxRegion.loc s n := h.pointer
  rw [Chip.perform, Chip.readWindow, hnext, hp]
  exact hread

lemma store {param : OutParam} {bytes : List Byte} (h : Reading T k d s f n next m w) :
    Reading T k d s f n next (m ++ [.bytes param bytes])
      (w.performLocal (.store param bytes)).2 :=
  ⟨h.awake, h.ring, h.protected_, h.counted, h.delivered, h.le, h.frame, h.pointer, h.next,
    by rw [← h.stored]; rfl⟩

lemma setNext {next' v : Word} (h : Reading T k d s f n next m w) (hv : v = next') :
    Reading T k d s f n next' m (w.performLocal (.setNextReceiveFramePointer v)).2 :=
  ⟨h.awake, h.ring, h.protected_, h.counted, h.delivered, h.le, h.frame, h.pointer, hv, h.stored⟩

lemma storeReceivedBytes {v v' : Word} (h : Reading T k d s f n next m w) (hv : v = v') :
    Reading T k d s f n next (m ++ [.receivedBytes v'])
      (w.performLocal (.storeReceivedBytes v)).2 :=
  ⟨h.awake, h.ring, h.protected_, h.counted, h.delivered, h.le, h.frame, h.pointer, h.next,
    by rw [← h.stored, ← hv]; rfl⟩

/-- The size of the slot bounds the length of the frame. -/
lemma length_le (h : Reading T k d s f n next m w) : f.length ≤ 0x4000 := by
  have hfit := h.ring.fits
  have hle := f.le_slotSize
  rw [Chip.occupied, List.drop_eq_getElem?_toList_append, h.frame] at hfit
  simp only [Option.toList_some, List.singleton_append, SlotFormat.total_cons, slotFormat_size,
    rxRegion_size] at hfit
  omega

/-- The slot is given up. -/
lemma release (hT : Protection E T Good)
    (h : Reading T k d s f n (BitVec.ofNat 16 (rxRegion.loc s f.slotSize)) (m ++ delivery f) w) :
    Released T Good k s f m d
      { w with chip := (w.chip.perform (.writeSfr ERXTAIL
        (BitVec.ofNat 16 (rxRegion.loc s f.slotSize) - 2#16))).2 } := by
  simp only [Chip.perform]
  rw [Chip.writeSfr_of_ne _ (by decide)]
  refine ⟨⟨h.awake.por, h.awake.resetPending⟩, ?_, h.counted, h.delivered, h.frame,
    h.length_le, ?_, h.next, h.stored⟩
  · intro hg
    refine ⟨(h.ring.tail h.frame).congr ⟨rfl, rfl, rfl, ?_⟩ ?_,
      hT.release h.ring h.protected_ h.frame hg⟩
    · simp +decide
    · simp +decide
  · simp

end Reading

/-- The frame is released on the chip. -/
lemma Released.decrement (hT : Protection E T Good) (hd : d ≤ k)
    (h : Released T Good k s f m d w) : Released T Good k s f m (d + 1)
      { w with chip := (w.chip.perform (.single SETPKTDEC)).2 } := by
  obtain ⟨hk, -⟩ := List.getElem?_eq_some_iff.1 h.frame
  have hlt : d < w.chip.deposited.length := hd.trans_lt hk
  obtain ⟨hawake, hcounted, hdelivered⟩ := h.tally.decrement hlt
  have hp : w.chip.pktcnt ≠ 0#8 := h.tally.some_left_iff.2 hlt
  simp only [Chip.perform] at hawake hcounted hdelivered ⊢
  rw [Chip.single_setpktdec, if_neg hp] at hawake hcounted hdelivered ⊢
  refine ⟨hawake, ?_, hcounted, hdelivered, h.frame, h.length_le, h.erxtail, h.next, h.stored⟩
  intro hg
  obtain ⟨hr, ht⟩ := h.ring hg
  refine ⟨⟨hr.erxst, hr.has, hr.even, hr.le, hr.layout, hr.fits⟩,
    hT.congr ht rfl rfl (Or.inr ?_)⟩
  exact Nat.succ_le_succ (h.delivered.trans_le hd)

lemma Released.ready (h : Released T Good k s f m (k + 1) w)
    (hg : Good (rxRegion.loc s f.slotSize)) :
    Ready T (k + 1) (rxRegion.loc s f.slotSize) (m ++ delivery f) w := by
  obtain ⟨hr, ht⟩ := h.ring hg
  exact ⟨h.awake, hr, ht, h.counted, h.delivered,
    by rw [h.next, toNat_ofNat_of_has Region.has_loc], h.stored⟩

/-! ### The call -/

/-- The values that the driver writes to `ERXTAIL`: the slot that it gives up is the one of
the `k`-th frame, at `s`. -/
def TailWrite (k s : ℕ) : Guarantee Op Op.Res World := fun w o _ _ =>
  ∀ v, o = .spi (.writeSfr ERXTAIL v) → ∃ f, w.chip.deposited[k]? = some f ∧
    v = BitVec.ofNat 16 (rxRegion.loc s f.slotSize) - 2#16

/-- A transaction that reads a piece of the slot. -/
private lemma triple_read {α : Type} {Q : α → World → Prop} {l : ℕ} {K : List Byte → Driver α}
    (hT : Protection E T Good) (hl : n + l ≤ 8 + f.length)
    (hk : ∀ status : List Byte, status.length = 4 →
      Triple machine (RxEnv T) (TailWrite k s) (Reading T k d s f (n + l) next m)
        (K (((slotBytes (rxRegion.loc s f.slotSize) status f).drop n).take l)) Q) :
    Triple machine (RxEnv T) (TailWrite k s) (Reading T k d s f n next m)
      (.op (.spi (.readWindow .ERXDATA l)) K) Q := by
  refine triple_spi (T := fun r w => (∃ status : List Byte, status.length = 4 ∧
    r = ((slotBytes (rxRegion.loc s f.slotSize) status f).drop n).take l) ∧
      Reading T k d s f (n + l) next m w) Reading.stable (fun w hw => hw.awake.por) ?_ ?_
  · intro w hw
    refine ⟨?_, hw.answer hl, hw.step hT l⟩
    intro v hv
    cases hv
  · intro r
    refine Triple.of_and ?_
    rintro ⟨status, hst, rfl⟩
    exact hk status hst

/-- A transaction that reads a field of the frame, and the store of the field. -/
private lemma triple_readTo {α : Type} {Q : α → World → Prop} {l : ℕ} {param : OutParam}
    {field : List Byte} {K : Unit → Driver α} (hT : Protection E T Good)
    (hl : n + l ≤ f.length) (hfield : (f.bytes.drop n).take l = field)
    (hk : Triple machine (RxEnv T) (TailWrite k s)
      (Reading T k d s f (8 + (n + l)) next (m ++ [.bytes param field])) (K ()) Q) :
    Triple machine (RxEnv T) (TailWrite k s) (Reading T k d s f (8 + n) next m)
      ((readFromWindowRegTo .ERXDATA param l).bind K) Q := by
  have hprog : (readFromWindowRegTo .ERXDATA param l).bind K =
      .op (.spi (.readWindow .ERXDATA l)) fun bytes => .op (.loc (.store param bytes)) K := rfl
  rw [hprog]
  refine triple_read hT (by omega) fun status hst => ?_
  rw [slotBytes_frame hst, hfield, Nat.add_assoc]
  refine triple_loc (T := fun _ => Reading T k d s f (8 + (n + l)) next
    (m ++ [.bytes param field])) Reading.stable ?_ fun _ => hk
  intro w hw
  refine ⟨?_, hw.store⟩
  intro v hv
  cases hv

/-- Handing over a frame. -/
lemma triple_receiveFrame (hT : Protection E T Good) :
    Triple machine (RxEnv T) (TailWrite k s) (AtSlot T k d s f m) receiveFrame
      fun _ w => Released T Good k s f m (d + 1) w := by
  have hlen := f.length_eq
  -- the value of `next_receive_frame_pointer` on entry
  refine triple_loc (T := fun p w => AtSlot T k d s f m w ∧ w.nextReceiveFramePointer = p)
    AtSlot.stable ?_ ?_
  · intro w hw
    refine ⟨?_, hw, rfl⟩
    intro v hv
    cases hv
  intro p
  have hstp : Stable (RxEnv T) fun w => AtSlot T k d s f m w ∧ w.nextReceiveFramePointer = p := by
    intro w w' hw hR
    exact ⟨AtSlot.stable w w' hw.1 hR, hR.next.trans hw.2⟩
  refine triple_spi (T := fun _ => Reading T k d s f 0 p m) hstp
    (fun w hw => hw.1.awake.por) ?_ ?_
  · rintro w ⟨hw, hp⟩
    refine ⟨?_, hw.seek hT hp⟩
    intro v hv
    cases hv
  intro _
  refine triple_read hT (by omega) fun status _ => ?_
  rw [slotBytes_next]
  -- `next_receive_frame_pointer` takes the address of the following slot
  refine triple_loc (T := fun _ => Reading T k d s f 2 (BitVec.ofNat 16 (rxRegion.loc s f.slotSize))
    m) Reading.stable ?_ fun _ => ?_
  · intro w hw
    refine ⟨?_, hw.setNext (assemble_lsb_msb _)⟩
    intro v hv
    cases hv
  refine Triple.of_fact (fun w hw => And.intro hw.length_le hw.le) fun ⟨hle, hd⟩ => ?_
  refine triple_read (l := 6) hT (by omega) fun status hst => ?_
  rw [slotBytes_rsv hst]
  have hdata : assemble ((le16 f.length ++ status).getD 0 0#8)
      ((le16 f.length ++ status).getD 1 0#8) - 18#16 = BitVec.ofNat 16 f.payload.length := by
    rw [assemble_le16, hlen]
    apply BitVec.eq_of_toNat_eq
    simp only [BitVec.toNat_sub, BitVec.toNat_ofNat]
    omega
  refine triple_loc (T := fun _ => Reading T k d s f (8 + 0)
    (BitVec.ofNat 16 (rxRegion.loc s f.slotSize)) (m ++ [.receivedBytes
      (BitVec.ofNat 16 f.payload.length)])) Reading.stable ?_ fun _ => ?_
  · intro w hw
    refine ⟨?_, hw.storeReceivedBytes hdata⟩
    intro v hv
    cases hv
  refine triple_readTo hT (by omega) bytes_destination ?_
  refine triple_readTo hT (by omega) bytes_source ?_
  refine triple_readTo hT (by omega) bytes_lengthType ?_
  have hn : (BitVec.ofNat 16 f.payload.length).toNat = f.payload.length := by
    rw [BitVec.toNat_ofNat, Nat.mod_eq_of_lt (by omega)]
  rw [hdata, hn]
  refine triple_readTo hT (by omega) bytes_payload ?_
  -- `ERXTAIL` and the packet counter
  refine triple_loc (T := fun p w => p = BitVec.ofNat 16 (rxRegion.loc s f.slotSize) ∧
    Reading T k d s f (8 + (14 + f.payload.length)) (BitVec.ofNat 16 (rxRegion.loc s f.slotSize))
      (m ++ delivery f) w) Reading.stable ?_ fun p => Triple.of_and ?_
  · intro w hw
    refine ⟨?_, hw.next, by simpa [delivery, World.performLocal] using hw⟩
    intro v hv
    cases hv
  rintro rfl
  refine triple_spi (T := fun _ => Released T Good k s f m d) Reading.stable
    (fun w hw => hw.awake.por) ?_ fun _ => ?_
  · intro w hw
    refine ⟨?_, hw.release hT⟩
    rintro v ⟨⟩
    exact ⟨f, hw.frame, rfl⟩
  refine triple_spi (T := fun _ => Released T Good k s f m (d + 1)) Released.stable
    (fun w hw => hw.awake.por) ?_ fun _ => ?_
  · intro w hw
    refine ⟨?_, hw.decrement hT hd⟩
    intro v hv
    cases hv
  · exact Triple.pure Released.stable fun w hw => hw

/-- The packet counter in `ESTAT`. -/
abbrev PKTCNT : Word :=
  PKTCNT0 ||| PKTCNT1 ||| PKTCNT2 ||| PKTCNT3 ||| PKTCNT4 ||| PKTCNT5 ||| PKTCNT6 ||| PKTCNT7

lemma shown_and_pktcnt (c : Chip) : c.shown ESTAT &&& PKTCNT = c.pktcnt.setWidth 16 := by
  have hm : PKTCNT = (0xFF#8 : BitVec 8).setWidth 16 := by decide
  have hz : (c.sfr ESTAT &&& 0xFF00#16) &&& PKTCNT = 0#16 := by
    rw [BitVec.and_assoc, show 0xFF00#16 &&& PKTCNT = 0#16 from by decide, BitVec.and_zero]
  rw [Chip.shown, if_pos rfl, or_and_of_disjoint_left hz, hm, ← BitVec.setWidth_and]
  rw [show (0xFF#8 : BitVec 8) = BitVec.allOnes 8 from by decide, BitVec.and_allOnes]

/-- The answer to the question whether a frame is pending. -/
lemma pktcnt_eq_zero_iff (c : Chip) : c.shown ESTAT &&& PKTCNT = 0#16 ↔ c.pktcnt = 0#8 := by
  rw [shown_and_pktcnt]
  constructor
  · intro h
    have ht : c.pktcnt.toNat % 65536 = 0 := by simpa using congrArg BitVec.toNat h
    have hlt := c.pktcnt.isLt
    apply BitVec.eq_of_toNat_eq
    simp only [BitVec.toNat_ofNat]
    omega
  · intro h
    rw [h]
    rfl

/-- The pointers of a call that are not `NULL`. -/
lemma objects_of_not_null {p₁ p₂ p₃ p₄ p₅ : OutPtr}
    (h : ¬ (p₁ = .null ∨ p₂ = .null ∨ p₃ = .null ∨ p₄ = .null ∨ p₅ = .null)) :
    p₁ = .object ∧ p₂ = .object ∧ p₃ = .object ∧ p₄ = .object ∧ p₅ = .object := by
  have hobject : ∀ p : OutPtr, p ≠ .null → p = .object := by
    intro p hp
    cases p with
    | null => exact absurd rfl hp
    | object => rfl
  simp only [not_or] at h
  obtain ⟨h1, h2, h3, h4, h5⟩ := h
  exact ⟨hobject _ h1, hobject _ h2, hobject _ h3, hobject _ h4, hobject _ h5⟩

lemma receiveCall_eq : receiveCall = .op (.spi (.readSfr ESTAT)) fun estat =>
    if estat &&& PKTCNT = 0#16 then .pure .encReceiveNoPendingFrame
    else receiveFrame.bind fun _ => .pure .encReceiveSucceeded := rfl

/-- A call that finds a frame pending hands it over. -/
lemma triple_receiveCall_frame (hT : Protection E T Good) :
    Triple machine (RxEnv T) (TailWrite k s) (AtSlot T k d s f m) receiveCall
      fun a w => a = .encReceiveSucceeded ∧ Released T Good k s f m (d + 1) w := by
  rw [receiveCall_eq]
  refine triple_spi (T := fun estat w => estat &&& PKTCNT ≠ 0#16 ∧ AtSlot T k d s f m w)
    AtSlot.stable (fun w hw => hw.awake.por) ?_ ?_
  · intro w hw
    refine ⟨?_, ?_, hw⟩
    · intro v hv
      cases hv
    · intro h0
      have hz : w.chip.pktcnt = 0#8 := (pktcnt_eq_zero_iff _).1 h0
      exact hw.tally.some_left_iff.2 hw.lt hz
  · intro estat
    refine Triple.of_and fun hp => ?_
    rw [if_neg hp]
    refine Triple.bind (triple_receiveFrame hT) fun _ => ?_
    exact Triple.pure Released.stable fun w hw => ⟨rfl, hw⟩

/-- A call finds no frame, or it hands over the oldest frame that was not handed over before. -/
lemma triple_receiveCall_env (hT : Protection E T Good) :
    Triple machine (RxEnv T) (TailWrite k s) (Ready T k s m) receiveCall fun a w =>
      (a = .encReceiveNoPendingFrame ∧ Ready T k s m w) ∨
        (a = .encReceiveSucceeded ∧ ∃ f, Released T Good k s f m (k + 1) w) := by
  rw [receiveCall_eq]
  refine triple_spi (T := fun estat w => Ready T k s m w ∧ (estat &&& PKTCNT ≠ 0#16 →
    ∃ f, w.chip.deposited[k]? = some f)) Ready.stable (fun w hw => hw.awake.por) ?_ ?_
  · intro w hw
    refine ⟨?_, hw, ?_⟩
    · intro v hv
      cases hv
    · intro hp
      exact hw.exists_frame fun h => hp ((pktcnt_eq_zero_iff _).2 h)
  · intro estat
    -- the answer of the first read decides which way the call goes
    split
    · refine (Triple.pure Ready.stable fun w hw => ?_).pre fun w hw => hw.1
      exact Or.inl ⟨rfl, hw⟩
    · rename_i hp
      refine Triple.pre (Triple.of_exists fun f => ?_) fun w hw =>
        (hw.2 hp).imp fun f hf => hw.1.atSlot hf
      refine Triple.bind (triple_receiveFrame hT) fun _ => ?_
      exact Triple.pure Released.stable fun w hw => Or.inr ⟨rfl, f, hw⟩

lemma triple_receiveCall_slot (hT : Protection E T Good) :
    Triple machine E.rely (TailWrite k s) (AtSlot T k d s f m) receiveCall
      fun a w => a = .encReceiveSucceeded ∧ Released T Good k s f m (d + 1) w :=
  (triple_receiveCall_frame hT).rely fun _ _ => rxEnv_of_rely hT

lemma triple_receiveCall_pending (hT : Protection E T Good) :
    Triple machine E.rely (TailWrite k s)
      (fun w => Ready T k s m w ∧ w.chip.deposited[k]? = some f) receiveCall
      fun a w => a = .encReceiveSucceeded ∧ Released T Good k s f m (k + 1) w :=
  (triple_receiveCall_slot hT).pre fun _ hw => hw.1.atSlot hw.2

/-- **A receive call.** -/
theorem triple_receiveCall (hT : Protection E T Good) :
    Triple machine E.rely (TailWrite k s) (Ready T k s m) receiveCall fun a w =>
      (a = .encReceiveNoPendingFrame ∧ Ready T k s m w) ∨
        (a = .encReceiveSucceeded ∧ ∃ f, Released T Good k s f m (k + 1) w) :=
  (triple_receiveCall_env hT).rely fun _ _ => rxEnv_of_rely hT

end Enc624j600
