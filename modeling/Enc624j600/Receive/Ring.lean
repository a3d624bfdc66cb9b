/-
# The receive buffer as a queue

`Ring k s c` says that the frames from the `k`-th one on lie in the receive buffer of the
chip, one slot after the other, from the address `s` up to the head.  The chip keeps it as
long as it finds room for what it stores; a `Protection` is a condition under which certain
surroundings store bytes only where there is room.
-/
import Enc624j600.Chip.Stability

namespace Enc624j600

open Cyclic Interaction

/-- The number of bytes taken by the frames from the `k`-th one on. -/
def Chip.occupied (c : Chip) (k : ℕ) : ℕ := slotFormat.total (c.deposited.drop k)

lemma two_dvd_occupied (c : Chip) (k : ℕ) : 2 ∣ c.occupied k :=
  SlotFormat.dvd_total Frame.two_dvd_slotSize

/-- The frames from the `k`-th one on fill the receive buffer from `s` up to the head. -/
structure Ring (k s : ℕ) (c : Chip) : Prop where
  erxst : c.sfr ERXST = 0x2000#16
  has : rxRegion.Has s
  even : 2 ∣ s
  le : k ≤ c.deposited.length
  layout : Layout slotFormat rxRegion c.sram s (c.deposited.drop k) c.head
  fits : c.occupied k ≤ rxRegion.size

/-- The packet counter shows the frames stored and not released. -/
def Counted (c : Chip) : Prop := c.pktcnt.toNat + c.delivered = c.deposited.length

variable {c c' : Chip} {k s : ℕ} {f : Frame}

lemma rxNext_eq (h : c.sfr ERXST = 0x2000#16) : c.rxNext = rxRegion.next := by
  funext a
  simp [Chip.rxNext, Region.next, h]

/-- An address of the receive buffer is a word. -/
lemma toNat_ofNat_of_has {a : ℕ} (ha : rxRegion.Has a) : (BitVec.ofNat 16 a).toNat = a := by
  obtain ⟨-, h⟩ := rxRegion_has_iff.1 ha
  rw [BitVec.toNat_ofNat, Nat.mod_eq_of_lt (by omega)]

namespace Ring

lemma has_head (h : Ring k s c) : rxRegion.Has c.head := h.layout.has_head h.has

lemma head_eq (h : Ring k s c) : c.head = rxRegion.loc s (c.occupied k) :=
  h.layout.head_eq h.has

/-- Only the receive buffer itself matters. -/
lemma congr_region (h : Ring k s c) (hm : ∀ a, rxRegion.Has a → c'.sram a = c.sram a)
    (hd : c'.deposited = c.deposited) (hh : c'.sfr ERXHEAD = c.sfr ERXHEAD)
    (he : c'.sfr ERXST = c.sfr ERXST) : Ring k s c' := by
  have hhead : c'.head = c.head := congrArg BitVec.toNat hh
  refine ⟨he.trans h.erxst, h.has, h.even, ?_, ?_, ?_⟩
  · rw [hd]
    exact h.le
  · rw [hd, hhead]
    exact h.layout.congr_region h.has fun a ha => (hm a ha).symm
  · rw [Chip.occupied, hd]
    exact h.fits

lemma congr_memory (h : Ring k s c) (hm : c'.sram = c.sram) (hd : c'.deposited = c.deposited)
    (hh : c'.sfr ERXHEAD = c.sfr ERXHEAD) (he : c'.sfr ERXST = c.sfr ERXST) : Ring k s c' :=
  h.congr_region (fun _ _ => by rw [hm]) hd hh he

lemma congr (h : Ring k s c) (hc : SameRing c c') (he : c'.sfr ERXST = c.sfr ERXST) :
    Ring k s c' :=
  h.congr_memory hc.sram hc.deposited hc.erxhead he

/-- Storing bytes of a frame ahead of the head. -/
lemma store (h : Ring k s c) {bytes : List Byte}
    (hb : c.occupied k + bytes.length ≤ rxRegion.size) :
    Ring k s ((ChipEvent.store bytes).apply c) := by
  refine ⟨h.erxst, h.has, h.even, h.le, ?_, h.fits⟩
  simp only [ChipEvent.apply, rxNext_eq h.erxst]
  exact h.layout.write h.has bytes hb

/-- What the slot at the head reads after a frame was stored there. -/
private lemma slot_writeTo {m : ℕ → Byte} {h : ℕ} {rsv : List Byte} (hh : rxRegion.Has h)
    (hr : rsv.length = 4) (hs : f.slotSize ≤ rxRegion.size) :
    Slot slotFormat rxRegion
      (writeTo rxRegion.next m h (slotBytes (rxRegion.loc h f.slotSize) rsv f)) h f := by
  have hl : (slotBytes (rxRegion.loc h f.slotSize) rsv f).length = 8 + f.length :=
    length_slotBytes hr f
  have hle := f.le_slotSize
  have hread := Region.readFrom_writeTo (m := m) hh
    (slotBytes (rxRegion.loc h f.slotSize) rsv f) (by omega)
  rw [hl] at hread
  have hsplit := Region.readFrom_add hh (8 + f.length) (f.slotSize - (8 + f.length))
    (m := writeTo rxRegion.next m h (slotBytes (rxRegion.loc h f.slotSize) rsv f))
  rw [Nat.add_sub_of_le hle, hread] at hsplit
  exact ⟨rsv, _, hr, hsplit⟩

lemma next_head (h : Ring k s c) (n : ℕ) : c.rxNext^[n] c.head = rxRegion.loc c.head n := by
  rw [rxNext_eq h.erxst, Region.iterate_next h.has_head]

lemma head_deposit (h : Ring k s c) {rsv : List Byte} :
    ((ChipEvent.deposit f rsv).apply c).head = rxRegion.loc c.head f.slotSize := by
  simp only [ChipEvent.apply, h.next_head]
  rw [Chip.head, Chip.setSfr_sfr, if_pos rfl]
  exact toNat_ofNat_of_has Region.has_loc

lemma occupied_deposit (h : Ring k s c) {rsv : List Byte} :
    ((ChipEvent.deposit f rsv).apply c).occupied k = c.occupied k + f.slotSize := by
  simp only [ChipEvent.apply, Chip.occupied]
  rw [List.drop_append_of_le_length h.le, SlotFormat.total_append]
  simp

/-- Storing a frame. -/
lemma deposit (h : Ring k s c) {rsv : List Byte} (hr : rsv.length = 4)
    (hb : c.occupied k + f.slotSize ≤ rxRegion.size) :
    Ring k s ((ChipEvent.deposit f rsv).apply c) := by
  refine ⟨?_, h.has, h.even, ?_, ?_, ?_⟩
  · simpa +decide [ChipEvent.apply] using h.erxst
  · have := h.le
    simp only [ChipEvent.apply, List.length_append, List.length_singleton]
    omega
  · rw [h.head_deposit]
    simp only [ChipEvent.apply, h.next_head]
    rw [rxNext_eq h.erxst, List.drop_append_of_le_length h.le]
    have hw := h.layout.write h.has (slotBytes (rxRegion.loc c.head f.slotSize) rsv f) (by
      rw [length_slotBytes hr]
      have := f.le_slotSize
      unfold Chip.occupied at hb
      omega)
    exact hw.snoc (slot_writeTo h.has_head hr (by omega))
  · rw [h.occupied_deposit]
    exact hb

/-- The first slot holds the first frame. -/
lemma slot (h : Ring k s c) (hf : c.deposited[k]? = some f) :
    Slot slotFormat rxRegion c.sram s f := by
  have hl := h.layout
  rw [List.drop_eq_getElem?_toList_append, hf] at hl
  exact hl.1

/-- The first slot is given up. -/
lemma tail (h : Ring k s c) (hf : c.deposited[k]? = some f) :
    Ring (k + 1) (rxRegion.loc s f.slotSize) c := by
  obtain ⟨hk, -⟩ := List.getElem?_eq_some_iff.1 hf
  have hl := h.layout
  have hfit := h.fits
  rw [Chip.occupied, List.drop_eq_getElem?_toList_append, hf] at hfit
  rw [List.drop_eq_getElem?_toList_append, hf] at hl
  refine ⟨h.erxst, Region.has_loc, ?_, hk, hl.2, ?_⟩
  · exact Region.dvd_loc (by decide) (by decide) h.even f.two_dvd_slotSize
  · simp only [Option.toList_some, List.singleton_append, SlotFormat.total_cons] at hfit
    exact Nat.le_of_add_left_le hfit

/-- The bytes of the first slot, up to its padding. -/
lemma readFrom_slot (h : Ring k s c) (hf : c.deposited[k]? = some f) :
    ∃ status, status.length = 4 ∧ readFrom rxRegion.next c.sram s (8 + f.length) =
      slotBytes (rxRegion.loc s f.slotSize) status f := by
  obtain ⟨status, pad, hst, hs⟩ := h.slot hf
  refine ⟨status, hst, ?_⟩
  have hread := Region.readFrom_loc (j := 0) (n := 8 + f.length) h.has hs (by
    rw [slotFormat_size, Nat.zero_add]
    exact f.le_slotSize)
  rw [Region.loc_zero h.has, List.drop_zero, List.take_left' (length_slotBytes hst f)] at hread
  exact hread

end Ring

/-- The head stays in the ring. -/
lemma has_head_apply {e : ChipEvent} (hc : c.Awake) (hst : c.sfr ERXST = 0x2000#16)
    (hh : rxRegion.Has c.head) (he : e.Enabled c) : rxRegion.Has (e.apply c).head := by
  by_cases ha : e.Arrives
  · cases e with
    | store bytes => exact hh
    | deposit f rsv =>
      have hnext : c.rxNext^[f.slotSize] c.head = rxRegion.loc c.head f.slotSize := by
        rw [rxNext_eq hst, Region.iterate_next hh]
      simp only [ChipEvent.apply, hnext]
      rw [Chip.head, Chip.setSfr_sfr, if_pos rfl, toNat_ofNat_of_has Region.has_loc]
      exact Region.has_loc
    | _ => exact absurd ha id
  · rw [Chip.head, (ChipEvent.sameRing hc he ha).erxhead]
    exact hh

/-- A condition `T k s` on the chip under which the surroundings store bytes only where no
frame from the `k`-th one on lies.  The driver restores it when it gives up a slot, provided
that the following slot starts at an address that is `Good`. -/
structure Protection (E : Surroundings) (T : ℕ → ℕ → Chip → Prop) (Good : ℕ → Prop) : Prop where
  start : ∀ {c}, c.deposited = [] → c.delivered = 0 → c.sfr ERXTAIL = 0x5FFE#16 → T 0 0x2000 c
  congr : ∀ {k s c c'}, T k s c → c'.sfr ERXTAIL = c.sfr ERXTAIL →
    c'.deposited = c.deposited → (c'.delivered = c.delivered ∨ c'.delivered ≤ k) → T k s c'
  store : ∀ {k s c bytes}, Ring k s c → T k s c → E c (.store bytes) →
    c.occupied k + bytes.length ≤ rxRegion.size
  deposit : ∀ {k s c f rsv}, Ring k s c → T k s c → E c (.deposit f rsv) →
    c.occupied k + f.slotSize ≤ rxRegion.size ∧ T k s ((ChipEvent.deposit f rsv).apply c)
  release : ∀ {k s c f}, Ring k s c → T k s c → c.deposited[k]? = some f →
    Good (rxRegion.loc s f.slotSize) → T (k + 1) (rxRegion.loc s f.slotSize)
      (c.setSfr ERXTAIL (BitVec.ofNat 16 (rxRegion.loc s f.slotSize) - 2#16))

lemma Protection.mono {E E' : Surroundings} {T : ℕ → ℕ → Chip → Prop} {Good : ℕ → Prop}
    (hT : Protection E T Good) (h : ∀ c e, E' c e → E c e) : Protection E' T Good :=
  ⟨hT.start, hT.congr, fun hr ht he => hT.store hr ht (h _ _ he),
    fun hr ht he => hT.deposit hr ht (h _ _ he), hT.release⟩

section Stable

variable {E : Surroundings} {T : ℕ → ℕ → Chip → Prop} {Good : ℕ → Prop}

/-- The chip keeps the frames in its receive buffer. -/
lemma Protection.apply (hT : Protection E T Good) {e : ChipEvent} (hc : c.Awake) (hr : Ring k s c)
    (ht : T k s c) (hE : E c e) (he : e.Enabled c) : Ring k s (e.apply c) ∧ T k s (e.apply c) := by
  have hu := ChipEvent.undisturbed hc he
  by_cases ha : e.Arrives
  · cases e with
    | store bytes =>
      exact ⟨hr.store (hT.store hr ht hE),
        hT.congr ht (hu.sfr _ (by decide)) rfl (Or.inl hu.delivered)⟩
    | deposit f rsv =>
      obtain ⟨hfree, ht'⟩ := hT.deposit hr ht hE
      exact ⟨hr.deposit he.2.2 hfree, ht'⟩
    | _ => exact absurd ha id
  · have hs := ChipEvent.sameRing hc he ha
    exact ⟨hr.congr hs (hu.sfr _ (by decide)),
      hT.congr ht (hu.sfr _ (by decide)) hs.deposited (Or.inl hu.delivered)⟩

lemma Protection.stable (hT : Protection E T Good) :
    Stable E.rely fun w => w.chip.Awake ∧ Ring k s w.chip ∧ T k s w.chip := by
  rintro w _ ⟨hc, hr, ht⟩ ⟨e, hE, he, rfl⟩
  exact ⟨(ChipEvent.undisturbed hc he).awake hc, hT.apply hc hr ht hE he⟩

lemma Counted.apply {e : ChipEvent} (h : Counted c) (hc : c.Awake) (he : e.Enabled c) :
    Counted (e.apply c) := by
  have hu := ChipEvent.undisturbed hc he
  by_cases ha : e.Arrives
  · cases e with
    | store bytes => exact h
    | deposit f rsv =>
      have hlt : c.pktcnt.toNat ≠ 255 := fun hp => he.2.1 (BitVec.eq_of_toNat_eq hp)
      have hle := c.pktcnt.isLt
      unfold Counted at h
      simp only [Counted, ChipEvent.apply, Chip.setSfr_delivered, BitVec.toNat_add,
        BitVec.toNat_ofNat, List.length_append, List.length_singleton]
      omega
    | _ => exact absurd ha id
  · have hs := ChipEvent.sameRing hc he ha
    rw [Counted, hs.pktcnt, hu.delivered, hs.deposited]
    exact h

/-- The chip only adds frames. -/
lemma deposited_le_apply {e : ChipEvent} (hc : c.Awake) (he : e.Enabled c) :
    c.deposited <+: (e.apply c).deposited := by
  by_cases ha : e.Arrives
  · cases e with
    | store bytes => exact List.prefix_rfl
    | deposit f rsv => exact List.prefix_append _ _
    | _ => exact absurd ha id
  · have hd := (ChipEvent.sameRing hc he ha).deposited
    exact ⟨[], by rw [List.append_nil, hd]⟩

lemma getElem?_deposited {e : ChipEvent} (hc : c.Awake) (he : e.Enabled c)
    (hf : c.deposited[k]? = some f) : (e.apply c).deposited[k]? = some f := by
  obtain ⟨xs, hx⟩ := deposited_le_apply hc he
  obtain ⟨hk, -⟩ := List.getElem?_eq_some_iff.1 hf
  rw [← hx, List.getElem?_append_left hk, hf]

end Stable

end Enc624j600
