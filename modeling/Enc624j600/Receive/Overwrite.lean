/-
# Frames that are overwritten

What is counted stays in step with the calls in every run.  On a chip that only compares its
head with `ERXTAIL`, the frames are handed over in their order as long as no slot given up
before ended the ring: after such a slot `ERXTAIL` holds `0x1FFE`, the head passes the frames
that were not received, and the driver hands over what was stored over them.
-/
import Enc624j600.Receive.Fifo

namespace Enc624j600

open Cyclic Interaction

/-! ### Runs in which no slot ends the ring -/

section Runs

variable {ι : Type} {h : List (DriverCall ι ReceiveResult)} {v u : World} {n : ℕ}

lemma NoSlotEndsRing.mono {c : Chip} {k : ℕ} (hno : NoSlotEndsRing n c) (hk : k ≤ n) :
    NoSlotEndsRing k c := fun i hi => hno i (hi.trans_le hk)

/-- Frames stored later do not move the slots. -/
lemma noSlotEndsRing_iff {c c' : Chip} (hp : c.deposited <+: c'.deposited)
    (hn : n ≤ c.deposited.length) : NoSlotEndsRing n c' ↔ NoSlotEndsRing n c := by
  refine forall₂_congr fun k hk => ?_
  rw [slotStart_of_le hp (by omega)]

/-- What holds after the calls `h`, in every run. -/
structure Gated (h : List (DriverCall ι ReceiveResult)) (v : World) : Prop where
  tally : Tally (received h) v
  answered : ∀ c ∈ h, Answered tailGated.rely c
  /-- The ring is in order while no slot given up ended it. -/
  ready : NoSlotEndsRing (received h) v.chip →
    ∃ m, Ready TailBehind (received h) (slotStart v.chip (received h)) m v
  /-- The slot given up last does not matter for the frames handed over so far. -/
  frames : NoSlotEndsRing (received h - 1) v.chip →
    List.Forall₂ HandsOver (v.chip.deposited.take (received h)) (successes h)

lemma stable_gated : Stable tailGated.rely (Gated h) := by
  intro v u hv hR
  have hle := hv.tally.le
  obtain ⟨-, hp⟩ := stable_deposited v u ⟨hv.tally.awake, List.prefix_rfl⟩ hR
  refine ⟨stable_tally v u hv.tally hR, hv.answered, fun hno => ?_, fun hno => ?_⟩
  · obtain ⟨m, hr⟩ := hv.ready ((noSlotEndsRing_iff hp hle).1 hno)
    rw [slotStart_of_le hp hle]
    exact ⟨m, stable_ready protection_tailGated v u hr hR⟩
  · have hframes := hv.frames ((noSlotEndsRing_iff hp (by omega)).1 hno)
    obtain ⟨fs, hfs⟩ := hp
    rwa [← hfs, List.take_append_of_le_length hle]

/-- A call that hands over a frame of a ring that is in order. -/
lemma Gated.success {c : DriverCall ι ReceiveResult} (hv : Gated h c.before)
    (hc : Returns machine tailGated.rely receiveCall c.before c.trace c.answer c.after)
    (hans : c.answer = .encReceiveSucceeded)
    (hp : c.before.chip.deposited <+: c.after.chip.deposited)
    (hno : NoSlotEndsRing (received h) c.after.chip) :
    List.Forall₂ HandsOver (c.after.chip.deposited.take (received h + 1)) (successes h ++ [c]) ∧
      (slotStart c.after.chip (received h + 1) ≠ 0x2000 → ∃ m,
        Ready TailBehind (received h + 1) (slotStart c.after.chip (received h + 1)) m c.after) := by
  have hle := hv.tally.le
  have hno' := (noSlotEndsRing_iff hp hle).1 hno
  obtain ⟨m, hr⟩ := hv.ready hno'
  rcases (triple_receiveCall protection_tailGated).returns hr hc with ⟨ha, -⟩ | ⟨-, f, hrel⟩
  · exact absurd (hans.symm.trans ha) (by decide)
  have hnext : slotStart c.after.chip (received h + 1) =
      rxRegion.loc (slotStart c.before.chip (received h)) f.slotSize := by
    rw [slotStart_succ hrel.frame, slotStart_of_le hp hle]
  refine ⟨?_, fun hne => ?_⟩
  · have hstored : c.after.stored = c.before.stored ++ delivery f := by
      rw [hrel.stored, hr.stored]
    rw [take_deposited_succ hp hle hrel.frame]
    exact List.rel_append (hv.frames (hno'.mono (Nat.sub_le _ _)))
      (.cons (handsOver_of_delivery hrel.length_le hstored) .nil)
  · rw [hnext] at hne ⊢
    exact ⟨_, hrel.ready hne⟩

lemma Gated.call {c : DriverCall ι ReceiveResult} (hv : Gated h c.before)
    (hc : Returns machine tailGated.rely receiveCall c.before c.trace c.answer c.after) :
    Gated (h ++ [c]) c.after := by
  obtain ⟨-, hp⟩ := (triple_receive_deposited _).returns ⟨hv.tally.awake, List.prefix_rfl⟩ hc
  obtain ⟨hanswered, htally⟩ := hv.tally.call hc
  have hle := hv.tally.le
  have hall : ∀ d ∈ h ++ [c], Answered tailGated.rely d :=
    List.forall_mem_append.2 ⟨hv.answered, List.forall_mem_singleton.2 hanswered⟩
  rw [← received_snoc] at htally
  by_cases hans : c.answer = .encReceiveSucceeded
  · have hrec : received (h ++ [c]) = received h + 1 := by rw [received_snoc, if_pos hans]
    have hsuc : successes (h ++ [c]) = successes h ++ [c] := by rw [successes_snoc, if_pos hans]
    refine ⟨htally, hall, fun hno => ?_, fun hno => ?_⟩
    · rw [hrec] at hno ⊢
      exact (hv.success hc hans hp (hno.mono (Nat.le_succ _))).2 (hno _ (Nat.lt_succ_self _))
    · rw [hrec, Nat.add_sub_cancel] at hno
      rw [hrec, hsuc]
      exact (hv.success hc hans hp hno).1
  · have hrec : received (h ++ [c]) = received h := by rw [received_snoc, if_neg hans, Nat.add_zero]
    have hsuc : successes (h ++ [c]) = successes h := by
      rw [successes_snoc, if_neg hans, List.append_nil]
    refine ⟨htally, hall, fun hno => ?_, fun hno => ?_⟩
    · rw [hrec] at hno ⊢
      obtain ⟨m, hr⟩ := hv.ready ((noSlotEndsRing_iff hp hle).1 hno)
      rcases (triple_receiveCall protection_tailGated).returns hr hc with ⟨-, hr'⟩ | ⟨ha, -⟩
      · rw [slotStart_of_le hp hle]
        exact ⟨m, hr'⟩
      · exact absurd ha hans
    · rw [hrec] at hno ⊢
      have hframes := hv.frames ((noSlotEndsRing_iff hp (by omega)).1 hno)
      obtain ⟨fs, hfs⟩ := hp
      rwa [hsuc, ← hfs, List.take_append_of_le_length hle]

lemma gated_of_running {config : Config} {w₀ : World}
    (hrun : Running tailGated config (fun _ : ι => receiveCall) w₀ h v) : Gated h v := by
  refine hrun.invariant (J := Gated) ?_ (fun h => stable_gated) fun h c hv hc => hv.call hc
  intro t w hp hi
  have hw := (triple_init_ready protection_tailGated).returns (unasked_self hp) hi
  exact ⟨hw.tally, by simp, fun _ => ⟨_, hw⟩, fun _ => List.Forall₂.nil⟩

/-- **Reception is a queue as long as no slot ends the ring.** In every run of a chip that compares
its head with `ERXTAIL`, the packet counter counts the frames that were not handed over, every
decrement found it above zero, and every call answers what the packet counter said when it read
`ESTAT`.  If no slot given up before the last frame ended the ring, the calls that handed over a
frame handed over the frames that the chip stored, in their order. -/
theorem receive_fifo_tailGated {config : Config} {w₀ : World}
    (hrun : Running tailGated config (fun _ : ι => receiveCall) w₀ h v) :
    v.chip.pktcnt.toNat + received h = v.chip.deposited.length ∧
      v.chip.delivered = received h ∧ (∀ c ∈ h, Answered tailGated.rely c) ∧
        (NoSlotEndsRing (received h - 1) v.chip →
          List.Forall₂ HandsOver (v.chip.deposited.take (received h)) (successes h)) := by
  have hv := gated_of_running hrun
  have hc := hv.tally.counted
  rw [Counted, hv.tally.delivered] at hc
  exact ⟨hc, hv.tally.delivered, hv.answered, hv.frames⟩

end Runs

/-! ### A run around the ring -/

lemma total_take (fs : List Frame) (k : ℕ) :
    slotFormat.total (fs.take k) = ((fs.map Frame.slotSize).take k).sum := by
  rw [SlotFormat.total, ← List.map_take]
  rfl

/-- Fourteen frames of 1016 bytes that are received one by one, and three of other lengths that
arrive before the next call.  The slot of the last one goes around the end of the ring. -/
def aroundRing : List Frame := List.replicate 14 kilobyte ++ [shortest, longest, kilobyte]

lemma map_slotSize_aroundRing :
    aroundRing.map Frame.slotSize = List.replicate 14 1024 ++ [72, 1526, 1024] := by
  rw [aroundRing, List.map_append, List.map_replicate]
  simp only [List.map_cons, List.map_nil, kilobyte_slotSize, shortest_slotSize, longest_slotSize]

lemma loc_aroundRing_ne : ∀ k < 17,
    rxRegion.loc 0x2000 (slotFormat.total (aroundRing.take (k + 1))) ≠ 0x2000 := by
  intro k hk
  rw [total_take, map_slotSize_aroundRing]
  revert k
  decide

lemma exists_aroundRing : ∃ h v, Stage h aroundRing v ∧ received h = 17 := by
  obtain ⟨h, v, hv, hrec⟩ := exists_lap (k := 14) (by decide)
  have hnone : (List.replicate 14 kilobyte).drop (received h) = [] :=
    List.drop_eq_nil_of_le (by rw [hrec, List.length_replicate])
  obtain ⟨u, hu⟩ := hv.deposits [shortest, longest, kilobyte] (by
    rw [hnone]
    simp only [SlotFormat.total_nil, SlotFormat.total_cons, slotFormat_size, kilobyte_slotSize,
      shortest_slotSize, longest_slotSize]
    decide) (by
    rw [hrec, List.length_replicate]
    decide)
  exact hu.receives (by omega) (by decide) loc_aroundRing_ne

theorem receive_fifo_tailGated_around : ∃ h v, Running tailGated plainConfig
    (fun _ : Unit => receiveCall) powered h v ∧ v.chip.deposited = aroundRing ∧
      v.chip.pktcnt = 0#8 ∧ slotStart v.chip 16 = 0x5E3E ∧ slotStart v.chip 17 = 0x223E ∧
        List.Forall₂ HandsOver aroundRing (successes h) := by
  obtain ⟨h, v, hv, hrec⟩ := exists_aroundRing
  obtain ⟨hcount, -, -, hframes⟩ := receive_fifo_tailGated hv.running
  have hstart : ∀ k, slotStart v.chip k =
      rxRegion.loc 0x2000 ((List.replicate 14 1024 ++ [72, 1526, 1024]).take k).sum := by
    intro k
    rw [slotStart, hv.deposited, total_take, map_slotSize_aroundRing]
  have hall := hframes (hv.noSlot.mono (Nat.sub_le _ _))
  rw [hrec, hv.deposited] at hall hcount
  refine ⟨h, v, hv.running, hv.deposited, BitVec.eq_of_toNat_eq ?_, ?_, ?_, hall⟩
  · rw [BitVec.toNat_ofNat]
    have hlen : aroundRing.length = 17 := rfl
    omega
  · rw [hstart]
    decide
  · rw [hstart]
    decide

/-! ### A run in which frames are overwritten -/

/-- `ERXTAIL` holds an address that the head never meets.  Sixteen frames were received, the chip
stored the frames `fs`, and those from the `n`-th one on lie in the ring from `s` on. -/
structure Flooded (h : List (DriverCall Unit ReceiveResult)) (n s : ℕ) (fs : List Frame)
    (v : World) : Prop where
  running : Running tailGated plainConfig (fun _ : Unit => receiveCall) powered h v
  tally : Tally 16 v
  erxtail : v.chip.sfr ERXTAIL = 0x1FFE#16
  next : v.nextReceiveFramePointer = 0x2000#16
  ring : Ring n s v.chip
  deposited : v.chip.deposited = fs
  receiving : v.chip.Receiving

section Flood

variable {h : List (DriverCall Unit ReceiveResult)} {s : ℕ} {fs : List Frame} {f : Frame}
  {v : World}

/-- Nothing keeps the chip from storing another frame. -/
lemma Flooded.deposit (hv : Flooded h fs.length s fs v) (hf : f.slotSize ≤ rxRegion.size)
    (hcount : fs.length < 16 + 255) : ∃ u, Flooded h fs.length s (fs ++ [f]) u := by
  -- the head stays in the ring
  have hgate : tailGated v.chip (.deposit f (List.replicate 4 0#8)) := by
    intro i _ hi
    have hhas : rxRegion.Has (v.chip.rxNext^[i] v.chip.head) := by
      rw [hv.ring.next_head]
      exact Region.has_loc
    rw [hi, hv.erxtail] at hhas
    exact absurd hhas (by simp [Region.Has])
  obtain ⟨hstep, hrx⟩ := hv.tally.deposit hv.receiving (hv.deposited ▸ hcount) rfl hgate
  have hempty : v.chip.occupied fs.length = 0 := by simp [Chip.occupied, hv.deposited]
  refine ⟨_, hv.running.env hstep, stable_tally _ _ hv.tally hstep, ?_, hv.next,
    hv.ring.deposit rfl (by omega), ?_, hrx⟩
  · rw [← hv.erxtail]
    exact (rely_undisturbed hv.tally.awake hstep).sfr _ (by decide)
  · rw [← hv.deposited]
    rfl

/-- The chip will store over this frame as well. -/
lemma Flooded.pass (hv : Flooded h fs.length s (fs ++ [f]) v) :
    Flooded h (fs ++ [f]).length (rxRegion.loc s f.slotSize) (fs ++ [f]) v := by
  have hlast : v.chip.deposited[fs.length]? = some f := by simp [hv.deposited]
  refine ⟨hv.running, hv.tally, hv.erxtail, hv.next, ?_, hv.deposited, hv.receiving⟩
  rw [List.length_append]
  exact hv.ring.tail hlast

/-- After sixteen frames that were received one by one, `k` more arrive. -/
lemma exists_flooded {k : ℕ} (hk : k ≤ 16) : ∃ h v, received h = 16 ∧
    Flooded h (List.replicate (16 + k) kilobyte).length (rxRegion.loc 0x2000 (1024 * k))
      (List.replicate (16 + k) kilobyte) v := by
  induction k with
  | zero =>
    obtain ⟨h, v, hrun, hrec, hd, hrx, m, hrel⟩ := exists_full_lap
    have hloc : rxRegion.loc 0x5C00 kilobyte.slotSize = 0x2000 := by
      rw [kilobyte_slotSize]
      decide
    obtain ⟨hring, -⟩ := hrel.ring trivial
    rw [hloc] at hring
    refine ⟨h, v, hrec, hrun, hrel.tally, ?_, ?_, ?_, hd, hrx⟩
    · rw [hrel.erxtail, hloc]
      decide
    · rw [hrel.next, hloc]
    · rw [List.length_replicate]
      exact hring
  | succ k ih =>
    obtain ⟨h, v, hrec, hv⟩ := ih (by omega)
    obtain ⟨u, hu⟩ := hv.deposit (f := kilobyte) (by rw [kilobyte_slotSize]; decide)
      (by rw [List.length_replicate]; omega)
    have hpass := hu.pass
    rw [← List.replicate_succ', Region.loc_loc, kilobyte_slotSize] at hpass
    exact ⟨h, u, hrec, hpass⟩

/-- A frame for another station. -/
def newer : Frame := { kilobyte with
  destination := List.replicate 6 0x0A#8, length_destination := rfl }

lemma newer_slotSize : newer.slotSize = 1024 := by
  rw [Frame.slotSize, Frame.length_eq, newer, kilobyte, List.length_replicate]

lemma not_handsOver_newer {c : DriverCall Unit ReceiveResult} (h : HandsOver newer c) :
    ¬ HandsOver kilobyte c := by
  obtain ⟨n, -, -, hn⟩ := h
  rintro ⟨m, -, -, hm⟩
  rw [hn] at hm
  have hcons := List.append_cancel_left hm
  simp only [List.cons.injEq, Stored.bytes.injEq, true_and] at hcons
  have hdest : newer.destination = kilobyte.destination := hcons.2.1
  exact absurd hdest (by decide)

/-- **A frame is handed over in the place of another one.** Sixteen frames of 1016 bytes are
received, each before the next one arrives.  Seventeen more arrive before the next call; the last
one of them is stored over the first one, which was not received, and the call hands it over. -/
theorem receive_fifo_overwritten : ∃ h c, Running tailGated plainConfig
    (fun _ : Unit => receiveCall) powered (h ++ [c]) c.after ∧ received (h ++ [c]) = 17 ∧
      c.after.chip.deposited = List.replicate 32 kilobyte ++ [newer] ∧
        c.answer = .encReceiveSucceeded ∧ HandsOver newer c ∧
          ¬ List.Forall₂ HandsOver (c.after.chip.deposited.take 17) (successes (h ++ [c])) := by
  obtain ⟨h, v, hrec, hv⟩ := exists_flooded (k := 16) le_rfl
  obtain ⟨u, hrun, htally, -, hnext, hring, hd, -⟩ := hv.deposit (f := newer)
    (by rw [newer_slotSize]; decide) (by rw [List.length_replicate]; omega)
  have hloc : rxRegion.loc 0x2000 (1024 * 16) = 0x2000 := by decide
  rw [hloc, List.length_replicate] at hring
  have hslot : AtSlot (fun _ _ _ => True) 32 16 0x2000 newer u.stored u :=
    ⟨htally.awake, hring, trivial, htally.counted, htally.delivered, by decide, by simp [hd],
      by rw [hnext]; rfl, rfl⟩
  have hT : Protection still (fun _ _ _ => True) fun _ => True :=
    ⟨fun _ _ _ => trivial, fun _ _ _ _ => trivial, fun _ _ he => he.elim, fun _ _ he => he.elim,
      fun _ _ _ _ => trivial⟩
  obtain ⟨t, a, x, hx⟩ := exists_receive still.rely u
  obtain ⟨hans, hrel⟩ := (triple_receiveCall_slot hT).returns hslot hx
  have hd' := (receive_alone not_rely_still htally.awake hx).1.trans hd
  have hnewer : HandsOver newer (⟨(), u, t, a, x⟩ : DriverCall Unit ReceiveResult) :=
    handsOver_of_delivery hrel.length_le hrel.stored
  refine ⟨h, ⟨(), u, t, a, x⟩, hrun.call (hx.mono fun w w' h => absurd h (not_rely_still w w')),
    by rw [received_snoc, if_pos hans, hrec], hd', hans, hnewer, fun hall => ?_⟩
  have hlen : (successes h).length = 16 := by
    rw [← hrec, received, List.countP_eq_length_filter]
    rfl
  have hlast : (successes (h ++ [⟨(), u, t, a, x⟩]))[16]? = some ⟨(), u, t, a, x⟩ := by
    rw [successes_snoc, if_pos hans, List.getElem?_append_right hlen.le, hlen]
    rfl
  have hfirst : (x.chip.deposited.take 17)[16]? = some kilobyte := by
    rw [hd']
    rfl
  obtain ⟨hi, hi'⟩ := List.getElem?_eq_some_iff.1 hfirst
  obtain ⟨hj, hj'⟩ := List.getElem?_eq_some_iff.1 hlast
  have hget := List.Forall₂.get hall hi hj
  simp only [List.get_eq_getElem] at hget
  rw [hi', hj'] at hget
  exact not_handsOver_newer hnewer hget

end Flood

end Enc624j600
