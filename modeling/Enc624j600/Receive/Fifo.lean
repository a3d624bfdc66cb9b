/-
# Reception is a queue

In surroundings that spare the counted frames, the driver hands over the frames that the chip
stored, each one once and in their order, however the arrivals interleave with the calls: the
frames stored and not handed over are those that the packet counter counts.
-/
import Enc624j600.Init.Run
import Enc624j600.Receive.Operations
import Enc624j600.Receive.Tail

namespace Enc624j600

open Cyclic Interaction

variable {ι : Type}

/-- The call stored the fields of the frame for its caller, and nothing else. -/
def HandsOver (f : Frame) (c : DriverCall ι ReceiveResult) : Prop :=
  ∃ n : Word, n.toNat + 18 = f.length ∧ f.payload.length = n.toNat ∧
    c.after.stored = c.before.stored ++ [.receivedBytes n, .bytes .destinationMac f.destination,
      .bytes .sourceMac f.source, .bytes .lengthType f.lengthType, .bytes .buffer f.payload]

/-- The calls that handed over a frame. -/
def successes (h : List (DriverCall ι ReceiveResult)) : List (DriverCall ι ReceiveResult) :=
  h.filter fun c => c.answer = .encReceiveSucceeded

/-- The call read `ESTAT` in a state `u`; it answers that no frame is pending if and only if
the packet counter was zero there, and then stores nothing. -/
structure Answered (R : World → World → Prop) (c : DriverCall ι ReceiveResult) : Prop where
  read : ∃ u t, Drift R c.before u ∧
    c.trace = ⟨.spi (.readSfr ESTAT), u.chip.shown ESTAT⟩ :: t ∧
      (c.answer = .encReceiveNoPendingFrame ↔ u.chip.pktcnt = 0#8)
  result : c.answer = .encReceiveNoPendingFrame ∨ c.answer = .encReceiveSucceeded
  nothing : c.answer = .encReceiveNoPendingFrame → c.after.stored = c.before.stored

lemma successes_snoc (h : List (DriverCall ι ReceiveResult)) (c : DriverCall ι ReceiveResult) :
    successes (h ++ [c]) =
      successes h ++ if c.answer = .encReceiveSucceeded then [c] else [] := by
  rw [successes, List.filter_append, successes]
  by_cases hc : c.answer = .encReceiveSucceeded <;> simp [hc]

/-- The frames stored up to and including the `k`-th one. -/
lemma take_deposited_succ {c c' : Chip} {k : ℕ} {f : Frame} (hp : c.deposited <+: c'.deposited)
    (hk : k ≤ c.deposited.length) (hf : c'.deposited[k]? = some f) :
    c'.deposited.take (k + 1) = c.deposited.take k ++ [f] := by
  obtain ⟨fs, hfs⟩ := hp
  rw [List.take_add_one, hf, ← hfs, List.take_append_of_le_length hk]
  rfl

/-- What the driver stored is what the caller of `enc624j600_receive` is promised. -/
lemma handsOver_of_delivery {f : Frame} {c : DriverCall ι ReceiveResult} (hf : f.length ≤ 0x4000)
    (h : c.after.stored = c.before.stored ++ delivery f) : HandsOver f c := by
  have hlen := f.length_eq
  have hn : (BitVec.ofNat 16 f.payload.length).toNat = f.payload.length := by
    rw [BitVec.toNat_ofNat, Nat.mod_eq_of_lt (by omega)]
  exact ⟨BitVec.ofNat 16 f.payload.length, by omega, hn.symm, h⟩

/-- A call answers what the packet counter says, and counts the frame that it hands over. -/
lemma Tally.call {E : Surroundings} {k : ℕ} {c : DriverCall ι ReceiveResult}
    (hv : Tally k c.before)
    (hc : Returns machine E.rely receiveCall c.before c.trace c.answer c.after) :
    Answered E.rely c ∧
      Tally (k + if c.answer = .encReceiveSucceeded then 1 else 0) c.after := by
  rw [receiveCall_eq, returns_op_iff] at hc
  obtain ⟨u, estat, u', t, hd, hs, ht, hr⟩ := hc
  have hu : Tally k u := stable_tally.drift hv hd
  obtain ⟨rfl, rfl⟩ := machine_step_iff.1 hs
  rw [World.perform_spi hu.awake.por] at ht hr
  have hanswer : c.answer = .encReceiveNoPendingFrame ↔ u.chip.pktcnt = 0#8 := by
    rw [← pktcnt_eq_zero_iff]
    split at hr
    · rename_i hz
      exact ⟨fun _ => hz, fun _ => (returns_pure_iff.1 hr).2.1⟩
    · rename_i hz
      obtain ⟨_, _, _, _, _, hp, _⟩ := returns_bind_iff.1 hr
      have ha := (returns_pure_iff.1 hp).2.1
      exact ⟨fun hno => absurd (ha.symm.trans hno) (by decide), fun h => absurd h hz⟩
  have hread : ∃ u t, Drift E.rely c.before u ∧
      c.trace = ⟨.spi (.readSfr ESTAT), u.chip.shown ESTAT⟩ :: t ∧
        (c.answer = .encReceiveNoPendingFrame ↔ u.chip.pktcnt = 0#8) := ⟨u, t, hd, ht, hanswer⟩
  split at hr
  -- no frame was pending
  · obtain ⟨-, ha, hdrift⟩ := returns_pure_iff.1 hr
    have hstored : ∀ {x y : World}, Drift E.rely x y → y.stored = x.stored := by
      intro x y hxy
      induction hxy with
      | refl => rfl
      | tail _ hR ih => exact (rely_driver hR).2.2.trans ih
    rw [if_neg (by rw [ha]; decide)]
    exact ⟨⟨hread, Or.inl ha, fun _ => (hstored hdrift).trans (hstored hd)⟩,
      stable_tally.drift hu hdrift⟩
  -- the oldest frame is handed over
  · rename_i hz
    obtain ⟨_, w, _, _, hframe, hp, -⟩ := returns_bind_iff.1 hr
    obtain ⟨-, ha, hdrift⟩ := returns_pure_iff.1 hp
    have hlt := hu.some_left_iff.1 (mt (pktcnt_eq_zero_iff _).2 hz)
    have hw := triple_receiveFrame_tally.returns ⟨hu, hlt⟩ hframe
    rw [if_pos ha]
    exact ⟨⟨hread, Or.inr ha, fun hno => absurd (ha.symm.trans hno) (by decide)⟩,
      stable_tally.drift hw hdrift⟩

/-- The state of a run in which the driver handed over the first frames. -/
structure Delivered (R : World → World → Prop) (h : List (DriverCall ι ReceiveResult))
    (v : World) : Prop where
  ready : ∃ s, Ready Unreleased (received h) s v.stored v
  frames : List.Forall₂ HandsOver (v.chip.deposited.take (received h)) (successes h)
  answered : ∀ c ∈ h, Answered R c

section Runs

variable {E : Surroundings} {h : List (DriverCall ι ReceiveResult)} {v u : World}

lemma Delivered.of_ready {R : World → World → Prop} (hv : Delivered R h v) {s : ℕ}
    (hu : Ready Unreleased (received h) s u.stored u)
    (hp : v.chip.deposited <+: u.chip.deposited) : Delivered R h u := by
  obtain ⟨s', hs'⟩ := hv.ready
  refine ⟨⟨s, hu⟩, ?_, hv.answered⟩
  obtain ⟨fs, hfs⟩ := hp
  rw [← hfs, List.take_append_of_le_length hs'.ring.le]
  exact hv.frames

lemma stable_delivered {R : World → World → Prop} (hE : ∀ c e, E c e → sparing c e) :
    Stable E.rely (Delivered R h) := by
  intro v u hv hR
  obtain ⟨s, hs⟩ := hv.ready
  refine hv.of_ready (s := s) ?_ (stable_deposited v u ⟨hs.awake, List.prefix_rfl⟩ hR).2
  rw [(rely_driver hR).2.2]
  exact stable_ready (protection_sparing hE) v u hs hR

lemma Delivered.call (hE : ∀ c e, E c e → sparing c e) {c : DriverCall ι ReceiveResult}
    (hv : Delivered E.rely h c.before)
    (hc : Returns machine E.rely receiveCall c.before c.trace c.answer c.after) :
    Delivered E.rely (h ++ [c]) c.after := by
  obtain ⟨s, hs⟩ := hv.ready
  obtain ⟨ha, hp⟩ := (triple_receive_deposited _).returns ⟨hs.awake, List.prefix_rfl⟩ hc
  have hall : ∀ d ∈ h ++ [c], Answered E.rely d :=
    List.forall_mem_append.2 ⟨hv.answered, List.forall_mem_singleton.2 (hs.tally.call hc).1⟩
  rcases (triple_receiveCall (protection_sparing hE)).returns hs hc with
    ⟨hans, hr⟩ | ⟨hans, f, hr⟩
  -- no frame was pending: nothing is added to either side
  · have hrec : received (h ++ [c]) = received h := by simp [received_snoc, hans]
    have hsuc : successes (h ++ [c]) = successes h := by simp [successes_snoc, hans]
    have hnext := hv.of_ready (u := c.after) (by rw [hr.stored]; exact hr) hp
    exact ⟨by rw [hrec]; exact hnext.ready, by rw [hrec, hsuc]; exact hnext.frames, hall⟩
  -- the call handed over the frame `f`, the next one that was stored
  · have hrec : received (h ++ [c]) = received h + 1 := by simp [received_snoc, hans]
    have hsuc : successes (h ++ [c]) = successes h ++ [c] := by simp [successes_snoc, hans]
    refine ⟨?_, ?_, hall⟩
    · rw [hrec, hr.stored]
      exact ⟨_, hr.ready trivial⟩
    · rw [hrec, hsuc, take_deposited_succ hp hs.ring.le hr.frame]
      exact List.rel_append hv.frames
        (.cons (handsOver_of_delivery hr.length_le hr.stored) .nil)

/-- Every run is of this kind. -/
lemma delivered_of_running (hE : ∀ c e, E c e → sparing c e) {config : Config} {w₀ : World}
    (hrun : Running E config (fun _ : ι => receiveCall) w₀ h v) : Delivered E.rely h v := by
  refine hrun.invariant (J := Delivered E.rely) ?_ (fun h => stable_delivered hE)
    fun h c hv hc => hv.call hE hc
  intro t w hp hi
  have hw := (triple_init_ready (protection_sparing hE)).returns (unasked_self hp) hi
  exact ⟨⟨_, hw⟩, List.Forall₂.nil, by simp⟩

/-- **Reception is a queue.** The calls that handed over a frame handed over the frames that
the chip stored, in their order; the packet counter counts the frames that are left, and every
decrement found it above zero; every call answers what the packet counter said when it read
`ESTAT`. -/
theorem receive_fifo {config : Config} {w₀ : World}
    (hrun : Running sparing config (fun _ : ι => receiveCall) w₀ h v) :
    List.Forall₂ HandsOver (v.chip.deposited.take (received h)) (successes h) ∧
      v.chip.pktcnt.toNat + received h = v.chip.deposited.length ∧
        v.chip.delivered = received h ∧ ∀ c ∈ h, Answered sparing.rely c := by
  have hd := delivered_of_running (fun _ _ h => h) hrun
  obtain ⟨s, hs⟩ := hd.ready
  have hc := hs.counted
  rw [Counted, hs.delivered] at hc
  exact ⟨hd.frames, hc, hs.delivered, hd.answered⟩

end Runs

/-! ### Runs that receive the frames that arrive -/

section Arrivals

variable {E : Surroundings} {config : Config} {d : DuplexMode} {w₀ v : World} {f : Frame}
  {b : List Byte}

lemma Booted.used (h : Booted config d v) : v.chip.used = 0 := by
  rw [Chip.used, Chip.pending, h.deposited, List.drop_nil]
  rfl

lemma Booted.receiving (h : Booted config d v) : v.chip.Receiving := by
  obtain ⟨g, estat, hi⟩ := h.initialised
  exact hi.receiving

/-- A frame arrives after the calls `k`. -/
lemma exists_arrival (hE : ∀ c e, E c e → sparing c e) {k : List (DriverCall ι ReceiveResult)}
    (hrun : Running E config (fun _ : ι => receiveCall) w₀ k v) (hrx : v.chip.Receiving)
    (hcount : v.chip.deposited.length < received k + 255) (hf : E v.chip (.deposit f b))
    (hb : b.length = 4) :
    ∃ u, E.rely v u ∧ (∃ s, Ready Unreleased (received k) s v.stored u) ∧
      u.chip.deposited = v.chip.deposited ++ [f] ∧ u.chip.Receiving := by
  obtain ⟨s, hv⟩ := (delivered_of_running hE hrun).ready
  obtain ⟨hR, hrx'⟩ := hv.tally.deposit hrx hcount hb hf
  exact ⟨_, hR, ⟨s, stable_ready (protection_sparing hE) _ _ hv hR⟩, rfl, hrx'⟩

/-- Frames that find room are stored. -/
lemma exists_arrivals {k : List (DriverCall ι ReceiveResult)}
    (hrun : Running sparing config (fun _ : ι => receiveCall) w₀ k v) (hrx : v.chip.Receiving)
    (fs : List Frame) (hroom : slotFormat.total (v.chip.deposited.drop (received k)) +
      slotFormat.total fs ≤ rxRegion.size)
    (hcount : v.chip.deposited.length + fs.length ≤ received k + 255) :
    ∃ u, Running sparing config (fun _ : ι => receiveCall) w₀ k u ∧
      u.chip.deposited = v.chip.deposited ++ fs := by
  induction fs generalizing v with
  | nil => exact ⟨v, hrun, (List.append_nil _).symm⟩
  | cons f fs ih =>
    rw [SlotFormat.total_cons, slotFormat_size] at hroom
    rw [List.length_cons] at hcount
    obtain ⟨s, hv⟩ := (delivered_of_running (fun _ _ h => h) hrun).ready
    have hsparing : sparing v.chip (.deposit f (List.replicate 4 0#8)) := by
      change slotFormat.total (v.chip.deposited.drop v.chip.delivered) + f.slotSize ≤ rxRegion.size
      rw [hv.delivered]
      omega
    obtain ⟨w, hR, -, hd, hrxw⟩ :=
      exists_arrival (fun _ _ h => h) hrun hrx (by omega) hsparing rfl
    obtain ⟨u, hu, hdu⟩ := ih (hrun.env hR) hrxw (by
      rw [hd, List.drop_append_of_le_length hv.tally.le, SlotFormat.total_append,
        SlotFormat.total_cons, slotFormat_size, SlotFormat.total_nil]
      omega) (by simp [hd]; omega)
    exact ⟨u, hu, by rw [hdu, hd, List.append_assoc, List.singleton_append]⟩

/-- Frames that are left are received. -/
lemma exists_receptions (hE : ∀ c e, E c e → sparing c e)
    {k : List (DriverCall Unit ReceiveResult)}
    (hrun : Running E config (fun _ : Unit => receiveCall) w₀ k v) (n : ℕ)
    (hn : received k + n ≤ v.chip.deposited.length) : ∃ k' u,
      Running E config (fun _ : Unit => receiveCall) w₀ (k ++ k') u ∧ k'.length = n ∧
        received (k ++ k') = received k + n ∧ u.chip.deposited = v.chip.deposited ∧
          ∀ d ∈ k', d.before.chip.pktcnt ≠ 0#8 := by
  induction n generalizing k v with
  | zero =>
    exact ⟨[], v, by rwa [List.append_nil], rfl, by rw [List.append_nil, Nat.add_zero], rfl,
      by simp⟩
  | succ n ih =>
    obtain ⟨s, hv⟩ := (delivered_of_running hE hrun).ready
    have hp : v.chip.pktcnt ≠ 0#8 := hv.tally.some_left_iff.2 (by omega)
    obtain ⟨f, hf⟩ := hv.exists_frame hp
    obtain ⟨t, a, x, hx⟩ := exists_receive still.rely v
    obtain ⟨hans, -⟩ := (triple_receiveCall_pending
      (protection_sparing fun _ _ h => h.elim)).returns ⟨hv, hf⟩ hx
    have hd := (receive_alone not_rely_still hv.awake hx).1
    have hcall := hrun.call (c := ⟨(), v, t, a, x⟩)
      (hx.mono fun w w' h => absurd h (not_rely_still w w'))
    have hrec : received (k ++ [⟨(), v, t, a, x⟩]) = received k + 1 := by
      rw [received_snoc, if_pos hans]
    obtain ⟨k', u, hu, hlen, hreck, hdu, hall⟩ := ih hcall (by rw [hrec, hd]; omega)
    rw [← List.append_cons] at hu hreck
    exact ⟨⟨(), v, t, a, x⟩ :: k', u, hu, by rw [List.length_cons, hlen], by omega,
      hdu.trans hd, List.forall_mem_cons.2 ⟨hp, hall⟩⟩

/-- After the initialisation a frame arrives and is received. -/
lemma exists_received (hE : ∀ c e, E c e → sparing c e)
    (hrun : Running E config (fun _ : Unit => receiveCall) powered [] v)
    (hv : Booted config d v) (hf : E v.chip (.deposit f b)) (hb : b.length = 4) :
    ∃ h x, Running E config (fun _ : Unit => receiveCall) powered h x ∧
      received h = 1 ∧ x.chip.deposited = [f] := by
  obtain ⟨u, hR, -, hd, -⟩ := exists_arrival hE hrun hv.receiving (by simp [hv.deposited]) hf hb
  rw [hv.deposited, List.nil_append] at hd
  obtain ⟨h, x, hx, -, hrec, hdx, -⟩ := exists_receptions hE (hrun.env hR) 1 (by
    rw [hd]
    exact le_rfl)
  exact ⟨h, x, hx, hrec, hdx.trans hd⟩

/-- A run in which one frame arrives and is received. -/
lemma exists_reception : ∃ h v, Running sparing plainConfig (fun _ : Unit => receiveCall) powered
    h v ∧ received h = 1 ∧ v.chip.deposited = [kilobyte] := by
  obtain ⟨v, hrun, hb⟩ := exists_running (E := sparing) (fun c e he => by cases e <;> trivial)
    fun _ : Unit => receiveCall
  refine exists_received (fun _ _ h => h) hrun hb (b := List.replicate 4 0#8) ?_ rfl
  change v.chip.used + kilobyte.slotSize ≤ rxRegion.size
  rw [hb.used, kilobyte_slotSize]
  decide

end Arrivals

end Enc624j600
