/-
# The tail of the receive buffer

`enc624j600_init` sets `ERXTAIL` two bytes before the first slot, where the address before
`0x2000` is `0x5FFF`.  A receive call subtracts two from the address of the following slot
without regard to the ring: when the slot that it gives up ends at `0x5FFF`, it writes
`0x1FFE`, which lies outside of the ring and which the head never meets.

In runs in which no slot given up ends there, `ERXTAIL` is where it should be, and a chip that
compares its head with `ERXTAIL` leaves the frames that were not received alone.
-/
import Enc624j600.Init.Run
import Enc624j600.Receive.Operations
import Enc624j600.Receive.Protection

namespace Enc624j600

open Cyclic Interaction

/-- The first address of the slot of the `k`-th frame. -/
def slotStart (c : Chip) (k : ℕ) : ℕ :=
  rxRegion.loc 0x2000 (slotFormat.total (c.deposited.take k))

/-- None of the first `n` slots ends at the end of the ring. -/
def NoSlotEndsRing (n : ℕ) (c : Chip) : Prop := ∀ k < n, slotStart c (k + 1) ≠ 0x2000

/-- `ERXTAIL` is an even address of the ring, two bytes before `next`. -/
structure TailOk (next : ℕ) (c : Chip) : Prop where
  even : 2 ∣ (c.sfr ERXTAIL).toNat
  has : rxRegion.Has (c.sfr ERXTAIL).toNat
  behind : (c.sfr ERXTAIL).toNat = twoBefore next

/-- The addresses that an event stores bytes at. -/
def ChipEvent.cells (c : Chip) : ChipEvent → List ℕ
  | .store bytes => (List.range bytes.length).map fun i => c.rxNext^[i] c.head
  | .deposit f _ => (List.range (8 + f.length)).map fun i => c.rxNext^[i] c.head
  | _ => []

/-- A chip that compares its head with `ERXTAIL` stores no byte where one of the frames from
the `n`-th one on lies. -/
def Spares (n : ℕ) (c : Chip) : Prop :=
  ∀ e, tailGated c e → e.Enabled c → ∀ k f, n ≤ k → c.deposited[k]? = some f →
    ∀ j < 8 + f.length, rxRegion.loc (slotStart c k) j ∉ e.cells c

/-- How many frames were received. -/
def received {ι : Type} (h : List (DriverCall ι ReceiveResult)) : ℕ :=
  h.countP fun c => c.answer = .encReceiveSucceeded

/-- How many frames a receive call has read and given up so far: one from its write of
`ERXTAIL` on. -/
def released (t : List (Event Op Op.Res)) : ℕ :=
  if t.any fun e => IsTailWrite e.1 then 1 else 0

variable {c c' : Chip} {k n s : ℕ} {f : Frame}

lemma slotStart_succ (hf : c.deposited[k]? = some f) :
    slotStart c (k + 1) = rxRegion.loc (slotStart c k) f.slotSize := by
  rw [slotStart, slotStart, Region.loc_loc, List.take_add_one, hf]
  simp

/-- The slots of the frames stored before stay where they are. -/
lemma slotStart_of_le (hp : c.deposited <+: c'.deposited) (hk : k ≤ c.deposited.length) :
    slotStart c' k = slotStart c k := by
  obtain ⟨fs, hfs⟩ := hp
  rw [slotStart, slotStart, ← hfs, List.take_append_of_le_length hk]

lemma slotStart_eq_loc (hk : n ≤ k) : slotStart c k =
    rxRegion.loc (slotStart c n) (slotFormat.total ((c.deposited.drop n).take (k - n))) := by
  have ht : c.deposited.take k = c.deposited.take n ++ (c.deposited.drop n).take (k - n) := by
    obtain ⟨d, rfl⟩ := Nat.exists_eq_add_of_le hk
    rw [Nat.add_sub_cancel_left, List.take_add]
  rw [slotStart, ht, SlotFormat.total_append, ← Region.loc_loc, slotStart]

/-- The slots from the `n`-th one on lie within the bytes that are occupied. -/
lemma le_occupied (hk : n ≤ k) (hf : c.deposited[k]? = some f) :
    slotFormat.total ((c.deposited.drop n).take (k - n)) + f.slotSize ≤ c.occupied n := by
  obtain ⟨d, rfl⟩ := Nat.exists_eq_add_of_le hk
  have hd : (c.deposited.drop n)[d]? = some f := by rw [List.getElem?_drop, hf]
  have hs : c.deposited.drop n =
      (c.deposited.drop n).take d ++ f :: (c.deposited.drop n).drop (d + 1) := by
    have hcons : (c.deposited.drop n).drop d = f :: (c.deposited.drop n).drop (d + 1) := by
      rw [List.drop_eq_getElem?_toList_append (l := c.deposited.drop n), hd]
      rfl
    rw [← hcons, List.take_append_drop]
  rw [Nat.add_sub_cancel_left, Chip.occupied]
  conv_rhs => rw [hs]
  rw [SlotFormat.total_append, SlotFormat.total_cons, slotFormat_size]
  omega

/-! ### From the protection to the claim -/

lemma TailBehind.ok (hr : Ring k s c) (ht : TailBehind k s c) : TailOk s c := by
  have heven : 2 ∣ twoBefore s := Region.dvd_loc (by decide) (by decide) hr.even (by decide)
  refine ⟨?_, ?_, ht.erxtail⟩
  · rw [ht.erxtail]
    exact heven
  · rw [ht.erxtail]
    exact Region.has_loc

lemma TailBehind.spares (hr : Ring n (slotStart c n) c) (ht : TailBehind n (slotStart c n) c) :
    Spares n c := by
  intro e hE _ k f hk hf j hj hmem
  have hocc := le_occupied hk hf
  have hle := f.le_slotSize
  -- the bytes stored lie behind the occupied ones, and before the tail
  have hfree : ∀ m i, i < m → c.occupied n + m + 2 ≤ rxRegion.size →
      c.rxNext^[i] c.head ≠ rxRegion.loc (slotStart c k) j := by
    intro m i hi hm he
    rw [hr.next_head, hr.head_eq, slotStart_eq_loc hk, Region.loc_loc, Region.loc_loc] at he
    have := Region.loc_inj (by omega) (by omega) he
    omega
  cases e with
  | store bytes =>
    obtain ⟨i, hi, he⟩ := List.mem_map.1 hmem
    exact hfree _ i (List.mem_range.1 hi) (ht.room hr hE) he
  | deposit g rsv =>
    obtain ⟨i, hi, he⟩ := List.mem_map.1 hmem
    exact hfree _ i (List.mem_range.1 hi) (ht.room hr hE) he
  | _ => simp [ChipEvent.cells] at hmem

/-! ### Runs -/

/-- A run in which no slot given up ended the ring. -/
structure Tidy {ι : Type} (h : List (DriverCall ι ReceiveResult)) (v : World) : Prop where
  ready : ∃ m, Ready TailBehind (received h) (slotStart v.chip (received h)) m v
  noSlot : NoSlotEndsRing (received h) v.chip
  tails : ∀ c ∈ h, TailOk c.after.nextReceiveFramePointer.toNat c.after.chip

/-- A run in which a slot that was given up ended the ring. -/
structure Astray {ι : Type} (h : List (DriverCall ι ReceiveResult)) (v : World) : Prop where
  awake : v.chip.Awake
  slot : ∃ k < received h, k + 1 ≤ v.chip.deposited.length ∧ slotStart v.chip (k + 1) = 0x2000
  tail : ∃ c ∈ h, ¬ TailOk c.after.nextReceiveFramePointer.toNat c.after.chip

section Runs

variable {ι : Type} {h : List (DriverCall ι ReceiveResult)} {v u : World}

lemma received_snoc (h : List (DriverCall ι ReceiveResult)) (c : DriverCall ι ReceiveResult) :
    received (h ++ [c]) = received h + if c.answer = .encReceiveSucceeded then 1 else 0 := by
  simp [received, List.countP_append, List.countP_singleton]

lemma stable_deposited {E : Surroundings} {fs : List Frame} :
    Stable E.rely fun w => w.chip.Awake ∧ fs <+: w.chip.deposited := by
  rintro w _ ⟨ha, hd⟩ ⟨e, -, he, rfl⟩
  exact ⟨(ChipEvent.undisturbed ha he).awake ha, hd.trans (deposited_le_apply ha he)⟩

/-- The run goes on while frames are only added. -/
lemma Tidy.of_ready (ht : Tidy h v) {m : List Stored}
    (hr : Ready TailBehind (received h) (slotStart v.chip (received h)) m u)
    (hp : v.chip.deposited <+: u.chip.deposited) : Tidy h u := by
  obtain ⟨m', hv⟩ := ht.ready
  refine ⟨⟨m, ?_⟩, ?_, ht.tails⟩
  · rw [slotStart_of_le hp hv.ring.le]
    exact hr
  · intro k hk
    have hle := hv.ring.le
    rw [slotStart_of_le hp (by omega)]
    exact ht.noSlot k hk

lemma stable_tidy : Stable tailGated.rely (Tidy h) := by
  intro v u ht hR
  obtain ⟨m, hv⟩ := ht.ready
  exact ht.of_ready (stable_ready protection_tailGated v u hv hR)
    (stable_deposited v u ⟨hv.awake, List.prefix_rfl⟩ hR).2

lemma Astray.of_prefix (ht : Astray h v) (ha : u.chip.Awake)
    (hp : v.chip.deposited <+: u.chip.deposited) : Astray h u := by
  obtain ⟨k, hk, hle, hs⟩ := ht.slot
  refine ⟨ha, ⟨k, hk, hle.trans hp.length_le, ?_⟩, ht.tail⟩
  rw [slotStart_of_le hp hle, hs]

lemma stable_astray {E : Surroundings} : Stable E.rely (Astray h) := by
  intro v u ht hR
  obtain ⟨ha, hp⟩ := stable_deposited v u ⟨ht.awake, List.prefix_rfl⟩ hR
  exact ht.of_prefix ha hp

/-- One call after a run in which no slot ended the ring. -/
lemma Tidy.call {c : DriverCall ι ReceiveResult} (ht : Tidy h c.before)
    (hc : Returns machine tailGated.rely receiveCall c.before c.trace c.answer c.after) :
    Tidy (h ++ [c]) c.after ∨ Astray (h ++ [c]) c.after := by
  obtain ⟨m, hv⟩ := ht.ready
  obtain ⟨ha, hp⟩ :=
    (triple_receive_deposited _).returns ⟨hv.awake, List.prefix_rfl⟩ hc
  rcases (triple_receiveCall protection_tailGated).returns hv hc with ⟨hans, hr⟩ | ⟨hans, f, hr⟩
  · -- no frame was pending
    have hrec : received (h ++ [c]) = received h := by simp [received_snoc, hans]
    have ht' := ht.of_ready hr hp
    refine Or.inl ⟨?_, ?_, ?_⟩
    · rw [hrec]
      exact ht'.ready
    · rw [hrec]
      exact ht'.noSlot
    · intro d hd
      rcases List.mem_append.1 hd with hd | hd
      · exact ht.tails d hd
      · rw [List.mem_singleton.1 hd, hr.next]
        exact hr.protected_.ok hr.ring
  · -- a frame was handed over
    have hrec : received (h ++ [c]) = received h + 1 := by simp [received_snoc, hans]
    have hstart : slotStart c.after.chip (received h) = slotStart c.before.chip (received h) :=
      slotStart_of_le hp hv.ring.le
    have hnext : slotStart c.after.chip (received h + 1) =
        rxRegion.loc (slotStart c.before.chip (received h)) f.slotSize := by
      rw [slotStart_succ hr.frame, hstart]
    by_cases hg : slotStart c.after.chip (received h + 1) = 0x2000
    · obtain ⟨hk, -⟩ := List.getElem?_eq_some_iff.1 hr.frame
      refine Or.inr ⟨ha, ⟨received h, by omega, hk, hg⟩, c, by simp, ?_⟩
      intro hok
      have hhas := hok.has
      rw [hr.erxtail, ← hnext, hg] at hhas
      exact absurd hhas (by simp [Region.Has])
    · have hgood : rxRegion.loc (slotStart c.before.chip (received h)) f.slotSize ≠ 0x2000 := by
        rwa [← hnext]
      have hr' := hr.ready hgood
      refine Or.inl ⟨⟨m ++ delivery f, ?_⟩, ?_, ?_⟩
      · rw [hrec, hnext]
        exact hr'
      · intro k hk
        rw [hrec] at hk
        rcases Nat.lt_succ_iff_lt_or_eq.1 hk with hk | rfl
        · have hle := hv.ring.le
          rw [slotStart_of_le hp (by omega)]
          exact ht.noSlot k hk
        · exact hg
      · intro d hd
        rcases List.mem_append.1 hd with hd | hd
        · exact ht.tails d hd
        · rw [List.mem_singleton.1 hd, hr'.next]
          exact hr'.protected_.ok hr'.ring

lemma Astray.call {c : DriverCall ι ReceiveResult} (ht : Astray h c.before)
    (hc : Returns machine tailGated.rely receiveCall c.before c.trace c.answer c.after) :
    Astray (h ++ [c]) c.after := by
  obtain ⟨ha, hp⟩ :=
    (triple_receive_deposited _).returns ⟨ht.awake, List.prefix_rfl⟩ hc
  have ht' := ht.of_prefix ha hp
  obtain ⟨k, hk, hle, hs⟩ := ht'.slot
  obtain ⟨d, hd, hd'⟩ := ht.tail
  refine ⟨ha, ⟨k, ?_, hle, hs⟩, d, by simp [hd], hd'⟩
  rw [received_snoc]
  omega

/-- Every run is of one of the two kinds. -/
lemma tidy_or_astray {config : Config} {w₀ : World}
    (hrun : Running tailGated config (fun _ : ι => receiveCall) w₀ h v) :
    Tidy h v ∨ Astray h v := by
  refine hrun.invariant (J := fun h v => Tidy h v ∨ Astray h v) ?_ ?_ ?_
  · intro t w hp hi
    have hw := (triple_init_ready protection_tailGated).returns (unasked_self hp) hi
    exact Or.inl ⟨⟨w.stored, hw⟩, fun k hk => absurd hk (Nat.not_lt_zero k), by simp⟩
  · rintro h v u (ht | ht) hR
    · exact Or.inl (stable_tidy v u ht hR)
    · exact Or.inr (stable_astray v u ht hR)
  · rintro h c (ht | ht) hc
    · exact ht.call hc
    · exact Or.inr (ht.call hc)

/-! ### Inside a call -/

lemma released_snoc (t : List (Event Op Op.Res)) (e : Event Op Op.Res) :
    released (t ++ [e]) = if IsTailWrite e.1 then 1 else released t := by
  by_cases h : IsTailWrite e.1
  · simp [released, h]
  · have hany : ((t ++ [e]).any fun e => decide (IsTailWrite e.1)) =
        t.any fun e => decide (IsTailWrite e.1) := by
      simp only [List.any_append, List.any_cons, List.any_nil, decide_eq_false h, Bool.or_false]
    rw [released, hany, if_neg h, released]

/-- A receive call that began at `v` with `k` frames received, the following one at `s`, and
that has performed `t`. -/
structure Midway (v : World) (k s : ℕ) (t : List (Event Op Op.Res)) (u : World) : Prop where
  awake : u.chip.Awake
  deposited : v.chip.deposited <+: u.chip.deposited
  held : released t = 0 → Ring k s u.chip ∧ TailBehind k s u.chip
  given : released t ≠ 0 → ∃ f, u.chip.deposited[k]? = some f ∧
    (rxRegion.loc s f.slotSize ≠ 0x2000 → Ring (k + 1) (rxRegion.loc s f.slotSize) u.chip ∧
      TailBehind (k + 1) (rxRegion.loc s f.slotSize) u.chip)

lemma stable_midway {t : List (Event Op Op.Res)} : Stable tailGated.rely (Midway v k s t) := by
  rintro u _ hu ⟨e, hE, he, rfl⟩
  refine ⟨(ChipEvent.undisturbed hu.awake he).awake hu.awake,
    hu.deposited.trans (deposited_le_apply hu.awake he), ?_, ?_⟩
  · intro ht
    obtain ⟨hr, htl⟩ := hu.held ht
    exact protection_tailGated.apply hu.awake hr htl hE he
  · intro ht
    obtain ⟨f, hf, hg⟩ := hu.given ht
    refine ⟨f, getElem?_deposited hu.awake he hf, fun hne => ?_⟩
    obtain ⟨hr, htl⟩ := hg hne
    exact protection_tailGated.apply hu.awake hr htl hE he

/-- One operation of the call: all but the write of `ERXTAIL` leave the ring and the tail
alone, and that one gives up the slot. -/
lemma Midway.op {t : List (Event Op Op.Res)} {u' : World} {o : Op} {r : o.Res}
    (hu : Midway v k s t u) (hs : machine.step u o r u') (ho : IsReceiveOp o)
    (hw : TailWrite k s u o r u') : Midway v k s (t ++ [⟨o, r⟩]) u' := by
  have he := receiveEffect ho hu.awake.por hs
  have hawake : u'.chip.Awake :=
    ⟨he.por.trans hu.awake.por, he.resetPending.trans hu.awake.resetPending⟩
  have hring : ∀ {i a}, Ring i a u.chip → Ring i a u'.chip := fun hr =>
    hr.congr_memory he.sram he.deposited (he.sfr _ (by decide)) (he.sfr _ (by decide))
  refine ⟨hawake, by rw [he.deposited]; exact hu.deposited, ?_, ?_⟩
  -- the slot is still held, so this operation was not the write of `ERXTAIL`
  · intro ht
    rw [released_snoc] at ht
    split at ht
    · cases ht
    · rename_i hno
      obtain ⟨hr, htl⟩ := hu.held ht
      refine ⟨hring hr, ⟨by rw [he.kept hno]; exact htl.erxtail, ?_⟩⟩
      rw [Chip.occupied, he.deposited]
      exact htl.occupied
  · intro ht
    rw [released_snoc] at ht
    by_cases hno : IsTailWrite o
    -- this operation gives the slot up, for the first time or once more
    · obtain ⟨x, rfl⟩ := hno
      obtain ⟨f, hf, rfl⟩ := hw x rfl
      refine ⟨f, by rw [he.deposited]; exact hf, fun hne => ?_⟩
      have hnew : Ring (k + 1) (rxRegion.loc s f.slotSize) u.chip ∧
          u.chip.occupied (k + 1) + 2 ≤ rxRegion.size := by
        by_cases h0 : released t = 0
        · obtain ⟨hr, htl⟩ := hu.held h0
          exact ⟨hr.tail hf,
            (Nat.add_le_add_right (occupied_mono _ (Nat.le_succ k)) 2).trans htl.occupied⟩
        · obtain ⟨f', hf', hg⟩ := hu.given h0
          obtain rfl : f' = f := Option.some.inj (hf'.symm.trans hf)
          exact ⟨(hg hne).1, (hg hne).2.occupied⟩
      refine ⟨hring hnew.1, ⟨?_, ?_⟩⟩
      · rw [he.erxtail _ rfl]
        exact toNat_tail hnew.1.has hnew.1.even hne
      · rw [Chip.occupied, he.deposited]
        exact hnew.2
    · rw [if_neg hno] at ht
      obtain ⟨f, hf, hg⟩ := hu.given ht
      refine ⟨f, by rw [he.deposited]; exact hf, fun hne => ?_⟩
      obtain ⟨hr, htl⟩ := hg hne
      refine ⟨hring hr, ⟨by rw [he.kept hno]; exact htl.erxtail, ?_⟩⟩
      rw [Chip.occupied, he.deposited]
      exact htl.occupied

lemma Tidy.midway (ht : Tidy h v) {t : List (Event Op Op.Res)} {q : Driver ReceiveResult}
    (hr : Reach machine tailGated.rely receiveCall v t q u) :
    Midway v (received h) (slotStart v.chip (received h)) t u := by
  obtain ⟨m, hv⟩ := ht.ready
  refine Triple.always ((triple_receiveCall protection_tailGated).both
    (triple_receive_deposited v.chip.deposited)) ⟨hv, hv.awake, List.prefix_rfl⟩ ?_
    (fun t => stable_midway) ?_ hr
  · exact ⟨hv.awake, List.prefix_rfl, fun _ => ⟨hv.ring, hv.protected_⟩,
      fun h0 => absurd rfl h0⟩
  · exact fun t u o r u' hu hs hG => hu.op hs hG.2 hG.1

lemma receive_reach_deposited {E : Surroundings} {t : List (Event Op Op.Res)}
    {q : Driver ReceiveResult} (ha : v.chip.Awake) (hr : Reach machine E.rely receiveCall v t q u) :
    u.chip.Awake ∧ v.chip.deposited <+: u.chip.deposited := by
  refine Triple.always (J := fun _ u => u.chip.Awake ∧ v.chip.deposited <+: u.chip.deposited)
    (triple_receive_deposited v.chip.deposited) ⟨ha, List.prefix_rfl⟩ ⟨ha, List.prefix_rfl⟩
    (fun _ => stable_deposited) ?_ hr
  rintro t w o r w' ⟨hw, hd⟩ hs ho
  have he := receiveEffect ho hw.por hs
  refine ⟨⟨he.por.trans hw.por, he.resetPending.trans hw.resetPending⟩, ?_⟩
  rw [he.deposited]
  exact hd

/-! ### The tail invariant -/

/-- As long as no slot given up ended the ring, the frames that were not received lie in the
ring and `ERXTAIL` is behind them, also in the middle of a further call. -/
lemma tailBehind_of_running {config : Config} {w₀ : World}
    (hrun : Running tailGated config (fun _ : ι => receiveCall) w₀ h v)
    {t : List (Event Op Op.Res)} {q : Driver ReceiveResult}
    (hr : Reach machine tailGated.rely receiveCall v t q u)
    (hno : NoSlotEndsRing (received h + released t) u.chip) :
    Ring (received h + released t) (slotStart u.chip (received h + released t)) u.chip ∧
      TailBehind (received h + released t) (slotStart u.chip (received h + released t)) u.chip := by
  rcases tidy_or_astray hrun with ht | ht
  · obtain ⟨m, hv⟩ := ht.ready
    have hu := ht.midway hr
    have hstart := slotStart_of_le hu.deposited hv.ring.le
    -- a call gives up at most one slot
    by_cases h0 : released t = 0
    · rw [h0, Nat.add_zero, hstart]
      exact hu.held h0
    · have h1 : released t = 1 := by
        unfold released at h0 ⊢
        split at h0
        · rename_i hany
          rw [if_pos hany]
        · exact absurd rfl h0
      obtain ⟨f, hf, hg⟩ := hu.given h0
      rw [h1] at hno ⊢
      have hnext := slotStart_succ hf
      rw [hstart] at hnext
      rw [hnext]
      exact hg (hnext ▸ hno _ (Nat.lt_succ_self _))
  -- once astray, a slot that ended the ring is on record, against the hypothesis
  · obtain ⟨k, hk, hle, hs⟩ := ht.slot
    obtain ⟨-, hp⟩ := receive_reach_deposited ht.awake hr
    refine absurd ?_ (hno k (by omega))
    rw [slotStart_of_le hp hle, hs]

/-- **`ERXTAIL` follows the ring exactly as long as no slot given up ends it.** The tail is in
place after every call if and only if no slot of a received frame ended at `0x5FFF`.  As long
as this is so, it is in place in every state inside a further call as well, and a chip that
compares its head with `ERXTAIL` stores no byte where a counted frame lies that was not
received. -/
theorem erxtail_follows_ring {config : Config} {w₀ : World}
    (hrun : Running tailGated config (fun _ : ι => receiveCall) w₀ h v) :
    ((∀ c ∈ h, TailOk c.after.nextReceiveFramePointer.toNat c.after.chip) ↔
      NoSlotEndsRing (received h) v.chip) ∧
    (NoSlotEndsRing (received h) v.chip →
      v.nextReceiveFramePointer.toNat = slotStart v.chip (received h)) ∧
    ∀ t q u, Reach machine tailGated.rely receiveCall v t q u →
      NoSlotEndsRing (received h + released t) u.chip →
        TailOk (slotStart u.chip (received h + released t)) u.chip ∧
          Spares (received h + released t) u.chip := by
  have hinside : ∀ t q u, Reach machine tailGated.rely receiveCall v t q u →
      NoSlotEndsRing (received h + released t) u.chip →
        TailOk (slotStart u.chip (received h + released t)) u.chip ∧
          Spares (received h + released t) u.chip := by
    intro t q u hr hno
    obtain ⟨hring, htail⟩ := tailBehind_of_running hrun hr hno
    exact ⟨htail.ok hring, htail.spares hring⟩
  rcases tidy_or_astray hrun with ht | ht
  · obtain ⟨m, hv⟩ := ht.ready
    exact ⟨⟨fun _ => ht.noSlot, fun _ => ht.tails⟩, fun _ => hv.next, hinside⟩
  · obtain ⟨k, hk, -, hs⟩ := ht.slot
    have hno : ¬ NoSlotEndsRing (received h) v.chip := fun hn => hn k hk hs
    obtain ⟨c, hc, hbad⟩ := ht.tail
    exact ⟨⟨fun hall => absurd (hall c hc) hbad, fun hn => absurd hn hno⟩,
      fun hn => absurd hn hno, hinside⟩

end Runs

/-! ### Runs with given frames -/

section Stages

variable {v : World} {h : List (DriverCall Unit ReceiveResult)} {fs : List Frame}

/-- A frame of 1016 bytes, whose slot takes 1024. -/
def kilobyte : Frame where
  destination := List.replicate 6 0xFF#8
  source := List.replicate 6 0x02#8
  lengthType := List.replicate 2 0x08#8
  payload := List.replicate 998 0x00#8
  fcs := List.replicate 4 0x00#8
  length_destination := rfl
  length_source := rfl
  length_lengthType := rfl
  length_fcs := rfl

lemma kilobyte_length : kilobyte.length = 1016 := by
  rw [Frame.length_eq, kilobyte, List.length_replicate]

lemma kilobyte_slotSize : kilobyte.slotSize = 1024 := by rw [Frame.slotSize, kilobyte_length]

/-- A frame of the minimal length. -/
def shortest : Frame := { kilobyte with payload := List.replicate 46 0#8 }

lemma shortest_length : shortest.length = 64 := by
  rw [Frame.length_eq, shortest, List.length_replicate]

lemma shortest_slotSize : shortest.slotSize = 72 := by rw [Frame.slotSize, shortest_length]

/-- A frame of 1518 bytes. -/
def longest : Frame := { kilobyte with payload := List.replicate 1500 0#8 }

lemma longest_length : longest.length = 1518 := by
  rw [Frame.length_eq, longest, List.length_replicate]

lemma longest_slotSize : longest.slotSize = 1526 := by rw [Frame.slotSize, longest_length]

/-- A run after which the chip has stored the frames `fs`, and in which no slot that was given
up ended the ring. -/
structure Stage (h : List (DriverCall Unit ReceiveResult)) (fs : List Frame) (v : World) :
    Prop where
  running : Running tailGated plainConfig (fun _ : Unit => receiveCall) powered h v
  noSlot : NoSlotEndsRing (received h) v.chip
  deposited : v.chip.deposited = fs
  receiving : v.chip.Receiving

/-- After the initialisation. -/
lemma exists_stage : ∃ v, Stage [] [] v := by
  obtain ⟨v, hrun, hb⟩ := exists_running (E := tailGated) (fun c e he => by
    cases e <;> trivial) fun _ : Unit => receiveCall
  obtain ⟨g, estat, hi⟩ := hb.initialised
  exact ⟨v, hrun, fun k hk => absurd hk (Nat.not_lt_zero k), hb.deposited, hi.receiving⟩

lemma Stage.ready (hv : Stage h fs v) :
    ∃ m, Ready TailBehind (received h) (slotStart v.chip (received h)) m v := by
  rcases tidy_or_astray hv.running with ht | ht
  · exact ht.ready
  · obtain ⟨k, hk, -, hs⟩ := ht.slot
    exact absurd hs (hv.noSlot k hk)

lemma Stage.occupied (hv : Stage h fs v) :
    v.chip.occupied (received h) = slotFormat.total (fs.drop (received h)) := by
  rw [Chip.occupied, hv.deposited]

/-- A frame that finds room is stored. -/
lemma Stage.deposit (hv : Stage h fs v)
    (hroom : slotFormat.total (fs.drop (received h)) + f.slotSize + 2 ≤ rxRegion.size)
    (hcount : fs.length < received h + 255) : ∃ u, Stage h (fs ++ [f]) u := by
  obtain ⟨m, hr⟩ := hv.ready
  have hle := f.le_slotSize
  have hgate : tailGated v.chip (.deposit f (List.replicate 4 0#8)) :=
    hr.protected_.avoids hr.ring (by rw [hv.occupied]; omega)
  obtain ⟨hstep, hrx⟩ := hr.tally.deposit hv.receiving (hv.deposited ▸ hcount) rfl hgate
  refine ⟨_, hv.running.env hstep, ?_, ?_, hrx⟩
  · intro k hk
    have hlen := hr.ring.le
    rw [slotStart_of_le (List.prefix_append ..) (by omega)]
    exact hv.noSlot k hk
  · rw [← hv.deposited]
    rfl

/-- A list of frames that finds room is stored. -/
lemma Stage.deposits (hv : Stage h fs v) (gs : List Frame)
    (hroom : slotFormat.total (fs.drop (received h)) + slotFormat.total gs + 2 ≤ rxRegion.size)
    (hcount : fs.length + gs.length ≤ received h + 255) : ∃ u, Stage h (fs ++ gs) u := by
  induction gs generalizing fs v with
  | nil => exact ⟨v, by rwa [List.append_nil]⟩
  | cons g gs ih =>
    rw [SlotFormat.total_cons, slotFormat_size] at hroom
    rw [List.length_cons] at hcount
    obtain ⟨m, hr⟩ := hv.ready
    have hle := hr.ring.le
    rw [hv.deposited] at hle
    obtain ⟨u, hu⟩ := hv.deposit (f := g) (by omega) (by omega)
    obtain ⟨x, hx⟩ := ih hu (by
      rw [List.drop_append_of_le_length hle, SlotFormat.total_append, SlotFormat.total_cons,
        slotFormat_size, SlotFormat.total_nil]
      omega) (by simp; omega)
    exact ⟨x, by rwa [List.append_assoc] at hx⟩

/-- The next frame is received. -/
lemma Stage.exists_call (hv : Stage h fs v) (hf : fs[received h]? = some f) :
    ∃ c m, Running tailGated plainConfig (fun _ : Unit => receiveCall) powered (h ++ [c])
        c.after ∧ c.answer = .encReceiveSucceeded ∧ c.after.chip.deposited = fs ∧
      c.after.chip.Receiving ∧ ∀ (T : ℕ → ℕ → Chip → Prop) (Good : ℕ → Prop),
        Protection still T Good → T (received h) (slotStart v.chip (received h)) v.chip →
          Released T Good (received h) (slotStart v.chip (received h)) f m (received h + 1)
            c.after := by
  obtain ⟨m, hr⟩ := hv.ready
  have hf' : v.chip.deposited[received h]? = some f := by rw [hv.deposited, hf]
  obtain ⟨t, a, x, hx⟩ := exists_receive still.rely v
  obtain ⟨hd, hrx⟩ := receive_alone not_rely_still hr.awake hx
  have hcall : ∀ (T : ℕ → ℕ → Chip → Prop) (Good : ℕ → Prop), Protection still T Good →
      T (received h) (slotStart v.chip (received h)) v.chip → a = .encReceiveSucceeded ∧
        Released T Good (received h) (slotStart v.chip (received h)) f m (received h + 1) x := by
    intro T Good hT ht
    have hready : Ready T (received h) (slotStart v.chip (received h)) m v :=
      ⟨hr.awake, hr.ring, ht, hr.counted, hr.delivered, hr.next, hr.stored⟩
    exact (triple_receiveCall_pending hT).returns ⟨hready, hf'⟩ hx
  have hans := (hcall _ _ (protection_tailGated.mono fun _ _ h => h.elim) hr.protected_).1
  exact ⟨⟨(), v, t, a, x⟩, m,
    hv.running.call (hx.mono fun w w' h => absurd h (not_rely_still w w')), hans,
    hd.trans hv.deposited, hrx.2 hv.receiving, fun T Good hT ht => (hcall T Good hT ht).2⟩

/-- The next frame is received, and its slot does not end the ring. -/
lemma Stage.receive (hv : Stage h fs v) (hlt : received h < fs.length)
    (hno : rxRegion.loc 0x2000 (slotFormat.total (fs.take (received h + 1))) ≠ 0x2000) :
    ∃ h' u, Stage h' fs u ∧ received h' = received h + 1 := by
  obtain ⟨c, -, hrun, hans, hd, hrx, -⟩ := hv.exists_call (List.getElem?_eq_getElem hlt)
  have hrec : received (h ++ [c]) = received h + 1 := by rw [received_snoc, if_pos hans]
  refine ⟨h ++ [c], c.after, ⟨hrun, fun k hk => ?_, hd, hrx⟩, hrec⟩
  rw [hrec] at hk
  rw [slotStart, hd]
  rcases Nat.lt_succ_iff_lt_or_eq.1 hk with hk | rfl
  · have hprev := hv.noSlot k hk
    rwa [slotStart, hv.deposited] at hprev
  · exact hno

/-- As many of the stored frames are received as do not end the ring. -/
lemma Stage.receives (hv : Stage h fs v) {n : ℕ} (hn : received h ≤ n) (hle : n ≤ fs.length)
    (hno : ∀ k < n, rxRegion.loc 0x2000 (slotFormat.total (fs.take (k + 1))) ≠ 0x2000) :
    ∃ h' u, Stage h' fs u ∧ received h' = n := by
  induction n, hn using Nat.le_induction with
  | base => exact ⟨h, v, hv, rfl⟩
  | succ n hn ih =>
    obtain ⟨h', u, hu, hrec⟩ := ih (by omega) fun k hk => hno k (by omega)
    rw [← hrec]
    exact hu.receive (by omega) (hrec ▸ hno n (Nat.lt_succ_self n))

lemma total_replicate (k : ℕ) : slotFormat.total (List.replicate k kilobyte) = 1024 * k := by
  rw [SlotFormat.total, List.map_replicate, List.sum_replicate, slotFormat_size,
    kilobyte_slotSize]
  simp [Nat.mul_comm]

/-- The slots of the first fifteen such frames do not end the ring. -/
lemma loc_replicate_ne {k n : ℕ} (hk : k < n) (hn : n ≤ 15) : rxRegion.loc 0x2000
    (slotFormat.total ((List.replicate n kilobyte).take (k + 1))) ≠ 0x2000 := by
  rw [List.take_replicate, total_replicate, Nat.min_eq_left (by omega),
    Region.loc_of_lt (by simp) (by simp; omega)]
  omega

/-- Frames of 1016 bytes arrive and are received, one by one.  After fifteen of them, the next
slot starts at `0x5C00`. -/
lemma exists_lap {k : ℕ} (hk : k ≤ 15) :
    ∃ h v, Stage h (List.replicate k kilobyte) v ∧ received h = k := by
  induction k with
  | zero =>
    obtain ⟨v, hv⟩ := exists_stage
    exact ⟨[], v, hv, rfl⟩
  | succ k ih =>
    obtain ⟨h, v, hv, hrec⟩ := ih (by omega)
    obtain ⟨u, hu⟩ := hv.deposit (f := kilobyte) (by
      rw [hrec, List.drop_eq_nil_of_le (by simp), kilobyte_slotSize]
      decide) (by rw [hrec, List.length_replicate]; omega)
    rw [← List.replicate_succ'] at hu
    exact hu.receives (by omega) (by simp) fun j hj => loc_replicate_ne hj hk

theorem erxtail_follows_ring_lap : ∃ h v, Running tailGated plainConfig
    (fun _ : Unit => receiveCall) powered h v ∧ received h = 15 ∧
      (∀ c ∈ h, TailOk c.after.nextReceiveFramePointer.toNat c.after.chip) ∧
        TailOk (slotStart v.chip 15) v.chip ∧ Spares 15 v.chip := by
  obtain ⟨h, v, hv, hrec⟩ := exists_lap le_rfl
  obtain ⟨hiff, -, hinside⟩ := erxtail_follows_ring hv.running
  obtain ⟨hok, hsp⟩ := hinside [] _ v .refl hv.noSlot
  rw [show received h + released [] = 15 from hrec] at hok hsp
  exact ⟨h, v, hv.running, hrec, hiff.2 hv.noSlot, hok, hsp⟩

/-- Sixteen such frames, each received before the next one arrives. -/
lemma exists_full_lap : ∃ h v, Running tailGated plainConfig (fun _ : Unit => receiveCall)
    powered h v ∧ received h = 16 ∧ v.chip.deposited = List.replicate 16 kilobyte ∧
      v.chip.Receiving ∧ ∃ m, Released Unreleased (fun _ => True) 15 0x5C00 kilobyte m 16 v := by
  obtain ⟨h, v, hv, hrec⟩ := exists_lap (k := 15) le_rfl
  obtain ⟨u, hu⟩ := hv.deposit (f := kilobyte) (by
    rw [hrec, List.drop_eq_nil_of_le (by simp), kilobyte_slotSize]
    decide) (by rw [hrec, List.length_replicate]; omega)
  rw [← List.replicate_succ'] at hu
  obtain ⟨m, hr⟩ := hu.ready
  have hstart : slotStart u.chip 15 = 0x5C00 := by
    rw [slotStart, hu.deposited, List.take_replicate, total_replicate]
    decide
  obtain ⟨c, m, hrun, hans, hd, hrx, hrel⟩ := hu.exists_call (f := kilobyte) (by
    rw [hrec]
    rfl)
  have hm := hrel Unreleased (fun _ => True) (protection_sparing fun _ _ h => h.elim)
    hr.delivered.le
  rw [hrec, hstart] at hm
  exact ⟨h ++ [c], c.after, hrun, by rw [received_snoc, if_pos hans, hrec], hd, hrx, m, hm⟩

/-- **The tail leaves the ring.** Sixteen frames of 1016 bytes, each received before the next
one arrives, fill the ring exactly once; after the last call `ERXTAIL` holds `0x1FFE`. -/
theorem erxtail_leaves_ring : ∃ h v, Running tailGated plainConfig (fun _ : Unit => receiveCall)
    powered h v ∧ v.chip.deposited = List.replicate 16 kilobyte ∧
      v.nextReceiveFramePointer = 0x2000#16 ∧ v.chip.sfr ERXTAIL = 0x1FFE#16 ∧
        ¬ TailOk v.nextReceiveFramePointer.toNat v.chip := by
  obtain ⟨h, v, hrun, -, hd, -, m, hrel⟩ := exists_full_lap
  have hloc : rxRegion.loc 0x5C00 kilobyte.slotSize = 0x2000 := by
    rw [kilobyte_slotSize]
    decide
  have htail : v.chip.sfr ERXTAIL = 0x1FFE#16 := by
    rw [hrel.erxtail, hloc]
    decide
  have hnext : v.nextReceiveFramePointer = 0x2000#16 := by rw [hrel.next, hloc]
  refine ⟨h, v, hrun, hd, hnext, htail, ?_⟩
  intro hok
  have hhas := hok.has
  rw [htail] at hhas
  exact absurd hhas (by simp [Region.Has])

end Stages

end Enc624j600
