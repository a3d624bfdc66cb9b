/-
# The pause watermark

With automatic flow control the chip asks its peer to pause when the receive buffer holds more
bytes than the upper threshold in `ERXWM` says.  The initialisation sets it to 16320 bytes.  A
frame of the maximal length needs 1526 bytes, and two bytes of the ring always stay free: from
14857 occupied bytes on there are frames that find no room although the peer was not asked to
pause.
-/
import Enc624j600.Receive.Buffer
import Enc624j600.Receive.Registers

namespace Enc624j600

open Cyclic Interaction

/-- The number of occupied bytes above which the chip asks its peer to pause: the upper byte of
`ERXWM`, in units of 96 bytes. -/
def Chip.pauseThreshold (c : Chip) : ℕ := 96 * (msb (c.sfr ERXWM)).toNat

/-- The chip can store `n` bytes from the head on without writing at `ERXTAIL`. -/
def Chip.Room (c : Chip) (n : ℕ) : Prop :=
  ∀ i < n, c.rxNext^[i] c.head ≠ (c.sfr ERXTAIL).toNat

instance (c : Chip) (n : ℕ) : Decidable (c.Room n) :=
  inferInstanceAs (Decidable (∀ i < n, _ ≠ _))

section Room

variable {c : Chip} {k s n : ℕ} {f : Frame}

/-- The bytes from the head up to `ERXTAIL` are those that no frame occupies, but for two. -/
lemma TailBehind.room_iff (ht : TailBehind k s c) (hr : Ring k s c) :
    c.Room n ↔ c.occupied k + n + 2 ≤ rxRegion.size :=
  ⟨ht.room hr, ht.avoids hr⟩

/-- What the chip takes after the initialisation, when huge frames are not configured. -/
lemma RegistersOf.admits_iff {g : Shadow} {config : Config} {estat : Word} {w : World}
    (h : RegistersOf ((g.beforeEnable config).duplex estat) w) (hc : config.macHugeFrame ≠ 1#1) :
    Admits w.chip f ↔ 64 ≤ f.length ∧ f.length ≤ 1518 := by
  have hrunt : w.chip.sfr ERXFCON &&& RUNTEN ≠ 0#16 := by
    rw [h.erxfcon (by decide)]
    decide
  have hhuge : w.chip.sfr MACON2 &&& HFRMEN = 0#16 := by
    rw [h.macon2 (by decide), if_neg hc]
    decide
  have hlimit : (w.chip.sfr MAMXFL).toNat = 1518 := by
    rw [h.mamxfl]
    rfl
  constructor
  · intro ha
    exact ⟨ha.runt hrunt, hlimit ▸ ha.limit hhuge⟩
  · rintro ⟨h1, h2⟩
    exact ⟨fun _ => h1, fun _ => hlimit ▸ h2⟩

lemma RegistersOf.pauseThreshold {g : Shadow} {config : Config} {estat : Word} {w : World}
    (h : RegistersOf ((g.beforeEnable config).duplex estat) w) :
    w.chip.pauseThreshold = 16320 := by
  rw [Chip.pauseThreshold, h.erxwm]
  rfl

end Room

section Runs

variable {ι : Type} {config : Config} {w₀ v u : World} {h : List (DriverCall ι ReceiveResult)}

/-- **The room that the watermark leaves.** In every state of a run without huge frames in which
no slot given up ended the ring, the chip admits the frames of 64 to 1518 bytes, and each of them
finds room if and only if at most 14856 bytes are occupied; the peer is asked to pause only above
16320. -/
theorem pause_watermark_room (hc : config.macHugeFrame ≠ 1#1)
    (hrun : Running tailGated config (fun _ : ι => receiveCall) w₀ h v)
    {t : List (Event Op Op.Res)} {q : Driver ReceiveResult}
    (hr : Reach machine tailGated.rely receiveCall v t q u)
    (hno : NoSlotEndsRing (received h + released t) u.chip) :
    u.chip.pauseThreshold = 16320 ∧
      (∀ f, Admits u.chip f ↔ 64 ≤ f.length ∧ f.length ≤ 1518) ∧
        ((∀ f, Admits u.chip f → u.chip.Room f.slotSize) ↔
          u.chip.occupied (received h + released t) ≤ 14856) := by
  obtain ⟨g, estat, hv⟩ := hrun.registersOf
  have hu := hv.reach hr
  obtain ⟨hring, htail⟩ := tailBehind_of_running hrun hr hno
  refine ⟨hu.pauseThreshold, fun f => hu.admits_iff hc, ?_, ?_⟩
  · intro hall
    have hroom := hall longest ((hu.admits_iff hc).2 (by rw [longest_length]; decide))
    rw [htail.room_iff hring, longest_slotSize, rxRegion_size] at hroom
    omega
  · intro hocc f hf
    obtain ⟨-, hle⟩ := (hu.admits_iff hc).1 hf
    have hsize : f.slotSize ≤ 1526 := by
      unfold Frame.slotSize
      omega
    rw [htail.room_iff hring, rxRegion_size]
    omega

end Runs

/-! ### A buffer that fills up -/

/-- After the initialisation `k` frames of 1016 bytes are stored and none is received. -/
lemma exists_filled {k : ℕ} (hk : k ≤ 15) : ∃ v, Stage [] (List.replicate k kilobyte) v := by
  obtain ⟨v, hv⟩ := exists_stage
  refine hv.deposits (List.replicate k kilobyte) ?_ ?_
  · rw [total_replicate]
    simp [received]
    omega
  · simp [received]
    omega

lemma Stage.occupied_filled {k : ℕ} {v : World} (hv : Stage [] (List.replicate k kilobyte) v) :
    v.chip.occupied 0 = 1024 * k := hv.occupied.trans (total_replicate k)

/-- With fourteen frames of 1016 bytes stored, every frame that the chip admits still finds
room. -/
theorem pause_watermark_room_filled : ∃ v, Running tailGated plainConfig
    (fun _ : Unit => receiveCall) powered [] v ∧
      v.chip.deposited = List.replicate 14 kilobyte ∧ v.chip.occupied 0 = 14336 ∧
        Admits v.chip longest ∧ ∀ f, Admits v.chip f → v.chip.Room f.slotSize := by
  obtain ⟨v, hv⟩ := exists_filled (k := 14) (by decide)
  obtain ⟨-, hadm, hiff⟩ := pause_watermark_room (by decide) hv.running .refl hv.noSlot
  have hocc : v.chip.occupied 0 = 14336 := hv.occupied_filled
  refine ⟨v, hv.running, hv.deposited, hocc, (hadm _).2 ?_, hiff.2 ?_⟩
  · rw [longest_length]
    decide
  · change v.chip.occupied 0 ≤ 14856
    rw [hocc]
    decide

/-- **The watermark comes too late.** Fifteen frames of 1016 bytes are stored and none of them is
received: 15360 bytes are occupied, the peer was not asked to pause, and another such frame does
not fit. -/
theorem pause_watermark_too_late : ∃ v, Running tailGated plainConfig
    (fun _ : Unit => receiveCall) powered [] v ∧
      v.chip.deposited = List.replicate 15 kilobyte ∧ v.chip.occupied 0 = 15360 ∧
        v.chip.occupied 0 ≤ v.chip.pauseThreshold ∧ Admits v.chip kilobyte ∧
          ¬ v.chip.Room kilobyte.slotSize := by
  obtain ⟨v, hv⟩ := exists_filled le_rfl
  obtain ⟨g, estat, hregs⟩ := hv.running.registersOf
  obtain ⟨hring, htail⟩ := tailBehind_of_running hv.running .refl hv.noSlot
  have hocc : v.chip.occupied 0 = 15360 := hv.occupied_filled
  refine ⟨v, hv.running, hv.deposited, hocc, ?_, ?_, ?_⟩
  · rw [hregs.pauseThreshold, hocc]
    decide
  · rw [hregs.admits_iff (by decide), kilobyte_length]
    decide
  · have hroom := htail.room_iff (n := kilobyte.slotSize) hring
    rw [kilobyte_slotSize, rxRegion_size] at hroom
    rw [kilobyte_slotSize, hroom]
    change ¬ v.chip.occupied 0 + 1024 + 2 ≤ 0x4000
    omega

end Enc624j600
