/-
# The transmit area

The write pointer of the general-purpose area is never set back between two frames, so a frame
starts anywhere in the area and may wrap around at its end.  Still the driver never leaves the
area, and what is being sent is what the current call was given.
-/
import Enc624j600.Transmit.Run

namespace Enc624j600

open Cyclic Interaction

variable {E : Surroundings} {config : Config} {w₀ v : World} {r : Request}
  {h : List (DriverCall Request TransmitResult)} {t : List (Event Op Op.Res)}
  {q : Driver TransmitResult}

/-- In the middle of a call, the chip is sound. -/
lemma RunningInside.sound (hr : RunningInside E config transmitRequest w₀ h r t q v) :
    Sound r.bytes v.chip ∧ (v.chip.Transmitting → r.Valid) := by
  obtain ⟨u, hu, hreach⟩ := hr
  obtain ⟨τ, hτ⟩ := hu.txIdle
  have hst : Stable E.rely fun w => Sound r.bytes w.chip :=
    fun w w' hs hR => stable_sound w w' hs (txEnv_anything hR)
  refine ⟨?_, fun ht => ?_⟩
  · exact (triple_request.rely fun _ _ => txEnv_anything).always
      (J := fun _ (w : World) => Sound r.bytes w.chip) hτ hτ.sound (fun _ => hst)
      (fun _ _ _ _ _ _ _ hG => hG) hreach
  · by_contra hv
    -- an invalid call stops at once, and no transmission starts on its own
    obtain ⟨a, ha, -⟩ := Request.eq_pure_of_not_valid hv
    rw [ha] at hreach
    obtain ⟨-, -, hd⟩ := hreach.of_pure
    have hi : TxIdle False τ u.duplexMode v :=
      Stable.drift (fun w w' hs hR => stable_txIdle w w' hs (txEnv_anything hR)) hτ hd
    exact hi.not_transmitting ht

/-- **The transmit area.** In every state that a run of transmit calls reaches, the write pointer
is in the general-purpose area; no operation of a call changes the receive buffer; and whenever
`TXRTS` is set, the frame of the call under way is what `ETXST` and `ETXLEN` select. -/
theorem transmit_area (hr : RunningInside E config transmitRequest w₀ h r t q v) :
    (v.chip.pointer .EGPWRPT).toNat < 0x2000 ∧
      (∀ o k a v', q = .op o k → machine.step v o a v' →
        ∀ x, 0x2000 ≤ x → v'.chip.sram x = v.chip.sram x) ∧
      (v.chip.Transmitting → ∃ destinationMac lengthType data,
        r = ⟨some destinationMac, some lengthType, some data, r.length⟩ ∧
        (v.chip.sfr ETXLEN).toNat = 8 + r.length.toNat ∧
        readFrom gpRegion.next v.chip.sram (v.chip.sfr ETXST).toNat (v.chip.sfr ETXLEN).toNat =
          bytesOf destinationMac 6 ++ bytesOf lengthType 2 ++ bytesOf data r.length.toNat) := by
  obtain ⟨⟨⟨τ, hτ⟩, hb⟩, hv⟩ := hr.sound
  have hp : gpRegion.Has (v.chip.pointer .EGPWRPT).toNat := by
    rw [hτ.pointer _ (by decide)]
    exact hτ.has_start
  refine ⟨gpRegion_has_iff.1 hp, ?_, ?_⟩
  -- an operation that is about to be performed is one of a transmit call
  · intro o k a v' hq hs x hx
    obtain ⟨u, -, hreach⟩ := hr
    have ho : IsTransmitOp o := by
      have hq' := (hreach.events (transmit_all _ _ _ _)).2
      rw [hq] at hq'
      exact hq'.1
    refine ((transmitEffect ho hτ.awake.por hs).sram hτ.erxst hp).2 x ?_
    rw [gpRegion_has_iff]
    omega
  -- while `TXRTS` is set, the frame of a valid call is in the buffer
  · intro ht
    have hbuf := hb ht
    have hval := hv ht
    obtain ⟨d, hd⟩ := Option.ne_none_iff_exists'.1 hval.destinationMac
    obtain ⟨l, hl⟩ := Option.ne_none_iff_exists'.1 hval.lengthType
    obtain ⟨p, hp⟩ := Option.ne_none_iff_exists'.1 hval.data
    have hbytes : r.bytes = bytesOf d 6 ++ bytesOf l 2 ++ bytesOf p r.length.toNat := by
      rw [Request.bytes, hd, hl, hp]
      rfl
    refine ⟨d, l, p, ?_, ?_, ?_⟩
    · rw [← hd, ← hl, ← hp]
    · rw [hbuf.etxlen, Request.bytes, length_frameBytes]
    · rw [hbuf.etxlen, hbuf.bytes, hbytes]

/-- The first call of a run, just after it set `TXRTS`. -/
lemma exists_sending : ∃ t q v,
    RunningInside anything plainConfig transmitRequest powered [] eightBytes t q v ∧
      v.chip.Transmitting := by
  obtain ⟨w, hrun, hb⟩ := exists_running (E := anything) (fun _ _ _ => trivial) transmitRequest
  obtain ⟨g, estat, hi⟩ := hb.initialised
  have hτ : TxIdle False w.chip.txView .halfDuplex w := hb.duplexMode ▸ hi.txIdle
  obtain ⟨t, a, v, hc⟩ := exists_transmit (E := anything)
    (fun _ _ => ⟨⟨0#16, 0#16, 0#16, none⟩, trivial⟩) eightBytes.destinationMac
    eightBytes.lengthType eightBytes.data eightBytes.length hτ.agrees.awake
  have hstarts : Starts t := (hτ.starts_iff eightBytes_valid hc).2 (by simp [hi.collecting.etxstat])
  rcases eightBytes_valid.outcome hc with ⟨-, hn⟩ | ⟨-, -, hset⟩
  · exact absurd hstarts hn
  · obtain ⟨t₁, _, k, u, u', hreach, -, hs, htx, -⟩ := hset hτ.agrees.awake hτ.not_transmitting
    exact ⟨_, _, u', ⟨w, hrun, hreach.tail (.op hs)⟩, htx⟩

theorem transmit_area_sending : ∃ v : World, v.chip.Transmitting ∧
    (v.chip.pointer .EGPWRPT).toNat < 0x2000 ∧ (v.chip.sfr ETXLEN).toNat = 16 := by
  obtain ⟨t, q, v, hr, htx⟩ := exists_sending
  obtain ⟨hp, -, hbuf⟩ := transmit_area hr
  obtain ⟨_, _, _, -, hlen, -⟩ := hbuf htx
  exact ⟨v, htx, hp, hlen⟩

end Enc624j600
