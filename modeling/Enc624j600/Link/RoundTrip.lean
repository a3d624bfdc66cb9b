/-
# From one driver to the other

A sender and a receiver, each initialised with a MAC address, and a link that loses nothing: what
the calls of `enc624j600_transmit` were given comes out of the calls of `enc624j600_receive`, in
the same order and padded to 46 bytes of data.
-/
import Enc624j600.Link.Sender
import Enc624j600.Receive.Fifo

namespace Enc624j600

open Cyclic Interaction

variable {fcs : Checksum} {A B : ℕ → Byte} {config : Config} {r : Request} {c : Chip}
  {w₀ v : World}

/-! ### The receiver -/

/-- A frame for the address `B` or for everybody passes the filters of a receiver with this
address. -/
lemma Request.Valid.accepts (hr : r.Valid) (hm : MacRegisters B c.sfr)
    (hd : r.destination = bytesOf B 6 ∨ r.destination = List.replicate 6 0xFF#8) :
    c.Accepts fcs (r.onWire fcs A) := by
  have h1500 := hr.le_mtu
  have hlen : (r.onWire fcs A).length = 18 + max r.length.toNat 46 := Request.length_onWire
  have hbody : (r.onWire fcs A).length - 4 = (r.body A).length := by
    rw [hlen, Request.length_body]
    omega
  have htake : (r.onWire fcs A).take 6 = r.destination := by
    rw [Request.onWire, Request.body, List.append_assoc, List.append_assoc, List.append_assoc,
      List.take_left' Request.length_destination]
  refine ⟨fun _ => ?_, fun _ => ?_, fun _ => ?_, ?_⟩
  · rw [hbody, Request.onWire, List.drop_left, List.take_left]
  · omega
  · rw [hm.mamxfl, hlen]
    simp only [BitVec.toNat_ofNat]
    omega
  · rw [htake, hm.macAddress]
    exact hd.imp (fun h => ⟨hm.ucen, h⟩) fun h => ⟨hm.bcen, h⟩

variable {ι : Type} {k : List (DriverCall ι ReceiveResult)}

/-- A call that is made when a frame is pending hands one over. -/
lemma Running.all_received
    (hr : Running sparing config (fun _ : ι => receiveCall) w₀ k v)
    (hp : ∀ d ∈ k, d.before.chip.pktcnt ≠ 0#8) : ∀ d ∈ k, d.answer = .encReceiveSucceeded := by
  have hsparing : ∀ c e, sparing c e → sparing c e := fun _ _ h => h
  refine (hr.invariant (J := fun k v => Delivered sparing.rely k v ∧
    ((∀ d ∈ k, d.before.chip.pktcnt ≠ 0#8) → ∀ d ∈ k, d.answer = .encReceiveSucceeded))
    ?_ ?_ ?_).2 hp
  · intro t w hp hi
    exact ⟨delivered_of_running hsparing ⟨hp, t, w, hi, .start⟩, by simp⟩
  · exact fun k => (stable_delivered hsparing).and (stable_const _)
  · rintro k d ⟨hd, hall⟩ hc
    refine ⟨hd.call hsparing hc, fun hp e he => ?_⟩
    rcases List.mem_append.1 he with he | he
    · exact hall (fun e he => hp e (List.mem_append_left _ he)) e he
    · rw [List.mem_singleton.1 he]
      obtain ⟨s, hs⟩ := hd.ready
      obtain ⟨f, hf⟩ := hs.exists_frame (hp d (by simp))
      exact ((triple_receiveCall_pending (protection_sparing hsparing)).returns ⟨hs, hf⟩ hc).1

/-- One call for each stored frame empties the receive buffer. -/
lemma Running.handsOver (hr : Running sparing config (fun _ : ι => receiveCall) w₀ k v)
    (hp : ∀ d ∈ k, d.before.chip.pktcnt ≠ 0#8) (hk : k.length = v.chip.deposited.length) :
    List.Forall₂ HandsOver v.chip.deposited k := by
  have hall := hr.all_received hp
  have hsucc : successes k = k := List.filter_eq_self.2 fun d hd => by simpa using hall d hd
  have hrec : received k = k.length :=
    List.countP_eq_length.2 fun d hd => by simpa using hall d hd
  have hframes := (receive_fifo hr).1
  rw [hsucc, hrec, hk, List.take_length] at hframes
  exact hframes

/-! ### The round trip -/

/-- Every frame is carried: no call was turned away by the flow control, and of the frames on the
wire the receiver stored those that its filters accept. -/
structure Carried (fcs : Checksum) (h : List (DriverCall Request TransmitResult))
    (sender receiver : Chip) : Prop where
  started : ∀ c ∈ h, Starts c.trace
  deposited : receiver.deposited.map Frame.bytes =
    sender.wire.filter fun bytes => receiver.Accepts fcs bytes

/-- The receive call returned what the transmit call was given, with the address `A` of the
sender and padded. -/
structure Recovers (A : ℕ → Byte) (r : Request) (d : DriverCall ι ReceiveResult) : Prop where
  answer : d.answer = .encReceiveSucceeded
  stored : d.after.stored = d.before.stored ++
    [.receivedBytes (BitVec.ofNat 16 (max r.length.toNat 46)),
      .bytes .destinationMac r.destination, .bytes .sourceMac (bytesOf A 6),
      .bytes .lengthType r.typeField,
      .bytes .buffer (r.payload ++ List.replicate (46 - r.length.toNat) 0#8)]

lemma Request.length_frame_payload :
    (r.frame fcs A).payload.length = max r.length.toNat 46 := by
  simp only [Request.frame, List.length_append, length_payload, List.length_replicate]
  omega

lemma HandsOver.recovers {d : DriverCall ι ReceiveResult} (h : HandsOver (r.frame fcs A) d)
    (ha : d.answer = .encReceiveSucceeded) : Recovers A r d := by
  obtain ⟨n, -, hn, hstored⟩ := h
  rw [Request.length_frame_payload] at hn
  refine ⟨ha, ?_⟩
  rw [hn, BitVec.ofNat_toNat, BitVec.setWidth_eq]
  exact hstored

section RoundTrip

variable {sender receiver : Config} {s₀ s r₀ u : World}
  {h : List (DriverCall Request TransmitResult)} {k : List (DriverCall Unit ReceiveResult)}

/-- The receiver accepts every frame of the sender. -/
lemma filter_wire (hA : sender.macAddress = some A) (hB : receiver.macAddress = some B)
    (hs : Running (carrying fcs) sender transmitRequest s₀ h s)
    (hr : Running sparing receiver (fun _ : Unit => receiveCall) r₀ k u)
    (hvalid : ∀ c ∈ h, c.program.Valid) (hstarts : ∀ c ∈ h, Starts c.trace)
    (hdest : ∀ c ∈ h, c.program.destination = bytesOf B 6 ∨
      c.program.destination = List.replicate 6 0xFF#8) :
    (s.chip.wire.filter fun bytes => u.chip.Accepts fcs bytes) =
      (h.map fun c => c.program.frame fcs A).map Frame.bytes := by
  obtain ⟨hwire, -⟩ := sender_wire hA hs fun c hc => ⟨hvalid c hc, hstarts c hc⟩
  obtain ⟨g, estat, hg⟩ := hr.registersOf
  have hall : ∀ bytes ∈ s.chip.wire, decide (u.chip.Accepts fcs bytes) = true := by
    intro bytes hb
    rw [hwire] at hb
    obtain ⟨c, hc, rfl⟩ := List.mem_map.1 hb
    exact decide_eq_true ((hvalid c hc).accepts (hg.mac hB) (hdest c hc))
  rw [List.filter_eq_self.2 hall, hwire, List.map_map]
  exact List.map_congr_left fun c _ => Request.frame_bytes.symm

/-- The receiver stored the frames of the calls. -/
lemma Carried.frames (hc : Carried fcs h s.chip u.chip) (hA : sender.macAddress = some A)
    (hB : receiver.macAddress = some B)
    (hs : Running (carrying fcs) sender transmitRequest s₀ h s)
    (hr : Running sparing receiver (fun _ : Unit => receiveCall) r₀ k u)
    (hvalid : ∀ c ∈ h, c.program.Valid)
    (hdest : ∀ c ∈ h, c.program.destination = bytesOf B 6 ∨
      c.program.destination = List.replicate 6 0xFF#8) :
    u.chip.deposited = h.map fun c => c.program.frame fcs A := by
  refine List.map_injective_iff.2 Frame.bytes_injective ?_
  rw [hc.deposited, filter_wire hA hB hs hr hvalid hc.started hdest]

end RoundTrip

/-! ### A frame for everybody and one for the receiver -/

/-- A configuration with a MAC address. -/
def stationConfig : Config := { plainConfig with macAddress := some fun _ => 0x02#8 }

/-- Eight bytes for everybody. -/
def broadcast : Request :=
  ⟨some fun _ => 0xFF#8, some fun _ => 0x08#8, some fun _ => 0x55#8, 8#16⟩

/-- Sixty bytes for a station. -/
def unicast : Request :=
  ⟨some fun _ => 0x02#8, some fun _ => 0x06#8, some fun _ => 0xAA#8, 60#16⟩

lemma broadcast_valid : broadcast.Valid :=
  ⟨by simp [broadcast], by simp [broadcast], by simp [broadcast], by decide, by decide⟩

lemma unicast_valid : unicast.Valid :=
  ⟨by simp [unicast], by simp [unicast], by simp [unicast], by decide, by decide⟩

/-- A station can be initialised, in half duplex. -/
lemma exists_station {α : Type} {E : Surroundings} (hE : ∀ c e, ChipEvent.IsBoot e → E c e)
    (p : ι → Driver α) : ∃ v, Running E stationConfig p powered [] v ∧
      Booted stationConfig .halfDuplex v := by
  obtain ⟨t, w, hi, hw⟩ := exists_init hE stationConfig CLKRDY .halfDuplex (by decide +kernel)
  exact ⟨w, ⟨rfl, t, w, hi, .start⟩, hw⟩

/-- A station sends every list of valid requests. -/
lemma exists_sender (fcs : Checksum) {rs : List Request} (hvalid : ∀ r ∈ rs, r.Valid) :
    ∃ h s, Running (carrying fcs) stationConfig transmitRequest powered h s ∧
      h.map (·.program) = rs ∧ ∀ c ∈ h, Starts c.trace := by
  have hP : ∀ c : Chip, ∃ o : TxOutcome, o.etxstat &&& DEFER = 0#16 ∧ c.Carries fcs o := by
    intro c
    obtain ⟨o, ho, hstat, -⟩ := c.exists_carries fcs
    exact ⟨o, by rw [hstat, BitVec.zero_and], ho⟩
  obtain ⟨w, hrun, hb⟩ := exists_station (E := undeferred fun c o => c.Carries fcs o)
    (fun c e he => Or.inl he) transmitRequest
  obtain ⟨h, s, hs, -, hmap, hall⟩ :=
    exists_all_started hP hrun hb.duplexMode hb.not_deferred hvalid
  refine ⟨h, s, hs.mono ?_, hmap, fun c hc => (hall c hc).1⟩
  rintro c e (he | ⟨o, rfl, -, ho⟩)
  · cases e <;> trivial
  · exact ho

/-- A station that has room for them stores frames, and its driver receives them. -/
lemma exists_receiver (fs : List Frame) (hroom : slotFormat.total fs ≤ rxRegion.size)
    (hcount : fs.length ≤ 255) : ∃ (k : List (DriverCall Unit ReceiveResult)) (u : World),
      Running sparing stationConfig (fun _ : Unit => receiveCall) powered k u ∧
        u.chip.deposited = fs ∧ k.length = fs.length ∧ ∀ d ∈ k, d.before.chip.pktcnt ≠ 0#8 := by
  obtain ⟨v, hrun, hb⟩ := exists_station (E := sparing)
    (fun c e he => by cases e <;> trivial) fun _ : Unit => receiveCall
  obtain ⟨w, hw, hdep⟩ := exists_arrivals hrun hb.receiving fs
    (by rwa [hb.deposited, List.drop_nil, SlotFormat.total_nil, Nat.zero_add])
    (by rw [hb.deposited]; simpa [received] using hcount)
  rw [hb.deposited, List.nil_append] at hdep
  obtain ⟨k, u, hu, hlen, -, hdu, hp⟩ := exists_receptions (fun _ _ h => h) hw fs.length
    (by rw [hdep]; exact (Nat.zero_add _).le)
  exact ⟨k, u, hu, hdu.trans hdep, hlen, hp⟩

/-- The calls of two stations between which every frame is carried. -/
lemma exists_carried (fcs : Checksum) {rs : List Request} (hvalid : ∀ r ∈ rs, r.Valid)
    (hdest : ∀ r ∈ rs, r.destination = bytesOf (fun _ => 0x02#8) 6 ∨
      r.destination = List.replicate 6 0xFF#8)
    (hroom : slotFormat.total (rs.map fun r => r.frame fcs fun _ => 0x02#8) ≤ rxRegion.size)
    (hcount : rs.length ≤ 255) :
    ∃ h s, ∃ (k : List (DriverCall Unit ReceiveResult)) (u : World),
      Running (carrying fcs) stationConfig transmitRequest powered h s ∧
        Running sparing stationConfig (fun _ : Unit => receiveCall) powered k u ∧
        h.map (·.program) = rs ∧ Carried fcs h s.chip u.chip ∧
        (∀ d ∈ k, d.before.chip.pktcnt ≠ 0#8) ∧ k.length = u.chip.deposited.length := by
  obtain ⟨h, s, hs, hmap, hstarts⟩ := exists_sender fcs hvalid
  obtain ⟨k, u, hu, hdep, hlen, hp⟩ := exists_receiver _ hroom (by simpa using hcount)
  have hwire := filter_wire (A := fun _ => 0x02#8) (B := fun _ => 0x02#8) rfl rfl hs hu
    (List.forall_mem_map.1 (hmap ▸ hvalid)) hstarts (List.forall_mem_map.1 (hmap ▸ hdest))
  refine ⟨h, s, k, u, hs, hu, hmap, ⟨hstarts, ?_⟩, hp, by rw [hlen, hdep]⟩
  have hframes : u.chip.deposited = h.map fun c => c.program.frame fcs fun _ => 0x02#8 := by
    rw [hdep, ← hmap, List.map_map]
    rfl
  rw [hwire, hframes]

lemma total_two : slotFormat.total ([broadcast, unicast].map fun r =>
    r.frame crc32 fun _ => 0x02#8) ≤ rxRegion.size := by
  simp only [List.map_cons, List.map_nil, SlotFormat.total_cons, SlotFormat.total_nil,
    slotFormat_size, Frame.slotSize, Frame.length_eq, Request.length_frame_payload]
  decide

end Enc624j600
