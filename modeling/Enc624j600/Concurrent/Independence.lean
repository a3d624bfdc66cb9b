/-
# Sending and receiving do not interfere

A transmit call and a receive call, their operations interleaved in any way, have one outcome:
the answers, what is stored for the callers, the SRAM, the pointers and the registers that they
leave are the same for all interleavings.  Running the calls one after the other, in either order,
is one of them.
-/
import Enc624j600.Concurrent.Environment
import Enc624j600.Concurrent.View

namespace Enc624j600

open Cyclic Interaction

variable {fc : Prop} {τ τ₁ τ₂ : TxView} {d : DuplexMode} {medium : TxView → TxOutcome}
  {c c' : Chip} {w w' v v' : World} {r : Request}

/-! ### The surroundings -/

/-- What a transmission can depend on. -/
def Chip.sendingSide (c : Chip) : TxView where
  sfr a := if IsVolatile a ∨ a = ERXTAIL then 0#16 else c.sfr a
  pointer p := if p = .ERXRDPT then 0#16 else c.pointer p
  sram a := if a < 0x2000 then c.sram a else 0#8
  etxstat := c.sfr ETXSTAT
  etxwire := c.sfr ETXWIRE
  fcop := c.sfr ECON1 &&& FCOP
  wire := c.wire

/-- No frame arrives, only transmissions change the flow control, and how a transmission ends is
a function of the sending side. -/
def mediated (medium : TxView → TxOutcome) : Surroundings := fun c e =>
  match e with
  | .store _ => False
  | .deposit _ _ => False
  | .flowControl _ => False
  | .transmitted o => o = medium c.sendingSide
  | _ => True

lemma completes_mediated : Completes (mediated medium) := fun _ _ => ⟨_, rfl⟩

/-- The view determines the sending side. -/
lemma TxAgrees.sendingSide_eq (h : TxAgrees True τ c) (h' : TxAgrees True τ c') :
    c.sendingSide = c'.sendingSide := by
  unfold Chip.sendingSide
  congr 1
  · funext a
    split
    · rfl
    · rename_i ha
      rw [h.sfr a (fun hv => ha (Or.inl hv)) (fun he => ha (Or.inr he)),
        h'.sfr a (fun hv => ha (Or.inl hv)) (fun he => ha (Or.inr he))]
  · funext p
    split
    · rfl
    · rename_i hp
      rw [h.pointer p hp, h'.pointer p hp]
  · funext a
    split
    · rename_i ha
      rw [h.sram a (gpRegion_has_iff.2 ha), h'.sram a (gpRegion_has_iff.2 ha)]
    · rfl
  · rw [h.etxstat, h'.etxstat]
  · rw [h.etxwire, h'.etxwire]
  · rw [h.fcop trivial, h'.fcop trivial]
  · rw [h.wire, h'.wire]

/-- How the transmission of the view ends. -/
def EndsMediated (medium : TxView → TxOutcome) (τ : TxView) (o : TxOutcome) : Prop :=
  ∃ c, TxAgrees True τ c ∧ o = medium c.sendingSide

lemma EndsMediated.unique {o o' : TxOutcome} (h : EndsMediated medium τ o)
    (h' : EndsMediated medium τ o') : o = o' := by
  obtain ⟨c, hc, rfl⟩ := h
  obtain ⟨c', hc', rfl⟩ := h'
  rw [hc.sendingSide_eq hc']

lemma txEnv_mediated (hR : (mediated medium).rely w w') :
    TxEnv True (EndsMediated medium) w w' :=
  txEnv_of_rely (fun _ _ h => absurd h id) (fun c _ _ hτ _ ho => ⟨c, hτ, ho⟩) hR

/-- A receive call does not notice what the chip does. -/
lemma unheard_mediated (hR : (mediated medium).rely w w') : Unheard w w' := by
  obtain ⟨e, hE, he, rfl⟩ := hR
  intro φ h
  have hu := ChipEvent.undisturbed h.left.awake he
  have hs : SameRing w.chip (e.apply w.chip) := by
    refine ChipEvent.sameRing h.left.awake he fun ha => ?_
    cases e with
    | store bytes => exact hE
    | deposit f rsv => exact hE
    | _ => exact ha
  refine ⟨h.left, ⟨hu.awake h.left.awake, (hu.sfr _ (by decide)).trans h.left.erxst, ?_⟩,
    fun a _ => by rw [hs.sram], by rw [hu.pointer], hu.sfr _ (by decide), hs.pktcnt, rfl, rfl⟩
  rw [hu.pointer]
  exact h.left.has

/-- A receive call does not notice the operations of a transmit call. -/
lemma unheard_of_transmitOp {o : Op} {a : o.Res} (h : TxAgrees fc τ w.chip) (ho : IsTransmitOp o)
    (hs : machine.step w o a w') : Unheard w w' := by
  intro φ hw
  have he := transmitEffect ho h.awake.por hs
  obtain ⟨-, hnext, hstored⟩ := transmitOp_driver ho hs
  have hp := he.pointer .ERXRDPT (by decide)
  refine ⟨hw.left, ⟨awake_of_transmitOp w o a w' ho h.awake hs,
    (he.sfr_of_ne (by decide)).trans h.erxst, ?_⟩,
    fun x hx => h.sram_transmitOp ho hs hx, hp, he.sfr_of_ne (by decide),
    he.pktcnt, hnext, hstored⟩
  rw [hp]
  exact hw.left.has

/-! ### One outcome -/

/-- The answer of a transmit call and the view that it leaves are determined. -/
lemma TxResult.unique {bs : List Byte} {length : Word} {a a' : TransmitResult}
    (h : TxResult True (EndsMediated medium) τ d bs length a τ₁)
    (h' : TxResult True (EndsMediated medium) τ d bs length a' τ₂) : a = a' ∧ τ₁ = τ₂ := by
  cases h with
  | refused hactive =>
    cases h' with
    | refused _ => exact ⟨rfl, rfl⟩
    | sent hinactive _ => exact absurd (hactive (Or.inl trivial)) (hinactive (Or.inl trivial))
  | sent hinactive ho =>
    cases h' with
    | refused hactive => exact absurd (hactive (Or.inl trivial)) (hinactive (Or.inl trivial))
    | sent _ ho' =>
      obtain rfl := ho.unique ho'
      exact ⟨rfl, rfl⟩

/-- The calls left the same: in the SRAM, the pointers and the registers of the chip, in the
variable of the driver, and with their callers. -/
structure SameEffect (v v' : World) : Prop where
  sram : v'.chip.sram = v.chip.sram
  pointer : v'.chip.pointer = v.chip.pointer
  etxst : v'.chip.sfr ETXST = v.chip.sfr ETXST
  etxlen : v'.chip.sfr ETXLEN = v.chip.sfr ETXLEN
  erxtail : v'.chip.sfr ERXTAIL = v.chip.sfr ERXTAIL
  pktcnt : v'.chip.pktcnt = v.chip.pktcnt
  next : v'.nextReceiveFramePointer = v.nextReceiveFramePointer
  stored : v'.stored = v.stored

/-- The sending side and the receiving side make up the chip. -/
lemma sameEffect_of_sides (h : TxAgrees True τ v.chip) (h' : TxAgrees True τ v'.chip)
    (hr : SameReceiver False v v') : SameEffect v v' := by
  refine ⟨funext fun a => ?_, funext fun p => ?_, ?_, ?_, hr.erxtail, hr.pktcnt, hr.next, hr.stored⟩
  · by_cases ha : gpRegion.Has a
    · rw [h.sram a ha, h'.sram a ha]
    · exact hr.sram a ha
  · by_cases hp : p = .ERXRDPT
    · rw [hp]
      exact hr.erxrdpt
    · rw [h.pointer p hp, h'.pointer p hp]
  · rw [h.sfr _ (by decide) (by decide), h'.sfr _ (by decide) (by decide)]
  · rw [h.sfr _ (by decide) (by decide), h'.sfr _ (by decide) (by decide)]

/-- Each of the two calls runs as if it were alone. -/
lemma reach_alone {p' : Driver TransmitResult} {q' : Driver ReceiveResult}
    (hw : TxAgrees fc τ w.chip) (h : Interleave machine (mediated medium).rely (transmitRequest r)
      receiveCall w p' q' v) :
    (∃ t, Reach machine (TxEnv True (EndsMediated medium)) (transmitRequest r) w t p' v) ∧
      ∃ t, Reach machine Unheard receiveCall w t q' v := by
  have hp : Triple machine (TxEnv True (EndsMediated medium)) (fun u _ _ u' => Unheard u u')
      (fun u => ∃ τ, TxAgrees True τ u.chip) (transmitRequest r)
      fun _ u => ∃ τ, TxAgrees True τ u.chip :=
    triple_transmitOps (transmit_all _ _ _ _) fun _ _ _ _ _ h ho hs => unheard_of_transmitOp h ho hs
  exact h.reach hp (triple_receiveOps receiveCall_all) (fun _ _ => txEnv_mediated)
    (fun _ _ => unheard_mediated) (fun _ _ _ _ hG => hG) (fun _ _ _ _ hG => hG) ⟨_, hw.txView⟩
    trivial

/-- All interleavings of the calls have the same outcome. -/
lemma interleave_unique {a a' : TransmitResult} {b b' : ReceiveResult} (hw : BetweenCalls w)
    (hr : r.Valid) (h : Interleave machine (mediated medium).rely (transmitRequest r) receiveCall w
      (.pure a) (.pure b) v)
    (h' : Interleave machine (mediated medium).rely (transmitRequest r) receiveCall w
      (.pure a') (.pure b') v') : a = a' ∧ b = b' ∧ SameEffect v v' := by
  obtain ⟨τ, hτ⟩ := hw.idle
  obtain ⟨k, s, hs⟩ := hw.ready
  obtain ⟨⟨t, ht⟩, ⟨x, hx⟩⟩ := reach_alone hτ.agrees h
  obtain ⟨⟨t', ht'⟩, ⟨x', hx'⟩⟩ := reach_alone hτ.agrees h'
  -- the transmit call
  have hidle : TxIdle True w.chip.txView w.duplexMode w :=
    ⟨hτ.agrees.txView, hτ.not_transmitting, rfl⟩
  have htx : ∀ {t a v},
      Returns machine (TxEnv True (EndsMediated medium)) (transmitRequest r) w t a v → ∃ τ',
        TxResult True (EndsMediated medium) w.chip.txView w.duplexMode r.bytes r.length a τ' ∧
          TxAgrees True τ' v.chip := by
    intro t a v ht
    obtain ⟨τ', hres, hv⟩ := triple_request.returns hidle ht
    cases hres with
    | invalid hn => exact absurd hr hn
    | valid _ hres => exact ⟨τ', hres, hv.agrees⟩
  obtain ⟨τ₁, hres, hv⟩ := htx ht
  obtain ⟨τ₂, hres', hv'⟩ := htx ht'
  obtain ⟨ha, rfl⟩ := hres.unique hres'
  -- the receive call
  have hlisten : Listening False w.chip := ⟨hτ.agrees.awake, hτ.agrees.erxst, False.elim⟩
  have hself : SameReceiver False w w := ⟨hlisten, hlisten, fun _ _ => rfl, rfl, rfl, rfl, rfl, rfl⟩
  have hnext : rxRegion.Has w.nextReceiveFramePointer.toNat := by
    rw [hs.next]
    exact hs.ring.has
  obtain ⟨hb, hrx⟩ := receiveCall_unique hself hnext hx hx'
  exact ⟨ha, hb, sameEffect_of_sides hv hv' hrx⟩

/-! ### The calls can come to their end -/

/-- The sending side stays laid out. -/
lemma exists_txAgrees_of_interleave {p' : Driver TransmitResult} {q' : Driver ReceiveResult}
    (hw : TxAgrees fc τ w.chip) (h : Interleave machine (mediated medium).rely (transmitRequest r)
      receiveCall w p' q' v) : ∃ τ, TxAgrees True τ v.chip := by
  obtain ⟨⟨t, ht⟩, -⟩ := reach_alone hw h
  refine (ht.invariant (F := fun u : World => ∃ τ, TxAgrees True τ u.chip) (transmit_all _ _ _ _) ?_
    stable_exists_txAgrees ⟨_, hw.txView⟩).1
  rintro u o a u' ho ⟨τ', hu⟩ hs
  exact ⟨_, hu.transmitOp ho hs⟩

lemma exists_interleave_end {p' : Driver TransmitResult} {q' : Driver ReceiveResult}
    (hw : TxAgrees fc τ w.chip) (h : Interleave machine (mediated medium).rely (transmitRequest r)
      receiveCall w p' q' v) :
    ∃ a b u, Interleave machine (mediated medium).rely p' q' v (.pure a) (.pure b) u := by
  obtain ⟨⟨t, ht⟩, ⟨x, hx⟩⟩ := reach_alone hw h
  obtain ⟨τ', hv⟩ := exists_txAgrees_of_interleave hw h
  obtain ⟨t₁, a, u, h₁⟩ := exists_transmit_reach completes_mediated ht hv.awake
  obtain ⟨t₂, b, u', h₂⟩ := exists_returns_of_loopFree (R := (mediated medium).rely) machine_total
    q' (hx.loopFree receiveCall_loopFree) u
  exact ⟨a, b, u', (Interleave.refl.run_left h₁).run_right h₂⟩

/-- A transmit call, and then a receive call. -/
def transmitThenReceive (r : Request) : Driver (TransmitResult × ReceiveResult) := do
  let a ← transmitRequest r
  let b ← receiveCall
  return (a, b)

/-- A receive call, and then a transmit call. -/
def receiveThenTransmit (r : Request) : Driver (TransmitResult × ReceiveResult) := do
  let b ← receiveCall
  let a ← transmitRequest r
  return (a, b)

lemma exists_transmitThenReceive (hw : w.chip.Awake) :
    ∃ t c v, Returns machine (mediated medium).rely (transmitThenReceive r) w t c v := by
  obtain ⟨t₁, a, u, h₁⟩ := exists_transmit (E := mediated medium) completes_mediated
    r.destinationMac r.lengthType r.data r.length hw
  obtain ⟨t₂, b, v, h₂⟩ := exists_receive (mediated medium).rely u
  exact ⟨_, (a, b), v, Returns.bind h₁ (h₂.bind (Returns.pure_drift _ .refl))⟩

lemma exists_receiveThenTransmit (hw : TxAgrees fc τ w.chip) :
    ∃ t c v, Returns machine (mediated medium).rely (receiveThenTransmit r) w t c v := by
  obtain ⟨t₁, b, u, h₁⟩ := exists_receive (mediated medium).rely w
  have hmid : Interleave machine (mediated medium).rely (transmitRequest r) receiveCall w
      (transmitRequest r) (.pure b) u := Interleave.refl.run_right h₁
  obtain ⟨τ', hu⟩ := exists_txAgrees_of_interleave hw hmid
  obtain ⟨t₂, a, v, h₂⟩ := exists_transmit (E := mediated medium) completes_mediated
    r.destinationMac r.lengthType r.data r.length hu.awake
  exact ⟨_, (a, b), v, Returns.bind h₁ (Returns.bind h₂ (Returns.pure_drift _ .refl))⟩

/-- Every transmission succeeds: what was loaded leaves, and it was padded to 64 bytes. -/
def promptly (τ : TxView) : TxOutcome where
  etxstat := 0#16
  etxwire := 64#16
  fcop := 0#16
  wire := some (readFrom gpRegion.next τ.sram (τ.sfr ETXST).toNat (τ.sfr ETXLEN).toNat)

/-- A state in which a frame is pending, and in which the flow control is not active. -/
lemma exists_pending : ∃ (w : World) (τ : TxView), Reachable plainConfig powered w ∧
    w.chip.pktcnt ≠ 0#8 ∧ TxIdle False τ .halfDuplex w ∧ τ.etxstat = 0#16 := by
  obtain ⟨v, hrun, hb⟩ := exists_running (E := sparing) (fun c e he => by cases e <;> trivial)
    fun _ : Unit => receiveCall
  have hroom : sparing v.chip (.deposit kilobyte (List.replicate 4 0#8)) := by
    change v.chip.used + kilobyte.slotSize ≤ rxRegion.size
    rw [hb.used, kilobyte_slotSize]
    decide
  obtain ⟨w, hR, ⟨s, hw⟩, hd, -⟩ := exists_arrival (fun _ _ h => h) hrun hb.receiving
    (by simp [hb.deposited]) hroom rfl
  obtain ⟨g, estat, hi⟩ := hb.initialised
  have hv : TxIdle False v.chip.txView .halfDuplex v := hb.duplexMode ▸ hi.txIdle
  refine ⟨w, v.chip.txView, ?_, ?_, stable_txIdle v w hv (txEnv_anything hR),
    hi.collecting.etxstat⟩
  · obtain ⟨hp, t, u, hu, hsession⟩ := hrun
    have hdrift : Drift sparing.rely u w := hsession.drift_of_nil.tail hR
    exact ⟨hp, t, u, [], [], [], [], hu, Interleave.refl.run_left (Reach.drift hdrift)⟩
  · exact hw.tally.some_left_iff.2 (by simp [hd, received])

end Enc624j600
