/-
# Each call as part of the surroundings of the other

Two callers use the driver at the same time: one of them transmits, the other one receives, and
the operations of their calls are interleaved.  An operation of a receive call is a step that a
transmit call can rely on, and the other way round, so each call runs as if the other one were
part of its surroundings.
-/
import Enc624j600.Lib.Interleaving
import Enc624j600.Receive.Fifo
import Enc624j600.Transmit.Run

namespace Enc624j600

open Cyclic Interaction

variable {fc φ : Prop} {Ends : TxView → TxOutcome → Prop} {τ : TxView} {E : Surroundings}
  {T : ℕ → ℕ → Chip → Prop} {Good : ℕ → Prop} {w w' : World} {o : Op} {r : o.Res}

/-! ### The operations of a receive call -/

lemma receiveOp_driver (ho : IsReceiveOp o) (hs : machine.step w o r w') :
    w'.duplexMode = w.duplexMode := by
  obtain ⟨-, rfl⟩ := machine_step_iff.1 hs
  cases o with
  | spi i => rfl
  | loc l =>
    cases l with
    | setDuplexMode mode => exact absurd ho id
    | _ => rfl

/-- The sending side of the chip stays as it is. -/
lemma TxAgrees.receiveOp (h : TxAgrees fc τ w.chip) (ho : IsReceiveOp o)
    (hs : machine.step w o r w') : TxAgrees fc τ w'.chip := by
  have he := receiveEffect ho h.awake.por hs
  have hhead : w'.chip.head = w.chip.head := congrArg BitVec.toNat (he.sfr _ (by decide))
  refine ⟨⟨he.por.trans h.awake.por, he.resetPending.trans h.awake.resetPending⟩,
    (he.sfr _ (by decide)).trans h.erxst, hhead ▸ h.has_head, h.has_start, ?_, ?_, ?_,
    (he.sfr _ (by decide)).trans h.etxstat, (he.sfr _ (by decide)).trans h.etxwire, ?_,
    he.wire.trans h.wire⟩
  · exact fun a ha hne => (he.sfr a hne).trans (h.sfr a ha hne)
  · exact fun p hp => (he.pointer p hp).trans (h.pointer p hp)
  · intro a ha
    rw [he.sram]
    exact h.sram a ha
  · intro hfc
    rw [he.sfr _ (by decide)]
    exact h.fcop hfc

/-- A transmit call can rely on the operations of a receive call. -/
lemma txEnv_of_receiveOp (ho : IsReceiveOp o) (hs : machine.step w o r w') :
    TxEnv fc Ends w w' := by
  refine ⟨receiveOp_driver ho hs, fun τ h => Or.inl ⟨h.receiveOp ho hs, ?_⟩⟩
  have he := receiveEffect ho h.awake.por hs
  rw [Chip.Transmitting, he.sfr _ (by decide), Chip.Transmitting]

/-! ### The operations of a transmit call -/

/-- What the chip shows, it shows. -/
lemma TxAgrees.txView {c : Chip} (h : TxAgrees fc τ c) : TxAgrees φ c.txView c := by
  refine ⟨h.awake, h.erxst, h.has_head, ?_, fun _ _ _ => rfl, fun _ _ => rfl, fun _ _ => rfl, rfl,
    rfl, fun _ => rfl, rfl⟩
  change gpRegion.Has (c.pointer .EGPWRPT).toNat
  rw [h.pointer _ (by decide)]
  exact h.has_start

/-- A transmit call keeps the layout of the sending side. -/
lemma TxAgrees.transmitOp (h : TxAgrees fc τ w.chip) (ho : IsTransmitOp o)
    (hs : machine.step w o r w') : TxAgrees φ w'.chip.txView w'.chip := by
  have he := transmitEffect ho h.awake.por hs
  have hhead : w'.chip.head = w.chip.head :=
    congrArg BitVec.toNat (he.sfr_of_ne (by decide))
  have hp : gpRegion.Has (w.chip.pointer .EGPWRPT).toNat := by
    rw [h.pointer _ (by decide)]
    exact h.has_start
  exact ⟨⟨he.por.trans h.awake.por, he.resetPending.trans h.awake.resetPending⟩,
    (he.sfr_of_ne (by decide)).trans h.erxst, hhead ▸ h.has_head,
    (he.sram h.erxst hp).1, fun _ _ _ => rfl, fun _ _ => rfl, fun _ _ => rfl, rfl, rfl,
    fun _ => rfl, rfl⟩

/-- The SRAM outside of the general-purpose area stays as it is. -/
lemma TxAgrees.sram_transmitOp (h : TxAgrees fc τ w.chip) (ho : IsTransmitOp o)
    (hs : machine.step w o r w') {a : ℕ} (ha : ¬ gpRegion.Has a) :
    w'.chip.sram a = w.chip.sram a := by
  have hp : gpRegion.Has (w.chip.pointer .EGPWRPT).toNat := by
    rw [h.pointer _ (by decide)]
    exact h.has_start
  exact ((transmitEffect ho h.awake.por hs).sram h.erxst hp).2 a ha

/-- A receive call can rely on the operations of a transmit call. -/
lemma rxEnv_of_transmitOp (hT : Protection E T Good) (h : TxAgrees fc τ w.chip)
    (ho : IsTransmitOp o) (hs : machine.step w o r w') : RxEnv T w w' := by
  have he := transmitEffect ho h.awake.por hs
  obtain ⟨-, hnext, hstored⟩ := transmitOp_driver ho hs
  have htail := he.sfr_of_ne (a := ERXTAIL) (by decide)
  refine ⟨hnext, hstored, fun ha => awake_of_transmitOp w o r w' ho ha hs, fun _ hr ht => ⟨?_, ?_⟩,
    fun _ hc => ?_, fun _ => he.delivered, fun _ => ?_, fun _ => htail, fun _ => ?_⟩
  · refine hr.congr_region (fun a ha => h.sram_transmitOp ho hs ?_) he.deposited
      (he.sfr_of_ne (by decide)) (he.sfr_of_ne (by decide))
    obtain ⟨h1, -⟩ := rxRegion_has_iff.1 ha
    rw [gpRegion_has_iff]
    omega
  · exact hT.congr ht htail he.deposited (Or.inl he.delivered)
  · rw [Counted, he.pktcnt, he.delivered, he.deposited]
    exact hc
  · exact ⟨[], by rw [List.append_nil, he.deposited]⟩
  · exact he.pointer _ (by decide)

/-! ### Guarantees -/

lemma stable_exists_txAgrees :
    Stable (TxEnv fc Ends) fun w => ∃ τ, TxAgrees fc τ w.chip := by
  rintro w w' ⟨τ, h⟩ hR
  rcases hR.change τ h with ⟨h', -⟩ | ⟨-, -, o, -, h'⟩
  · exact ⟨τ, h'⟩
  · exact ⟨_, h'⟩

/-- What every operation of a transmit call does in a state whose sending side is laid out, the
call does. -/
lemma triple_transmitOps {α : Type} {p : Driver α} {G : Guarantee Op Op.Res World}
    (hp : p.All IsTransmitOp) (hG : ∀ w o r w' τ, TxAgrees fc τ w.chip → IsTransmitOp o →
      machine.step w o r w' → G w o r w') :
    Triple machine (TxEnv fc Ends) G (fun w => ∃ τ, TxAgrees fc τ w.chip) p
      fun _ w => ∃ τ, TxAgrees fc τ w.chip := by
  refine Triple.of_all hp ?_ stable_exists_txAgrees
  rintro w o r w' ho ⟨τ, h⟩ hs
  exact ⟨hG w o r w' τ h ho hs, _, h.transmitOp ho hs⟩

/-- A receive call guarantees what a transmit call relies on. -/
lemma triple_receiveOps {α : Type} {p : Driver α} {R : World → World → Prop}
    (hp : p.All IsReceiveOp) :
    Triple machine R (fun w _ _ w' => TxEnv fc Ends w w') (fun _ => True) p fun _ _ => True :=
  Triple.of_all hp (fun _ _ _ _ ho _ hs => ⟨txEnv_of_receiveOp ho hs, trivial⟩)
    fun _ _ _ _ => trivial

/-! ### Two callers -/

/-- The arguments of a receive call. -/
structure Receipt where
  destinationMac : OutPtr
  sourceMac : OutPtr
  lengthType : OutPtr
  buffer : OutPtr
  receivedBytes : OutPtr

/-- The call with these arguments. -/
def receiveInto (a : Receipt) : Driver ReceiveResult :=
  enc624j600Receive a.destinationMac a.sourceMac a.lengthType a.buffer a.receivedBytes

/-- A call is a full one, or it stops at once. -/
lemma receiveInto_eq (a : Receipt) :
    receiveInto a = receiveCall ∨ receiveInto a = .pure .encReceiveFailed := by
  obtain ⟨d, s, l, b, n⟩ := a
  by_cases h : d = .null ∨ s = .null ∨ l = .null ∨ b = .null ∨ n = .null
  · exact Or.inr (if_pos h)
  · obtain ⟨rfl, rfl, rfl, rfl, rfl⟩ := objects_of_not_null h
    exact Or.inl rfl

/-- Between two calls of both callers. -/
structure BetweenCalls (w : World) : Prop where
  idle : ∃ τ, TxIdle False τ w.duplexMode w
  ready : ∃ k s, Ready Unreleased k s w.stored w

lemma triple_transmit_each (rs : List Request) :
    Triple machine (TxEnv False fun _ _ => True) (fun w _ _ w' => RxEnv Unreleased w w')
      (fun w => ∃ τ, TxIdle False τ w.duplexMode w) (Prog.each transmitRequest rs)
      fun _ w => ∃ τ, TxIdle False τ w.duplexMode w := by
  have hst : Stable (TxEnv False fun _ _ => True) fun w => ∃ τ, TxIdle False τ w.duplexMode w := by
    rintro w w' ⟨τ, h⟩ hR
    rw [hR.duplexMode]
    exact ⟨τ, stable_txIdle w w' h hR⟩
  refine Triple.each hst (fun r => ?_) rs
  have hops : Triple machine (TxEnv False fun _ _ => True) (fun w _ _ w' => RxEnv Unreleased w w')
      (fun w => ∃ τ, TxAgrees False τ w.chip) (transmitRequest r)
      fun _ w => ∃ τ, TxAgrees False τ w.chip :=
    triple_transmitOps (transmit_all _ _ _ _) fun w o a w' τ h ho hs =>
      rxEnv_of_transmitOp (protection_sparing fun _ _ h => h) h ho hs
  intro w ⟨τ, h⟩
  refine ((triple_request.both hops).guarantee fun _ _ _ _ hG => hG.2).post ?_ w ⟨h, τ, h.agrees⟩
  rintro a u ⟨⟨τ', -, hu⟩, -⟩
  have hd : u.duplexMode = w.duplexMode := hu.duplexMode
  exact ⟨τ', hd ▸ hu⟩

lemma triple_receive_each (ps : List Receipt) :
    Triple machine (RxEnv Unreleased) (fun w _ _ w' => TxEnv False (fun _ _ => True) w w')
      (fun w => ∃ k s, Ready Unreleased k s w.stored w) (Prog.each receiveInto ps)
      fun _ w => ∃ k s, Ready Unreleased k s w.stored w := by
  have hst : Stable (RxEnv Unreleased) fun w => ∃ k s, Ready Unreleased k s w.stored w := by
    rintro w w' ⟨k, s, h⟩ hR
    rw [hR.stored]
    exact ⟨k, s, Ready.stable w w' h hR⟩
  refine Triple.each hst (fun p => ?_) ps
  rcases receiveInto_eq p with hp | hp
  · rw [hp]
    intro w ⟨k, s, h⟩
    have hT := protection_sparing fun _ _ (h : sparing _ _) => h
    refine (((triple_receiveCall_env hT).both (triple_receiveOps receiveCall_all)).guarantee
      fun _ _ _ _ hG => hG.2).post ?_ w ⟨h, trivial⟩
    rintro a u ⟨⟨-, hu⟩ | ⟨-, f, hu⟩, -⟩
    · exact ⟨k, s, hu.stored.symm ▸ hu⟩
    · exact ⟨k + 1, _, hu.stored.symm ▸ hu.ready trivial⟩
  · rw [hp]
    exact Triple.pure hst fun _ h => h

/-- The states between two calls: the driver was initialised, in surroundings that spare the
counted frames, and then one caller made transmit calls and the other one receive calls, their
operations interleaved in any way. -/
def Reachable (config : Config) (w₀ w : World) : Prop :=
  w₀.chip.resetPending = false ∧ ∃ t u rs ps as bs,
    Returns machine sparing.rely (enc624j600Init config) w₀ t () u ∧
      Interleave machine sparing.rely (Prog.each transmitRequest rs) (Prog.each receiveInto ps) u
        (.pure as) (.pure bs) w

lemma Reachable.betweenCalls {config : Config} {w₀ : World} (h : Reachable config w₀ w) :
    BetweenCalls w := by
  obtain ⟨hp, t, u, rs, ps, as, bs, hi, hc⟩ := h
  have hT := protection_sparing fun _ _ (h : sparing _ _) => h
  obtain ⟨g, estat, -, hu⟩ := triple_init.returns (unasked_self hp) hi
  have hready := (triple_init_ready hT).returns (unasked_self hp) hi
  obtain ⟨hidle, hr⟩ := hc.returns (triple_transmit_each rs) (triple_receive_each ps)
    (fun _ _ => txEnv_anything) (fun _ _ => rxEnv_of_rely hT) (fun _ _ _ _ hG => hG)
    (fun _ _ _ _ hG => hG) ⟨_, hu.txIdle⟩ ⟨_, _, hready⟩
  exact ⟨hidle, hr⟩

end Enc624j600
