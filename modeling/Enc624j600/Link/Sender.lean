/-
# What an initialised sender puts on the wire

On a wire that loses nothing, every call of `enc624j600_transmit` with valid arguments that sets
`TXRTS` succeeds, and the frames on the wire are those of the calls, in their order: the
destination, the address of the configuration, the type field, the data and their padding, and
the checksum.
-/
import Enc624j600.Link.Mac

namespace Enc624j600

open Cyclic Interaction

variable {fcs : Checksum} {A : ℕ → Byte} {fc : Prop} {τ : TxView} {d : DuplexMode} {r : Request}
  {c : Chip} {o : TxOutcome} {config : Config} {w w₀ v : World}

/-! ### One transmission -/

/-- How the transmission of the view may end on the wire that loses nothing. -/
def EndsCarried (fcs : Checksum) (τ : TxView) (o : TxOutcome) : Prop :=
  ∃ c, TxAgrees False τ c ∧ c.Carries fcs o

lemma txEnv_carrying {w w' : World} (hR : (carrying fcs).rely w w') :
    TxEnv False (EndsCarried fcs) w w' :=
  txEnv_of_rely (fun _ _ _ h => h) (fun c _ _ hτ _ ho => ⟨c, hτ, ho⟩) hR

lemma MacRegisters.of_agrees (h : MacRegisters A τ.sfr) (hτ : TxAgrees fc τ c) :
    MacRegisters A c.sfr := by
  refine h.congr fun a ha => hτ.sfr a ?_ ?_
  · simp only [IsMacRegister, List.mem_cons, List.not_mem_nil, or_false] at ha
    rcases ha with rfl | rfl | rfl | rfl | rfl | rfl | rfl <;> decide
  · rintro rfl
    exact absurd ha (by decide)

/-- The registers that a call writes are not among those of the MAC. -/
lemma MacRegisters.load (h : MacRegisters A τ.sfr) (bs : List Byte) (o : TxOutcome) :
    MacRegisters A ((τ.load bs).finish o).sfr := by
  refine h.congr fun a ha => ?_
  have h1 : a ≠ ETXLEN := by
    rintro rfl
    exact absurd ha (by decide)
  have h2 : a ≠ ETXST := by
    rintro rfl
    exact absurd ha (by decide)
  simp only [TxView.finish, TxView.load, TxView.setSfr, TxView.write, Function.update_apply,
    if_neg h1, if_neg h2]

namespace Request

lemma Valid.length_bytes_le (hr : r.Valid) : r.bytes.length ≤ gpRegion.size := by
  have h1500 := hr.le_mtu
  rw [Request.bytes, length_frameBytes, gpRegion_size]
  omega

/-- The frame of a call leaves as it should, and the call takes it for a success. -/
lemma Valid.carried (hr : r.Valid) (hs : gpRegion.Has τ.start) (hm : MacRegisters A τ.sfr)
    (ho : EndsCarried fcs (τ.load r.bytes) o) : o.wire = some (r.onWire fcs A) ∧
      verdict r.length d (((τ.load r.bytes).finish o).result d) = .encTransmitSucceeded := by
  obtain ⟨c, hτ, hc⟩ := ho
  have h1500 := hr.le_mtu
  have hload : MacRegisters A (τ.load r.bytes).sfr := hm.load r.bytes o
  have hmac : MacRegisters A c.sfr := hload.of_agrees hτ
  have hout : c.outgoing fcs = r.onWire fcs A :=
    outgoing_eq hmac (hτ.buffered hs hr.length_bytes_le) hτ.erxst
  have hlen : (c.outgoing fcs).length = 18 + max r.length.toNat 46 := by
    rw [hout, length_onWire]
  -- at most 1518 bytes, which is what `MAMXFL` allows
  have hshort : ¬ c.TooLong fcs := by
    rintro ⟨-, hlong⟩
    rw [hlen, hmac.mamxfl] at hlong
    simp only [BitVec.toNat_ofNat] at hlong
    omega
  refine ⟨by rw [hc.wire, if_neg hshort, hout], if_pos ?_⟩
  cases d with
  | fullDuplex =>
    change o.etxwire.toNat = max (14 + r.length.toNat) 60 + 4
    rw [hc.etxwire hshort, hlen, BitVec.toNat_ofNat]
    omega
  | halfDuplex => exact hc.etxstat hshort

end Request

/-! ### A run -/

/-- All calls were valid and not turned away by the flow control. -/
def AllStarted (h : List (DriverCall Request TransmitResult)) : Prop :=
  ∀ c ∈ h, c.program.Valid ∧ Starts c.trace

/-- The state between two calls: the frames sent are those of the calls. -/
def SentAll (fcs : Checksum) (A : ℕ → Byte) (h : List (DriverCall Request TransmitResult))
    (w : World) : Prop :=
  ∃ τ, TxIdle False τ w.duplexMode w ∧ MacRegisters A τ.sfr ∧ (AllStarted h →
    τ.wire = h.map (fun c => c.program.onWire fcs A) ∧
      ∀ c ∈ h, c.answer = .encTransmitSucceeded)

/-- The MAC after the initialisation. -/
lemma RegistersOf.mac {g : Shadow} {estat : Word}
    (h : RegistersOf ((g.beforeEnable config).duplex estat) w) (hA : config.macAddress = some A) :
    MacRegisters A w.chip.sfr := by
  obtain ⟨h1, h2, h3⟩ := Shadow.beforeEnable_macAddress (g := g) hA
  refine ⟨?_, ?_, ?_, h.mamxfl, ?_, ?_, ?_, ?_, ?_⟩
  · exact (h.sfr_eq (by decide)).trans h1
  · exact (h.sfr_eq (by decide)).trans h2
  · exact (h.sfr_eq (by decide)).trans h3
  · rw [h.sfr_eq (by decide), Shadow.econ2.and (by decide)]
    decide
  · rw [h.macon2 (by decide)]
    split <;> decide
  · rw [h.macon2 (by decide)]
    split <;> decide
  · rw [h.erxfcon (by decide)]
    decide
  · rw [h.erxfcon (by decide)]
    decide

lemma sentAll_init {n : ℕ} {g : Shadow} {estat : Word} (hA : config.macAddress = some A)
    (h : Initialised n ((g.beforeEnable config).duplex estat) w) : SentAll fcs A [] w := by
  refine ⟨_, h.txIdle, (h.agrees.registersOf.mac hA), fun _ => ⟨h.collecting.wire, ?_⟩⟩
  simp

lemma stable_sentAll {h : List (DriverCall Request TransmitResult)} :
    Stable (carrying fcs).rely (SentAll fcs A h) := by
  rintro w w' ⟨τ, hτ, hm, hsent⟩ hR
  have hR' := txEnv_carrying hR
  refine ⟨τ, ?_, hm, hsent⟩
  rw [hR'.duplexMode]
  exact stable_txIdle w w' hτ hR'

lemma AllStarted.snoc {h : List (DriverCall Request TransmitResult)}
    {c : DriverCall Request TransmitResult} (hs : AllStarted (h ++ [c])) :
    AllStarted h ∧ c.program.Valid ∧ Starts c.trace :=
  ⟨fun d hd => hs d (List.mem_append_left _ hd), hs c (by simp)⟩

/-- One more call. -/
lemma SentAll.call {h : List (DriverCall Request TransmitResult)}
    {c : DriverCall Request TransmitResult} (hc : SentAll fcs A h c.before)
    (hr : Returns machine (carrying fcs).rely (transmitRequest c.program) c.before c.trace c.answer
      c.after) : SentAll fcs A (h ++ [c]) c.after := by
  obtain ⟨τ, hτ, hm, hsent⟩ := hc
  obtain ⟨τ', hres, hτ'⟩ := (triple_request.rely fun _ _ => txEnv_carrying).returns hτ hr
  have hd := hτ'.duplexMode
  cases hres with
  -- a call that is refused or invalid is none that `AllStarted` speaks of
  | invalid hn =>
    refine ⟨τ, hd ▸ hτ', hm, fun hs => absurd hs.snoc.2.1 hn⟩
  | valid hval hres =>
    generalize ha : c.answer = a at hres
    cases hres with
    | refused hactive =>
      refine ⟨τ, hd ▸ hτ', hm, fun hs => absurd hs.snoc.2.2 ?_⟩
      rcases hval.outcome hr with ⟨-, hn⟩ | ⟨hne, -⟩
      · exact hn
      · exact absurd ha hne
    | sent hactive ho =>
      obtain ⟨hwire, hok⟩ := hval.carried (d := c.before.duplexMode) hτ.agrees.has_start hm ho
      refine ⟨_, hd ▸ hτ', hm.load _ _, fun hs => ?_⟩
      obtain ⟨hw, hall⟩ := hsent hs.snoc.1
      refine ⟨?_, ?_⟩
      · simp only [TxView.finish, TxView.load, TxView.setSfr, TxView.write, hwire,
          Option.toList_some, hw, List.map_append, List.map_cons, List.map_nil]
      · intro e he
        rcases List.mem_append.1 he with he | he
        · exact hall e he
        · rw [List.mem_singleton.1 he, ha]
          exact hok

/-- Every run is of this kind. -/
lemma Running.sentAll {h : List (DriverCall Request TransmitResult)}
    (hA : config.macAddress = some A)
    (hr : Running (carrying fcs) config transmitRequest w₀ h v) : SentAll fcs A h v := by
  refine hr.invariant (J := SentAll fcs A) ?_ (fun _ => stable_sentAll) fun _ _ hJ hc => hJ.call hc
  intro t w hp hi
  obtain ⟨g, estat, -, hw⟩ := triple_init.returns (unasked_self hp) hi
  exact sentAll_init hA hw

/-- **The frames on the wire.** -/
theorem sender_wire {h : List (DriverCall Request TransmitResult)}
    (hA : config.macAddress = some A)
    (hr : Running (carrying fcs) config transmitRequest w₀ h v) (hs : AllStarted h) :
    v.chip.wire = h.map (fun c => c.program.onWire fcs A) ∧
      ∀ c ∈ h, c.answer = .encTransmitSucceeded := by
  obtain ⟨τ, hτ, -, hsent⟩ := hr.sentAll hA
  rw [hτ.agrees.wire]
  exact hsent hs

/-- A call that is under way can come to its end. -/
lemma exists_transmit_inside {t : List (Event Op Op.Res)} {q : Driver TransmitResult}
    {h : List (DriverCall Request TransmitResult)}
    (hr : RunningInside (carrying fcs) config transmitRequest w₀ h r t q v) :
    ∃ s a x, Returns machine (carrying fcs).rely q v s a x := by
  obtain ⟨u, hrun, hreach⟩ := hr
  obtain ⟨τ, hτ⟩ := hrun.txIdle
  refine exists_transmit_reach ?_ hreach
    (transmitOp_awake stable_awake (transmit_all _ _ _ _) hτ.agrees.awake hreach)
  intro c _
  obtain ⟨o, ho, -⟩ := c.exists_carries fcs
  exact ⟨o, ho⟩

end Enc624j600
