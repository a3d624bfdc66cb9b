/-
# The sending side of the chip

A view holds what `enc624j600_transmit` reads or writes of the chip, and whatever else neither a
received frame nor a call of `enc624j600_receive` changes: all registers but the volatile ones
and `ERXTAIL`, all buffer pointers but `ERXRDPT`, the SRAM of the general-purpose area, and the
status of the last transmission.  While no transmission is under way, a view that agrees with the
chip goes on agreeing with it, whatever the surroundings do; a transmission that ends changes the
view by its outcome.
-/
import Enc624j600.Receive.Ring
import Enc624j600.Transmit.Operations

namespace Enc624j600

open Cyclic Interaction

/-- What of the chip the transmit calls depend on. -/
structure TxView where
  sfr : Byte → Word
  pointer : BufferPointer → Word
  sram : ℕ → Byte
  etxstat : Word
  etxwire : Word
  /-- The flow-control bits of `ECON1`. -/
  fcop : Word
  wire : List (List Byte)

namespace TxView

variable (τ : TxView)

/-- The address at which the next frame is loaded. -/
def start : ℕ := (τ.pointer .EGPWRPT).toNat

/-- A register is written. -/
def setSfr (a : Byte) (v : Word) : TxView := { τ with sfr := Function.update τ.sfr a v }

/-- Write bytes through the window of the general-purpose area. -/
def write (bs : List Byte) : TxView :=
  { τ with
    pointer := Function.update τ.pointer .EGPWRPT
      (BitVec.ofNat 16 (gpRegion.loc τ.start bs.length))
    sram := writeTo gpRegion.next τ.sram τ.start bs }

/-- Load a frame and select it for transmission. -/
def load (bs : List Byte) : TxView :=
  ((τ.write bs).setSfr ETXST (τ.pointer .EGPWRPT)).setSfr ETXLEN (BitVec.ofNat 16 bs.length)

/-- The transmission ends. -/
def finish (o : TxOutcome) : TxView :=
  { τ with
    etxstat := o.etxstat
    etxwire := o.etxwire
    fcop := o.fcop &&& FCOP
    wire := τ.wire ++ o.wire.toList }

/-- The flow control is active, in the duplex mode `mode`. -/
def Active : DuplexMode → Prop
  | .fullDuplex => τ.fcop ≠ 0#16
  | .halfDuplex => τ.etxstat &&& DEFER ≠ 0#16

/-- What the register shows that tells how the last transmission ended. -/
def result : DuplexMode → Word
  | .fullDuplex => τ.etxwire
  | .halfDuplex => τ.etxstat

end TxView

/-- The chip shows the view.  The flow control is part of it if `fc` holds. -/
structure TxAgrees (fc : Prop) (τ : TxView) (c : Chip) : Prop where
  awake : c.Awake
  erxst : c.sfr ERXST = 0x2000#16
  has_head : rxRegion.Has c.head
  has_start : gpRegion.Has τ.start
  sfr : ∀ a, ¬ IsVolatile a → a ≠ ERXTAIL → c.sfr a = τ.sfr a
  pointer : ∀ p, p ≠ .ERXRDPT → c.pointer p = τ.pointer p
  sram : ∀ a, gpRegion.Has a → c.sram a = τ.sram a
  etxstat : c.sfr ETXSTAT = τ.etxstat
  etxwire : c.sfr ETXWIRE = τ.etxwire
  fcop : fc → c.sfr ECON1 &&& FCOP = τ.fcop
  wire : c.wire = τ.wire

/-- What may happen to a chip that shows the view: the view stays, or a transmission ends with an
outcome that `Ends` allows. -/
def TxChange (fc : Prop) (Ends : TxView → TxOutcome → Prop) (τ : TxView) (c c' : Chip) : Prop :=
  (TxAgrees fc τ c' ∧ (c'.Transmitting ↔ c.Transmitting)) ∨
    (c.Transmitting ∧ ¬ c'.Transmitting ∧ ∃ o, Ends τ o ∧ TxAgrees fc (τ.finish o) c')

/-- What a transmit call relies on. -/
structure TxEnv (fc : Prop) (Ends : TxView → TxOutcome → Prop) (w w' : World) : Prop where
  duplexMode : w'.duplexMode = w.duplexMode
  change : ∀ τ, TxAgrees fc τ w.chip → TxChange fc Ends τ w.chip w'.chip

section Rely

variable {fc : Prop} {Ends : TxView → TxOutcome → Prop} {τ : TxView} {c : Chip} {e : ChipEvent}

/-- The surroundings store nothing in the general-purpose area. -/
lemma TxAgrees.sram_apply (h : TxAgrees fc τ c) (he : e.Enabled c) {a : ℕ}
    (ha : gpRegion.Has a) : (e.apply c).sram a = c.sram a := by
  by_cases harr : e.Arrives
  · have hn : ¬ rxRegion.Has a := by
      have := gpRegion_has_iff.1 ha
      rw [rxRegion_has_iff]
      omega
    cases e with
    | store bytes =>
      simp only [ChipEvent.apply, rxNext_eq h.erxst]
      exact Region.writeTo_apply_of_not_has h.has_head hn
    | deposit f rsv =>
      simp only [ChipEvent.apply, rxNext_eq h.erxst]
      exact Region.writeTo_apply_of_not_has h.has_head hn
    | _ => exact absurd harr id
  · rw [(ChipEvent.sameRing h.awake he harr).sram]

/-- The end of a transmission and a change of the flow control apart, no event changes the
flow-control bits. -/
lemma fcop_apply (hc : c.Awake) (he : e.Enabled c) (ht : ∀ o, e ≠ .transmitted o)
    (hf : ∀ fcop, e ≠ .flowControl fcop) : (e.apply c).sfr ECON1 = c.sfr ECON1 := by
  cases e with
  | powerUp => exact absurd he (by simp [ChipEvent.Enabled, hc.por])
  | noise => exact absurd he (by simp [ChipEvent.Enabled, hc.por])
  | resetDone post => exact absurd he.1 (by simp [hc.resetPending])
  | status estat eir => simp +decide [ChipEvent.apply]
  | phyStatus reg value => rfl
  | miiDone =>
    simp only [ChipEvent.apply]
    split <;> simp +decide
  | store bytes => rfl
  | deposit f rsv => simp +decide [ChipEvent.apply]
  | transmitted o => exact absurd rfl (ht o)
  | flowControl fcop => exact absurd rfl (hf fcop)

/-- An event other than the end of a transmission. -/
lemma TxAgrees.apply (h : TxAgrees fc τ c) (he : e.Enabled c) (ht : ∀ o, e ≠ .transmitted o)
    (hf : fc → ∀ fcop, e ≠ .flowControl fcop) : TxAgrees fc τ (e.apply c) := by
  have hu := ChipEvent.undisturbed h.awake he
  obtain ⟨-, hstat, hlen, hwire⟩ := ChipEvent.sameTransmitter h.awake he ht
  refine ⟨hu.awake h.awake, (hu.sfr _ (by decide)).trans h.erxst,
    has_head_apply h.awake h.erxst h.has_head he, h.has_start, ?_, ?_, ?_,
    hstat.trans h.etxstat, hlen.trans h.etxwire, ?_, hwire.trans h.wire⟩
  · exact fun a ha hne => (hu.sfr a ha).trans (h.sfr a ha hne)
  · intro p hp
    rw [hu.pointer]
    exact h.pointer p hp
  · exact fun a ha => (h.sram_apply he ha).trans (h.sram a ha)
  · intro hfc
    rw [fcop_apply h.awake he ht (hf hfc)]
    exact h.fcop hfc

lemma withFcop_and_fcop {econ1 fcop : Word} :
    ChipEvent.withFcop econ1 fcop &&& FCOP = fcop &&& FCOP := by
  rw [ChipEvent.withFcop, or_and_of_disjoint_left (and_not_and_self_mask _ _), BitVec.and_assoc,
    BitVec.and_self]

/-- The end of a transmission. -/
lemma TxAgrees.transmitted (h : TxAgrees fc τ c) {o : TxOutcome} :
    TxAgrees fc (τ.finish o) ((ChipEvent.transmitted o).apply c) := by
  refine ⟨⟨h.awake.por, h.awake.resetPending⟩, ?_, ?_, h.has_start, ?_, h.pointer, h.sram, ?_, ?_,
    ?_, ?_⟩
  · simpa +decide [ChipEvent.apply] using h.erxst
  · have hh : ((ChipEvent.transmitted o).apply c).head = c.head := by
      simp +decide [ChipEvent.apply, Chip.head]
    rw [hh]
    exact h.has_head
  · intro a ha hne
    have hv : ∀ b, IsVolatile b → a ≠ b := by
      rintro b hb rfl
      exact ha hb
    simp only [ChipEvent.apply, Chip.setSfr_sfr, if_neg (hv ETXWIRE (by decide)),
      if_neg (hv ETXSTAT (by decide)), if_neg (hv ECON1 (by decide))]
    exact h.sfr a ha hne
  · simp +decide [ChipEvent.apply, TxView.finish]
  · simp +decide [ChipEvent.apply, TxView.finish]
  · intro _
    have he : ((ChipEvent.transmitted o).apply c).sfr ECON1 =
        ChipEvent.withFcop (c.sfr ECON1 &&& ~~~TXRTS) o.fcop := by
      simp +decide [ChipEvent.apply]
    rw [he, withFcop_and_fcop]
    rfl
  · simp only [ChipEvent.apply, TxView.finish, h.wire]

lemma txEnv_of_rely {E : Surroundings}
    (hflow : ∀ c fcop, E c (.flowControl fcop) → ¬ fc)
    (hends : ∀ c τ o, TxAgrees fc τ c → c.Transmitting → E c (.transmitted o) → Ends τ o)
    {w w' : World} (hR : E.rely w w') : TxEnv fc Ends w w' := by
  obtain ⟨e, hE, he, rfl⟩ := hR
  refine ⟨rfl, fun τ h => ?_⟩
  by_cases ht : ∃ o, e = .transmitted o
  · obtain ⟨o, rfl⟩ := ht
    exact Or.inr ⟨he, not_transmitting_transmitted, o, hends _ _ _ h he hE, h.transmitted⟩
  · have hne : ∀ o, e ≠ .transmitted o := fun o ho => ht ⟨o, ho⟩
    refine Or.inl ⟨h.apply he hne ?_, (ChipEvent.sameTransmitter h.awake he hne).1⟩
    rintro hfc fcop rfl
    exact hflow _ _ hE hfc

end Rely

/-! ### Assertions about worlds -/

variable {fc : Prop} {Ends : TxView → TxOutcome → Prop} {τ : TxView} {d : DuplexMode}

/-- No transmission is under way. -/
structure TxIdle (fc : Prop) (τ : TxView) (d : DuplexMode) (w : World) : Prop where
  agrees : TxAgrees fc τ w.chip
  not_transmitting : ¬ w.chip.Transmitting
  duplexMode : w.duplexMode = d

/-- The frame of the view `τ` is being sent, or its transmission has ended. -/
structure TxBusy (fc : Prop) (Ends : TxView → TxOutcome → Prop) (τ : TxView) (d : DuplexMode)
    (w : World) : Prop where
  duplexMode : w.duplexMode = d
  sending : TxAgrees fc τ w.chip ∧ w.chip.Transmitting ∨
    ∃ o, Ends τ o ∧ TxIdle fc (τ.finish o) d w

lemma stable_txIdle : Stable (TxEnv fc Ends) (TxIdle fc τ d) := by
  intro w w' h hR
  rcases hR.change τ h.agrees with ⟨hτ, ht⟩ | ⟨ht, -, -⟩
  · refine ⟨hτ, ?_, hR.duplexMode.trans h.duplexMode⟩
    rw [ht]
    exact h.not_transmitting
  · exact absurd ht h.not_transmitting

lemma stable_txBusy : Stable (TxEnv fc Ends) (TxBusy fc Ends τ d) := by
  intro w w' h hR
  refine ⟨hR.duplexMode.trans h.duplexMode, ?_⟩
  rcases h.sending with ⟨hτ, ht⟩ | ⟨o, ho, hi⟩
  · rcases hR.change τ hτ with ⟨hτ', ht'⟩ | ⟨-, hn, o, ho, hτ'⟩
    · exact Or.inl ⟨hτ', ht'.2 ht⟩
    · exact Or.inr ⟨o, ho, hτ', hn, hR.duplexMode.trans h.duplexMode⟩
  · exact Or.inr ⟨o, ho, stable_txIdle w w' hi hR⟩

end Enc624j600
