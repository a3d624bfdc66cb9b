/-
# Setting up the SPI master

`SPI2_TransferSetup` divides the clock of the peripheral so that the rate of the bus is the
nearest one to the requested frequency, and refuses the request if the register has no room for
the divider.  What `main` does before it creates its tasks leaves the master as the driver needs
it, whatever it was doing before.
-/
import Enc624j600.Board.Bytes
import Enc624j600.Lib.Nearest

namespace Enc624j600

open Interaction Nearest

variable {W : Type} {B : Bus W} {s s' : Board W}

/-! ### The rate -/

/-- The rate of the bus for a value of `SPI2BRG`. -/
def spi2Rate (clock brg : ℕ) : ℕ := clock / (2 * (brg + 1))

lemma spi2Rate_antitone (clock : ℕ) : Antitone (spi2Rate clock) :=
  fun _ _ h => Nat.div_le_div_left (by omega) (by omega)

section Rate

variable {clock frequency : Word32}

/-- The first divider that is tried: the next one is too slow. -/
lemma spi2Rate_neighbours {c f : ℕ} (hf : 0 < f) (hle : 2 * f ≤ c) :
    f ≤ spi2Rate c (c / f / 2 - 1) ∧ spi2Rate c (c / f / 2 - 1 + 1) ≤ f := by
  have hpos : 1 ≤ c / f / 2 := by
    rw [Nat.le_div_iff_mul_le (by decide), Nat.le_div_iff_mul_le hf]
    omega
  have hk : c / f / 2 - 1 + 1 = c / f / 2 := by omega
  constructor
  · rw [spi2Rate, hk, Nat.le_div_iff_mul_le (by omega)]
    calc f * (2 * (c / f / 2)) ≤ f * (c / f) := Nat.mul_le_mul_left _ (Nat.mul_div_le _ _)
      _ ≤ c := Nat.mul_div_le _ _
  · rw [spi2Rate, hk]
    refine Nat.le_of_lt_succ ((Nat.div_lt_iff_lt_mul (by omega)).2 ?_)
    have hlt : c / f < 2 * (c / f / 2 + 1) := by omega
    calc c < f * (c / f + 1) := Nat.lt_mul_div_succ c hf
      _ ≤ f * (2 * (c / f / 2 + 1)) := Nat.mul_le_mul_left _ hlt
      _ ≤ (f + 1) * (2 * (c / f / 2 + 1)) := Nat.mul_le_mul_right _ (Nat.le_succ f)

/-- The divisor in the computation of `baudLow`. -/
def baudLowDivisor (clock frequency : Word32) : Word32 :=
  2#32 * (clock / frequency / 2#32 - 1#32 + 2#32)

/-- The two largest clocks, at which a request of 1 Hz makes this divisor zero. -/
def ZeroDivisor (clock frequency : Word32) : Prop :=
  frequency = 1#32 ∧ 0xFFFFFFFE#32 ≤ clock

instance (clock frequency : Word32) : Decidable (ZeroDivisor clock frequency) :=
  inferInstanceAs (Decidable (_ ∧ _))

/-- The first quotient is small, these two requests apart. -/
lemma div_lt_of_not_zeroDivisor (hf : 0 < frequency.toNat)
    (hz : ¬ ZeroDivisor clock frequency) : clock.toNat / frequency.toNat + 2 < 2 ^ 32 := by
  have hlt := clock.isLt
  by_cases hone : frequency.toNat = 1
  · have hclock : ¬ 0xFFFFFFFE#32 ≤ clock := fun h => hz ⟨BitVec.eq_of_toNat_eq hone, h⟩
    rw [BitVec.le_def, BitVec.toNat_ofNat] at hclock
    rw [hone, Nat.div_one]
    omega
  · have hhalf : clock.toNat / frequency.toNat ≤ clock.toNat / 2 :=
      Nat.div_le_div_left (by omega) (by decide)
    omega

/-- The divisor is zero for these two requests, and for no other. -/
lemma baudLowDivisor_eq_zero_iff (hf : 0 < frequency.toNat)
    (hle : 2 * frequency.toNat ≤ clock.toNat) :
    baudLowDivisor clock frequency = 0#32 ↔ ZeroDivisor clock frequency := by
  have hpos : 1 ≤ clock.toNat / frequency.toNat / 2 := by
    rw [Nat.le_div_iff_mul_le (by decide), Nat.le_div_iff_mul_le hf]
    omega
  have hlt := clock.isLt
  have hdiv : clock.toNat / frequency.toNat ≤ clock.toNat := Nat.div_le_self _ _
  have hbrg : (baudLowDivisor clock frequency).toNat =
      2 * (clock.toNat / frequency.toNat / 2 + 1) % 2 ^ 32 := by
    simp only [baudLowDivisor, BitVec.toNat_mul, BitVec.toNat_add, BitVec.toNat_sub,
      BitVec.toNat_udiv, BitVec.toNat_ofNat, Nat.reducePow, Nat.reduceMod]
    omega
  constructor
  · intro h0
    by_contra hz
    have hsmall := div_lt_of_not_zeroDivisor hf hz
    have hnat := congrArg BitVec.toNat h0
    rw [hbrg, BitVec.toNat_ofNat, Nat.mod_eq_of_lt (by omega)] at hnat
    omega
  · rintro ⟨rfl, hclock⟩
    rw [BitVec.le_def, BitVec.toNat_ofNat] at hclock
    apply BitVec.eq_of_toNat_eq
    rw [hbrg]
    simp only [BitVec.toNat_ofNat, Nat.reducePow, Nat.reduceMod, Nat.div_one] at hclock hlt ⊢
    omega

/-- The arithmetic of the function does not wrap around. -/
lemma toNat_spi2Brg (hf : 0 < frequency.toNat) (hle : 2 * frequency.toNat ≤ clock.toNat)
    (hz : ¬ ZeroDivisor clock frequency) :
    (spi2Brg clock frequency).toNat =
      if spi2Rate clock.toNat (clock.toNat / frequency.toNat / 2 - 1) - frequency.toNat >
          frequency.toNat - spi2Rate clock.toNat (clock.toNat / frequency.toNat / 2 - 1 + 1)
        then clock.toNat / frequency.toNat / 2 - 1 + 1
        else clock.toNat / frequency.toNat / 2 - 1 := by
  obtain ⟨hhigh, hlow⟩ := spi2Rate_neighbours hf hle
  have hpos : 1 ≤ clock.toNat / frequency.toNat / 2 := by
    rw [Nat.le_div_iff_mul_le (by decide), Nat.le_div_iff_mul_le hf]
    omega
  have hdiv := div_lt_of_not_zeroDivisor hf hz
  have hbrg : (clock / frequency / 2#32 - 1#32).toNat = clock.toNat / frequency.toNat / 2 - 1 := by
    simp only [BitVec.toNat_sub, BitVec.toNat_udiv, BitVec.toNat_ofNat, Nat.reducePow,
      Nat.reduceMod]
    omega
  generalize hk : clock.toNat / frequency.toNat / 2 - 1 = k at *
  have hlt : 2 * (k + 2) < 2 ^ 32 := by omega
  have hbaudHigh : (clock / (2#32 * (clock / frequency / 2#32 - 1#32 + 1#32))).toNat =
      spi2Rate clock.toNat k := by
    rw [BitVec.toNat_udiv, BitVec.toNat_mul, BitVec.toNat_add, hbrg, spi2Rate]
    simp only [BitVec.toNat_ofNat, Nat.reducePow, Nat.reduceMod]
    rw [Nat.mod_eq_of_lt (a := k + 1) (by omega), Nat.mod_eq_of_lt (by omega)]
  have hbaudLow : (clock / (2#32 * (clock / frequency / 2#32 - 1#32 + 2#32))).toNat =
      spi2Rate clock.toNat (k + 1) := by
    rw [BitVec.toNat_udiv, BitVec.toNat_mul, BitVec.toNat_add, hbrg, spi2Rate]
    simp only [BitVec.toNat_ofNat, Nat.reducePow, Nat.reduceMod]
    rw [Nat.mod_eq_of_lt (a := k + 2) (by omega), Nat.mod_eq_of_lt (by omega)]
  have herror : (clock / (2#32 * (clock / frequency / 2#32 - 1#32 + 1#32)) - frequency >
      frequency - clock / (2#32 * (clock / frequency / 2#32 - 1#32 + 2#32))) ↔
      spi2Rate clock.toNat k - frequency.toNat >
        frequency.toNat - spi2Rate clock.toNat (k + 1) := by
    rw [gt_iff_lt, BitVec.lt_def, BitVec.toNat_sub_of_le, BitVec.toNat_sub_of_le, hbaudHigh,
      hbaudLow]
    · rw [BitVec.le_def, hbaudHigh]
      exact hhigh
    · rw [BitVec.le_def, hbaudLow]
      exact hlow
  rw [spi2Brg]
  by_cases herr : spi2Rate clock.toNat k - frequency.toNat >
      frequency.toNat - spi2Rate clock.toNat (k + 1)
  · rw [if_pos (herror.2 herr), if_pos herr, BitVec.toNat_add, hbrg]
    exact Nat.mod_eq_of_lt (by simp only [BitVec.toNat_ofNat]; omega)
  · rw [if_neg (mt herror.1 herr), if_neg herr, hbrg]

/-- The value for `SPI2BRG` gives the nearest rate. -/
lemma isNearest_spi2Brg (hf : 0 < frequency.toNat) (hle : 2 * frequency.toNat ≤ clock.toNat)
    (hz : ¬ ZeroDivisor clock frequency) :
    IsNearest (spi2Rate clock.toNat) frequency.toNat (spi2Brg clock frequency).toNat := by
  obtain ⟨h, h'⟩ := spi2Rate_neighbours hf hle
  rw [toNat_spi2Brg hf hle hz]
  exact isNearest_of_neighbours (spi2Rate_antitone _) h h'

/-- What the function computes, over the integers. -/
def spi2BrgInt (clock frequency : ℤ) : ℤ :=
  let tBrg := clock / frequency / 2 - 1
  let baudHigh := clock / (2 * (tBrg + 1))
  let baudLow := clock / (2 * (tBrg + 2))
  if baudHigh - frequency > frequency - baudLow then tBrg + 1 else tBrg

/-- The value for `SPI2BRG` is the one that the integers give. -/
lemma spi2Brg_eq_int (hf : 0 < frequency.toNat) (hle : 2 * frequency.toNat ≤ clock.toNat)
    (hz : ¬ ZeroDivisor clock frequency) :
    ((spi2Brg clock frequency).toNat : ℤ) = spi2BrgInt clock.toNat frequency.toNat := by
  obtain ⟨hhigh, hlow⟩ := spi2Rate_neighbours hf hle
  have hpos : 1 ≤ clock.toNat / frequency.toNat / 2 := by
    rw [Nat.le_div_iff_mul_le (by decide), Nat.le_div_iff_mul_le hf]
    omega
  rw [toNat_spi2Brg hf hle hz, spi2BrgInt]
  generalize hk : clock.toNat / frequency.toNat / 2 - 1 = k at *
  have hbrg : (clock.toNat : ℤ) / frequency.toNat / 2 - 1 = k := by
    rw [← Int.natCast_ediv]
    omega
  have hbaudHigh : (clock.toNat : ℤ) / (2 * (k + 1)) = spi2Rate clock.toNat k := by
    rw [spi2Rate]
    push_cast
    rfl
  have hbaudLow : (clock.toNat : ℤ) / (2 * (k + 2)) = spi2Rate clock.toNat (k + 1) := by
    have hk2 : (k : ℤ) + 2 = k + 1 + 1 := by omega
    rw [spi2Rate, hk2]
    push_cast
    rfl
  simp only [hbrg, hbaudHigh, hbaudLow]
  split <;> split <;> omega

end Rate

/-! ### Setting the rate -/

/-- The frequency of the peripheral's clock, if the caller gives none. -/
def spi2Clock (spiSourceClock : Word32) : Word32 :=
  if spiSourceClock = 0#32 then 76000000#32 else spiSourceClock

/-- The bits of `SPI2CON` that a request replaces. -/
def setupCon (setup : SpiTransferSetup) (con : Word32) : Word32 :=
  (con &&& ~~~(SPI2CON_MODE16 ||| SPI2CON_MODE32 ||| SPI2CON_CKP ||| SPI2CON_CKE)) |||
    (setup.clockPolarity ||| setup.clockPhase ||| setup.dataBits)

lemma transferSetup_eq {setup : SpiTransferSetup} (hf : setup.clockFrequency ≠ 0#32)
    (spiSourceClock : Word32) : spi2TransferSetup (some setup) spiSourceClock =
      if spi2Brg (spi2Clock spiSourceClock) setup.clockFrequency > 511#32 then .pure false
      else .op (.writeReg .SPI2BRG (spi2Brg (spi2Clock spiSourceClock) setup.clockFrequency))
        fun _ => .op (.readReg .SPI2CON) fun con => .op (.writeReg .SPI2CON (setupCon setup con))
          fun _ => .pure true := by
  rw [spi2TransferSetup, if_neg hf]
  rfl

lemma stable_registers {con brg : Word32} :
    Stable (Board.Rely B) fun s => s.spi2.con = con ∧ s.spi2.brg = brg := by
  intro s s' hs hR
  cases hR with
  | finish =>
    simp only [Spi2.finish]
    split <;> exact hs
  | _ => exact hs

lemma setCon_registers (x : Spi2) (v : Word32) :
    (x.setCon v).con = v ∧ (x.setCon v).brg = x.brg := by
  rw [Spi2.setCon]
  split <;> exact ⟨rfl, rfl⟩

/-- What a setup leaves in the two registers. -/
lemma triple_transferSetup {setup : SpiTransferSetup} (hf : setup.clockFrequency ≠ 0#32)
    (spiSourceClock con brg : Word32) :
    Triple (boardMachine B) (Board.Rely B) noGuarantee
      (fun s => s.spi2.con = con ∧ s.spi2.brg = brg) (spi2TransferSetup (some setup) spiSourceClock)
      fun ok s => if spi2Brg (spi2Clock spiSourceClock) setup.clockFrequency > 511#32
        then ok = false ∧ s.spi2.con = con ∧ s.spi2.brg = brg
        else ok = true ∧ s.spi2.con = setupCon setup con ∧
          s.spi2.brg = spi2Brg (spi2Clock spiSourceClock) setup.clockFrequency := by
  rw [transferSetup_eq hf]
  split
  · exact Triple.pure stable_registers fun s hs => ⟨rfl, hs⟩
  · generalize spi2Brg (spi2Clock spiSourceClock) setup.clockFrequency = n
    refine Triple.op (T := fun _ s => s.spi2.con = con ∧ s.spi2.brg = n) stable_registers ?_
      fun _ => ?_
    · rintro s _ s' hs rfl
      exact ⟨trivial, hs.1, rfl⟩
    refine Triple.op (T := fun r s => r = con ∧ s.spi2.con = con ∧ s.spi2.brg = n)
      stable_registers ?_ fun r => Triple.of_and ?_
    · rintro s r s' hs ⟨rfl, rfl⟩
      exact ⟨trivial, hs.1, hs⟩
    · rintro rfl
      refine Triple.op (T := fun _ s => s.spi2.con = setupCon setup r ∧ s.spi2.brg = n)
        stable_registers ?_ fun _ => Triple.pure stable_registers fun s hs => ⟨rfl, hs⟩
      rintro s _ s' hs rfl
      obtain ⟨hcon, hbrg⟩ := setCon_registers s.spi2 (setupCon setup r)
      exact ⟨trivial, hcon, hbrg.trans hs.2⟩

lemma stable_still_and {F : Spi2 → Prop} :
    Stable (Board.Rely B) fun s => s.spi2.Still ∧ F s.spi2 := by
  intro s s' hs hR
  refine ⟨stable_still _ _ hs.1 hR, ?_⟩
  cases hR with
  | load _ _ htxb => simp [hs.1.1] at htxb
  | finish hsr => simp [hs.1.2] at hsr
  | _ => exact hs.2

lemma triple_writeStill {reg : Spi2Reg} {v : Word32} {F Q : Spi2 → Prop}
    (hw : ∀ x : Spi2, x.Still → F x → (x.write v reg).Still ∧ Q (x.write v reg)) :
    Triple (boardMachine B) (Board.Rely B) noGuarantee (fun s => s.spi2.Still ∧ F s.spi2)
      (writeReg reg v) fun _ s => s.spi2.Still ∧ Q s.spi2 := by
  refine Triple.op (T := fun _ s => s.spi2.Still ∧ Q s.spi2) stable_still_and ?_ fun _ =>
    Triple.pure stable_still_and fun s hs => hs
  rintro s _ s' hs rfl
  exact ⟨trivial, hw _ hs.1 hs.2⟩

/-- Whatever it was doing before, the module is at rest and switched on after its
initialisation. -/
lemma triple_initialize :
    Triple (boardMachine B) (Board.Rely B) noGuarantee (fun _ => True) spi2Initialize
      fun _ s => s.spi2.Still ∧
        (s.spi2.con = 0x8120#32 ∧ s.spi2.rbf = false ∧ s.spi2.rov = false) := by
  have hany : ∀ reg v, Triple (boardMachine B) (Board.Rely B) noGuarantee (fun _ => True)
      (writeReg reg v) fun _ _ => True := fun reg v => Triple.op (T := fun _ _ => True)
    (stable_const _) (fun _ _ _ _ _ => ⟨trivial, trivial⟩)
    fun _ => .pure (stable_const _) fun _ h => h
  refine (hany _ _).bind fun _ => (hany _ _).bind fun _ => (hany _ _).bind fun _ => ?_
  -- the module is switched off, and what was on its way is dropped
  refine Triple.bind (T := fun _ s => s.spi2.Still ∧ s.spi2.con = 0#32) ?_ fun _ => ?_
  · refine Triple.op (T := fun _ s => s.spi2.Still ∧ s.spi2.con = 0#32) (stable_const _) ?_
      fun _ => Triple.pure (stable_still_and (F := fun x => x.con = 0#32)) fun s hs => hs
    rintro s _ s' - rfl
    exact ⟨trivial, ⟨rfl, rfl⟩, rfl⟩
  refine Triple.bind (T := fun _ s => s.spi2.Still ∧ (s.spi2.con = 0#32 ∧ s.spi2.rbf = false)) ?_
    fun _ => ?_
  · refine Triple.op (T := fun _ s => s.spi2.Still ∧ (s.spi2.con = 0#32 ∧ s.spi2.rbf = false))
      (stable_still_and (F := fun x => x.con = 0#32)) ?_ fun _ =>
        Triple.pure (stable_still_and (F := fun x => x.con = 0#32 ∧ x.rbf = false)) fun s hs => hs
    rintro s r s' hs ⟨rfl, rfl⟩
    exact ⟨trivial, hs.1, hs.2, rfl⟩
  have hkeep : ∀ v, Triple (boardMachine B) (Board.Rely B) noGuarantee
      (fun s => s.spi2.Still ∧ (s.spi2.con = 0#32 ∧ s.spi2.rbf = false)) (writeReg .IFS1CLR v)
      fun _ s => s.spi2.Still ∧ (s.spi2.con = 0#32 ∧ s.spi2.rbf = false) :=
    fun v => triple_writeStill (F := fun x => x.con = 0#32 ∧ x.rbf = false)
      (Q := fun x => x.con = 0#32 ∧ x.rbf = false) fun x hx hF => ⟨hx, hF⟩
  refine (hkeep _).bind fun _ => (hkeep _).bind fun _ => (hkeep _).bind fun _ => ?_
  refine Triple.bind (triple_writeStill (F := fun x => x.con = 0#32 ∧ x.rbf = false)
    (Q := fun x => x.con = 0#32 ∧ x.rbf = false) fun x hx hF => ⟨hx, hF⟩) fun _ => ?_
  refine Triple.bind (triple_writeStill (F := fun x => x.con = 0#32 ∧ x.rbf = false)
    (Q := fun x => x.con = 0#32 ∧ x.rbf = false ∧ x.rov = false)
    fun x hx hF => ⟨hx, hF.1, hF.2, rfl⟩) fun _ => ?_
  -- the two bits are set one after the other
  refine Triple.bind (triple_writeStill (F := fun x => x.con = 0#32 ∧ x.rbf = false ∧ x.rov = false)
    (Q := fun x => x.con = 0x120#32 ∧ x.rbf = false ∧ x.rov = false) fun x hx hF => ?_) fun _ => ?_
  · have hcon :
        x.con ||| (0#32 ||| SPI2CON_CKE ||| 0#32 ||| SPI2CON_MSTEN ||| 0#32) = 0x120#32 := by
      rw [hF.1]
      decide
    simp only [Spi2.write, Spi2.setCon, hcon]
    rw [if_pos (by decide)]
    exact ⟨⟨rfl, rfl⟩, rfl, hF.2⟩
  · refine triple_writeStill (F := fun x => x.con = 0x120#32 ∧ x.rbf = false ∧ x.rov = false)
      (Q := fun x => x.con = 0x8120#32 ∧ x.rbf = false ∧ x.rov = false) fun x hx hF => ?_
    have hcon : x.con ||| SPI2CON_ON = 0x8120#32 := by
      rw [hF.1]
      decide
    simp only [Spi2.write, Spi2.setCon, hcon]
    rw [if_neg (by decide)]
    exact ⟨hx, rfl, hF.2⟩

/-- What the transfer setup of `main` keeps. -/
lemma triple_transferSetup_rest (setup : Option SpiTransferSetup) (spiSourceClock : Word32) :
    Triple (boardMachine B) (Board.Rely B) noGuarantee
      (fun s => s.spi2.Still ∧ (s.spi2.rbf = false ∧ s.spi2.rov = false))
      (spi2TransferSetup setup spiSourceClock)
      fun _ s => s.spi2.Still ∧ (s.spi2.rbf = false ∧ s.spi2.rov = false) := by
  have hst : Stable (Board.Rely B)
      fun s => s.spi2.Still ∧ (s.spi2.rbf = false ∧ s.spi2.rov = false) :=
    stable_still_and (F := fun x => x.rbf = false ∧ x.rov = false)
  have hpure : ∀ ok : Bool, Triple (boardMachine B) (Board.Rely B) noGuarantee
      (fun s => s.spi2.Still ∧ (s.spi2.rbf = false ∧ s.spi2.rov = false)) (.pure ok)
      fun _ s => s.spi2.Still ∧ (s.spi2.rbf = false ∧ s.spi2.rov = false) :=
    fun ok => Triple.pure hst fun s hs => hs
  cases setup with
  | none => exact hpure false
  | some setup =>
    by_cases hf : setup.clockFrequency = 0#32
    · rw [spi2TransferSetup, if_pos hf]
      exact hpure false
    · rw [transferSetup_eq hf]
      split
      · exact hpure false
      · refine Triple.op (T := fun _ s => s.spi2.Still ∧ (s.spi2.rbf = false ∧ s.spi2.rov = false))
          hst ?_ fun _ => Triple.op (T := fun _ s => s.spi2.Still ∧ (s.spi2.rbf = false ∧
            s.spi2.rov = false)) hst ?_ fun con => Triple.op (T := fun _ s => s.spi2.Still ∧
              (s.spi2.rbf = false ∧ s.spi2.rov = false)) hst ?_ fun _ => hpure true
        · rintro s _ s' hs rfl
          exact ⟨trivial, hs⟩
        · rintro s r s' hs ⟨rfl, rfl⟩
          exact ⟨trivial, hs⟩
        · rintro s _ s' hs rfl
          simp only [Spi2.write, Spi2.setCon]
          split
          · exact ⟨trivial, ⟨rfl, rfl⟩, hs.2⟩
          · exact ⟨trivial, hs⟩

/-- `main` leaves the master as the driver needs it, and the chip select high. -/
lemma triple_mainSpiSetup :
    Triple (boardMachine B) (Board.Rely B) noGuarantee (fun _ => True) mainSpiSetup
      fun _ s => SpiReady true s ∧ s.spi2.brg = 3#32 := by
  have hbrg : spi2Brg (spi2Clock 0#32) 10000000#32 = 3#32 := by decide
  have hst : Stable (Board.Rely B) fun s => (s.spi2.con = 0x8120#32 ∧ s.spi2.brg = 3#32) ∧
      s.spi2.Still ∧ (s.spi2.rbf = false ∧ s.spi2.rov = false) :=
    stable_registers.and (stable_still_and (F := fun x => x.rbf = false ∧ x.rov = false))
  refine Triple.bind triple_initialize fun _ => ?_
  refine Triple.bind (T := fun _ s => (s.spi2.con = 0x8120#32 ∧ s.spi2.brg = 3#32) ∧
    s.spi2.Still ∧ (s.spi2.rbf = false ∧ s.spi2.rov = false)) ?_ fun _ => ?_
  · refine Triple.pre (P := fun s => ∃ brg, (s.spi2.con = 0x8120#32 ∧ s.spi2.brg = brg) ∧
      s.spi2.Still ∧ (s.spi2.rbf = false ∧ s.spi2.rov = false)) (Triple.of_exists fun brg => ?_)
      fun s hs => ⟨_, ⟨hs.2.1, rfl⟩, hs.1, hs.2.2⟩
    have hne : (⟨10000000#32, 0x100#32, 0#32, 0#32⟩ : SpiTransferSetup).clockFrequency ≠ 0#32 := by
      decide
    have hboth := (triple_transferSetup (B := B) hne 0#32 0x8120#32 brg).both
      (triple_transferSetup_rest (B := B) (some ⟨10000000#32, 0x100#32, 0#32, 0#32⟩) 0#32)
    refine (hboth.guarantee fun _ _ _ _ _ => trivial).post ?_
    rintro ok s ⟨hset, hrest⟩
    rw [if_neg (by rw [hbrg]; decide), hbrg] at hset
    exact ⟨⟨hset.2.1.trans (by decide), hset.2.2⟩, hrest⟩
  · refine Triple.op (T := fun _ s => SpiReady true s ∧ s.spi2.brg = 3#32) hst ?_ fun _ =>
      Triple.pure ?_ fun s hs => hs
    · rintro s _ s' ⟨⟨hcon, hbrg⟩, hstill, hrbf, hrov⟩ ⟨w, -, rfl⟩
      refine ⟨trivial, ⟨⟨hstill, hrbf, hrov⟩, ?_, ?_, cs_set s w⟩, hbrg⟩
      · change sizeOf s.spi2.con = 1
        rw [hcon]
        decide
      · change IsOn s.spi2.con
        rw [hcon]
        decide
    · intro s s' hs hR
      exact ⟨stable_spiReady _ _ hs.1 hR, (stable_registers _ _ ⟨rfl, hs.2⟩ hR).2⟩

end Enc624j600
