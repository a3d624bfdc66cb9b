/-
# What the chip does on its own

Between two instructions the chip leaves its power-on reset, carries out a system reset,
finishes an access to a PHY register, receives and sends frames, and changes its status
registers.  An event can happen in the states in which it is enabled; `apply` is its effect.

`Surroundings` are a choice of events, depending on the state: they say which part of this
behaviour a result is about.
-/
import Enc624j600.Chip.State

namespace Enc624j600

open Cyclic

/-- The bits of `ECON1` that show the flow control. -/
abbrev FCOP : Word := FCOP0 ||| FCOP1

/-- How a transmission ended. -/
structure TxOutcome where
  etxstat : Word
  etxwire : Word
  /-- The flow-control bits of `ECON1` after it. -/
  fcop : Word
  /-- The frame that left on the wire, if one did. -/
  wire : Option (List Byte)

/-- The PHY registers that report a status. -/
def IsPhyStatus (reg : BitVec 5) : Prop :=
  reg = PHSTAT1.setWidth 5 ∨ reg = PHANLPA.setWidth 5 ∨ reg = PHANE.setWidth 5 ∨
    reg = PHSTAT2.setWidth 5 ∨ reg = PHSTAT3.setWidth 5

instance (reg : BitVec 5) : Decidable (IsPhyStatus reg) :=
  inferInstanceAs (Decidable (_ ∨ _ ∨ _ ∨ _ ∨ _))

/-- The states that a system reset can lead to: `EUDAST`, `ECON1` and `ETXSTAT` have their
reset values, the other registers hold anything. -/
structure PostReset (c : Chip) : Prop where
  por : c.por = false
  resetPending : c.resetPending = false
  eudast : c.sfr EUDAST = 0#16
  econ1 : c.sfr ECON1 = 0#16
  etxstat : c.sfr ETXSTAT = 0#16
  mii : c.mii = .idle
  pktcnt : c.pktcnt = 0#8
  deposited : c.deposited = []
  delivered : c.delivered = 0
  wire : c.wire = []

/-- What the chip does on its own. -/
inductive ChipEvent where
  /-- The power-on reset ends. -/
  | powerUp
  /-- Another register content shows during the power-on reset. -/
  | noise (value : Word)
  /-- A system reset takes effect. -/
  | resetDone (post : Chip)
  /-- `ESTAT`, but for the packet counter, and `EIR` change. -/
  | status (estat eir : Word)
  /-- A status register of the PHY changes. -/
  | phyStatus (reg : BitVec 5) (value : Word)
  /-- The access to a PHY register ends. -/
  | miiDone
  /-- Bytes of a frame that is being received are stored ahead of the head. -/
  | store (bytes : List Byte)
  /-- A frame is stored and counted; `rsv` is the rest of its status vector. -/
  | deposit (f : Frame) (rsv : List Byte)
  /-- A transmission ends. -/
  | transmitted (o : TxOutcome)
  /-- The flow control changes. -/
  | flowControl (fcop : Word)

namespace ChipEvent

/-- The states in which an event can happen. -/
def Enabled (c : Chip) : ChipEvent → Prop
  | .powerUp => c.por = true
  | .noise _ => c.por = true
  | .resetDone post => c.resetPending = true ∧ PostReset post
  | .status _ _ => True
  | .phyStatus reg _ => IsPhyStatus reg
  | .miiDone => c.mii ≠ .idle
  | .store _ => c.Receiving
  | .deposit _ rsv => c.Receiving ∧ c.pktcnt ≠ 255#8 ∧ rsv.length = 4
  | .transmitted _ => c.Transmitting
  | .flowControl _ => True

/-- The flow-control bits of a value, in `ECON1`. -/
def withFcop (econ1 fcop : Word) : Word := (econ1 &&& ~~~FCOP) ||| (fcop &&& FCOP)

/-- The effect of an event. -/
def apply (c : Chip) : ChipEvent → Chip
  | .powerUp => { c with por := false }
  | .noise value => { c with noise := value }
  | .resetDone post => { post with resets := c.resets + 1 }
  | .status estat eir => (c.setSfr ESTAT estat).setSfr EIR eir
  | .phyStatus reg value => { c with phy := Function.update c.phy reg value }
  | .miiDone =>
    match c.mii with
    | .idle => c
    | .reading reg => { c.setSfr MIRD (c.phy reg) with mii := .idle }
    | .writing reg value => { c with phy := Function.update c.phy reg value, mii := .idle }
  | .store bytes => { c with sram := writeTo c.rxNext c.sram c.head bytes }
  | .deposit f rsv =>
    let next := c.rxNext^[f.slotSize] c.head
    { c.setSfr ERXHEAD (BitVec.ofNat 16 next) with
      sram := writeTo c.rxNext c.sram c.head (slotBytes next rsv f)
      pktcnt := c.pktcnt + 1#8
      deposited := c.deposited ++ [f] }
  | .transmitted o =>
    { ((c.setSfr ECON1 (withFcop (c.sfr ECON1 &&& ~~~TXRTS) o.fcop)).setSfr ETXSTAT
        o.etxstat).setSfr ETXWIRE o.etxwire with
      wire := c.wire ++ o.wire.toList }
  | .flowControl fcop => c.setSfr ECON1 (withFcop (c.sfr ECON1) fcop)

end ChipEvent

/-- The events that can happen in a state. -/
abbrev Surroundings : Type := Chip → ChipEvent → Prop

/-- Surroundings in which nothing happens. -/
def still : Surroundings := fun _ _ => False

/-- Surroundings in which every enabled event can happen. -/
def anything : Surroundings := fun _ _ => True

/-- The number of bytes taken by the frames that are counted and not released. -/
def Chip.used (c : Chip) : ℕ := slotFormat.total c.pending

/-- The chip stores received bytes only where no counted frame lies.  A chip that only compares its
head with `ERXTAIL` does so no longer once a slot that the driver gives up ends the ring: `ERXTAIL`
then holds `0x1FFE`, which the head never reaches. -/
def sparing : Surroundings := fun c e =>
  match e with
  | .store bytes => c.used + bytes.length ≤ rxRegion.size
  | .deposit f _ => c.used + f.slotSize ≤ rxRegion.size
  | _ => True

/-- The chip stores a received byte only while the address it has reached differs from
`ERXTAIL`. -/
def tailGated : Surroundings := fun c e =>
  match e with
  | .store bytes => ∀ i < bytes.length, c.rxNext^[i] c.head ≠ (c.sfr ERXTAIL).toNat
  | .deposit f _ => ∀ i < 8 + f.length, c.rxNext^[i] c.head ≠ (c.sfr ERXTAIL).toNat
  | _ => True

end Enc624j600
