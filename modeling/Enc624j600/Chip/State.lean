/-
# The chip

The part of the ENC624J600 that the driver talks to: the register file, the buffer pointers,
the SRAM, the PHY registers behind the MII interface, and what each SPI instruction does to
them.  What the chip does on its own is in `Events.lean`.

The last four fields are history: they record what the chip received, handed over and sent
since its last reset.  No instruction reads them.
-/
import Enc624j600.Chip.Frame
import Enc624j600.Source.Driver

namespace Enc624j600

open Cyclic

/-- The PHY access that the MII interface is busy with. -/
inductive Mii where
  | idle
  | reading (reg : BitVec 5)
  | writing (reg : BitVec 5) (value : Word)
deriving DecidableEq, Repr

/-- The registers, the SRAM and the packet counter, and what was received and sent. -/
structure Chip where
  /-- The chip is still in its power-on reset and does not follow instructions. -/
  por : Bool
  /-- What a register seems to hold during the power-on reset. -/
  noise : Word
  /-- A system reset was requested and has not taken effect yet. -/
  resetPending : Bool
  sfr : Byte → Word
  pointer : BufferPointer → Word
  sram : ℕ → Byte
  phy : BitVec 5 → Word
  mii : Mii
  /-- The packet counter, bits 0 to 7 of `ESTAT`. -/
  pktcnt : BitVec 8
  /-- How many system resets took effect. -/
  resets : ℕ
  /-- The frames stored in the receive buffer, in their order. -/
  deposited : List Frame
  /-- How many of them were released by decrementing the packet counter. -/
  delivered : ℕ
  /-- The frames sent, as they left on the wire. -/
  wire : List (List Byte)

/-- The MAC and MII registers, which the bit-field instructions have no effect on. -/
def IsMacOrMii (a : Byte) : Prop := 0x40#8 ≤ a ∧ a ≤ 0x6B#8

instance (a : Byte) : Decidable (IsMacOrMii a) := inferInstanceAs (Decidable (_ ∧ _))

namespace Chip

variable (c : Chip)

/-! ## Updates -/

/-- Replace the value of a register. -/
def setSfr (a : Byte) (v : Word) : Chip := { c with sfr := Function.update c.sfr a v }

/-- Replace the value of a buffer pointer. -/
def setPointer (p : BufferPointer) (v : Word) : Chip :=
  { c with pointer := Function.update c.pointer p v }

@[simp] lemma setSfr_sfr (a b : Byte) (v : Word) :
    (c.setSfr a v).sfr b = if b = a then v else c.sfr b := Function.update_apply ..

@[simp] lemma setSfr_por (a : Byte) (v : Word) : (c.setSfr a v).por = c.por := rfl

@[simp] lemma setSfr_resetPending (a : Byte) (v : Word) :
    (c.setSfr a v).resetPending = c.resetPending := rfl

@[simp] lemma setSfr_pointer (a : Byte) (v : Word) : (c.setSfr a v).pointer = c.pointer := rfl

@[simp] lemma setSfr_sram (a : Byte) (v : Word) : (c.setSfr a v).sram = c.sram := rfl

@[simp] lemma setSfr_phy (a : Byte) (v : Word) : (c.setSfr a v).phy = c.phy := rfl

@[simp] lemma setSfr_mii (a : Byte) (v : Word) : (c.setSfr a v).mii = c.mii := rfl

@[simp] lemma setSfr_pktcnt (a : Byte) (v : Word) : (c.setSfr a v).pktcnt = c.pktcnt := rfl

@[simp] lemma setSfr_resets (a : Byte) (v : Word) : (c.setSfr a v).resets = c.resets := rfl

@[simp] lemma setSfr_deposited (a : Byte) (v : Word) :
    (c.setSfr a v).deposited = c.deposited := rfl

@[simp] lemma setSfr_delivered (a : Byte) (v : Word) :
    (c.setSfr a v).delivered = c.delivered := rfl

@[simp] lemma setSfr_wire (a : Byte) (v : Word) : (c.setSfr a v).wire = c.wire := rfl

@[simp] lemma setPointer_pointer (p q : BufferPointer) (v : Word) :
    (c.setPointer p v).pointer q = if q = p then v else c.pointer q := Function.update_apply ..

@[simp] lemma setPointer_por (p : BufferPointer) (v : Word) :
    (c.setPointer p v).por = c.por := rfl

@[simp] lemma setPointer_resetPending (p : BufferPointer) (v : Word) :
    (c.setPointer p v).resetPending = c.resetPending := rfl

@[simp] lemma setPointer_sfr (p : BufferPointer) (v : Word) :
    (c.setPointer p v).sfr = c.sfr := rfl

@[simp] lemma setPointer_sram (p : BufferPointer) (v : Word) :
    (c.setPointer p v).sram = c.sram := rfl

@[simp] lemma setPointer_phy (p : BufferPointer) (v : Word) :
    (c.setPointer p v).phy = c.phy := rfl

@[simp] lemma setPointer_mii (p : BufferPointer) (v : Word) :
    (c.setPointer p v).mii = c.mii := rfl

@[simp] lemma setPointer_pktcnt (p : BufferPointer) (v : Word) :
    (c.setPointer p v).pktcnt = c.pktcnt := rfl

@[simp] lemma setPointer_resets (p : BufferPointer) (v : Word) :
    (c.setPointer p v).resets = c.resets := rfl

@[simp] lemma setPointer_deposited (p : BufferPointer) (v : Word) :
    (c.setPointer p v).deposited = c.deposited := rfl

@[simp] lemma setPointer_delivered (p : BufferPointer) (v : Word) :
    (c.setPointer p v).delivered = c.delivered := rfl

@[simp] lemma setPointer_wire (p : BufferPointer) (v : Word) :
    (c.setPointer p v).wire = c.wire := rfl

/-! ## Registers -/

/-- What a register shows when it is read. -/
def shown (a : Byte) : Word :=
  if a = ESTAT then (c.sfr ESTAT &&& 0xFF00#16) ||| c.pktcnt.setWidth 16
  else if a = MISTAT then
    if c.mii = .idle then c.sfr MISTAT &&& ~~~BUSY else c.sfr MISTAT ||| BUSY
  else c.sfr a

lemma shown_of_ne {a : Byte} (h : a ≠ ESTAT ∧ a ≠ MISTAT) : c.shown a = c.sfr a := by
  rw [shown, if_neg h.1, if_neg h.2]

/-- Write a register.  `ERXHEAD` follows `ERXST`; setting `MIIRD` starts reading the PHY
register that `MIREGADR` selects, a write to `MIWR` starts writing it. -/
def writeSfr (a : Byte) (v : Word) : Chip :=
  if a = ERXST then (c.setSfr ERXST v).setSfr ERXHEAD v
  else if a = MICMD then
    if v &&& MIIRD ≠ 0#16 then
      { c.setSfr MICMD v with mii := .reading ((c.sfr MIREGADR).setWidth 5) }
    else c.setSfr MICMD v
  else if a = MIWR then
    { c.setSfr MIWR v with mii := .writing ((c.sfr MIREGADR).setWidth 5) v }
  else c.setSfr a v

lemma writeSfr_erxst (v : Word) : c.writeSfr ERXST v = (c.setSfr ERXST v).setSfr ERXHEAD v := by
  rw [writeSfr, if_pos rfl]

/-- A write without a further effect. -/
lemma writeSfr_of_ne {a : Byte} (h : a ≠ ERXST ∧ a ≠ MICMD ∧ a ≠ MIWR) (v : Word) :
    c.writeSfr a v = c.setSfr a v := by
  rw [writeSfr, if_neg h.1, if_neg h.2.1, if_neg h.2.2]

lemma writeSfr_micmd_one : c.writeSfr MICMD 0x0001#16 =
    { c.setSfr MICMD 0x0001#16 with mii := .reading ((c.sfr MIREGADR).setWidth 5) } := by
  rw [writeSfr, if_neg (by decide), if_pos rfl, if_pos (by decide)]

lemma writeSfr_micmd_zero : c.writeSfr MICMD 0x0000#16 = c.setSfr MICMD 0x0000#16 := by
  rw [writeSfr, if_neg (by decide), if_pos rfl, if_neg (by decide)]

lemma writeSfr_miwr (v : Word) : c.writeSfr MIWR v =
    { c.setSfr MIWR v with mii := .writing ((c.sfr MIREGADR).setWidth 5) v } := by
  rw [writeSfr, if_neg (by decide), if_neg (by decide), if_pos rfl]

/-- `BFSU`. -/
def setBits (a : Byte) (mask : Word) : Chip :=
  if IsMacOrMii a then c else c.setSfr a (c.sfr a ||| mask)

/-- `BFCU`. -/
def clearBits (a : Byte) (mask : Word) : Chip :=
  if IsMacOrMii a then c else c.setSfr a (c.sfr a &&& ~~~mask)

/-- The single-byte instructions. -/
def single (opcode : Byte) : Chip :=
  if opcode = SETETHRST then { c with resetPending := true }
  else if opcode = SETTXRTS then c.setSfr ECON1 (c.sfr ECON1 ||| TXRTS)
  else if opcode = SETPKTDEC then
    if c.pktcnt = 0#8 then c
    else { c with pktcnt := c.pktcnt - 1#8, delivered := c.delivered + 1 }
  else if opcode = ENABLERX then c.setSfr ECON1 (c.sfr ECON1 ||| RXEN)
  else if opcode = DISABLERX then c.setSfr ECON1 (c.sfr ECON1 &&& ~~~RXEN)
  else c

lemma single_setethrst : c.single SETETHRST = { c with resetPending := true } := by
  rw [single, if_pos rfl]

lemma single_settxrts : c.single SETTXRTS = c.setSfr ECON1 (c.sfr ECON1 ||| TXRTS) := by
  rw [single, if_neg (by decide), if_pos rfl]

lemma single_setpktdec : c.single SETPKTDEC = if c.pktcnt = 0#8 then c
    else { c with pktcnt := c.pktcnt - 1#8, delivered := c.delivered + 1 } := by
  simp +decide only [single, ↓reduceIte]

lemma single_enablerx : c.single ENABLERX = c.setSfr ECON1 (c.sfr ECON1 ||| RXEN) := by
  simp +decide only [single, ↓reduceIte]

lemma single_disablerx : c.single DISABLERX = c.setSfr ECON1 (c.sfr ECON1 &&& ~~~RXEN) := by
  simp +decide only [single, ↓reduceIte]

/-! ## Windows to the SRAM -/

/-- The address after `a` in the receive buffer. -/
def rxNext (a : ℕ) : ℕ := if a + 1 = 0x6000 then (c.sfr ERXST).toNat else a + 1

/-- The address after `a` for the pointer of a window. -/
def windowNext (reg : WindowReg) (a : ℕ) : ℕ :=
  match reg with
  | .EGPDATA => if a + 1 = (c.sfr ERXST).toNat then 0 else a + 1
  | .ERXDATA => c.rxNext a
  | .EUDADATA => if a = (c.sfr EUDAND).toNat then (c.sfr EUDAST).toNat else a + 1

/-- The pointer that a window is read through. -/
def readPointerOf : WindowReg → BufferPointer
  | .EGPDATA => .EGPRDPT
  | .ERXDATA => .ERXRDPT
  | .EUDADATA => .EUDARDPT

/-- The pointer that a window is written through. -/
def writePointerOf : WindowReg → BufferPointer
  | .EGPDATA => .EGPWRPT
  | .ERXDATA => .ERXWRPT
  | .EUDADATA => .EUDAWRPT

/-- The pointer of a window after `n` bytes. -/
def advance (reg : WindowReg) (p : Word) (n : ℕ) : Word :=
  BitVec.ofNat 16 ((c.windowNext reg)^[n] p.toNat)

/-- Read `n` bytes through a window; its pointer moves behind them. -/
def readWindow (reg : WindowReg) (n : ℕ) : List Byte × Chip :=
  let p := c.pointer (readPointerOf reg)
  (readFrom (c.windowNext reg) c.sram p.toNat n,
    c.setPointer (readPointerOf reg) (c.advance reg p n))

/-- Write bytes through a window; its pointer moves behind them. -/
def writeWindow (reg : WindowReg) (bytes : List Byte) : Chip :=
  let p := c.pointer (writePointerOf reg)
  { c.setPointer (writePointerOf reg) (c.advance reg p bytes.length) with
    sram := writeTo (c.windowNext reg) c.sram p.toNat bytes }

/-! ## Instructions -/

/-- What an instruction answers during the power-on reset, when it has no effect; the
read-back of `EUDAST` then fails. -/
def noiseAnswer : (i : Instr) → i.Res
  | .single _ => ()
  | .readPointer _ => c.noise
  | .writePointer _ _ => ()
  | .readSfr a => if a = EUDAST ∧ c.noise = 0x1234#16 then 0#16 else c.noise
  | .writeSfr _ _ => ()
  | .setBits _ _ => ()
  | .clearBits _ _ => ()
  | .readWindow _ n => List.replicate n 0xFF#8
  | .writeWindow _ _ => ()

/-- The answer to an instruction and its effect. -/
def perform (c : Chip) : (i : Instr) → i.Res × Chip
  | .single opcode => ((), c.single opcode)
  | .readPointer p => (c.pointer p, c)
  | .writePointer p v => ((), c.setPointer p v)
  | .readSfr a => (c.shown a, c)
  | .writeSfr a v => ((), c.writeSfr a v)
  | .setBits a mask => ((), c.setBits a mask)
  | .clearBits a mask => ((), c.clearBits a mask)
  | .readWindow reg n => c.readWindow reg n
  | .writeWindow reg bytes => ((), c.writeWindow reg bytes)

/-- The answer to an instruction and its effect, also during the power-on reset. -/
def exec (i : Instr) : i.Res × Chip := if c.por then (c.noiseAnswer i, c) else c.perform i

/-- `TXRTS` is set. -/
def Transmitting : Prop := c.sfr ECON1 &&& TXRTS ≠ 0#16

/-- `RXEN` is set. -/
def Receiving : Prop := c.sfr ECON1 &&& RXEN ≠ 0#16

/-- The frames stored and not yet released. -/
def pending : List Frame := c.deposited.drop c.delivered

/-- The address at which the chip stores the next received byte of a new frame. -/
def head : ℕ := (c.sfr ERXHEAD).toNat

end Chip

end Enc624j600
