/-
# The board as a machine

The SPI master moves a word by itself: a word written to `SPI2BUF` waits in the transmit buffer
until the shift register is free, is exchanged for one of the other side of the bus, and what
came back waits in the receive buffer.  If it finds this buffer full, it is lost and `SPIROV` is
set; until that bit is cleared everything that comes back is lost.  These moves are steps of the
surroundings, so a program is seen under every timing of the peripheral.

What is on the other side of the bus is a parameter, `Bus`.
-/
import Mathlib.Logic.Function.Basic
import Enc624j600.Lib.Steps
import Enc624j600.Lib.RelyGuarantee
import Enc624j600.Source.Board

namespace Enc624j600

open Interaction

/-! ### The SPI master -/

/-- The module: its registers, and the words in its buffers. -/
structure Spi2 where
  con : Word32
  brg : Word32
  iec1 : Word32
  ifs1 : Word32
  /-- The transmit buffer. -/
  txb : Option Word32
  /-- The shift register: the word that is being exchanged. -/
  sr : Option Word32
  /-- The receive buffer, which is full if `rbf` is set. -/
  rxb : Word32
  rbf : Bool
  rov : Bool
deriving DecidableEq, Repr

/-- What is left of a word in the mode that `con` selects. -/
def truncate (con v : Word32) : Word32 :=
  if con &&& SPI2CON_MODE32 = SPI2CON_MODE32 then v
  else if con &&& SPI2CON_MODE16 = SPI2CON_MODE16 then v &&& 0xFFFF#32
  else v &&& 0xFF#32

namespace Spi2

/-- `SPI2STAT`. -/
def stat (s : Spi2) : Word32 :=
  (if s.rbf then SPI2STAT_SPIRBF else 0#32) |||
    (if s.txb.isNone then SPI2STAT_SPITBE else 0#32) |||
    (if s.rov then SPI2STAT_SPIROV else 0#32) |||
    if s.txb.isNone && s.sr.isNone then 0#32 else SPI2STAT_SPIBUSY

/-- Write `SPI2CON`.  Switched off, the module stops and drops what it was to send. -/
def setCon (s : Spi2) (v : Word32) : Spi2 :=
  if v &&& SPI2CON_ON = 0#32 then { s with con := v, txb := none, sr := none }
  else { s with con := v }

/-- Read a register. -/
def read (s : Spi2) : Spi2Reg → Word32 × Spi2
  | .SPI2CON => (s.con, s)
  | .SPI2STAT => (s.stat, s)
  | .SPI2BUF => (s.rxb, { s with rbf := false })
  | .SPI2BRG => (s.brg, s)
  | _ => (0#32, s)

/-- Write a register. -/
def write (s : Spi2) (v : Word32) : Spi2Reg → Spi2
  | .SPI2CON => s.setCon v
  | .SPI2CONSET => s.setCon (s.con ||| v)
  | .SPI2STAT => s
  | .SPI2STATCLR => if v &&& SPI2STAT_SPIROV = 0#32 then s else { s with rov := false }
  | .SPI2BUF => { s with txb := some (truncate s.con v) }
  | .SPI2BRG => { s with brg := v }
  | .IEC1CLR => { s with iec1 := s.iec1 &&& ~~~v }
  | .IFS1CLR => { s with ifs1 := s.ifs1 &&& ~~~v }

/-- The word in the shift register was exchanged for `y`. -/
def finish (s : Spi2) (y : Word32) : Spi2 :=
  if s.rbf || s.rov then { s with sr := none, rov := true }
  else { s with sr := none, rxb := y, rbf := true }

/-- The bits of `SPI2STAT` say what they are for. -/
lemma stat_rbf (s : Spi2) : s.stat &&& SPI2STAT_SPIRBF = 0#32 ↔ s.rbf = false := by
  rw [stat]
  cases s.rbf <;> cases s.txb.isNone <;> cases s.rov <;> cases s.sr.isNone <;> decide

lemma stat_tbe (s : Spi2) : s.stat &&& SPI2STAT_SPITBE = 0#32 ↔ s.txb.isNone = false := by
  rw [stat]
  cases s.rbf <;> cases s.txb.isNone <;> cases s.rov <;> cases s.sr.isNone <;> decide

end Spi2

/-! ### The other side of the bus -/

/-- What is connected to the board. -/
structure Bus (W : Type) where
  /-- A word is sent, and one comes back. -/
  exchange : W → Word32 → Word32 → W → Prop
  /-- The chip select falls. -/
  select : W → W → Prop
  /-- The chip select rises. -/
  deselect : W → W → Prop
  /-- The operations of the driver that do not use the bus. -/
  loc : W → (l : Local) → l.Res → W → Prop
  /-- What happens there besides. -/
  rely : W → W → Prop

/-- A level of the chip select follows another one. -/
def Bus.follow {W : Type} (B : Bus W) : Bool → Bool → W → W → Prop
  | true, false, w, w' => B.select w w'
  | false, true, w, w' => B.deselect w w'
  | _, _, w, w' => w' = w

/-- The words `xs` are exchanged, while other things happen there. -/
inductive Bus.Exchanged {W : Type} (B : Bus W) (w : W) : List (Word32 × Word32) → W → Prop where
  | start : B.Exchanged w [] w
  | env {xs : List (Word32 × Word32)} {v v' : W} : B.Exchanged w xs v → B.rely v v' →
      B.Exchanged w xs v'
  | step {xs : List (Word32 × Word32)} {x y : Word32} {v v' : W} : B.Exchanged w xs v →
      B.exchange v x y v' → B.Exchanged w (xs ++ [(x, y)]) v'

/-! ### The board -/

/-- The SPI master, the port latches and what is connected to the bus. -/
structure Board (W : Type) where
  spi2 : Spi2
  /-- The port latches. -/
  lat : ℕ → Word32
  /-- The object that `pReceiveData` points to. -/
  memory : ℕ → Byte
  ticks : TickType
  bus : W

/-- Replace the bytes from `offset` on. -/
def putBytes (memory : ℕ → Byte) (offset : ℕ) (bytes : List Byte) : ℕ → Byte := fun i =>
  if offset ≤ i then (bytes[i - offset]?).getD (memory i) else memory i

namespace Board

variable {W : Type}

/-- The level of the chip select. -/
def cs (s : Board W) : Bool := (s.lat GPIO_PIN_RF12.port).getLsbD 12

/-- Write a port latch: the other side of the bus sees the chip select change. -/
def SetLat (B : Bus W) (s : Board W) (port : ℕ) (v : Word32) (s' : Board W) : Prop :=
  ∃ w, B.follow s.cs { s with lat := Function.update s.lat port v }.cs s.bus w ∧
    s' = { s with lat := Function.update s.lat port v, bus := w }

/-- What the surroundings of a program do: the SPI master works, time passes, the other side of
the bus acts, and other tasks write the ports that are not the one of the chip select. -/
inductive Rely (B : Bus W) (s : Board W) : Board W → Prop where
  | load {x : Word32} : s.spi2.con &&& SPI2CON_ON ≠ 0#32 → s.spi2.sr = none →
      s.spi2.txb = some x → Rely B s { s with spi2 := { s.spi2 with txb := none, sr := some x } }
  | finish {x y : Word32} {w : W} : s.spi2.sr = some x → B.exchange s.bus x y w →
      Rely B s { s with spi2 := s.spi2.finish (truncate s.spi2.con y), bus := w }
  | tick : Rely B s { s with ticks := s.ticks + 1#32 }
  | bus {w : W} : B.rely s.bus w → Rely B s { s with bus := w }
  | lat {port : ℕ} {v : Word32} : port ≠ GPIO_PIN_RF12.port →
      Rely B s { s with lat := Function.update s.lat port v }

end Board

/-- The board with `B` on the bus. -/
def boardMachine {W : Type} (B : Bus W) : Machine BoardOp BoardOp.Res (Board W) where
  step s o r s' :=
    match o, r with
    | .readReg reg, r => r = (s.spi2.read reg).1 ∧ s' = { s with spi2 := (s.spi2.read reg).2 }
    | .writeReg reg v, _ => s' = { s with spi2 := s.spi2.write v reg }
    | .latSet port mask, _ => s.SetLat B port (s.lat port ||| mask) s'
    | .latClr port mask, _ => s.SetLat B port (s.lat port &&& ~~~mask) s'
    | .latInv port mask, _ => s.SetLat B port (s.lat port ^^^ mask) s'
    | .put offset bytes, _ => s' = { s with memory := putBytes s.memory offset bytes }
    | .get offset, r => r = s.memory offset ∧ s' = s
    | .tickCount, r => r = s.ticks ∧ s' = s
    | .loc l, r => ∃ w, B.loc s.bus l r w ∧ s' = { s with bus := w }

/-! ### Storing bytes -/

/-- Bytes stored after those at the front. -/
lemma putBytes_append (memory : ℕ → Byte) (xs ys : List Byte) :
    putBytes (putBytes memory 0 xs) xs.length ys = putBytes memory 0 (xs ++ ys) := by
  funext i
  simp only [putBytes, Nat.zero_le, if_true, Nat.sub_zero]
  by_cases h : xs.length ≤ i
  · rw [if_pos h, List.getElem?_eq_none h, List.getElem?_append_right h, Option.getD_none]
  · rw [if_neg h, List.getElem?_append_left (by omega)]

lemma putBytes_nil (memory : ℕ → Byte) (offset : ℕ) : putBytes memory offset [] = memory := by
  funext i
  simp [putBytes]

@[simp] lemma length_elementBytes (size : ℕ) (v : Word32) :
    (elementBytes size v).length = size := by
  simp [elementBytes]

end Enc624j600
