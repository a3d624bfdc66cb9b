/-
# The board under the driver

The hardware abstraction layer of `main.c` and the peripheral library under it: the port pins of
`plib_gpio.c` and the SPI master of `plib_spi2_master.c`, as programs over single accesses to
the registers of the microcontroller.

The bits of the registers are those of the microcontroller's documentation.  Sizes and counters
are natural numbers: no counter passes its size, so none of them wraps around.
-/
import Mathlib.Data.List.Basic
import Enc624j600.Source.Main
import Enc624j600.Source.Spi

namespace Enc624j600

open Interaction

/-- `uint32_t`. -/
abbrev Word32 : Type := BitVec 32

/-! ## Registers -/

/-- The registers of SPI2, and those for its interrupts. -/
inductive Spi2Reg where
  | SPI2CON
  | SPI2CONSET
  | SPI2STAT
  | SPI2STATCLR
  | SPI2BUF
  | SPI2BRG
  | IEC1CLR
  | IFS1CLR
deriving DecidableEq, Repr

/-! ### The bits of `SPI2CON` and `SPI2STAT` -/

abbrev SPI2CON_MSTEN : Word32 := 0x20#32
abbrev SPI2CON_CKP : Word32 := 0x40#32
abbrev SPI2CON_CKE : Word32 := 0x100#32
abbrev SPI2CON_MODE16 : Word32 := 0x400#32
abbrev SPI2CON_MODE32 : Word32 := 0x800#32
abbrev SPI2CON_ON : Word32 := 0x8000#32

abbrev SPI2STAT_SPIRBF : Word32 := 0x1#32
abbrev SPI2STAT_SPITBE : Word32 := 0x8#32
abbrev SPI2STAT_SPIROV : Word32 := 0x40#32
abbrev SPI2STAT_SPIBUSY : Word32 := 0x800#32

/-! ## Operations -/

/-- The operations of the functions on the board. -/
inductive BoardOp where
  | readReg (reg : Spi2Reg)
  | writeReg (reg : Spi2Reg) (value : Word32)
  /-- Write `LATxSET`. -/
  | latSet (port : ℕ) (mask : Word32)
  /-- Write `LATxCLR`. -/
  | latClr (port : ℕ) (mask : Word32)
  /-- Write `LATxINV`. -/
  | latInv (port : ℕ) (mask : Word32)
  /-- Store bytes in the object that `pReceiveData` points to. -/
  | put (offset : ℕ) (bytes : List Byte)
  /-- Read a byte of this object. -/
  | get (offset : ℕ)
  /-- `xTaskGetTickCount`. -/
  | tickCount
  /-- What the driver does besides. -/
  | loc (l : Local)
deriving DecidableEq, Repr

/-- What an operation returns. -/
abbrev BoardOp.Res : BoardOp → Type
  | .readReg _ => Word32
  | .writeReg _ _ => Unit
  | .latSet _ _ => Unit
  | .latClr _ _ => Unit
  | .latInv _ _ => Unit
  | .put _ _ => Unit
  | .get _ => Byte
  | .tickCount => TickType
  | .loc l => l.Res

/-- The functions on the board. -/
abbrev OnBoard : Type → Type 1 := Prog BoardOp BoardOp.Res

/-- Read a register of SPI2. -/
def readReg (reg : Spi2Reg) : OnBoard Word32 := .perform (BoardOp.readReg reg)

/-- Write a register of SPI2. -/
def writeReg (reg : Spi2Reg) (value : Word32) : OnBoard Unit :=
  .perform (BoardOp.writeReg reg value)

/-! ## Port pins -/

/-- `GPIO_PIN`: the number of the port in the upper bits, that of the pin in the lower four. -/
abbrev GpioPin : Type := ℕ

/-- The pin that `my_first_task` toggles. -/
abbrev GPIO_PIN_RD1 : GpioPin := 49

/-- The pin that `my_second_task` toggles. -/
abbrev GPIO_PIN_RD2 : GpioPin := 50

/-- The chip select of the Ethernet controller. -/
abbrev GPIO_PIN_RF12 : GpioPin := 92

/-- `(GPIO_PORT)(pin >> 4U)`. -/
def GpioPin.port (pin : GpioPin) : ℕ := pin >>> 4

/-- `0x1UL << (pin & 0xFU)`. -/
def GpioPin.mask (pin : GpioPin) : Word32 := 0x1#32 <<< (pin &&& 0xF)

/-- `GPIO_PinSet`. -/
def gpioPinSet (pin : GpioPin) : OnBoard Unit := .perform (BoardOp.latSet pin.port pin.mask)

/-- `GPIO_PinClear`. -/
def gpioPinClear (pin : GpioPin) : OnBoard Unit := .perform (BoardOp.latClr pin.port pin.mask)

/-- `GPIO_PinToggle`. -/
def gpioPinToggle (pin : GpioPin) : OnBoard Unit := .perform (BoardOp.latInv pin.port pin.mask)

/-! ## The SPI master -/

/-- `SPI2_Initialize`. -/
def spi2Initialize : OnBoard Unit := do
  -- disable the interrupts of SPI2
  writeReg .IEC1CLR 0x20#32
  writeReg .IEC1CLR 0x80#32
  writeReg .IEC1CLR 0x40#32
  -- stop and reset the SPI
  writeReg .SPI2CON 0#32
  let _ ← readReg .SPI2BUF
  writeReg .IFS1CLR 0x20#32
  writeReg .IFS1CLR 0x80#32
  writeReg .IFS1CLR 0x40#32
  writeReg .SPI2BRG 37#32
  writeReg .SPI2STATCLR SPI2STAT_SPIROV
  writeReg .SPI2CONSET (0#32 ||| SPI2CON_CKE ||| 0#32 ||| SPI2CON_MSTEN ||| 0#32)
  writeReg .SPI2CONSET SPI2CON_ON

/-- `SPI_TRANSFER_SETUP`. -/
structure SpiTransferSetup where
  clockFrequency : Word32
  clockPhase : Word32
  clockPolarity : Word32
  dataBits : Word32
deriving DecidableEq, Repr

/-- The value for `SPI2BRG` that is computed from the two frequencies.  A division by zero, which
has no result in the source, gives zero here. -/
def spi2Brg (spiSourceClock clockFrequency : Word32) : Word32 :=
  let tBrg := spiSourceClock / clockFrequency / 2#32 - 1#32
  let baudHigh := spiSourceClock / (2#32 * (tBrg + 1#32))
  let baudLow := spiSourceClock / (2#32 * (tBrg + 2#32))
  let errorHigh := baudHigh - clockFrequency
  let errorLow := clockFrequency - baudLow
  if errorHigh > errorLow then tBrg + 1#32 else tBrg

/-- `SPI2_TransferSetup`: `false`, and nothing is written, if there is no setup, if its frequency is
zero, or if the divider does not fit in its register. -/
def spi2TransferSetup (setup : Option SpiTransferSetup) (spiSourceClock : Word32) :
    OnBoard Bool :=
  match setup with
  | none => return false
  | some setup => do
    if setup.clockFrequency = 0#32 then
      return false
    else
      let spiSourceClock := if spiSourceClock = 0#32 then 76000000#32 else spiSourceClock
      let tBrg := spi2Brg spiSourceClock setup.clockFrequency
      if tBrg > 511#32 then
        return false
      else
        writeReg .SPI2BRG tBrg
        let con ← readReg .SPI2CON
        writeReg .SPI2CON
          ((con &&& ~~~(SPI2CON_MODE16 ||| SPI2CON_MODE32 ||| SPI2CON_CKP ||| SPI2CON_CKE)) |||
            (setup.clockPolarity ||| setup.clockPhase ||| setup.dataBits))
        return true

/-- `while ((bool)(SPI2STAT & flag) == false);` -/
def awaitStat (flag : Word32) : OnBoard Unit :=
  Prog.untilTrue do
    let stat ← readReg .SPI2STAT
    return !decide (stat &&& flag = 0#32)

/-- Flush out any unread data from the previous transfer. -/
def flush : OnBoard Unit :=
  Prog.untilTrue do
    let stat ← readReg .SPI2STAT
    if stat &&& SPI2STAT_SPIRBF = 0#32 then
      return true
    else
      let _ ← readReg .SPI2BUF
      return false

/-- The number of bytes of an element, by the two tests of `SPI2CON`. -/
def elementSize : OnBoard ℕ := do
  let con ← readReg .SPI2CON
  if con &&& SPI2CON_MODE32 = SPI2CON_MODE32 then
    return 4
  else
    let con ← readReg .SPI2CON
    if con &&& SPI2CON_MODE16 = SPI2CON_MODE16 then return 2 else return 1

/-- The element of `size` bytes at the index `i`, the least significant byte first. -/
def elementAt (data : ℕ → Byte) (size i : ℕ) : Word32 :=
  (List.range size).foldr (fun k v => v <<< 8 ||| (data (size * i + k)).setWidth 32) 0#32

/-- The bytes of an element of `size` bytes. -/
def elementBytes (size : ℕ) (value : Word32) : List Byte :=
  (List.range size).map fun k => (value >>> (8 * k)).setWidth 8

/-- The local variables of the transfer loop. -/
structure Counts where
  txCount : ℕ
  rxCount : ℕ
  dummySize : ℕ
  dummyRxCntr : ℕ
deriving DecidableEq, Repr

/-- Write the next element, or a dummy, to `SPI2BUF`. -/
def sendNext (data : ℕ → Byte) (txSize : ℕ) (c : Counts) : OnBoard Counts := do
  if c.txCount ≠ txSize then
    let size ← elementSize
    writeReg .SPI2BUF (elementAt data size c.txCount)
    return { c with txCount := c.txCount + 1 }
  else if c.dummySize > 0 then
    writeReg .SPI2BUF 0xff#32
    return { c with dummySize := c.dummySize - 1 }
  else
    return c

/-- `n` turns of the loops that receive dummies. -/
def receiveDummies (n : ℕ) : OnBoard Unit :=
  match n with
  | 0 => return ()
  | n + 1 => do
    awaitStat SPI2STAT_SPIRBF
    let _ ← readReg .SPI2BUF
    receiveDummies n

/-- Receive what came back. -/
def receiveNext (rxSize : ℕ) (c : Counts) : OnBoard Counts := do
  if c.rxCount = rxSize then
    awaitStat SPI2STAT_SPITBE
    receiveDummies (c.txCount - c.rxCount - 1 - c.dummyRxCntr)
    return { c with dummyRxCntr := c.txCount - c.rxCount - 1 }
  else
    awaitStat SPI2STAT_SPIRBF
    let receivedData ← readReg .SPI2BUF
    if c.rxCount < rxSize then
      let size ← elementSize
      Prog.perform (BoardOp.put (size * c.rxCount) (elementBytes size receivedData))
      return { c with rxCount := c.rxCount + 1 }
    else
      return c

/-- The transfer loop.  It makes at most `n` turns: `txSize + dummySize` are enough, since every
turn writes an element or a dummy. -/
def transferLoop (data : ℕ → Byte) (txSize rxSize : ℕ) (n : ℕ) (c : Counts) : OnBoard Counts :=
  match n with
  | 0 => return c
  | n + 1 => do
    if c.txCount ≠ txSize ∨ c.dummySize ≠ 0 then
      let c ← sendNext data txSize c
      let c ← receiveNext rxSize c
      transferLoop data txSize rxSize n c
    else
      return c

/-- From the first access to `SPI2STAT` on: the sizes are those of requests that have data. -/
def transferElements (data : ℕ → Byte) (txSize rxSize : ℕ) : OnBoard Unit := do
  writeReg .SPI2STATCLR SPI2STAT_SPIROV
  flush
  let dummySize := if rxSize > txSize then rxSize - txSize else 0
  let size ← elementSize
  let rxSize := rxSize / size
  let txSize := txSize / size
  let dummySize := dummySize / size
  awaitStat SPI2STAT_SPITBE
  let c ← transferLoop data txSize rxSize (txSize + dummySize) ⟨0, 0, dummySize, 0⟩
  if txSize > rxSize then
    receiveDummies (c.txCount - c.rxCount - c.dummyRxCntr)
  else
    return ()

/-- `SPI2_WriteRead`. -/
def spi2WriteRead (pTransmitData : Ptr) (txSize : ℕ) (pReceiveData : OutPtr) (rxSize : ℕ) :
    OnBoard Bool := do
  if (txSize > 0 ∧ pTransmitData.isSome) ∨ (rxSize > 0 ∧ pReceiveData ≠ .null) then
    let txSize := if pTransmitData.isSome then txSize else 0
    let rxSize := if pReceiveData = .null then 0 else rxSize
    transferElements (pTransmitData.getD fun _ => 0#8) txSize rxSize
    return true
  else
    return false

/-- `SPI2_Write`. -/
def spi2Write (pTransmitData : Ptr) (txSize : ℕ) : OnBoard Bool :=
  spi2WriteRead pTransmitData txSize .null 0

/-- `SPI2_Read`. -/
def spi2Read (pReceiveData : OutPtr) (rxSize : ℕ) : OnBoard Bool :=
  spi2WriteRead none 0 pReceiveData rxSize

/-- `SPI2_IsTransmitterBusy`. -/
def spi2IsTransmitterBusy : OnBoard Bool := do
  let stat ← readReg .SPI2STAT
  return !decide (stat &&& SPI2STAT_SPIBUSY = 0#32)

/-! ## The hardware abstraction layer -/

/-- One byte goes out and one comes back. -/
def enc624j600HalSpiTransfer (data : Byte) : OnBoard Byte := do
  -- `uint8_t receive = 0;`
  Prog.perform (BoardOp.put 0 [0#8])
  let _ ← spi2WriteRead (some fun _ => data) 1 .object 1
  Prog.perform (BoardOp.get 0)

/-- The chip select is active low; the `Nop`s after it only take time. -/
def enc624j600HalCsAssert : OnBoard Unit := gpioPinClear GPIO_PIN_RF12

/-- The chip select is high again. -/
def enc624j600HalCsDeassert : OnBoard Unit := gpioPinSet GPIO_PIN_RF12

/-- The operations of the driver on the bus, on the board. -/
def board : (o : HalOp) → OnBoard o.Res
  | .csAssert => enc624j600HalCsAssert
  | .csDeassert => enc624j600HalCsDeassert
  | .spiTransfer byte => enc624j600HalSpiTransfer byte
  | .loc (.delay us) => (enc624j600HalDelay us).lower fun _ => .perform BoardOp.tickCount
  | .loc l => .perform (BoardOp.loc l)

/-- A function of the driver on the board. -/
def DriverFunction.onBoard (d : DriverFunction) : OnBoard DriverResult := d.onBus.lower board

/-- What `main` sets up for the driver before it creates the tasks: SPI2, and the chip select
high. -/
def mainSpiSetup : OnBoard Unit := do
  spi2Initialize
  let _ ← spi2TransferSetup (some ⟨10000000#32, 0x100#32, 0#32, 0#32⟩) 0#32
  gpioPinSet GPIO_PIN_RF12

end Enc624j600
