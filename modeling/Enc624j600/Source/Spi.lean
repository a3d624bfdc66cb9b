/-
# The driver on the SPI bus

The functions of `enc624j600_driver.c` that exchange bytes with the chip, over the operations
of the hardware abstraction layer.  All other functions of the driver use the bus through them
only, so that the driver on the bus is the driver of `Driver.lean` with `hal` in the place of
its transactions.
-/
import Enc624j600.Source.Driver

namespace Enc624j600

open Interaction

/-- The operations of the driver with the bytes on the bus. -/
inductive HalOp where
  /-- `enc624j600_hal_cs_assert`. -/
  | csAssert
  /-- `enc624j600_hal_cs_deassert`. -/
  | csDeassert
  /-- `enc624j600_hal_spi_transfer`. -/
  | spiTransfer (byte : Byte)
  /-- What the driver does besides. -/
  | loc (l : Local)
deriving DecidableEq, Repr

/-- What an operation returns. -/
abbrev HalOp.Res : HalOp → Type
  | .csAssert => Unit
  | .csDeassert => Unit
  | .spiTransfer _ => Byte
  | .loc l => l.Res

/-- The functions of the driver with the bytes on the bus. -/
abbrev Hal : Type → Type 1 := Prog HalOp HalOp.Res

namespace Spi

/-- `enc624j600_hal_cs_assert`. -/
def csAssert : Hal Unit := .perform HalOp.csAssert

/-- `enc624j600_hal_cs_deassert`. -/
def csDeassert : Hal Unit := .perform HalOp.csDeassert

/-- `enc624j600_hal_spi_transfer`. -/
def spiTransfer (byte : Byte) : Hal Byte := .perform (HalOp.spiTransfer byte)

/-! ## The opcodes that the functions choose -/

/-- The `switch` of `read_buffer_pointer`. -/
def readPointerOpcode : BufferPointer → Byte
  | .EGPRDPT => RGPRDPT
  | .EGPWRPT => RGPWRPT
  | .ERXRDPT => RRXRDPT
  | .ERXWRPT => RRXWRPT
  | .EUDARDPT => RUDARDPT
  | .EUDAWRPT => RUDAWRPT

/-- The `switch` of `write_buffer_pointer`. -/
def writePointerOpcode : BufferPointer → Byte
  | .EGPRDPT => WGPRDPT
  | .EGPWRPT => WGPWRPT
  | .ERXRDPT => WRXRDPT
  | .ERXWRPT => WRXWRPT
  | .EUDARDPT => WUDARDPT
  | .EUDAWRPT => WUDAWRPT

/-- The `switch` of `read_from_window_reg`. -/
def readWindowOpcode : WindowReg → Byte
  | .EGPDATA => RGPDATA
  | .ERXDATA => RRXDATA
  | .EUDADATA => RUDADATA

/-- The `switch` of `write_to_window_reg`. -/
def writeWindowOpcode : WindowReg → Byte
  | .EGPDATA => WGPDATA
  | .ERXDATA => WRXDATA
  | .EUDADATA => WUDADATA

/-! ## Access to the chip -/

/-- `execute_single_byte_instruction`. -/
def executeSingleByteInstruction (opcode : Byte) : Hal Unit := do
  csAssert
  let _ ← spiTransfer opcode
  csDeassert

/-- `read_buffer_pointer`: two dummies are sent, and the low byte comes first. -/
def readBufferPointer (pointer : BufferPointer) : Hal Word := do
  csAssert
  let _ ← spiTransfer (readPointerOpcode pointer)
  let lsb ← spiTransfer 0xAA#8
  let msb ← spiTransfer 0xAA#8
  csDeassert
  return assemble lsb msb

/-- `write_buffer_pointer`. -/
def writeBufferPointer (pointer : BufferPointer) (newValue : Word) : Hal Unit := do
  csAssert
  let _ ← spiTransfer (writePointerOpcode pointer)
  let _ ← spiTransfer (lsb newValue)
  let _ ← spiTransfer (msb newValue)
  csDeassert

/-- `read_sfr_unbanked`. -/
def readSfrUnbanked (sfrAddr : Byte) : Hal Word := do
  csAssert
  let _ ← spiTransfer RCRU
  let _ ← spiTransfer sfrAddr
  let lsb ← spiTransfer 0xAA#8
  let msb ← spiTransfer 0xAA#8
  csDeassert
  return assemble lsb msb

/-- The functions that send an opcode, the address of a register and a 16-bit value. -/
def sendToSfr (opcode sfrAddr : Byte) (value : Word) : Hal Unit := do
  csAssert
  let _ ← spiTransfer opcode
  let _ ← spiTransfer sfrAddr
  let _ ← spiTransfer (lsb value)
  let _ ← spiTransfer (msb value)
  csDeassert

/-- `write_sfr_unbanked`. -/
def writeSfrUnbanked (sfrAddr : Byte) (newValue : Word) : Hal Unit :=
  sendToSfr WCRU sfrAddr newValue

/-- `bit_field_set_sfr_unbanked`. -/
def bitFieldSetSfrUnbanked (sfrAddr : Byte) (mask : Word) : Hal Unit :=
  sendToSfr BFSU sfrAddr mask

/-- `bit_field_clear_sfr_unbanked`. -/
def bitFieldClearSfrUnbanked (sfrAddr : Byte) (mask : Word) : Hal Unit :=
  sendToSfr BFCU sfrAddr mask

/-- `for (i = 0; i < n; i++) buffer[i] = enc624j600_hal_spi_transfer(0xAA);` -/
def receiveBytes (n : ℕ) : Hal (List Byte) :=
  match n with
  | 0 => return []
  | n + 1 => do
    let byte ← spiTransfer 0xAA#8
    let bytes ← receiveBytes n
    return byte :: bytes

/-- `for (i = 0; i < n; i++) enc624j600_hal_spi_transfer(buffer[i]);` -/
def sendBytes (bytes : List Byte) : Hal Unit :=
  match bytes with
  | [] => return ()
  | byte :: bytes => do
    let _ ← spiTransfer byte
    sendBytes bytes

/-- `read_from_window_reg`. -/
def readFromWindowReg (windowReg : WindowReg) (n : ℕ) : Hal (List Byte) := do
  csAssert
  let _ ← spiTransfer (readWindowOpcode windowReg)
  let bytes ← receiveBytes n
  csDeassert
  return bytes

/-- `write_to_window_reg`. -/
def writeToWindowReg (windowReg : WindowReg) (bytes : List Byte) : Hal Unit := do
  csAssert
  let _ ← spiTransfer (writeWindowOpcode windowReg)
  sendBytes bytes
  csDeassert

end Spi

/-- The function of the driver behind a transaction. -/
def Instr.hal : (i : Instr) → Hal i.Res
  | .single opcode => Spi.executeSingleByteInstruction opcode
  | .readPointer pointer => Spi.readBufferPointer pointer
  | .writePointer pointer value => Spi.writeBufferPointer pointer value
  | .readSfr addr => Spi.readSfrUnbanked addr
  | .writeSfr addr value => Spi.writeSfrUnbanked addr value
  | .setBits addr mask => Spi.bitFieldSetSfrUnbanked addr mask
  | .clearBits addr mask => Spi.bitFieldClearSfrUnbanked addr mask
  | .readWindow reg n => Spi.readFromWindowReg reg n
  | .writeWindow reg bytes => Spi.writeToWindowReg reg bytes

/-- An operation of the driver, with the bytes on the bus. -/
def hal : (o : Op) → Hal o.Res
  | .spi i => i.hal
  | .loc l => .perform (HalOp.loc l)

/-! ## The calls of the driver -/

/-- A call of a function of the driver. -/
inductive DriverFunction where
  | init (config : Config)
  | transmit (destinationMac lengthType data : Ptr) (length : Word)
  | receive (destinationMac sourceMac lengthType buffer receivedBytes : OutPtr)

/-- What a function of the driver returns. -/
inductive DriverResult where
  | initialised
  | transmit (result : TransmitResult)
  | receive (result : ReceiveResult)
deriving DecidableEq, Repr

namespace DriverFunction

/-- The call over the transactions of the chip. -/
def program : DriverFunction → Driver DriverResult
  | .init config => do
    enc624j600Init config
    return .initialised
  | .transmit destinationMac lengthType data length => do
    let result ← enc624j600Transmit destinationMac lengthType data length
    return .transmit result
  | .receive destinationMac sourceMac lengthType buffer receivedBytes => do
    let result ← enc624j600Receive destinationMac sourceMac lengthType buffer receivedBytes
    return .receive result

/-- The program of the function with the bytes on the bus. -/
def onBus (d : DriverFunction) : Hal DriverResult := d.program.lower hal

end DriverFunction

end Enc624j600
