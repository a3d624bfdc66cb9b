/-
# The driver

The functions of `enc624j600_driver.c`, translated as programs over SPI transactions.  One
transaction is one chip-select frame; what bytes it exchanges is the subject of `Spi.lean`.
Between its transactions a function uses the two static variables of the driver, waits, and
writes through the pointers it was given; these local operations are part of the program as
well, so that a run shows them in their order.

A pointer argument that is only read is `none` for `NULL`, or the bytes it points to.  A
pointer that `enc624j600_receive` writes through is `OutPtr.null`, or stands for an object of
its own; what is written there are the local operations `store` and `storeReceivedBytes`.
-/
import Mathlib.Data.Nat.Notation
import Enc624j600.Lib.Prog
import Enc624j600.Source.Words

namespace Enc624j600

open Interaction

/-! ## Types of the driver -/

/-- `enc624j600_duplex_mode`. -/
inductive DuplexMode where
  | halfDuplex
  | fullDuplex
deriving DecidableEq, Repr

/-- `enc624j600_receive_filter`. -/
inductive ReceiveFilter where
  | crcErrorCollectionFilter
  | runtErrorCollectionFilter
  | crcErrorRejectionFilter
  | runtErrorRejectionFilter
  | unicastCollectionFilter
  | notMeUnicastCollectionFilter
  | multicastCollectionFilter
  | broadcastCollectionFilter
  | hashTableCollectionFilter
  | magicPacketCollectionFilter
  | patternMatchCollectionFilter
deriving DecidableEq, Repr

/-- `enc624j600_receive_filter_state`. -/
inductive ReceiveFilterState where
  | enable
  | disable
deriving DecidableEq, Repr

/-- `enc624j600_buffer_pointer`: the pointers into the SRAM. -/
inductive BufferPointer where
  | EGPRDPT
  | EGPWRPT
  | ERXRDPT
  | ERXWRPT
  | EUDARDPT
  | EUDAWRPT
deriving DecidableEq, Repr

/-- `enc624j600_window_reg`: the windows through which the SRAM is read and written. -/
inductive WindowReg where
  | EGPDATA
  | ERXDATA
  | EUDADATA
deriving DecidableEq, Repr

/-- `enc624j600_transmit_result`. -/
inductive TransmitResult where
  | encTransmitSucceeded
  | encTransmitDataIsTooSmall
  | encTransmitDataExceedMtu
  | encFlowControlActive
  | encTransmitFailed
deriving DecidableEq, Repr

/-- `enc624j600_receive_result`. -/
inductive ReceiveResult where
  | encReceiveSucceeded
  | encReceiveNoPendingFrame
  | encReceiveFailed
deriving DecidableEq, Repr

/-- A pointer that is only read: `NULL`, or the bytes it points to. -/
abbrev Ptr : Type := Option (ℕ → Byte)

/-- A pointer that is written through: `NULL`, or an object of the caller. -/
inductive OutPtr where
  | null
  | object
deriving DecidableEq, Repr

/-- The byte arrays that `enc624j600_receive` fills for its caller. -/
inductive OutParam where
  | destinationMac
  | sourceMac
  | lengthType
  | buffer
deriving DecidableEq, Repr

/-- `enc624j600_config`. -/
structure Config where
  macAddress : Ptr
  macHugeFrame : BitVec 1
  macLoopback : BitVec 1
  phyLoppback : BitVec 1

/-! ## Operations -/

/-- The instructions of the chip that the driver uses, one for each chip-select frame. -/
inductive Instr where
  /-- A single-byte instruction. -/
  | single (opcode : Byte)
  | readPointer (pointer : BufferPointer)
  | writePointer (pointer : BufferPointer) (value : Word)
  /-- `RCRU`. -/
  | readSfr (addr : Byte)
  /-- `WCRU`. -/
  | writeSfr (addr : Byte) (value : Word)
  /-- `BFSU`. -/
  | setBits (addr : Byte) (mask : Word)
  /-- `BFCU`. -/
  | clearBits (addr : Byte) (mask : Word)
  | readWindow (reg : WindowReg) (n : ℕ)
  | writeWindow (reg : WindowReg) (bytes : List Byte)
deriving DecidableEq, Repr

/-- What the chip answers to an instruction. -/
abbrev Instr.Res : Instr → Type
  | .single _ => Unit
  | .readPointer _ => Word
  | .writePointer _ _ => Unit
  | .readSfr _ => Word
  | .writeSfr _ _ => Unit
  | .setBits _ _ => Unit
  | .clearBits _ _ => Unit
  | .readWindow _ _ => List Byte
  | .writeWindow _ _ => Unit

/-- The operations of the driver that do not reach the chip. -/
inductive Local where
  /-- `enc624j600_hal_delay`. -/
  | delay (us : Byte)
  | getDuplexMode
  | setDuplexMode (mode : DuplexMode)
  | getNextReceiveFramePointer
  | setNextReceiveFramePointer (value : Word)
  /-- Store the bytes at the indices `0, 1, …` of an array of the caller. -/
  | store (param : OutParam) (bytes : List Byte)
  /-- `*received_bytes = value`. -/
  | storeReceivedBytes (value : Word)
deriving DecidableEq, Repr

/-- What a local operation returns. -/
abbrev Local.Res : Local → Type
  | .delay _ => Unit
  | .getDuplexMode => DuplexMode
  | .setDuplexMode _ => Unit
  | .getNextReceiveFramePointer => Word
  | .setNextReceiveFramePointer _ => Unit
  | .store _ _ => Unit
  | .storeReceivedBytes _ => Unit

/-- An operation of a driver function. -/
inductive Op where
  | spi (i : Instr)
  | loc (l : Local)
deriving DecidableEq, Repr

/-- What an operation returns. -/
abbrev Op.Res : Op → Type
  | .spi i => i.Res
  | .loc l => l.Res

/-- The functions of the driver. -/
abbrev Driver : Type → Type 1 := Prog Op Op.Res

/-- A transaction with the chip. -/
abbrev spi (i : Instr) : Driver i.Res := .perform (Op.spi i)

/-- A local operation. -/
abbrev loc (l : Local) : Driver l.Res := .perform (Op.loc l)

/-- The first `n` bytes of an array. -/
def bytesOf (buffer : ℕ → Byte) (n : ℕ) : List Byte := (List.range n).map buffer

/-! ## Access to the chip -/

/-- `execute_single_byte_instruction`. -/
def executeSingleByteInstruction (opcode : Byte) : Driver Unit := spi (.single opcode)

/-- `read_buffer_pointer`: the answer of the chip, the low byte first. -/
def readBufferPointer (pointer : BufferPointer) : Driver Word := spi (.readPointer pointer)

/-- `write_buffer_pointer`. -/
def writeBufferPointer (pointer : BufferPointer) (newValue : Word) : Driver Unit :=
  spi (.writePointer pointer newValue)

/-- `read_sfr_unbanked`, for every register but those of the PHY. -/
def readSfrUnbanked (sfrAddr : Byte) : Driver Word := spi (.readSfr sfrAddr)

/-- `write_sfr_unbanked`. -/
def writeSfrUnbanked (sfrAddr : Byte) (newValue : Word) : Driver Unit :=
  spi (.writeSfr sfrAddr newValue)

/-- `bit_field_set_sfr_unbanked`, for the registers outside of the MAC and the MII. -/
def bitFieldSetSfrUnbanked (sfrAddr : Byte) (mask : Word) : Driver Unit :=
  spi (.setBits sfrAddr mask)

/-- `bit_field_clear_sfr_unbanked`, for the registers outside of the MAC and the MII. -/
def bitFieldClearSfrUnbanked (sfrAddr : Byte) (mask : Word) : Driver Unit :=
  spi (.clearBits sfrAddr mask)

/-- `bit_field_set_mac_sfr`: the register is read and written back. -/
def bitFieldSetMacSfr (macSfrAddr : Byte) (mask : Word) : Driver Unit := do
  let macSfrValue ← readSfrUnbanked macSfrAddr
  writeSfrUnbanked macSfrAddr (macSfrValue ||| mask)

/-- `bit_field_clear_mac_sfr`: the register is read and written back. -/
def bitFieldClearMacSfr (macSfrAddr : Byte) (mask : Word) : Driver Unit := do
  let macSfrValue ← readSfrUnbanked macSfrAddr
  writeSfrUnbanked macSfrAddr (macSfrValue &&& ~~~mask)

/-- The bytes go to an array of the calling function. -/
def readFromWindowReg (windowReg : WindowReg) (n : ℕ) : Driver (List Byte) :=
  spi (.readWindow windowReg n)

/-- The bytes go to an array of the caller of the driver. -/
def readFromWindowRegTo (windowReg : WindowReg) (param : OutParam) (n : ℕ) : Driver Unit := do
  let bytes ← spi (.readWindow windowReg n)
  loc (.store param bytes)

/-- `write_to_window_reg`: the first `n` bytes of the buffer. -/
def writeToWindowReg (windowReg : WindowReg) (buffer : ℕ → Byte) (n : ℕ) : Driver Unit :=
  spi (.writeWindow windowReg (bytesOf buffer n))

/-- `enc624j600_hal_delay`, as an operation of the driver. -/
def halDelay (us : Byte) : Driver Unit := loc (.delay us)

/-! ## PHY registers -/

/-- `while ((read_sfr_unbanked(MISTAT) & BUSY) > 0) { }` -/
def awaitMii : Driver Unit :=
  Prog.untilTrue do
    let mistat ← readSfrUnbanked MISTAT
    return !decide (mistat &&& BUSY > 0#16)

/-- `read_phy_sfr`: an access over the MII, which takes a while. -/
def readPhySfr (phySfrAddr : Byte) : Driver Word := do
  writeSfrUnbanked MIREGADR (0x0100#16 ||| phySfrAddr.setWidth 16)
  writeSfrUnbanked MICMD 0x0001#16
  halDelay 30#8
  awaitMii
  writeSfrUnbanked MICMD 0x0000#16
  readSfrUnbanked MIRD

/-- `write_phy_sfr`. -/
def writePhySfr (phySfrAddr : Byte) (newValue : Word) : Driver Unit := do
  writeSfrUnbanked MIREGADR (0x0100#16 ||| phySfrAddr.setWidth 16)
  writeSfrUnbanked MIWR newValue
  halDelay 30#8
  awaitMii

/-- `bit_field_set_phy_sfr`: the register is read and written back. -/
def bitFieldSetPhySfr (phySfrAddr : Byte) (mask : Word) : Driver Unit := do
  let phySfrValue ← readPhySfr phySfrAddr
  writePhySfr phySfrAddr (phySfrValue ||| mask)

/-- `bit_field_clear_phy_sfr`: the register is read and written back. -/
def bitFieldClearPhySfr (phySfrAddr : Byte) (mask : Word) : Driver Unit := do
  let phySfrValue ← readPhySfr phySfrAddr
  writePhySfr phySfrAddr (phySfrValue &&& ~~~mask)

/-! ## Receive filters -/

/-- One filter that is a bit of `ERXFCON`. -/
def switchFilterBit (mask : Word) : ReceiveFilterState → Driver Unit
  | .enable => bitFieldSetSfrUnbanked ERXFCON mask
  | .disable => bitFieldClearSfrUnbanked ERXFCON mask

/-- `configure_receive_filter`. -/
def configureReceiveFilter (filter : ReceiveFilter) (newState : ReceiveFilterState) :
    Driver Unit :=
  match filter with
  | .crcErrorCollectionFilter => switchFilterBit CRCEEN newState
  | .runtErrorCollectionFilter => switchFilterBit RUNTEEN newState
  | .crcErrorRejectionFilter => switchFilterBit CRCEN newState
  | .runtErrorRejectionFilter => switchFilterBit RUNTEN newState
  | .unicastCollectionFilter => switchFilterBit UCEN newState
  | .notMeUnicastCollectionFilter => switchFilterBit NOTMEEN newState
  | .multicastCollectionFilter => switchFilterBit MCEN newState
  | .broadcastCollectionFilter => switchFilterBit BCEN newState
  | .hashTableCollectionFilter => switchFilterBit HTEN newState
  | .magicPacketCollectionFilter => switchFilterBit MPEN newState
  | .patternMatchCollectionFilter =>
    match newState with
    -- the source has a `TODO` here
    | .enable => pure ()
    | .disable => bitFieldClearSfrUnbanked ERXFCON (PMEN0 ||| PMEN1 ||| PMEN2 ||| PMEN3)

/-! ## Initialisation -/

/-- `reset`: a system reset, and the waits before and after it. -/
def reset : Driver Unit := do
  -- insure that the chip exit POR (Power-on Reset)
  Prog.untilTrue do
    writeSfrUnbanked EUDAST 0x1234#16
    let eudast ← readSfrUnbanked EUDAST
    return decide (eudast = 0x1234#16)
  -- insure that the internal clock is ready
  Prog.untilTrue do
    let estat ← readSfrUnbanked ESTAT
    return decide (estat &&& CLKRDY > 0#16)
  executeSingleByteInstruction SETETHRST
  halDelay 30#8
  Prog.untilTrue do
    let eudast ← readSfrUnbanked EUDAST
    return decide (eudast = 0#16)
  halDelay 200#8

/-- The loop over the pairs of bytes of the MAC address, at `i = 0, 2, 4`. -/
def writeMacAddress (macAddress : ℕ → Byte) : Driver Unit := do
  writeSfrUnbanked (MAADR1 - 0#8) (assemble (macAddress 0) (macAddress 1))
  writeSfrUnbanked (MAADR1 - 2#8) (assemble (macAddress 2) (macAddress 3))
  writeSfrUnbanked (MAADR1 - 4#8) (assemble (macAddress 4) (macAddress 5))

/-- Without a MAC address in the configuration the registers keep theirs. -/
def setMacAddress : Ptr → Driver Unit
  | some macAddress => writeMacAddress macAddress
  | none => pure ()

/-- Set or clear bits of a MAC register, as a flag of the configuration says. -/
def switchMacBit (flag : BitVec 1) (macSfrAddr : Byte) (mask : Word) : Driver Unit :=
  if flag = 1#1 then bitFieldSetMacSfr macSfrAddr mask else bitFieldClearMacSfr macSfrAddr mask

/-- `mac_init`. -/
def macInit (config : Config) : Driver Unit := do
  writeSfrUnbanked ERXWM 0xAA55#16
  bitFieldSetSfrUnbanked ECON2 AUTOFC
  setMacAddress config.macAddress
  writeSfrUnbanked MAMXFL 0x05EE#16
  switchMacBit config.macHugeFrame MACON2 HFRMEN
  switchMacBit config.macLoopback MACON1 LOOPBK
  bitFieldClearMacSfr MACON2 (PADCFG0 ||| PADCFG1 ||| PADCFG2)
  bitFieldSetMacSfr MACON2 PADCFG0
  bitFieldSetMacSfr MACON2 TXCRCEN

/-- Set or clear bits of a PHY register, as a flag of the configuration says. -/
def switchPhyBit (flag : BitVec 1) (phySfrAddr : Byte) (mask : Word) : Driver Unit :=
  if flag = 1#1 then bitFieldSetPhySfr phySfrAddr mask else bitFieldClearPhySfr phySfrAddr mask

/-- `phy_init`. -/
def phyInit (config : Config) : Driver Unit := do
  bitFieldClearPhySfr PHCON1 PSLEEP
  switchPhyBit config.phyLoppback PHCON1 PLOOPBK
  bitFieldSetPhySfr PHCON1 ANEN
  bitFieldSetPhySfr PHANA ADPAUS0

/-- The buffer areas and their pointers, from `ERXST` to `EUDAWRPT`. -/
def initBuffers : Driver Unit := do
  writeSfrUnbanked ERXST 0x2000#16
  loc (.setNextReceiveFramePointer 0x2000#16)
  writeSfrUnbanked ERXTAIL 0x5FFE#16
  writeBufferPointer .ERXRDPT 0x2000#16
  writeBufferPointer .ERXWRPT 0x2000#16
  writeBufferPointer .EGPRDPT 0x0000#16
  writeBufferPointer .EGPWRPT 0x0000#16
  writeSfrUnbanked EUDAST 0x6000#16
  writeSfrUnbanked EUDAND 0x6001#16
  writeBufferPointer .EUDARDPT 0x0000#16
  writeBufferPointer .EUDAWRPT 0x0000#16

/-- The eleven filters, in the order of the calls. -/
def initReceiveFilters : Driver Unit := do
  configureReceiveFilter .crcErrorCollectionFilter .disable
  configureReceiveFilter .runtErrorCollectionFilter .disable
  configureReceiveFilter .crcErrorRejectionFilter .enable
  configureReceiveFilter .runtErrorRejectionFilter .enable
  configureReceiveFilter .unicastCollectionFilter .enable
  configureReceiveFilter .notMeUnicastCollectionFilter .disable
  configureReceiveFilter .multicastCollectionFilter .disable
  configureReceiveFilter .broadcastCollectionFilter .enable
  configureReceiveFilter .hashTableCollectionFilter .disable
  configureReceiveFilter .magicPacketCollectionFilter .disable
  configureReceiveFilter .patternMatchCollectionFilter .disable

/-- The waits for the end of the auto-negotiation and for the link. -/
def awaitLink : Driver Unit := do
  Prog.untilTrue do
    let phstat1 ← readPhySfr PHSTAT1
    return !decide (phstat1 &&& ANDONE = 0#16)
  Prog.untilTrue do
    let phstat1 ← readPhySfr PHSTAT1
    return !decide (phstat1 &&& LLSTAT = 0#16)

/-- Set on the MAC level the duplex mode that the auto-negotiation selected. -/
def matchDuplexMode : Driver Unit := do
  let estat ← readSfrUnbanked ESTAT
  if estat &&& PHYDPX > 0#16 then
    bitFieldSetMacSfr MACON2 FULDPX
    writeSfrUnbanked MABBIPG 0x0015#16
    loc (.setDuplexMode .fullDuplex)
  else
    bitFieldClearMacSfr MACON2 FULDPX
    writeSfrUnbanked MABBIPG 0x0012#16
    loc (.setDuplexMode .halfDuplex)

/-- `enc624j600_init`. -/
def enc624j600Init (config : Config) : Driver Unit := do
  reset
  bitFieldClearSfrUnbanked ECON2 (COCON0 ||| COCON1 ||| COCON2 ||| COCON3)
  initBuffers
  initReceiveFilters
  bitFieldSetSfrUnbanked ECON2 TXMAC
  macInit config
  phyInit config
  executeSingleByteInstruction ENABLERX
  awaitLink
  executeSingleByteInstruction DISABLERX
  matchDuplexMode
  executeSingleByteInstruction ENABLERX

/-! ## Transmission -/

/-- The status that is taken for a peer's flow control, in the current duplex mode. -/
def flowControlActive : Driver Bool := do
  let duplexMode ← loc .getDuplexMode
  if duplexMode = .fullDuplex then
    let econ1 ← readSfrUnbanked ECON1
    return decide (econ1 &&& (FCOP0 ||| FCOP1) > 0#16)
  else
    let etxstat ← readSfrUnbanked ETXSTAT
    return decide (etxstat &&& DEFER > 0#16)

/-- Write a frame into the SRAM and hand it to the transmit logic. -/
def startTransmission (destinationMac lengthType data : ℕ → Byte) (length : Word) :
    Driver Unit := do
  let gpwrptValue ← readBufferPointer .EGPWRPT
  writeToWindowReg .EGPDATA destinationMac 6
  writeToWindowReg .EGPDATA lengthType 2
  writeToWindowReg .EGPDATA data length.toNat
  writeSfrUnbanked ETXST gpwrptValue
  writeSfrUnbanked ETXLEN (8#16 + length)
  executeSingleByteInstruction SETTXRTS

/-- `while ((read_sfr_unbanked(ECON1) & TXRTS) != 0) { }` -/
def awaitTransmission : Driver Unit :=
  Prog.untilTrue do
    let econ1 ← readSfrUnbanked ECON1
    return decide (econ1 &&& TXRTS = 0#16)

/-- The check for errors after a transmission. -/
def transmissionResult (length : Word) : Driver TransmitResult := do
  let duplexMode ← loc .getDuplexMode
  if duplexMode = .fullDuplex then
    let length := if length < 46#16 then 46#16 else length
    let etxwire ← readSfrUnbanked ETXWIRE
    if etxwire.toNat ≠ 18 + length.toNat then
      return .encTransmitFailed
    else
      return .encTransmitSucceeded
  else
    let etxstat ← readSfrUnbanked ETXSTAT
    if etxstat &&& (LATECOL ||| MAXCOL ||| EXDEFER) > 0#16 then
      return .encTransmitFailed
    else
      return .encTransmitSucceeded

/-- `enc624j600_transmit`: four refusals, and then the frame is sent. -/
def enc624j600Transmit (destinationMac lengthType data : Ptr) (length : Word) :
    Driver TransmitResult :=
  match destinationMac, lengthType, data with
  | some destinationMac, some lengthType, some data => do
    if length ≤ 7#16 then
      return .encTransmitDataIsTooSmall
    else if length > 1500#16 then
      return .encTransmitDataExceedMtu
    else
      let active ← flowControlActive
      if active then
        return .encFlowControlActive
      else
        startTransmission destinationMac lengthType data length
        awaitTransmission
        transmissionResult length
  | _, _, _ => return .encTransmitFailed

/-! ## Reception -/

/-- Read the oldest frame out of the receive buffer and release it. -/
def receiveFrame : Driver Unit := do
  let nextReceiveFramePointer ← loc .getNextReceiveFramePointer
  writeBufferPointer .ERXRDPT nextReceiveFramePointer
  let nextFrameAddress ← readFromWindowReg .ERXDATA 2
  loc (.setNextReceiveFramePointer
    (assemble (nextFrameAddress.getD 0 0#8) (nextFrameAddress.getD 1 0#8)))
  let rsv ← readFromWindowReg .ERXDATA 6
  let frameLength := assemble (rsv.getD 0 0#8) (rsv.getD 1 0#8)
  let dataLength := frameLength - 18#16
  loc (.storeReceivedBytes dataLength)
  readFromWindowRegTo .ERXDATA .destinationMac 6
  readFromWindowRegTo .ERXDATA .sourceMac 6
  readFromWindowRegTo .ERXDATA .lengthType 2
  readFromWindowRegTo .ERXDATA .buffer dataLength.toNat
  let nextReceiveFramePointer ← loc .getNextReceiveFramePointer
  writeSfrUnbanked ERXTAIL (nextReceiveFramePointer - 2#16)
  executeSingleByteInstruction SETPKTDEC

/-- `enc624j600_receive`: a `NULL` pointer is refused, and without a pending frame nothing is
stored. -/
def enc624j600Receive (destinationMac sourceMac lengthType buffer receivedBytes : OutPtr) :
    Driver ReceiveResult := do
  if destinationMac = .null ∨ sourceMac = .null ∨ lengthType = .null ∨ buffer = .null ∨
      receivedBytes = .null then
    return .encReceiveFailed
  else
    let estat ← readSfrUnbanked ESTAT
    if estat &&& (PKTCNT0 ||| PKTCNT1 ||| PKTCNT2 ||| PKTCNT3 ||| PKTCNT4 ||| PKTCNT5 |||
        PKTCNT6 ||| PKTCNT7) = 0#16 then
      return .encReceiveNoPendingFrame
    else
      receiveFrame
      return .encReceiveSucceeded

/-- A receive call whose pointers are all different from `NULL`. -/
def receiveCall : Driver ReceiveResult :=
  enc624j600Receive .object .object .object .object .object

end Enc624j600
