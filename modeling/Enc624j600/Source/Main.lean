/-
# The application

The functions of `main.c` that the driver meets: the busy wait behind `enc624j600_hal_delay`,
and the task that receives frames and prints them.  The task uses the driver and, besides, its
own variables, the serial console and the scheduler; its operations are those of the driver and
these.
-/
import Enc624j600.Source.Driver

namespace Enc624j600

open Interaction

/-! ## Ticks -/

/-- `TickType_t`. -/
abbrev TickType : Type := BitVec 32

/-- `configTICK_RATE_HZ`. -/
abbrev configTickRateHz : BitVec 64 := 1000#64

/-- `pdMS_TO_TICKS`, computed in `uint64_t`. -/
def pdMsToTicks (timeInMs : BitVec 64) : TickType :=
  ((timeInMs * configTickRateHz) / 1000#64).setWidth 32

/-- The operation of the wait. -/
inductive ClockOp where
  /-- `xTaskGetTickCount`. -/
  | tickCount
deriving DecidableEq, Repr

/-- What the operation returns. -/
abbrev ClockOp.Res : ClockOp → Type
  | .tickCount => TickType

/-- The condition of the loop: the wait goes on. -/
def delayGoesOn (us : Byte) (ticks now : TickType) : Prop :=
  now - ticks < pdMsToTicks (us.setWidth 64)

instance (us : Byte) (ticks now : TickType) : Decidable (delayGoesOn us ticks now) :=
  inferInstanceAs (Decidable (_ < _))

/-- `enc624j600_hal_delay`: the tick counter is read until the elapsed ticks suffice. -/
def enc624j600HalDelay (us : Byte) : Prog ClockOp ClockOp.Res Unit := do
  let ticks ← Prog.perform .tickCount
  Prog.untilTrue do
    let now ← Prog.perform .tickCount
    return !decide (delayGoesOn us ticks now)

/-! ## The task that receives frames -/

/-- The operations of the task.  Its arrays are named after the parameters of
`enc624j600_receive` that they are passed for: `data` is the `buffer`. -/
inductive TaskOp where
  /-- An operation of a driver function that the task called. -/
  | driver (o : Op)
  /-- `GPIO_PinToggle(GPIO_PIN_RD2)`. -/
  | togglePin
  /-- Read the byte at the index `i` of an array. -/
  | readByte (param : OutParam) (i : ℕ)
  | readLengthProtocol
  | readDataLength
  | printf (format : String) (args : List Word)
  /-- `vTaskDelay`. -/
  | taskDelay (ticks : TickType)
deriving DecidableEq, Repr

/-- What an operation of the task returns. -/
abbrev TaskOp.Res : TaskOp → Type
  | .driver o => o.Res
  | .togglePin => Unit
  | .readByte _ _ => Byte
  | .readLengthProtocol => Word
  | .readDataLength => Word
  | .printf _ _ => Unit
  | .taskDelay _ => Unit

/-- The functions of the task. -/
abbrev Task : Type → Type 1 := Prog TaskOp TaskOp.Res

/-- The size of `data`. -/
abbrev dataSize : ℕ := 100

/-- A call of a driver function. -/
def call {α : Type} (p : Driver α) : Task α := p.lower fun o => .perform (TaskOp.driver o)

/-- `printf`. -/
def printf (format : String) (args : List Word) : Task Unit := .perform (TaskOp.printf format args)

/-- `for (i = 0; i < n; i++)`. -/
def forUpTo (n : ℕ) (body : ℕ → Task Unit) : Task Unit :=
  match n with
  | 0 => pure ()
  | n + 1 => do
    forUpTo n body
    body n

/-- The loop over the bytes of an address. -/
def printAddress (address : OutParam) : Task Unit :=
  forUpTo 6 fun i => do
    let byte ← Prog.perform (TaskOp.readByte address i)
    if i = 5 then printf "%X\r\n" [byte.setWidth 16] else printf "%X:" [byte.setWidth 16]

/-- The loop over the received data. -/
def printData (dataLength : Word) : Task Unit :=
  forUpTo dataLength.toNat fun i => do
    let byte ← Prog.perform (TaskOp.readByte .buffer i)
    printf "%c " [byte.setWidth 16]

/-- Print the header of the frame that was received. -/
def printHeader : Task Unit := do
  printf "Destination: " []
  printAddress .destinationMac
  printf "Source: " []
  printAddress .sourceMac
  let lengthProtocol ← Prog.perform TaskOp.readLengthProtocol
  printf "Length/Protocol: 0x%X\r\n" [lengthProtocol]

/-- Print the frame that was received. -/
def printFrame : Task Unit := do
  printHeader
  let dataLength ← Prog.perform TaskOp.readDataLength
  printData dataLength
  printf "\r\n\r\n" []

/-- Print what a receive call left. -/
def printResult (result : ReceiveResult) : Task Unit :=
  if result = .encReceiveSucceeded then printFrame else printf "Nothing!\r\n" []

/-- One turn of the loop of `my_second_task`, which never ends. -/
def mySecondTaskTurn : Task Bool := do
  Prog.perform TaskOp.togglePin
  let result ← call receiveCall
  printResult result
  Prog.perform (TaskOp.taskDelay (pdMsToTicks 5000#64))
  return false

/-- The source calls `enc624j600_init` without its argument; here it is given one. -/
def mySecondTask (config : Config) : Task Unit := do
  call (enc624j600Init config)
  Prog.untilTrue mySecondTaskTurn

end Enc624j600
