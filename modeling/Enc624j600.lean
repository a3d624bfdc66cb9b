import Enc624j600.Lib.Prog
import Enc624j600.Lib.Steps
import Enc624j600.Lib.RelyGuarantee
import Enc624j600.Lib.Sessions
import Enc624j600.Lib.Interleaving
import Enc624j600.Lib.Lowering
import Enc624j600.Lib.Evaluate
import Enc624j600.Lib.Layers
import Enc624j600.Lib.Completion
import Enc624j600.Lib.Nearest
import Enc624j600.Lib.Cyclic
import Enc624j600.Lib.RecordRing
import Enc624j600.Source.Registers
import Enc624j600.Source.Words
import Enc624j600.Source.Driver
import Enc624j600.Source.Spi
import Enc624j600.Source.Main
import Enc624j600.Source.Board
import Enc624j600.Chip.Frame
import Enc624j600.Chip.State
import Enc624j600.Chip.Events
import Enc624j600.Chip.World
import Enc624j600.Chip.Stability
import Enc624j600.Init.Shadow
import Enc624j600.Init.Phy
import Enc624j600.Init.Reset
import Enc624j600.Init.Configured
import Enc624j600.Init.Quiet
import Enc624j600.Init.Spec
import Enc624j600.Init.Run
import Enc624j600.Init.Outcome
import Enc624j600.Init.PhyUpdate
import Enc624j600.Receive.Ring
import Enc624j600.Receive.Protection
import Enc624j600.Receive.Spec
import Enc624j600.Receive.Operations
import Enc624j600.Receive.Tail
import Enc624j600.Receive.Fifo
import Enc624j600.Receive.Overwrite
import Enc624j600.Receive.Buffer
import Enc624j600.Receive.Registers
import Enc624j600.Receive.Watermark
import Enc624j600.Transmit.Operations
import Enc624j600.Transmit.Outcome
import Enc624j600.Transmit.View
import Enc624j600.Transmit.Spec
import Enc624j600.Transmit.Run
import Enc624j600.Transmit.Area
import Enc624j600.Transmit.Defer
import Enc624j600.Spi.Frames
import Enc624j600.Spi.Refinement
import Enc624j600.Spi.Serial
import Enc624j600.Main.Delay
import Enc624j600.Main.Task
import Enc624j600.Main.Contained
import Enc624j600.Link.Mac
import Enc624j600.Link.Sender
import Enc624j600.Link.RoundTrip
import Enc624j600.Concurrent.Environment
import Enc624j600.Concurrent.View
import Enc624j600.Concurrent.Independence
import Enc624j600.Board.State
import Enc624j600.Board.InFlight
import Enc624j600.Board.WriteRead
import Enc624j600.Board.Overrun
import Enc624j600.Board.Calls
import Enc624j600.Board.Bytes
import Enc624j600.Board.Setup
import Enc624j600.Board.Refinement
import Enc624j600.Kernel.Turns
import Enc624j600.Kernel.ListCalls
