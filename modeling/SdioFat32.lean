import SdioFat32.Allocator.PoolRuns
import SdioFat32.Middleware.Durability
import SdioFat32.Driver.Response
import SdioFat32.Driver.Csd
import SdioFat32.Driver.Capacity
import SdioFat32.Effects.Interp
import SdioFat32.Driver.AnsweringCard
import SdioFat32.Driver.Identification
import SdioFat32.Driver.PowerUp
import SdioFat32.Driver.Transfer
import SdioFat32.Driver.Transmit
import SdioFat32.Driver.DataFlags
import SdioFat32.Middleware.BlockDevice
import SdioFat32.Middleware.SectorAddress
import SdioFat32.Driver.Erase
import SdioFat32.Middleware.ClearSectors
import SdioFat32.Driver.OpenTransfers
import SdioFat32.Middleware.ClosedTransfers
import SdioFat32.Driver.Pairing
import SdioFat32.Driver.BringUp
import SdioFat32.Cells.Memory
import SdioFat32.Middleware.WriterAccounting
import SdioFat32.Middleware.ReadBack
import SdioFat32.Cells.BitField
import SdioFat32.Core.Rcc
import SdioFat32.Core.RccHardware
import SdioFat32.Core.ClockSwitch
import SdioFat32.Core.ClockReport
import SdioFat32.Core.BusLimits
import SdioFat32.Core.FlashLatency
import SdioFat32.Core.Calendar
import SdioFat32.Cells.Stream
import SdioFat32.Driver.Receiver
import SdioFat32.Driver.Receive
import SdioFat32.Driver.WriteDma
import SdioFat32.Driver.DmaAgreement
import SdioFat32.Driver.CsdFields
import SdioFat32.Allocator.Requests
import SdioFat32.Allocator.FreeOrder
import SdioFat32.Middleware.BounceBuffer
import SdioFat32.Middleware.SubBlock
import SdioFat32.Middleware.ChunkedWrite
import SdioFat32.Middleware.RetriedWrite
import SdioFat32.Middleware.SplitWrite
import SdioFat32.Core.RtcSetters
import SdioFat32.Core.RtcSnapshot
import SdioFat32.Driver.CardReady
import SdioFat32.Driver.ScriptedCard
import SdioFat32.Driver.BusyWait
import SdioFat32.Driver.EraseProtocol
import SdioFat32.Driver.AppCommand
import SdioFat32.Driver.EraseClass
import SdioFat32.Driver.VersionCheck
import SdioFat32.Driver.Cid
import SdioFat32.Driver.EraseChunk
import SdioFat32.Driver.StatusWord
import SdioFat32.Core.RtcClock
import SdioFat32.Core.RtcClockReady
import SdioFat32.Core.BaudRate
import SdioFat32.Core.RtcPrescalers
import SdioFat32.Driver.ClockDivider
import SdioFat32.Driver.MathPow
import SdioFat32.Cells.Page
import SdioFat32.Effects.Interference
import SdioFat32.Logger.HexLog
import SdioFat32.Core.DmaSend
import SdioFat32.Core.Timer
import SdioFat32.Core.TimerClock
import SdioFat32.Core.Delay
import SdioFat32.Middleware.CardReadBack
import SdioFat32.Startup.BoardRuns
import SdioFat32.Startup.Heap
import SdioFat32.Core.RtcSession
