import MsquicAsync.Lib.Runs
import MsquicAsync.Lib.Loops
import MsquicAsync.Lib.Ranges
import MsquicAsync.Lib.Tiling
import MsquicAsync.Lib.Lending
import MsquicAsync.Lib.Weights
import MsquicAsync.Lib.Coalescing
import MsquicAsync.Lib.Draining
import MsquicAsync.Lib.Attempts
import MsquicAsync.Lib.Beside
import MsquicAsync.Lib.Fifo
import MsquicAsync.Lib.Devices
import MsquicAsync.Lib.Peaks
import MsquicAsync.Buffer.Progress
import MsquicAsync.Connection.Shutdown
import MsquicAsync.Connection.Sleepers
import MsquicAsync.Connection.Inbound
import MsquicAsync.Connection.KeyLog
import MsquicAsync.Connection.KeyLogFile
import MsquicAsync.Connection.KeyLogFormat
import MsquicAsync.Connection.Lost
import MsquicAsync.Connection.NativeCalls
import MsquicAsync.Connection.PathStatistics
import MsquicAsync.Connection.Reasons
import MsquicAsync.Stream.AtRest
import MsquicAsync.Stream.Causes
import MsquicAsync.Stream.Completion
import MsquicAsync.Stream.Delivery
import MsquicAsync.Stream.Directions
import MsquicAsync.Stream.EndOfStream
import MsquicAsync.Stream.Finish
import MsquicAsync.Stream.LongWrites
import MsquicAsync.Stream.NativeCalls
import MsquicAsync.Stream.ReceiveOffsets
import MsquicAsync.Stream.FinInTurn
import MsquicAsync.Stream.ReadAgree
import MsquicAsync.Stream.ReadToEnd
import MsquicAsync.Stream.ReadWaiters
import MsquicAsync.Stream.SendLaw
import MsquicAsync.Stream.Sleepers
import MsquicAsync.Stream.WritePaths
import MsquicAsync.Pipe
import MsquicAsync.Rundown.Wakeups
import MsquicAsync.Rundown.Idle
import MsquicAsync.Listener.Stop
import MsquicAsync.Listener.Native
import MsquicAsync.Endpoint
import MsquicAsync.WriteBuffers
import MsquicAsync.Datagrams
import MsquicAsync.AsyncIo
import MsquicAsync.OpenOutbound
import MsquicAsync.FailedCalls
import MsquicAsync.H3.HeldStream
import MsquicAsync.H3.StatusRuns
import MsquicAsync.H3.SendLoop
import MsquicAsync.H3.Payload
import MsquicAsync.H3.Body
import MsquicAsync.H3.Openers
import MsquicAsync.NoRetrans
