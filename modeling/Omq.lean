import Omq.Proto.Z85
import Omq.Proto.Backoff
import Omq.Proto.MessageInner
import Omq.Proto.Alternation
import Omq.Proto.FrameQueue
import Omq.Proto.Transform.Limits
import Omq.Proto.Transform.RoundTrip
import Omq.Proto.Connection.Refusals
import Omq.Proto.Connection.Agreement
import Omq.Proto.Connection.SizeLimit
import Omq.Proto.Connection.DirectReceive
import Omq.Proto.Connection.Encoders
import Omq.Proto.Connection.WsRoundTrip
import Omq.Yring.Async
import Omq.Tokio.DataSignal
import Omq.Tokio.SlotCount
import Omq.Tokio.SharedPool
import Omq.Tokio.Sealing
import Omq.Tokio.WireIntegrity
import Omq.Tokio.RepLatency
import Omq.Tokio.ReqCorrelation
import Omq.Tokio.FanOut.Groups
import Omq.Tokio.FanOut.DropOldest
import Omq.Tokio.FanOut.Framing
import Omq.Tokio.Routing.Latency
import Omq.Tokio.Routing.Handover
import Omq.Tokio.FanOut.Fallback
import Omq.Libzmq.InprocSink
import Omq.Libzmq.ByteRingFifo
import Omq.Libzmq.SendRetry
import Omq.Libzmq.RecvSinks
import Omq.Libzmq.InprocNet
