import DyunGu.Lib.Machine
import DyunGu.Lib.Outcome
import DyunGu.Lib.Indexed
import DyunGu.Lib.OrderedMap
import DyunGu.Lib.KeyedList
import DyunGu.Lib.Records
import DyunGu.Lib.Slots
import DyunGu.Lib.Arrivals
import DyunGu.Lib.Shared
import DyunGu.Lib.Digraph
import DyunGu.Lib.Strided
import DyunGu.Lib.Odometer
import DyunGu.Lib.Shares
import DyunGu.Lib.Slices
import DyunGu.Lib.Raster
import DyunGu.Lib.LastMax
import DyunGu.Lib.OrderStatistic
import DyunGu.Lib.Flood
import DyunGu.Lib.Saturation
import DyunGu.Core.DataType
import DyunGu.Core.Device
import DyunGu.Core.Resource
import DyunGu.Core.Memory
import DyunGu.Core.PoolOrder
import DyunGu.Core.Buffer
import DyunGu.Core.PoolReuse
import DyunGu.Core.Tensor
import DyunGu.Core.Strides
import DyunGu.Core.Reshape
import DyunGu.Core.Nibbles
import DyunGu.Core.MediaInfo
import DyunGu.Core.PlaneSamples
import DyunGu.Core.Ownership
import DyunGu.Graph.Error
import DyunGu.Graph.Spec
import DyunGu.Graph.Connections
import DyunGu.Graph.Validate
import DyunGu.Graph.Cycles
import DyunGu.Graph.Normalize
import DyunGu.Graph.Load
import DyunGu.Graph.Includes
import DyunGu.Graph.Tightening
import DyunGu.Graph.Values
import DyunGu.Graph.Idempotent
import DyunGu.Graph.Inheritance
import DyunGu.Graph.NormalForm
import DyunGu.Graph.References
import DyunGu.Graph.Renaming
import DyunGu.Graph.PipeDepth
import DyunGu.Graph.Build
import DyunGu.Graph.Wiring
import DyunGu.Graph.Diff
import DyunGu.Graph.Lifecycle
import DyunGu.Graph.HotUpdate
import DyunGu.Graph.Consistent
import DyunGu.Graph.Rollback
import DyunGu.Graph.Collected
import DyunGu.Graph.Collectors
import DyunGu.Graph.StatusRuns
import DyunGu.Graph.ShutdownRetry
import DyunGu.Graph.Packet
import DyunGu.Graph.SinkBudget
import DyunGu.Graph.RouteSwitch
import DyunGu.Graph.Element
import DyunGu.Graph.MultiInstance
import DyunGu.Graph.InferencePool
import DyunGu.Graph.Inference
import DyunGu.Graph.InferenceOnce
import DyunGu.Backend.Metrics
import DyunGu.Backend.Runtime
import DyunGu.Backend.Submissions
import DyunGu.Backend.Latency
import DyunGu.Elements.OneAtATime
import DyunGu.Elements.Converger
import DyunGu.Scheduler.Affinity
import DyunGu.Scheduler.AffinityHistory
import DyunGu.Scheduler.State
import DyunGu.Scheduler.Leases
import DyunGu.Scheduler.Fairness
import DyunGu.Scheduler.Pool
import DyunGu.Scheduler.Checkout
import DyunGu.Scheduler.Agreement
import DyunGu.Scheduler.SharedPlacement
import DyunGu.Stream.Error
import DyunGu.Stream.Redaction
import DyunGu.Elements.HttpPush
import DyunGu.Elements.Nms
import DyunGu.Elements.ByteTrack
import DyunGu.Elements.Ctc
import DyunGu.Elements.Letterbox
import DyunGu.Elements.TensorValues
import DyunGu.Elements.Preprocess
import DyunGu.Elements.TextRegions
import DyunGu.Stream.Queue
import DyunGu.Stream.Overflow
import DyunGu.Stream.Hub
import DyunGu.Stream.Transitions
import DyunGu.Stream.HubCounts
import DyunGu.Stream.Deliveries
import DyunGu.Stream.HubRegistry
import DyunGu.Stream.HubReaping
import DyunGu.Stream.Reconnect
import DyunGu.Stream.ReconnectBudget
import DyunGu.Stream.Backoff
import DyunGu.Media.AsyncPump
import DyunGu.Media.PumpLedger
import DyunGu.Media.PumpProgress
import DyunGu.Media.FrameMeta
import DyunGu.Media.Normalization
import DyunGu.Media.Bridge
import DyunGu.Media.DecodedImage
import DyunGu.Media.TightLayout
import DyunGu.Media.Ops
import DyunGu.Media.Resize
import DyunGu.Media.OsdParams
import DyunGu.Media.Osd
import DyunGu.Media.MediaElement
import DyunGu.Media.ElementRun
import DyunGu.Media.StreamEnd
import DyunGu.Media.CleanEnd
import DyunGu.Capi.Engine
import DyunGu.Capi.Modes
import DyunGu.Capi.Reload
import DyunGu.Capi.Polling
import DyunGu.Capi.Delivery
import DyunGu.Capi.Loading
import DyunGu.Capi.External
import DyunGu.Rknn.Io
import DyunGu.Rknn.PaddedLayout
import DyunGu.Rknn.WidthStride
import DyunGu.Cli.Supervisor
import DyunGu.Execution.Built
import DyunGu.Execution.Distribution
import DyunGu.Graph.PoolShutdown
import DyunGu.Graph.Tracked
import DyunGu.Graph.Watch
import DyunGu.Lib.Usage
import DyunGu.Openvino.Capacity
import DyunGu.Openvino.Models
import DyunGu.Stream.Relay
import DyunGu.Stream.RoundTrip
