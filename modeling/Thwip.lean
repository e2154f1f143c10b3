import Thwip.Lib.Search
import Thwip.Lib.Text
import Thwip.Lib.Slab
import Thwip.Lib.Ring
import Thwip.Lib.Cycle
import Thwip.Lib.Trace
import Thwip.Lib.Words
import Thwip.Lib.Pipe
import Thwip.Lib.Pool
import Thwip.Lib.Progress
import Thwip.Lib.Rotation
import Thwip.Lib.Execution
import Thwip.Lib.Fallback
import Thwip.Http.Request
import Thwip.Http.Fragmentation
import Thwip.Http.Framing
import Thwip.Http.Grammar
import Thwip.Http.LineBreaks
import Thwip.Http.Clean
import Thwip.Proxy.Upstream
import Thwip.Proxy.Forwarding
import Thwip.Proxy.Address
import Thwip.Router
import Thwip.LoadBalancer
import Thwip.Balancing
import Thwip.StaticFiles
import Thwip.Routing
import Thwip.StaticFiles.Percent
import Thwip.StaticFiles.Range
import Thwip.StaticFiles.Resolve
import Thwip.StaticFiles.Confinement
import Thwip.StaticFiles.Response
import Thwip.StaticFiles.Heads
import Thwip.StaticFiles.HeadRequests
import Thwip.StaticFiles.Streaming
import Thwip.StaticFiles.FileLoop
import Thwip.StaticFiles.FileThread
import Thwip.Config
import Thwip.Choosing
import Thwip.Startup
import Thwip.Runtime.Basic
import Thwip.Runtime.Exchange
import Thwip.IoUring.Operation
import Thwip.IoUring.Connection
import Thwip.IoUring.Handlers
import Thwip.IoUring.Worker
import Thwip.IoUring.Moves
import Thwip.IoUring.Turns
import Thwip.IoUring.Runs
import Thwip.IoUring.Panics
import Thwip.IoUring.Plaintext
import Thwip.IoUring.TlsReceive
import Thwip.IoUring.SendBuffer
import Thwip.IoUring.UpstreamOrder
import Thwip.IoUring.Closing
import Thwip.IoUring.Occupation
import Thwip.IoUring.UserData
import Thwip.IoUring.Limits
import Thwip.IoUring.Timeouts
import Thwip.IoUring.CloseNotify
import Thwip.IoUring.Shutdown
import Thwip.IoUring.Failures
import Thwip.IoUring.Changes
import Thwip.IoUring.Shared
import Thwip.IoUring.Responses
import Thwip.IoUring.Accepting
import Thwip.IoUring.SystemReads
import Thwip.IoUring.Choosing
import Thwip.IoUring.Lookups
import Thwip.IoUring.Fallback
import Thwip.IoUring.Delivery
import Thwip.IoUring.Idle
import Thwip.IoUring.BufferRing
import Thwip.Readiness.Connection
import Thwip.Readiness.Token
import Thwip.Readiness.Reads
import Thwip.Readiness.Handlers
import Thwip.Readiness.Worker
import Thwip.Readiness.Moves
import Thwip.Readiness.Turns
import Thwip.Readiness.Runs
import Thwip.Readiness.Occupation
import Thwip.Readiness.Tokens
import Thwip.Readiness.Phases
import Thwip.Readiness.Progress
import Thwip.Readiness.Exchange
import Thwip.Readiness.Delivery
import Thwip.Readiness.Limits
import Thwip.Readiness.Timeouts
import Thwip.Readiness.CloseNotify
import Thwip.Readiness.Shutdown
import Thwip.Readiness.HalfClose
import Thwip.Readiness.Failures
import Thwip.Readiness.Shared
import Thwip.Readiness.Responses
import Thwip.Readiness.Fallback
import Thwip.Readiness.Idle
import Thwip.Readiness.Isolation
import Thwip.Readiness.Escapes
import Thwip.Readiness.Choosing
import Thwip.Readiness.Unsent
import Thwip.Readiness.LocalAnswers
import Thwip.Runtime.Intake
import Thwip.Runtime.Occupation
import Thwip.Runtime.Hosts
import Thwip.Runtime.VirtualHosts
import Thwip.Runtime.Limits
import Thwip.Runtime.Timeouts
import Thwip.Runtime.CloseNotify
import Thwip.Runtime.Shutdown
import Thwip.Runtime.HalfClose
import Thwip.Runtime.Failures
import Thwip.Runtime.Responses
import Thwip.Runtime.Fallback
import Thwip.Runtime.Idle
import Thwip.Runtime.Unsent
import Thwip.Runtime.LocalAnswers
import Thwip.Runtime.Delivery
import Thwip.Runtime.Resolver
import Thwip.Runtime.ShutdownHandle
import Thwip.Runtime.Choosing
import Thwip.Master.Supervisor
import Thwip.Master.Restarts
import Thwip.Master.Signals
import Thwip.Master.Progress
