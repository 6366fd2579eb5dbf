import MavlinkServer.Lib.Run
import MavlinkServer.Lib.Await
import MavlinkServer.Lib.LittleEndian
import MavlinkServer.Lib.Overlay
import MavlinkServer.Ftp.Protocol
import MavlinkServer.Ftp.Transport
import MavlinkServer.Ftp.Listing
import MavlinkServer.Ftp.Client
import MavlinkServer.Ftp.Burst
import MavlinkServer.Ftp.Requests
import MavlinkServer.Ftp.Reassembly
import MavlinkServer.Ftp.Download
import MavlinkServer.Ftp.Isolation
import MavlinkServer.Ftp.Paths
import MavlinkServer.Ftp.Matching
import MavlinkServer.Lib.IndexMap
import MavlinkServer.Lib.Tasks
import MavlinkServer.Hub.Registry
import MavlinkServer.Hub.Silence
import MavlinkServer.Stats.Accumulated
import MavlinkServer.Hub.Stats
import MavlinkServer.Lib.Sampler
import MavlinkServer.Stats.Published
import MavlinkServer.Stats.Actor
import MavlinkServer.Stats.Locks
import MavlinkServer.Stats.Monotone
import MavlinkServer.Drivers.GenericTasks
import MavlinkServer.Drivers.Routing
import MavlinkServer.Hub.Lag
import MavlinkServer.Drivers.Loopback
import MavlinkServer.Lib.Scan
import MavlinkServer.Tlog.Reader
import MavlinkServer.Tlog.Replay
import MavlinkServer.Tlog.Restart
import MavlinkServer.Drivers.Veto
import MavlinkServer.Tlog.Writer
import MavlinkServer.Tlog.Overwrite
import MavlinkServer.Tlog.Armed
import MavlinkServer.Drivers.UdpServer
import MavlinkServer.Drivers.SendTasks
import MavlinkServer.Ftp.Session
import MavlinkServer.Lib.Exits
import MavlinkServer.Ftp.Release
import MavlinkServer.Ftp.Handout
import MavlinkServer.Ftp.Once
import MavlinkServer.Ftp.Locks
import MavlinkServer.Ftp.Upload
import MavlinkServer.Ftp.Paging
import MavlinkServer.Lib.Keyed
import MavlinkServer.Rest.Autopilot
import MavlinkServer.Rest.Control
import MavlinkServer.Rest.Parameters
import MavlinkServer.Rest.Vehicles
import MavlinkServer.Rest.WebSocket
import MavlinkServer.Lib.Ring
import MavlinkServer.Logger.History
import MavlinkServer.Ftp.ReadSteps
import MavlinkServer.Ftp.Limit
import MavlinkServer.Ftp.Arithmetic
import MavlinkServer.Ftp.ListingFormat
import MavlinkServer.Ftp.Malformed
import MavlinkServer.Ftp.Termination
import MavlinkServer.Rest.Data
import MavlinkServer.Rest.Request
import MavlinkServer.Drivers.Endpoints
import MavlinkServer.Drivers.Entry
import MavlinkServer.Stats.Delay
import MavlinkServer.Stats.Mirror
import MavlinkServer.Rest.ParamId
import MavlinkServer.Tlog.ArmCheck
import MavlinkServer.Tlog.Progress
import MavlinkServer.Tlog.Arming
import MavlinkServer.Tlog.Sequence
import MavlinkServer.Lib.Decoder
import MavlinkServer.Drivers.Adapters
import MavlinkServer.Drivers.ZenohJson
import MavlinkServer.Lib.Json
import MavlinkServer.Stats.Format
import MavlinkServer.Lib.UrlStandard
import MavlinkServer.Drivers.Address
import MavlinkServer.Lib.Tiling
import MavlinkServer.Ftp.Gaps
import MavlinkServer.Hub.Heartbeat
import MavlinkServer.Drivers.Callbacks
import MavlinkServer.Lib.Mailbox
import MavlinkServer.Drivers.Fake
import MavlinkServer.Drivers.Reconnect
import MavlinkServer.Drivers.ZenohSend
import MavlinkServer.Hub.Commands
import MavlinkServer.Hub.Main
import MavlinkServer.Lib.Feed
import MavlinkServer.Lib.JsonPointer
import MavlinkServer.Lib.Notify
import MavlinkServer.Rest.Lookup
import MavlinkServer.Rest.ParameterFeed
import MavlinkServer.Stats.Streams
import MavlinkServer.Ftp.Navigation
import MavlinkServer.Ftp.Saves
