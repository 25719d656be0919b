import FlyRuler.Cursor.Acknowledged
import FlyRuler.Cursor.Arrivals
import FlyRuler.Cursor.Atomicity
import FlyRuler.Cursor.Checksum
import FlyRuler.Cursor.Client
import FlyRuler.Cursor.Codec
import FlyRuler.Cursor.Coverage
import FlyRuler.Cursor.Delivery
import FlyRuler.Cursor.Frame
import FlyRuler.Cursor.FrameConsistency
import FlyRuler.Cursor.FrameOrder
import FlyRuler.Cursor.Identity
import FlyRuler.Cursor.InOrder
import FlyRuler.Cursor.Lockstep
import FlyRuler.Cursor.Pacing
import FlyRuler.Cursor.Progress
import FlyRuler.Cursor.Publisher
import FlyRuler.Cursor.Queue
import FlyRuler.Cursor.Reassembly
import FlyRuler.Cursor.Subscriber
import FlyRuler.Cursor.Survival
import FlyRuler.Cursor.Tiling
import FlyRuler.Cursor.WireId
import FlyRuler.Godot.Agreement
import FlyRuler.Godot.Gear
import FlyRuler.Godot.Runtime
import FlyRuler.Godot.RuntimeLaws
import FlyRuler.Godot.RuntimeRuns
import FlyRuler.Godot.RuntimeWorker
import FlyRuler.Godot.Shutdown
import FlyRuler.Lib.Arc
import FlyRuler.Lib.Buckets
import FlyRuler.Lib.Chunks
import FlyRuler.Lib.Fallible
import FlyRuler.Lib.Faults
import FlyRuler.Lib.Keyed
import FlyRuler.Lib.Merge
import FlyRuler.Lib.Paging
import FlyRuler.Lib.Records
import FlyRuler.Lib.Relay
import FlyRuler.Lib.Repeats
import FlyRuler.Lib.Run
import FlyRuler.Lib.Separated
import FlyRuler.Lib.ShiftRegister
import FlyRuler.Lib.Slots
import FlyRuler.Lib.StopAndWait
import FlyRuler.Lib.Threads
import FlyRuler.Lib.TimeOrder
import FlyRuler.Lib.Walk
import FlyRuler.Management.Batch
import FlyRuler.Management.Catalog
import FlyRuler.Management.CatalogRuns
import FlyRuler.Management.Downsampling
import FlyRuler.Management.Gate
import FlyRuler.Management.Operations
import FlyRuler.Management.Series
import FlyRuler.Management.SeriesKeys
import FlyRuler.Management.SessionNames
import FlyRuler.Management.Sessions
import FlyRuler.Management.Snapshots
import FlyRuler.Management.Stopping
import FlyRuler.Management.Telemetry
import FlyRuler.Management.Workspace
import FlyRuler.Msfs.AiRegistry
import FlyRuler.Msfs.Aircraft
import FlyRuler.Msfs.Bridge
import FlyRuler.Msfs.Frame
import FlyRuler.Msfs.Freeze
import FlyRuler.Msfs.GearTracker
import FlyRuler.Msfs.LiveBuffer
import FlyRuler.Msfs.Propulsors
import FlyRuler.Msfs.Resolution
import FlyRuler.Msfs.Session
import FlyRuler.Msfs.ShortWay
import FlyRuler.Msfs.Smoothing
import FlyRuler.Pb
import FlyRuler.Playback
import FlyRuler.Playback.Polling
import FlyRuler.Playback.Reachable
import FlyRuler.Playback.Revision
import FlyRuler.Playback.Stepping
import FlyRuler.Python.Client
import FlyRuler.Python.Delivered
import FlyRuler.Python.Producer
import FlyRuler.Store.Basic
import FlyRuler.Store.Bounds
import FlyRuler.Store.Disk
import FlyRuler.Store.Interrupted
import FlyRuler.Store.Order
import FlyRuler.Store.Pages
import FlyRuler.Store.Persist
import FlyRuler.Store.Query
import FlyRuler.Store.RoundTrip
import FlyRuler.Store.Unmixed
import FlyRuler.Transport.AircraftClient
import FlyRuler.Transport.Attached
import FlyRuler.Transport.Consistency
import FlyRuler.Transport.Datagrams
import FlyRuler.Transport.Delivery
import FlyRuler.Transport.Expiry
import FlyRuler.Transport.Ingestion
import FlyRuler.Transport.Malformed
import FlyRuler.Transport.Server
import FlyRuler.Transport.Session
import FlyRuler.Transport.Upload
import FlyRuler.Web.Editor
import FlyRuler.Web.Editors
import FlyRuler.Web.EventClusters
import FlyRuler.Web.Freshness
import FlyRuler.Web.LoadingStatus
import FlyRuler.Web.Merge
import FlyRuler.Web.SeriesStore
import FlyRuler.Web.Socket
import FlyRuler.Web.Timeline
import FlyRuler.Web.Workspace
