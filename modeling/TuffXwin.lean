import TuffXwin.Common.ArtifactPath
import TuffXwin.Common.Artifacts
import TuffXwin.Common.Delivery
import TuffXwin.Common.Framing
import TuffXwin.Common.Ipc
import TuffXwin.Common.IpcJson
import TuffXwin.Common.PixelRuns
import TuffXwin.Common.PixelTransport
import TuffXwin.Common.Profile
import TuffXwin.Common.SessionArtifacts
import TuffXwin.Common.SurfaceRegistry
import TuffXwin.Common.Transport
import TuffXwin.Compd.Acknowledged
import TuffXwin.Compd.Admissible
import TuffXwin.Compd.Forward
import TuffXwin.Compd.Handoff
import TuffXwin.Compd.Rebuild
import TuffXwin.Compd.Reconcile
import TuffXwin.Compd.Relay
import TuffXwin.Compd.RelayRuns
import TuffXwin.Displayd.Acceptance
import TuffXwin.Displayd.Admission
import TuffXwin.Displayd.Backends
import TuffXwin.Displayd.Capture
import TuffXwin.Displayd.CaptureArtifacts
import TuffXwin.Displayd.Clocks
import TuffXwin.Displayd.Compose
import TuffXwin.Displayd.ComposePixels
import TuffXwin.Displayd.Conservative
import TuffXwin.Displayd.DamageCover
import TuffXwin.Displayd.Drawing
import TuffXwin.Displayd.DrmKms
import TuffXwin.Displayd.Failures
import TuffXwin.Displayd.Faults
import TuffXwin.Displayd.Geometry
import TuffXwin.Displayd.Headless
import TuffXwin.Displayd.Joint
import TuffXwin.Displayd.Ledger
import TuffXwin.Displayd.Moves
import TuffXwin.Displayd.Obligations
import TuffXwin.Displayd.Outputs
import TuffXwin.Displayd.Pacing
import TuffXwin.Displayd.PacingRuns
import TuffXwin.Displayd.PixelStore
import TuffXwin.Displayd.Presentation
import TuffXwin.Displayd.Readiness
import TuffXwin.Displayd.ReadyRuns
import TuffXwin.Displayd.Reference
import TuffXwin.Displayd.Registry
import TuffXwin.Displayd.RegistryFrames
import TuffXwin.Displayd.Rejection
import TuffXwin.Displayd.Resident
import TuffXwin.Displayd.Resubmission
import TuffXwin.Displayd.Runs
import TuffXwin.Displayd.Runtimes
import TuffXwin.Displayd.Scanout
import TuffXwin.Displayd.Service
import TuffXwin.Displayd.Settlement
import TuffXwin.Displayd.State
import TuffXwin.Displayd.Tokens
import TuffXwin.Displayd.Topology
import TuffXwin.Displayd.Trace
import TuffXwin.Displayd.Versions
import TuffXwin.Headless.AckConfigure
import TuffXwin.Headless.Anchors
import TuffXwin.Headless.Binding
import TuffXwin.Headless.Bounds
import TuffXwin.Headless.Codec
import TuffXwin.Headless.Core
import TuffXwin.Headless.Descriptors
import TuffXwin.Headless.Destruction
import TuffXwin.Headless.Dispatch
import TuffXwin.Headless.DispatchKept
import TuffXwin.Headless.DisplayKept
import TuffXwin.Headless.Events
import TuffXwin.Headless.ExtensionKept
import TuffXwin.Headless.ExtensionRequests
import TuffXwin.Headless.Focus
import TuffXwin.Headless.FocusKept
import TuffXwin.Headless.Indexes
import TuffXwin.Headless.Interfaces
import TuffXwin.Headless.Kept
import TuffXwin.Headless.LayerPlacement
import TuffXwin.Headless.LayerShellKept
import TuffXwin.Headless.Managers
import TuffXwin.Headless.ObjectIds
import TuffXwin.Headless.OutputChanges
import TuffXwin.Headless.PhysicalInput
import TuffXwin.Headless.Presentations
import TuffXwin.Headless.Roles
import TuffXwin.Headless.RoundTrip
import TuffXwin.Headless.Rules
import TuffXwin.Headless.Runs
import TuffXwin.Headless.SeatKept
import TuffXwin.Headless.SharedMemory
import TuffXwin.Headless.ShellKept
import TuffXwin.Headless.ShellRequests
import TuffXwin.Headless.ShmMirror
import TuffXwin.Headless.SurfaceKept
import TuffXwin.Headless.SurfaceRequests
import TuffXwin.Headless.Tables
import TuffXwin.Headless.TextInputKept
import TuffXwin.Headless.TopologyKept
import TuffXwin.LayerX11.Bridge
import TuffXwin.LayerX11.RootlessScene
import TuffXwin.Lib.ByteLanes
import TuffXwin.Lib.ByteStream
import TuffXwin.Lib.Channel
import TuffXwin.Lib.FileTree
import TuffXwin.Lib.Fold
import TuffXwin.Lib.Json
import TuffXwin.Lib.JsonSize
import TuffXwin.Lib.Keyed
import TuffXwin.Lib.LittleEndian
import TuffXwin.Lib.Machine
import TuffXwin.Lib.MapDiff
import TuffXwin.Lib.OrdMap
import TuffXwin.Lib.Outcome
import TuffXwin.Lib.Pointwise
import TuffXwin.Lib.Preserves
import TuffXwin.Lib.Reach
import TuffXwin.Lib.SecondaryIndex
import TuffXwin.Lib.Session
import TuffXwin.Lockd.LockService
import TuffXwin.Screenshot.Artifact
import TuffXwin.Screenshot.OpenAt
import TuffXwin.Screenshot.Save
import TuffXwin.Sessiond.Authority
import TuffXwin.Sessiond.Commands
import TuffXwin.Sessiond.Component
import TuffXwin.Sessiond.Convergence
import TuffXwin.Sessiond.Descent
import TuffXwin.Sessiond.IdleState
import TuffXwin.Sessiond.Recovery
import TuffXwin.Sessiond.Reports
import TuffXwin.Sessiond.Resume
import TuffXwin.Sessiond.Stream
import TuffXwin.Sessiond.Supervisor
import TuffXwin.Sessiond.Survival
import TuffXwin.Sessiond.Transition
import TuffXwin.VulkanBackend.Cleared
import TuffXwin.VulkanBackend.Runs
import TuffXwin.Watchdog.Inspection
import TuffXwin.Watchdog.LaunchStates
import TuffXwin.WaylandWire.Core
import TuffXwin.WaylandWire.Dispatch
import TuffXwin.WaylandWire.Lifetimes
import TuffXwin.WaylandWire.PixelOps
import TuffXwin.WaylandWire.Reassembly
import TuffXwin.WaylandWire.Registry
import TuffXwin.WaylandWire.Requests
import TuffXwin.WaylandWire.Wire
import TuffXwin.Waylandd.Callbacks
import TuffXwin.Waylandd.ClientCommands
import TuffXwin.Waylandd.Clients
import TuffXwin.Waylandd.Commits
import TuffXwin.Waylandd.Epoch
import TuffXwin.Waylandd.Frames
import TuffXwin.Waylandd.InputReplay
import TuffXwin.Waylandd.InputRouting
import TuffXwin.Waylandd.Pending
import TuffXwin.Waylandd.RegistryRuns
import TuffXwin.Waylandd.Resolution
import TuffXwin.Waylandd.Resync
import TuffXwin.Waylandd.Scene
import TuffXwin.Waylandd.SceneStore
import TuffXwin.Waylandd.SceneTransport
import TuffXwin.Waylandd.SelectionHandoff
import TuffXwin.Waylandd.Stacking
import TuffXwin.Waylandd.Supervisor
import TuffXwin.Waylandd.TopologyPatch
import TuffXwin.Waylandd.TopologyRegistry
import TuffXwin.Waylandd.TopologyRuns
import TuffXwin.Waylandd.Turns
import TuffXwin.XwinSec.Policy
