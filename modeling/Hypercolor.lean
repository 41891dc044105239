import Hypercolor.Persistence.Guarantees
import Hypercolor.Scenes.Validity
import Hypercolor.Idempotency.Accounting
import Hypercolor.Scenes.Fencing
import Hypercolor.Scenes.Revision
import Hypercolor.Device.FailureTickets
import Hypercolor.Preview.WireCodec
import Hypercolor.Scenes.Transition
import Hypercolor.Device.Routing
import Hypercolor.Device.StandaloneFailures
import Hypercolor.Engine.Fps
import Hypercolor.LayoutBuilder.Confirmed
import Hypercolor.LayoutBuilder.Losses
import Hypercolor.Device.Duplicates
import Hypercolor.Controls.Delivery
import Hypercolor.Registry.Absence
import Hypercolor.Persistence.CaptureNext
import Hypercolor.Device.UsbActors
import Hypercolor.Studio.Integrity
import Hypercolor.Studio.Rebuilt
import Hypercolor.Preview.RoundTrip
import Hypercolor.OpenRgb.Policy
import Hypercolor.Input.Delivery
import Hypercolor.Input.Transients
import Hypercolor.Input.Reuse
import Hypercolor.Input.DeviceRuns
import Hypercolor.Input.HostRuns
import Hypercolor.Screen.Fence
import Hypercolor.Input.Stuck
import Hypercolor.FrameRouting.Unassigned
import Hypercolor.Spatial.Accounting
import Hypercolor.Power.Arbitration
import Hypercolor.Scenes.CommitSequencer
import Hypercolor.Config.Epochs
import Hypercolor.DeviceSettings.LastSet
import Hypercolor.ConfigKeys.Surfaces
import Hypercolor.Config.Convergence
import Hypercolor.Relocation.CrashSafety
import Hypercolor.Install.RollbackEntry
import Hypercolor.Preview.Undisturbed
import Hypercolor.Idempotency.Fingerprint
import Hypercolor.Scenes.DryRun
import Hypercolor.Scenes.Placement
import Hypercolor.Device.Flapping
import Hypercolor.Install.Termination
import Hypercolor.Tinyuz.Window
import Hypercolor.Tinyuz.Overflow
import Hypercolor.Spatial.Integral
import Hypercolor.Scenes.Survivors
import Hypercolor.OpenRgb.Modes
import Hypercolor.PixelProtocols.Ddp
import Hypercolor.DeviceBinding.Replay
import Hypercolor.FrameRouting.SlotAliases
import Hypercolor.FrameRouting.WrittenRanges
import Hypercolor.Security.NetworkAccess
import Hypercolor.Security.Isolation
