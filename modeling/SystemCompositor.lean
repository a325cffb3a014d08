import SystemCompositor.MirScreen.Concurrent
import SystemCompositor.MirScreen.PowerModes
import SystemCompositor.MirScreen.Turn
import SystemCompositor.Compositor
import SystemCompositor.AsioDMConnection.FrameSync
import SystemCompositor.Library.Framing
import SystemCompositor.Supervision
import SystemCompositor.Server
import SystemCompositor.ExternalSpinner.Signals
import SystemCompositor.ExternalSpinner.Children
import SystemCompositor.SessionSwitcher.Display
import SystemCompositor.SessionSwitcher.Idempotence
import SystemCompositor.SessionSwitcher.Blanking
import SystemCompositor.SessionSwitcher.NoActive
import SystemCompositor.SessionSwitcher.Orphans
import SystemCompositor.SessionSwitcher.SpinnerIdentity
import SystemCompositor.SessionSwitcher.History
import SystemCompositor.SessionSwitcher.Concurrent
import SystemCompositor.DBusEventLoop.WakeUp
import SystemCompositor.DBusEventLoop.Shutdown
import SystemCompositor.DBusEventLoop.InterestSet
import SystemCompositor.DBusEventLoop.Refusals
import SystemCompositor.DBusEventLoop.Expiries
import SystemCompositor.UnityDisplayService.ReadYourWrites
import SystemCompositor.UnityDisplayService.Lifetime
import SystemCompositor.UnityDisplayService.Settling
import SystemCompositor.InputSystem
import SystemCompositor.ScreenEventHandler.Concurrent
import SystemCompositor.Spinner.Program
import SystemCompositor.DBusMessageHandle
import SystemCompositor.Png2Header
