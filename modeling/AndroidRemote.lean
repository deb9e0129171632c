import AndroidRemote.Library.Codes
import AndroidRemote.Library.Fallible
import AndroidRemote.Library.InPlace
import AndroidRemote.Library.Loops
import AndroidRemote.Library.Memory
import AndroidRemote.Library.Mirror
import AndroidRemote.Library.Painting
import AndroidRemote.Library.Pieces
import AndroidRemote.Library.Rounding
import AndroidRemote.Library.Runs
import AndroidRemote.Library.Search
import AndroidRemote.Library.Text
import AndroidRemote.Library.Windows
import AndroidRemote.Library.Wire
import AndroidRemote.Rfb.ClientPicture
import AndroidRemote.Rfb.CopyRect
import AndroidRemote.Rfb.PixelFormat
import AndroidRemote.Rfb.RectHextile
import AndroidRemote.Rfb.RectRaw
import AndroidRemote.Rfb.RectRising
import AndroidRemote.Rfb.Region
import AndroidRemote.Rfb.RegionCursor
import AndroidRemote.Rfb.RegionOps
import AndroidRemote.Rfb.RegionPixels
import AndroidRemote.Rfb.RegionRects
import AndroidRemote.Rfb.Screen
import AndroidRemote.Rfb.Subrects
import AndroidRemote.Rfb.TableValues
import AndroidRemote.Rfb.Translate
import AndroidRemote.Rfb.UpdateBuf
import AndroidRemote.Rfb.UpdateFaithful
import AndroidRemote.Rfb.UpdateMessage
import AndroidRemote.Rfb.UpdateRegions
import AndroidRemote.Rfb.UpdateSending
import AndroidRemote.Rfb.UpdateSession
import AndroidRemote.Display.DirtyBox
import AndroidRemote.Display.Indices
import AndroidRemote.Display.Mapping
import AndroidRemote.Display.Rotate
import AndroidRemote.Display.RotatedBox
import AndroidRemote.Display.RotatedPicture
import AndroidRemote.Display.Server
import AndroidRemote.Display.Touch
import AndroidRemote.Display.TouchRange
import AndroidRemote.Display.UnrotatedPicture
import AndroidRemote.Display.UpdateScreen
import AndroidRemote.Display.Visits
import AndroidRemote.Input.Clicks
import AndroidRemote.Input.Contact
import AndroidRemote.Input.Device
import AndroidRemote.Input.Keyboard
import AndroidRemote.Input.Pointer
import AndroidRemote.Input.Throttle
import AndroidRemote.Native.Arguments
import AndroidRemote.Native.CommandLine
import AndroidRemote.Native.Daemon
import AndroidRemote.Native.Injected
import AndroidRemote.Native.Listening
import AndroidRemote.Native.LocalSockets
import AndroidRemote.Native.MappedScreen
import AndroidRemote.Native.MessageBuffers
import AndroidRemote.Native.Pointing
import AndroidRemote.Native.RotatedIndices
import AndroidRemote.Native.Scale
import AndroidRemote.Native.ScaledPicture
import AndroidRemote.Native.Scaling
import AndroidRemote.Native.ScreenRecord
import AndroidRemote.Native.StartUp
import AndroidRemote.Native.TypedText
import AndroidRemote.Service.ActivityView
import AndroidRemote.Service.BatteryReceivers
import AndroidRemote.Service.Controller
import AndroidRemote.Service.Convergence
import AndroidRemote.Service.Installation
import AndroidRemote.Service.Interleaving
import AndroidRemote.Service.LocalSocketServer
import AndroidRemote.Service.ManagementRun
import AndroidRemote.Service.ManagementThread
import AndroidRemote.Service.Methods
import AndroidRemote.Service.NativeServers
import AndroidRemote.Service.PortField
import AndroidRemote.Service.ProcessListing
import AndroidRemote.Service.Requests
import AndroidRemote.Service.ThreadStarts
import AndroidRemote.Service.WatchdogTicks
import AndroidRemote.Service.Wishes
import AndroidRemote.Service.World
