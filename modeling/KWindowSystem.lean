import KWindowSystem.Lib.Machine
import KWindowSystem.Lib.SortedMap
import KWindowSystem.Lib.Merge
import KWindowSystem.Startup.Merging
import KWindowSystem.Startup.Timestamp
import KWindowSystem.Startup.Removal
import KWindowSystem.Startup.Matching
import KWindowSystem.Messages.Reassembly
import KWindowSystem.Startup.RoundTrip
import KWindowSystem.Startup.TrackerInvariant
import KWindowSystem.NetWM.Atoms
import KWindowSystem.NetWM.Def
import KWindowSystem.Lib.Batch
import KWindowSystem.NetWM.NETRArray
import KWindowSystem.NetWM.RootInfo
import KWindowSystem.Lib.SortedDiff
import KWindowSystem.NetWM.ClientList
import KWindowSystem.NetWM.WinInfo
import KWindowSystem.NetWM.WinCache
import KWindowSystem.NetWM.SetState
import KWindowSystem.KX11Extras.EventFilter
import KWindowSystem.KX11Extras.WorkArea
import KWindowSystem.Selection.Claims
import KWindowSystem.Selection.Requests
import KWindowSystem.Wayland.WindowEffects
import KWindowSystem.Wayland.BlurTracking
import KWindowSystem.Lib.ObjectPool
import KWindowSystem.Wayland.EffectObjects
import KWindowSystem.Wayland.ObjectLifetime
import KWindowSystem.Wayland.ObjectsRefinement
import KWindowSystem.Wayland.BlurInstalled
import KWindowSystem.Wayland.MainWindow
import KWindowSystem.Lib.Notified
import KWindowSystem.NetWM.RootCache
import KWindowSystem.NetWM.RootLists
import KWindowSystem.NetWM.SupportedHints
import KWindowSystem.NetWM.ClientRequests
import KWindowSystem.NetWM.WinIndependence
import KWindowSystem.Lib.Handles
import KWindowSystem.NetWM.SharedData
import KWindowSystem.NetWM.RootConvergence
import KWindowSystem.KX11Extras.DesktopSignals
import KWindowSystem.KX11Extras.WindowSignals
import KWindowSystem.Selection.Lifetime
import KWindowSystem.Selection.Reentrancy
import KWindowSystem.Selection.Watcher
import KWindowSystem.Startup.Announcements
import KWindowSystem.Startup.Expiry
import KWindowSystem.Startup.Activity
import KWindowSystem.Startup.WindowStartupId
import KWindowSystem.NetWM.ListCounts
import KWindowSystem.NetWM.IconProperty
import KWindowSystem.NetWM.DesktopNames
import KWindowSystem.KX11Extras.StrutBookkeeping
import KWindowSystem.NetWM.ReplyPairing
import KWindowSystem.Lib.Scan
import KWindowSystem.Lib.Grid
import KWindowSystem.NetWM.IconChoice
import KWindowSystem.NetWM.IconReader
import KWindowSystem.NetWM.IconCache
import KWindowSystem.KWindowInfo.WindowType
import KWindowSystem.KX11Extras.Viewport
import KWindowSystem.KX11Extras.ViewportMove
import KWindowSystem.KX11Extras.SetStrut
import KWindowSystem.Xcb.TimestampCompare
import KWindowSystem.Lib.Delegation
import KWindowSystem.Xcb.ErrorHandler
import KWindowSystem.Xcb.ErrorRouting
import KWindowSystem.Xcb.ErrorLock
import KWindowSystem.Lib.FlagTable
import KWindowSystem.KKeyServer.Modifiers
import KWindowSystem.KKeyServer.LetterCase
import KWindowSystem.KKeyServer.Keys
import KWindowSystem.Startup.FieldQuoting
import KWindowSystem.NetWM.NETRArrayMap
import KWindowSystem.Lib.Channel
import KWindowSystem.Startup.Delivery
import KWindowSystem.Startup.Feedback
import KWindowSystem.Lib.History
import KWindowSystem.NetWM.WinSetters
import KWindowSystem.NetWM.WinHistory
import KWindowSystem.NetWM.WinConvergence
import KWindowSystem.Lib.Replicas
import KWindowSystem.NetWM.RootSetters
import KWindowSystem.NetWM.RootReading
import KWindowSystem.NetWM.RootProtocol
import KWindowSystem.NetWM.RootGranted
import KWindowSystem.NetWM.RootAreas
import KWindowSystem.Lib.Shared
import KWindowSystem.Lib.Registry
import KWindowSystem.Shadow.Client
import KWindowSystem.Shadow.Frame
import KWindowSystem.Shadow.Resources
import KWindowSystem.Shadow.Property
import KWindowSystem.Shadow.Changes
import KWindowSystem.Shadow.Runs
