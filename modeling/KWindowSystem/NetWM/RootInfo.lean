import KWindowSystem.Lib.Batch
import KWindowSystem.NetWM.Atoms
import KWindowSystem.NetWM.NETRArray
import Mathlib.Data.List.Sort

/-!
# NETRootInfo

The data of the root window that `NETRootInfo` keeps, `event` and `update`.
-/

open Qt

namespace KWindowSystem

open NET

instance : Inhabited NETPoint := ⟨{}⟩
instance : Inhabited NETRect := ⟨{}⟩

/-- A reference to an array of windows, null or not. -/
abbrev WindowArray := Option (List XcbWindow)

structure NETRootInfo where
  role : Role
  rootSize : NETSize := {}
  root : XcbWindow
  supportwindow : XcbWindow := 0
  name : Option QByteArray := none
  viewport : NETRArray NETPoint := .new
  workarea : NETRArray NETRect := .new
  geometry : NETSize := {}
  active : XcbWindow := 0
  clients : WindowArray := none
  stacking : WindowArray := none
  virtualRoots : WindowArray := none
  desktopNames : NETRArray (Option QByteArray) := .new
  numberOfDesktops : Int32 := 0
  currentDesktop : Int32 := 0
  clientsCount : Nat := 0
  stackingCount : Nat := 0
  virtualRootsCount : Nat := 0
  showingDesktop : Bool := false
  desktopLayoutOrientation : Orientation := .horizontal
  desktopLayoutCorner : DesktopLayoutCorner := .topLeft
  desktopLayoutColumns : Int32 := 0
  desktopLayoutRows : Int32 := 0
  properties : Flags := 0
  properties2 : Flags := 0
  windowTypes : Flags := 0
  states : Flags := 0
  actions : Flags := 0
  clientProperties : Flags
  clientProperties2 : Flags

/-- What a `NETRootInfo` calls its subclass with. -/
inductive RootSignal where
  | addClient (window : XcbWindow)
  | removeClient (window : XcbWindow)
  | changeNumberOfDesktops (numberOfDesktops : Int32)
  | changeDesktopGeometry (desktop : Int32) (geom : NETSize)
  | changeDesktopViewport (desktop : Int32) (viewport : NETPoint)
  | changeCurrentDesktop (desktop : Int32)
  | changeActiveWindow (window : XcbWindow) (src : RequestSource) (timestamp : UInt32)
      (activeWindow : XcbWindow)
  | moveResize (window : XcbWindow) (xRoot yRoot : Int32) (direction : UInt32) (button : UInt8)
      (source : UInt32)
  | moveResizeWindow (window : XcbWindow) (flags x y width height : Int32)
  | closeWindow (window : XcbWindow)
  | restackWindow (window : XcbWindow) (source : RequestSource) (above : XcbWindow) (detail : Int32)
      (timestamp : UInt32)
  | gotPing (window : XcbWindow) (timestamp : UInt32)
  | changeShowingDesktop (showing : Bool)
  | showWindowMenu (window : XcbWindow) (deviceId xRoot yRoot : Int32)
deriving DecidableEq, Repr

namespace NETRootInfo

/-- The client constructor, before `activate`. -/
def newClient (root : XcbWindow) (rootSize : NETSize) (properties properties2 : Flags) :
    NETRootInfo where
  role := .client
  root
  rootSize
  clientProperties := properties
  clientProperties2 := properties2

/-- The window manager constructor, before `activate`. -/
def newWindowManager (root supportWindow : XcbWindow) (wmName : QByteArray) (properties : Flags)
    (windowTypes states properties2 actions : Flags) : NETRootInfo where
  role := .windowManager
  root
  supportwindow := supportWindow
  name := some (cString wmName)
  properties := properties ||| (mask Property.supported ||| mask Property.supportingWMCheck)
  properties2
  windowTypes
  states
  actions
  clientProperties := mask Property.desktopNames ||| mask Property.wmPing
  clientProperties2 := mask Property2.desktopLayout

/-! ## The supported list -/

/-- What an atom of `_NET_SUPPORTED` stands for. -/
inductive Supported where
  | property (p : NET.Property)
  | property2 (p : Property2)
  | windowType (t : WindowType)
  | state (s : State)
  | action (a : Action)
deriving DecidableEq, Repr

/-- The `else if` chain of `updateSupportedProperties`. -/
def supportedChain : List (KwsAtom × Supported) :=
  [(.netSupported, .property .supported), (.netSupportingWmCheck, .property .supportingWMCheck),
    (.netClientList, .property .clientList),
    (.netClientListStacking, .property .clientListStacking),
    (.netNumberOfDesktops, .property .numberOfDesktops),
    (.netDesktopGeometry, .property .desktopGeometry),
    (.netDesktopViewport, .property .desktopViewport),
    (.netCurrentDesktop, .property .currentDesktop), (.netDesktopNames, .property .desktopNames),
    (.netActiveWindow, .property .activeWindow), (.netWorkarea, .property .workArea),
    (.netVirtualRoots, .property .virtualRoots), (.netDesktopLayout, .property2 .desktopLayout),
    (.netCloseWindow, .property .closeWindow), (.netRestackWindow, .property2 .restackWindow),
    (.netShowingDesktop, .property2 .showingDesktop), (.netWmMoveresize, .property .wmMoveResize),
    (.netMoveresizeWindow, .property2 .moveResizeWindow), (.netWmName, .property .wmName),
    (.netWmVisibleName, .property .wmVisibleName), (.netWmIconName, .property .wmIconName),
    (.netWmVisibleIconName, .property .wmVisibleIconName), (.netWmDesktop, .property .wmDesktop),
    (.netWmWindowType, .property .wmWindowType), (.netWmWindowTypeNormal, .windowType .normal),
    (.netWmWindowTypeDesktop, .windowType .desktop), (.netWmWindowTypeDock, .windowType .dock),
    (.netWmWindowTypeToolbar, .windowType .toolbar), (.netWmWindowTypeMenu, .windowType .menu),
    (.netWmWindowTypeDialog, .windowType .dialog),
    (.netWmWindowTypeUtility, .windowType .utility),
    (.netWmWindowTypeSplash, .windowType .splash),
    (.netWmWindowTypeDropdownMenu, .windowType .dropdownMenu),
    (.netWmWindowTypePopupMenu, .windowType .popupMenu),
    (.netWmWindowTypeTooltip, .windowType .tooltip),
    (.netWmWindowTypeNotification, .windowType .notification),
    (.netWmWindowTypeCombo, .windowType .comboBox), (.netWmWindowTypeDnd, .windowType .dndIcon),
    (.kdeNetWmWindowTypeOverride, .windowType .override),
    (.kdeNetWmWindowTypeTopmenu, .windowType .topMenu),
    (.kdeNetWmWindowTypeOnScreenDisplay, .windowType .onScreenDisplay),
    (.kdeNetWmWindowTypeCriticalNotification, .windowType .criticalNotification),
    (.kdeNetWmWindowTypeAppletPopup, .windowType .appletPopup), (.netWmState, .property .wmState),
    (.netWmStateModal, .state .modal), (.netWmStateSticky, .state .sticky),
    (.netWmStateMaximizedVert, .state .maxVert), (.netWmStateMaximizedHorz, .state .maxHoriz),
    (.netWmStateShaded, .state .shaded), (.netWmStateSkipTaskbar, .state .skipTaskbar),
    (.netWmStateSkipPager, .state .skipPager), (.kdeNetWmStateSkipSwitcher, .state .skipSwitcher),
    (.netWmStateHidden, .state .hidden), (.netWmStateFullscreen, .state .fullScreen),
    (.netWmStateAbove, .state .keepAbove), (.netWmStateBelow, .state .keepBelow),
    (.netWmStateDemandsAttention, .state .demandsAttention),
    (.netWmStateStaysOnTop, .state .keepAbove), (.netWmStateFocused, .state .focused),
    (.netWmStrut, .property .wmStrut), (.netWmStrutPartial, .property2 .extendedStrut),
    (.netWmIconGeometry, .property .wmIconGeometry), (.netWmIcon, .property .wmIcon),
    (.netWmPid, .property .wmPid), (.netWmHandledIcons, .property .wmHandledIcons),
    (.netWmPing, .property .wmPing), (.netWmUserTime, .property2 .userTime),
    (.netStartupId, .property2 .startupId), (.netWmWindowOpacity, .property2 .opacity),
    (.netWmFullscreenMonitors, .property2 .fullscreenMonitors),
    (.netWmAllowedActions, .property2 .allowedActions), (.netWmActionMove, .action .move),
    (.netWmActionResize, .action .resize), (.netWmActionMinimize, .action .minimize),
    (.netWmActionShade, .action .shade), (.netWmActionStick, .action .stick),
    (.netWmActionMaximizeVert, .action .maxVert), (.netWmActionMaximizeHorz, .action .maxHoriz),
    (.netWmActionFullscreen, .action .fullScreen),
    (.netWmActionChangeDesktop, .action .changeDesktop), (.netWmActionClose, .action .close),
    (.netFrameExtents, .property .wmFrameExtents),
    (.kdeNetWmFrameStrut, .property .wmFrameExtents),
    (.netWmFrameOverlap, .property2 .frameOverlap),
    (.kdeNetWmTemporaryRules, .property2 .kdeTemporaryRules),
    (.netWmFullPlacement, .property2 .fullPlacement),
    (.kdeNetWmActivities, .property2 .activities),
    (.kdeNetWmBlockCompositing, .property2 .blockCompositing),
    (.netWmBypassCompositor, .property2 .blockCompositing),
    (.kdeNetWmShadow, .property2 .kdeShadow), (.netWmOpaqueRegion, .property2 .opaqueRegion),
    (.gtkFrameExtents, .property2 .gtkFrameExtents),
    (.gtkShowWindowMenu, .property2 .gtkShowWindowMenu),
    (.kdeNetWmAppmenuObjectPath, .property2 .appMenuObjectPath),
    (.kdeNetWmAppmenuServiceName, .property2 .appMenuServiceName)]

def updateSupportedProperties (atoms : Atoms) (p : NETRootInfo) (atom : XcbAtom) : NETRootInfo :=
  match lookupAtom atoms.atom supportedChain atom with
  | some (.property q) => { p with properties := p.properties ||| mask q }
  | some (.property2 q) => { p with properties2 := p.properties2 ||| mask q }
  | some (.windowType t) => { p with windowTypes := p.windowTypes ||| mask t }
  | some (.state s) => { p with states := p.states ||| mask s }
  | some (.action a) => { p with actions := p.actions ||| mask a }
  | none => p

/-! ## The client list -/

/-- The `while` loop over the two sorted arrays: the windows only the old one has left go to
`clientsToRemove`, those only the new one has left to `clientsToAdd`. -/
def diffLoop (old new : List XcbWindow) (oldCount newCount oldIndex newIndex : Nat)
    (hold : oldIndex ≤ oldCount) (hnew : newIndex ≤ newCount)
    (clientsToRemove clientsToAdd : List XcbWindow) : List XcbWindow × List XcbWindow :=
  if h : oldIndex < oldCount ∨ newIndex < newCount then
    if ho : oldIndex = oldCount then
      diffLoop old new oldCount newCount oldIndex (newIndex + 1) hold (by omega)
        clientsToRemove (clientsToAdd ++ [new.getD newIndex 0])
    else if hn : newIndex = newCount then
      diffLoop old new oldCount newCount (oldIndex + 1) newIndex (by omega) hnew
        (clientsToRemove ++ [old.getD oldIndex 0]) clientsToAdd
    else if old.getD oldIndex 0 < new.getD newIndex 0 then
      diffLoop old new oldCount newCount (oldIndex + 1) newIndex (by omega) hnew
        (clientsToRemove ++ [old.getD oldIndex 0]) clientsToAdd
    else if new.getD newIndex 0 < old.getD oldIndex 0 then
      diffLoop old new oldCount newCount oldIndex (newIndex + 1) hold (by omega)
        clientsToRemove (clientsToAdd ++ [new.getD newIndex 0])
    else
      diffLoop old new oldCount newCount (oldIndex + 1) (newIndex + 1) (by omega) (by omega)
        clientsToRemove clientsToAdd
  else (clientsToRemove, clientsToAdd)
termination_by (oldCount - oldIndex) + (newCount - newIndex)

/-- The windows to remove and to add when `clients` is the new sorted list. -/
def clientDiff (p : NETRootInfo) (clients : List XcbWindow) : List XcbWindow × List XcbWindow :=
  match p.clients with
  | some old =>
      if p.role = .client then
        diffLoop old clients p.clientsCount clients.length 0 0 (Nat.zero_le _) (Nat.zero_le _) [] []
      else ([], [])
  | none => ([], clients)

/-- The array is freed, and allocated again unless the list is empty. -/
def storeClients (p : NETRootInfo) (clients : List XcbWindow) : NETRootInfo :=
  let p := { p with clients := none }
  if clients = [] then p
  else { p with clientsCount := clients.length, clients := some clients }

/-- The `ClientList` branch once the reply is there. -/
def updateClientList (p : NETRootInfo) (reply : List XcbWindow) : NETRootInfo × List RootSignal :=
  let clients := reply.insertionSort (· ≤ ·)
  let diff := p.clientDiff clients
  (p.storeClients clients, diff.1.map .removeClient ++ diff.2.map .addClient)

/-! ## update -/

/-- The blocks of the second half of `update`, `wmName` being the one at its end. -/
inductive Branch where
  | supported | clientList | clientListStacking | numberOfDesktops | desktopGeometry
  | desktopViewport | currentDesktop | desktopNames | activeWindow | workArea | supportingWMCheck
  | virtualRoots | desktopLayout | showingDesktop | wmName
deriving DecidableEq, Repr

section Update

variable (atoms : Atoms) (p : NETRootInfo) (dirty dirty2 : Flags)

/-- The first half of `update`: the property requests, each under its condition. -/
def sent : List (Bool × List PropertyRequest) :=
  let get (property : KwsAtom) (type : XcbAtom) (longLength : Nat) : List PropertyRequest :=
    [⟨p.root, atoms.atom property, type, longLength⟩]
  [(dirty.has Property.supported, get .netSupported .atom maxPropSize),
    (dirty.has Property.clientList, get .netClientList .window maxPropSize),
    (dirty.has Property.clientListStacking, get .netClientListStacking .window maxPropSize),
    (dirty.has Property.numberOfDesktops, get .netNumberOfDesktops .cardinal 1),
    (dirty.has Property.desktopGeometry, get .netDesktopGeometry .cardinal 2),
    (dirty.has Property.desktopViewport, get .netDesktopViewport .cardinal maxPropSize),
    (dirty.has Property.currentDesktop, get .netCurrentDesktop .cardinal 1),
    (dirty.has Property.desktopNames, get .netDesktopNames (atoms.atom .utf8String) maxPropSize),
    (dirty.has Property.activeWindow, get .netActiveWindow .window 1),
    (dirty.has Property.workArea, get .netWorkarea .cardinal maxPropSize),
    (dirty.has Property.supportingWMCheck, get .netSupportingWmCheck .window 1),
    (dirty.has Property.virtualRoots, get .netVirtualRoots .window 1),
    (dirty2.has Property2.desktopLayout, get .netDesktopLayout .cardinal maxPropSize),
    (dirty2.has Property2.showingDesktop, get .netShowingDesktop .cardinal 1)]

/-- The conditions of the second half. -/
def Branch.wanted : Branch → Bool
  | .supported => dirty.has Property.supported
  | .clientList => dirty.has Property.clientList
  | .clientListStacking => dirty.has Property.clientListStacking
  | .numberOfDesktops => dirty.has Property.numberOfDesktops
  | .desktopGeometry => dirty.has Property.desktopGeometry
  | .desktopViewport => dirty.has Property.desktopViewport
  | .currentDesktop => dirty.has Property.currentDesktop
  | .desktopNames => dirty.has Property.desktopNames
  | .activeWindow => dirty.has Property.activeWindow
  | .workArea => dirty.has Property.workArea
  | .supportingWMCheck => dirty.has Property.supportingWMCheck
  | .virtualRoots => dirty.has Property.virtualRoots
  | .desktopLayout => dirty2.has Property2.desktopLayout
  | .showingDesktop => dirty2.has Property2.showingDesktop
  | .wmName => dirty.has Property.supportingWMCheck

/-- The branch at the end has a cookie of its own. -/
def Branch.arity : Branch → Nat
  | .wmName => 0
  | _ => 1

/-- A count and an array of windows, null if there is none. -/
def windowArray (wins : List XcbWindow) : WindowArray := if wins = [] then none else some wins

/-- The corner that a value up to 3 is cast to. -/
def layoutCorner? (value : UInt32) : Option DesktopLayoutCorner :=
  if value = 0 then some .topLeft
  else if value = 1 then some .topRight
  else if value = 2 then some .bottomLeft
  else if value = 3 then some .bottomRight
  else none

/-- The orientation that a value up to 1 is cast to. -/
def layoutOrientation? (value : UInt32) : Option Orientation :=
  if value = 0 then some .horizontal
  else if value = 1 then some .vertical
  else none

/-- The block of a branch, given the reply that its cookie stands for. -/
def Branch.read (display : Display) (branch : Branch) (replies : List Reply) (p : NETRootInfo) :
    NETRootInfo × List RootSignal :=
  let reply := replies.headD none
  match branch with
  | .supported =>
      let p := { p with properties := 0, properties2 := 0, windowTypes := 0, states := 0, actions := 0 }
      ((getArrayReply reply .atom).foldl (updateSupportedProperties atoms) p, [])
  | .clientList => updateClientList p (getArrayReply reply .window)
  | .clientListStacking =>
      let wins := getArrayReply reply .window
      ({ p with stackingCount := wins.length, stacking := windowArray wins }, [])
  | .numberOfDesktops =>
      ({ p with numberOfDesktops := (getValueReply reply .cardinal 0).toInt32 }, [])
  | .desktopGeometry =>
      let geometry : NETSize := match getArrayReply reply .cardinal with
        | [width, height] => ⟨width.toInt32, height.toInt32⟩
        | _ => p.rootSize
      ({ p with geometry }, [])
  | .desktopViewport =>
      let viewport := p.viewport.zero p.viewport.size
      ({ p with viewport := viewport.setFrom 0 (points (getArrayReply reply .cardinal)) }, [])
  | .currentDesktop =>
      ({ p with currentDesktop := (getValueReply reply .cardinal 0 + 1).toInt32 }, [])
  | .desktopNames =>
      let names := getStringlistReply reply (atoms.atom .utf8String)
      ({ p with desktopNames := p.desktopNames.reset.setFrom 0 (names.map nstrndup) }, [])
  | .activeWindow => ({ p with active := getValueReply reply .window 0 }, [])
  | .workArea =>
      let data := getArrayReply reply .cardinal
      let workarea := p.workarea.reset
      if (data.length : Int) = p.numberOfDesktops.toInt * 4 then
        ({ p with workarea := workarea.setFrom 0 (rects data) }, [])
      else ({ p with workarea }, [])
  | .supportingWMCheck =>
      ({ p with name := none, supportwindow := getValueReply reply .window 0 }, [])
  | .virtualRoots =>
      -- Asked for as WINDOW, but read as CARDINAL.
      let wins := getArrayReply reply .cardinal
      ({ p with virtualRootsCount := wins.length, virtualRoots := windowArray wins }, [])
  | .desktopLayout =>
      let p := { p with
        desktopLayoutOrientation := .horizontal, desktopLayoutCorner := .topLeft,
        desktopLayoutColumns := 0, desktopLayoutRows := 0 }
      let data := getArrayReply reply .cardinal
      let p := match data with
        | _ :: _ :: _ :: corner :: _ =>
            { p with desktopLayoutCorner := (layoutCorner? corner).getD p.desktopLayoutCorner }
        | _ => p
      match data with
      | orientation :: columns :: rows :: _ =>
          ({ p with
            desktopLayoutOrientation :=
              (layoutOrientation? orientation).getD p.desktopLayoutOrientation
            desktopLayoutColumns := columns.toInt32
            desktopLayoutRows := rows.toInt32 }, [])
      | _ => (p, [])
  | .showingDesktop => ({ p with showingDesktop := getValueReply reply .cardinal 0 ≠ 0 }, [])
  | .wmName =>
      if p.supportwindow ≠ 0 then
        let ba := getStringReply (display.answer
          ⟨p.supportwindow, atoms.atom .netWmName, atoms.atom .utf8String, maxPropSize⟩)
          (atoms.atom .utf8String)
        if ba.length > 0 then ({ p with name := nstrndup ba }, []) else (p, [])
      else (p, [])

def reader (display : Display) : Batch.Reader Branch Reply NETRootInfo RootSignal where
  wanted := Branch.wanted dirty dirty2
  arity := Branch.arity
  read := Branch.read atoms display

/-- The blocks in the order in which they take their replies. -/
def readOrder : List Branch :=
  [.supported, .clientList, .clientListStacking, .numberOfDesktops, .desktopGeometry,
    .desktopViewport, .currentDesktop, .desktopNames, .activeWindow, .workArea, .supportingWMCheck,
    .virtualRoots, .desktopLayout, .showingDesktop, .wmName]

def update (display : Display) (properties properties2 : Flags) : NETRootInfo × List RootSignal :=
  let dirty := properties &&& p.clientProperties
  let dirty2 := properties2 &&& p.clientProperties2
  let cookies := (Batch.send (p.sent atoms dirty dirty2)).map display.answer
  (reader atoms dirty dirty2 display).receive readOrder cookies p

end Update

/-! ## event -/

inductive Event where
  | clientMessage (format : UInt8) (window : XcbWindow) (type : XcbAtom) (data32 : Vector UInt32 5)
  | propertyNotify (atom : XcbAtom)
deriving DecidableEq, Repr

structure Dirty where
  properties : Flags := 0
  properties2 : Flags := 0
deriving DecidableEq, Repr

/-- `RequestSource`, or `none` for a value that no enumerator has. -/
def requestSource? (value : UInt32) : Option RequestSource :=
  if value = 0 then some .fromUnknown
  else if value = 1 then some .fromApplication
  else if value = 2 then some .fromTool
  else none

/-- The client messages, which only a window manager handles. -/
def clientMessage (atoms : Atoms) (p : NETRootInfo) (window : XcbWindow) (type : XcbAtom)
    (data : Vector UInt32 5) : Dirty × List RootSignal :=
  if type = atoms.atom .netNumberOfDesktops then
    ({ properties := mask Property.numberOfDesktops }, [.changeNumberOfDesktops data[0].toInt32])
  else if type = atoms.atom .netDesktopGeometry then
    ({ properties := mask Property.desktopGeometry },
      [.changeDesktopGeometry (-1) ⟨data[0].toInt32, data[1].toInt32⟩])
  else if type = atoms.atom .netDesktopViewport then
    ({ properties := mask Property.desktopViewport },
      [.changeDesktopViewport p.currentDesktop ⟨data[0].toInt32, data[1].toInt32⟩])
  else if type = atoms.atom .netCurrentDesktop then
    ({ properties := mask Property.currentDesktop },
      [.changeCurrentDesktop (data[0] + 1).toInt32])
  else if type = atoms.atom .netActiveWindow then
    ({ properties := mask Property.activeWindow },
      match requestSource? data[0] with
      | some src => [.changeActiveWindow window src data[1] data[2]]
      | none => [.changeActiveWindow window .fromUnknown 0 0])
  else if type = atoms.atom .netWmMoveresize then
    ({}, [.moveResize window data[0].toInt32 data[1].toInt32 data[2] data[3].toUInt8 data[4]])
  else if type = atoms.atom .netMoveresizeWindow then
    ({}, [.moveResizeWindow window data[0].toInt32 data[1].toInt32 data[2].toInt32 data[3].toInt32
      data[4].toInt32])
  else if type = atoms.atom .netCloseWindow then ({}, [.closeWindow window])
  else if type = atoms.atom .netRestackWindow then
    ({}, match requestSource? data[0] with
      | some src => [.restackWindow window src data[1] data[2].toInt32 data[3]]
      | none => [.restackWindow window .fromUnknown data[1] data[2].toInt32 0])
  else if type = atoms.atom .wmProtocols ∧ data[0] = atoms.atom .netWmPing then
    ({ properties := mask Property.wmPing }, [.gotPing data[2] data[1]])
  else if type = atoms.atom .netShowingDesktop then
    ({ properties2 := mask Property2.showingDesktop }, [.changeShowingDesktop (data[0] ≠ 0)])
  else if type = atoms.atom .gtkShowWindowMenu then
    ({}, [.showWindowMenu window data[0].toInt32 data[1].toInt32 data[2].toInt32])
  else ({}, [])

/-- The `else if` chain over the atom of a `PropertyNotify`. -/
def notifyChain : List (KwsAtom × Dirty) :=
  [(.netClientList, { properties := mask Property.clientList }),
    (.netClientListStacking, { properties := mask Property.clientListStacking }),
    (.netDesktopNames, { properties := mask Property.desktopNames }),
    (.netWorkarea, { properties := mask Property.workArea }),
    (.netNumberOfDesktops, { properties := mask Property.numberOfDesktops }),
    (.netDesktopGeometry, { properties := mask Property.desktopGeometry }),
    (.netDesktopViewport, { properties := mask Property.desktopViewport }),
    (.netCurrentDesktop, { properties := mask Property.currentDesktop }),
    (.netActiveWindow, { properties := mask Property.activeWindow }),
    (.netShowingDesktop, { properties2 := mask Property2.showingDesktop }),
    (.netSupported, { properties := mask Property.supported }),
    (.netSupportingWmCheck, { properties := mask Property.supportingWMCheck }),
    (.netVirtualRoots, { properties := mask Property.virtualRoots }),
    (.netDesktopLayout, { properties2 := mask Property2.desktopLayout })]

/-- The new state with the calls, and the flags that the caller of `event` gets. -/
def event (atoms : Atoms) (display : Display) (p : NETRootInfo) (e : Event) :
    (NETRootInfo × List RootSignal) × Dirty :=
  match e with
  | .clientMessage format window type data32 =>
      if p.role = .windowManager ∧ format = 32 then
        let handled := clientMessage atoms p window type data32
        ((p, handled.2), handled.1)
      else ((p, []), {})
  | .propertyNotify atom =>
      let dirty := (lookupAtom atoms.atom notifyChain atom).getD {}
      (p.update atoms display dirty.properties dirty.properties2, dirty)

end NETRootInfo

end KWindowSystem
