import KWindowSystem.Lib.Batch
import KWindowSystem.NetWM.Atoms
import KWindowSystem.NetWM.NETRArray

/-!
# NETWinInfo

The data of a window that `NETWinInfo` keeps, `event` and `update`.
-/

open Qt

namespace KWindowSystem

open NET

/-- A C string, null or not. -/
abbrev CharPtr := Option QByteArray

structure NETIcon where
  size : NETSize := {}
  data : Option (List UInt32) := none
deriving DecidableEq, Repr

instance : Inhabited NETIcon := ⟨{}⟩
instance : Inhabited WindowType := ⟨.normal⟩

structure NETWinInfo where
  role : Role
  window : XcbWindow
  root : XcbWindow
  mappingState : MappingState := .withdrawn
  mappingStateDirty : Bool := true
  icons : NETRArray NETIcon := .new
  iconCount : Nat := 0
  iconSizes : Option (List Int32) := none
  iconGeom : NETRect := {}
  winGeom : NETRect := {}
  state : Flags := 0
  extendedStrut : NETExtendedStrut := {}
  strut : NETStrut := {}
  frameStrut : NETStrut := {}
  frameOverlap : NETStrut := {}
  gtkFrameExtents : NETStrut := {}
  types : NETRArray WindowType := NETRArray.new.set 0 .unknown
  name : CharPtr := none
  visibleName : CharPtr := none
  iconName : CharPtr := none
  visibleIconName : CharPtr := none
  desktop : Int32 := 0
  pid : Int32 := 0
  handledIcons : Bool := false
  userTime : UInt32 := 0xffffffff
  startupId : CharPtr := none
  opacity : UInt64 := 0xffffffff
  transientFor : XcbWindow := 0
  windowGroup : XcbWindow := 0
  iconPixmap : UInt32 := 0
  iconMask : UInt32 := 0
  allowedActions : Flags := 0
  classClass : CharPtr := none
  className : CharPtr := none
  windowRole : CharPtr := none
  clientMachine : CharPtr := none
  desktopFile : CharPtr := none
  appmenuObjectPath : CharPtr := none
  appmenuServiceName : CharPtr := none
  gtkApplicationId : CharPtr := none
  properties : Flags
  properties2 : Flags
  fullscreenMonitors : NETFullscreenMonitors := {}
  hasNetSupport : Bool := false
  activities : CharPtr := none
  blockCompositing : Bool := false
  urgency : Bool := false
  input : Bool := true
  initialMappingState : MappingState := .withdrawn
  protocols : Flags := 0
  opaqueRegion : List NETRect := []

/-- What a `NETWinInfo` calls its subclass with. -/
inductive WinSignal where
  | changeState (state mask : Flags)
  | changeDesktop (desktop : Int32)
  | changeFullscreenMonitors (topology : NETFullscreenMonitors)
deriving DecidableEq, Repr

namespace NETWinInfo

/-! ## Atoms as values -/

/-- The `else if` chain of the window states, which stands in `event` and in `update`. -/
def stateChain : List (KwsAtom × State) :=
  [(.netWmStateModal, .modal), (.netWmStateSticky, .sticky), (.netWmStateMaximizedVert, .maxVert),
    (.netWmStateMaximizedHorz, .maxHoriz), (.netWmStateShaded, .shaded),
    (.netWmStateSkipTaskbar, .skipTaskbar), (.netWmStateSkipPager, .skipPager),
    (.kdeNetWmStateSkipSwitcher, .skipSwitcher), (.netWmStateHidden, .hidden),
    (.netWmStateFullscreen, .fullScreen), (.netWmStateAbove, .keepAbove),
    (.netWmStateBelow, .keepBelow), (.netWmStateDemandsAttention, .demandsAttention),
    (.netWmStateStaysOnTop, .keepAbove), (.netWmStateFocused, .focused)]

def typeChain : List (KwsAtom × WindowType) :=
  [(.netWmWindowTypeNormal, .normal), (.netWmWindowTypeDesktop, .desktop),
    (.netWmWindowTypeDock, .dock), (.netWmWindowTypeToolbar, .toolbar),
    (.netWmWindowTypeMenu, .menu), (.netWmWindowTypeDialog, .dialog),
    (.netWmWindowTypeUtility, .utility), (.netWmWindowTypeSplash, .splash),
    (.netWmWindowTypeDropdownMenu, .dropdownMenu), (.netWmWindowTypePopupMenu, .popupMenu),
    (.netWmWindowTypeTooltip, .tooltip), (.netWmWindowTypeNotification, .notification),
    (.netWmWindowTypeCombo, .comboBox), (.netWmWindowTypeDnd, .dndIcon),
    (.kdeNetWmWindowTypeOverride, .override), (.kdeNetWmWindowTypeTopmenu, .topMenu),
    (.kdeNetWmWindowTypeOnScreenDisplay, .onScreenDisplay),
    (.kdeNetWmWindowTypeCriticalNotification, .criticalNotification),
    (.kdeNetWmWindowTypeAppletPopup, .appletPopup)]

def actionChain : List (KwsAtom × Action) :=
  [(.netWmActionMove, .move), (.netWmActionResize, .resize), (.netWmActionMinimize, .minimize),
    (.netWmActionShade, .shade), (.netWmActionStick, .stick),
    (.netWmActionMaximizeVert, .maxVert), (.netWmActionMaximizeHorz, .maxHoriz),
    (.netWmActionFullscreen, .fullScreen), (.netWmActionChangeDesktop, .changeDesktop),
    (.netWmActionClose, .close)]

def protocolChain : List (KwsAtom × Protocol) :=
  [(.wmTakeFocus, .takeFocus), (.wmDeleteWindow, .deleteWindow), (.netWmPing, .ping),
    (.netWmSyncRequest, .syncRequest), (.netWmContextHelp, .contextHelp)]

/-- The flag of an atom that the chain knows is added. -/
def addFlag {α : Type} [Flag α] (atoms : Atoms) (chain : List (KwsAtom × α)) (flags : Flags)
    (atom : XcbAtom) : Flags :=
  match lookupAtom atoms.atom chain atom with
  | some a => flags ||| mask a
  | none => flags

/-- The loop over a list of atoms. -/
def collectFlags {α : Type} [Flag α] (atoms : Atoms) (chain : List (KwsAtom × α))
    (flags : Flags) (list : List XcbAtom) : Flags :=
  list.foldl (addFlag atoms chain) flags

/-! ## Reply values -/

def readString (reply : Reply) (type : XcbAtom) : CharPtr :=
  let str := getStringReply reply type
  if str.length > 0 then nstrndup str else none

def strutOf (data : List UInt32) : NETStrut :=
  match data with
  | [left, right, top, bottom] => ⟨left.toInt32, right.toInt32, top.toInt32, bottom.toInt32⟩
  | _ => {}

def extendedStrutOf (data : List UInt32) : NETExtendedStrut :=
  match data with
  | [leftWidth, rightWidth, topWidth, bottomWidth, leftStart, leftEnd, rightStart, rightEnd,
      topStart, topEnd, bottomStart, bottomEnd] =>
      { leftWidth := leftWidth.toInt32, leftStart := leftStart.toInt32, leftEnd := leftEnd.toInt32
        rightWidth := rightWidth.toInt32, rightStart := rightStart.toInt32
        rightEnd := rightEnd.toInt32, topWidth := topWidth.toInt32, topStart := topStart.toInt32
        topEnd := topEnd.toInt32, bottomWidth := bottomWidth.toInt32
        bottomStart := bottomStart.toInt32, bottomEnd := bottomEnd.toInt32 }
  | _ => {}

def fullscreenMonitorsOf (data : List UInt32) : NETFullscreenMonitors :=
  match data with
  | [top, bottom, left, right] => ⟨top.toInt32, bottom.toInt32, left.toInt32, right.toInt32⟩
  | _ => {}

def iconGeomOf (data : List UInt32) : NETRect :=
  match data with
  | [x, y, width, height] => ⟨⟨x.toInt32, y.toInt32⟩, ⟨width.toInt32, height.toInt32⟩⟩
  | _ => {}

/-- `maxIconSize`. -/
def maxIconSize : UInt32 := 8192

/-- The loop of `readIcon` over what is left of the data; every icon takes three words at least. -/
def iconsIn : Nat → List UInt32 → List NETIcon
  | fuel + 1, width :: height :: rest =>
      if rest = [] ∨ width = 0 ∨ height = 0 ∨ width > maxIconSize ∨ height > maxIconSize then []
      else
        let count := (width * height).toNat
        if count > rest.length then []
        else
          { size := ⟨width.toInt32, height.toInt32⟩, data := some (rest.take count) } ::
            iconsIn fuel (rest.drop count)
  | _, _ => []

def readIcon (reply : Reply) : List NETIcon :=
  let data := getArrayReply reply .cardinal
  iconsIn data.length data

/-- `kde_wm_hints`, the nine words of `WM_HINTS`. -/
structure WMHints where
  flags : UInt32
  input : UInt32
  initialState : UInt32
  iconPixmap : UInt32
  iconWindow : XcbWindow
  iconX : UInt32
  iconY : UInt32
  iconMask : UInt32
  windowGroup : XcbWindow
deriving DecidableEq, Repr

def WMHints.has (hints : WMHints) (bit : Nat) : Bool := hints.flags.toBitVec.getLsbD bit

/-- The hints of a well-formed reply. -/
def hints? (reply : Reply) : Option WMHints :=
  match reply with
  | some ⟨t, .data32 [flags, input, initialState, iconPixmap, iconWindow, iconX, iconY, iconMask,
      windowGroup]⟩ =>
      if t = .wmHints then
        some ⟨flags, input, initialState, iconPixmap, iconWindow, iconX, iconY, iconMask, windowGroup⟩
      else none
  | _ => none

/-- `Iconic`, `Visible` or `Withdrawn` for the ICCCM state numbers. -/
def mappingStateOf (state : UInt32) : MappingState :=
  if state = 3 then .iconic else if state = 1 then .visible else .withdrawn

/-- The block of the hints: only what the value carries is overwritten. -/
def readHints (p : NETWinInfo) (hints : WMHints) : NETWinInfo :=
  { p with
    input := if hints.has 0 then hints.input ≠ 0 else p.input
    initialMappingState :=
      if hints.has 1 then mappingStateOf hints.initialState else p.initialMappingState
    iconPixmap := if hints.has 2 then hints.iconPixmap else p.iconPixmap
    iconMask := if hints.has 5 then hints.iconMask else p.iconMask
    windowGroup := if hints.has 6 then hints.windowGroup else p.windowGroup
    urgency := hints.has 8 }

/-! ## update -/

/-- The blocks of the second half of `update`. -/
inductive Branch where
  | xawmState | wmState | wmDesktop | wmName | wmVisibleName | wmIconName | wmVisibleIconName
  | wmWindowType | wmStrut | extendedStrut | fullscreenMonitors | wmIconGeometry | wmIcon
  | wmFrameExtents | frameOverlap | activities | blockCompositing | wmPid | startupId | opacity
  | allowedActions | userTime | transientFor | hints | windowClass | windowRole | clientMachine
  | protocols | opaqueRegion | desktopFileName | gtkApplicationId | gtkFrameExtents
  | appMenuObjectPath | appMenuServiceName
deriving DecidableEq, Repr

/-- `dirty2 & (WM2GroupLeader | WM2Urgency | WM2Input | WM2InitialMappingState | WM2IconPixmap)`. -/
def hasHints (dirty2 : Flags) : Bool :=
  dirty2.has Property2.groupLeader || dirty2.has Property2.urgency || dirty2.has Property2.input ||
    dirty2.has Property2.initialMappingState || dirty2.has Property2.iconPixmap

/-- What `update` reads of the properties handed to it: those asked for, and `WM_STATE` always. -/
def dirtyFlags (dirtyProperties properties : Flags) : Flags :=
  let dirty := dirtyProperties &&& properties
  if dirtyProperties.has Property.xawmState then dirty ||| mask Property.xawmState else dirty

section Update

variable (atoms : Atoms) (p : NETWinInfo) (dirty dirty2 : Flags)

/-- The first half of `update`: the property requests, each under its condition. -/
def sent : List (Bool × List PropertyRequest) :=
  let get (property : AtomName) (type : XcbAtom) (longLength : Nat) : PropertyRequest :=
    ⟨p.window, atoms.value property, type, longLength⟩
  let utf8String := atoms.atom .utf8String
  [(dirty.has Property.xawmState, [get (.kws .wmState) (atoms.atom .wmState) 1]),
    (dirty.has Property.wmState, [get (.kws .netWmState) .atom 2048]),
    (dirty.has Property.wmDesktop, [get (.kws .netWmDesktop) .cardinal 1]),
    (dirty.has Property.wmName, [get (.kws .netWmName) utf8String maxPropSize]),
    (dirty.has Property.wmVisibleName, [get (.kws .netWmVisibleName) utf8String maxPropSize]),
    (dirty.has Property.wmIconName, [get (.kws .netWmIconName) utf8String maxPropSize]),
    (dirty.has Property.wmVisibleIconName,
      [get (.kws .netWmVisibleIconName) utf8String maxPropSize]),
    (dirty.has Property.wmWindowType, [get (.kws .netWmWindowType) .atom 2048]),
    (dirty.has Property.wmStrut, [get (.kws .netWmStrut) .cardinal 4]),
    (dirty2.has Property2.extendedStrut, [get (.kws .netWmStrutPartial) .cardinal 12]),
    (dirty2.has Property2.fullscreenMonitors, [get (.kws .netWmFullscreenMonitors) .cardinal 4]),
    (dirty.has Property.wmIconGeometry, [get (.kws .netWmIconGeometry) .cardinal 4]),
    (dirty.has Property.wmIcon, [get (.kws .netWmIcon) .cardinal 0xffffffff]),
    (dirty.has Property.wmFrameExtents,
      [get (.kws .netFrameExtents) .cardinal 4, get (.kws .kdeNetWmFrameStrut) .cardinal 4]),
    (dirty2.has Property2.frameOverlap, [get (.kws .netWmFrameOverlap) .cardinal 4]),
    (dirty2.has Property2.activities, [get (.kws .kdeNetWmActivities) .string maxPropSize]),
    (dirty2.has Property2.blockCompositing,
      [get (.kws .kdeNetWmBlockCompositing) .cardinal 1,
        get (.kws .netWmBypassCompositor) .cardinal 1]),
    (dirty.has Property.wmPid, [get (.kws .netWmPid) .cardinal 1]),
    (dirty2.has Property2.startupId, [get (.kws .netStartupId) utf8String maxPropSize]),
    (dirty2.has Property2.opacity, [get (.kws .netWmWindowOpacity) .cardinal 1]),
    (dirty2.has Property2.allowedActions, [get (.kws .netWmAllowedActions) .atom 2048]),
    (dirty2.has Property2.userTime, [get (.kws .netWmUserTime) .cardinal 1]),
    (dirty2.has Property2.transientFor, [get (.predefined .wmTransientFor) .window 1]),
    (hasHints dirty2, [get (.predefined .wmHints) .wmHints 9]),
    (dirty2.has Property2.windowClass, [get (.predefined .wmClass) .string maxPropSize]),
    (dirty2.has Property2.windowRole, [get (.kws .wmWindowRole) .string maxPropSize]),
    (dirty2.has Property2.clientMachine, [get (.predefined .wmClientMachine) .string maxPropSize]),
    (dirty2.has Property2.protocols, [get (.kws .wmProtocols) .atom 2048]),
    (dirty2.has Property2.opaqueRegion, [get (.kws .netWmOpaqueRegion) .cardinal maxPropSize]),
    (dirty2.has Property2.desktopFileName,
      [get (.kws .kdeNetWmDesktopFile) utf8String maxPropSize]),
    (dirty2.has Property2.gtkApplicationId, [get (.kws .gtkApplicationId) utf8String maxPropSize]),
    (dirty2.has Property2.gtkFrameExtents, [get (.kws .gtkFrameExtents) .cardinal 4]),
    (dirty2.has Property2.appMenuObjectPath,
      [get (.kws .kdeNetWmAppmenuObjectPath) .string maxPropSize]),
    (dirty2.has Property2.appMenuServiceName,
      [get (.kws .kdeNetWmAppmenuServiceName) .string maxPropSize])]

/-- The conditions of the second half. -/
def Branch.wanted : Branch → Bool
  | .xawmState => dirty.has Property.xawmState
  | .wmState => dirty.has Property.wmState
  | .wmDesktop => dirty.has Property.wmDesktop
  | .wmName => dirty.has Property.wmName
  | .wmVisibleName => dirty.has Property.wmVisibleName
  | .wmIconName => dirty.has Property.wmIconName
  | .wmVisibleIconName => dirty.has Property.wmVisibleIconName
  | .wmWindowType => dirty.has Property.wmWindowType
  | .wmStrut => dirty.has Property.wmStrut
  | .extendedStrut => dirty2.has Property2.extendedStrut
  | .fullscreenMonitors => dirty2.has Property2.fullscreenMonitors
  | .wmIconGeometry => dirty.has Property.wmIconGeometry
  | .wmIcon => dirty.has Property.wmIcon
  | .wmFrameExtents => dirty.has Property.wmFrameExtents
  | .frameOverlap => dirty2.has Property2.frameOverlap
  | .activities => dirty2.has Property2.activities
  | .blockCompositing => dirty2.has Property2.blockCompositing
  | .wmPid => dirty.has Property.wmPid
  | .startupId => dirty2.has Property2.startupId
  | .opacity => dirty2.has Property2.opacity
  | .allowedActions => dirty2.has Property2.allowedActions
  | .userTime => dirty2.has Property2.userTime
  | .transientFor => dirty2.has Property2.transientFor
  | .hints => hasHints dirty2
  | .windowClass => dirty2.has Property2.windowClass
  | .windowRole => dirty2.has Property2.windowRole
  | .clientMachine => dirty2.has Property2.clientMachine
  | .protocols => dirty2.has Property2.protocols
  | .opaqueRegion => dirty2.has Property2.opaqueRegion
  | .desktopFileName => dirty2.has Property2.desktopFileName
  | .gtkApplicationId => dirty2.has Property2.gtkApplicationId
  | .gtkFrameExtents => dirty2.has Property2.gtkFrameExtents
  | .appMenuObjectPath => dirty2.has Property2.appMenuObjectPath
  | .appMenuServiceName => dirty2.has Property2.appMenuServiceName

def Branch.arity : Branch → Nat
  | .wmFrameExtents => 2
  | .blockCompositing => 2
  | _ => 1

/-- `_KDE_NET_WM_BLOCK_COMPOSITING`, which `_NET_WM_BYPASS_COMPOSITOR` overrides with 1 or 2. -/
def blockCompositingOf (block bypass : Option UInt32) : Bool :=
  if bypass = some 1 then true
  else if bypass = some 2 then false
  else match block with
    | some data => data ≠ 0
    | none => false

/-- The block of a branch, given the replies that its cookies stand for. -/
def Branch.read (branch : Branch) (replies : List Reply) (p : NETWinInfo) :
    NETWinInfo × List WinSignal :=
  let reply := replies.getD 0 none
  let reply' := replies.getD 1 none
  let utf8String := atoms.atom .utf8String
  match branch with
  | .xawmState =>
      match getValueReply? reply (atoms.atom .wmState) with
      | some state => ({ p with mappingState := mappingStateOf state, mappingStateDirty := false }, [])
      | none => ({ p with mappingState := .withdrawn }, [])
  | .wmState =>
      ({ p with state := collectFlags atoms stateChain 0 (getArrayReply reply .atom) }, [])
  | .wmDesktop =>
      let desktop := match getValueReply? reply .cardinal with
        | some desktop => if desktop ≠ 0xffffffff then (desktop + 1).toInt32 else -1
        | none => 0
      ({ p with desktop }, [])
  | .wmName => ({ p with name := readString reply utf8String }, [])
  | .wmVisibleName => ({ p with visibleName := readString reply utf8String }, [])
  | .wmIconName => ({ p with iconName := readString reply utf8String }, [])
  | .wmVisibleIconName => ({ p with visibleIconName := readString reply utf8String }, [])
  | .wmWindowType =>
      let list := getArrayReply reply .atom
      let types := p.types.reset.set 0 .unknown
      ({ p with
        types := types.setFrom 0 (list.filterMap (lookupAtom atoms.atom typeChain))
        hasNetSupport := list ≠ [] }, [])
  | .wmStrut => ({ p with strut := strutOf (getArrayReply reply .cardinal) }, [])
  | .extendedStrut =>
      ({ p with extendedStrut := extendedStrutOf (getArrayReply reply .cardinal) }, [])
  | .fullscreenMonitors =>
      ({ p with fullscreenMonitors := fullscreenMonitorsOf (getArrayReply reply .cardinal) }, [])
  | .wmIconGeometry => ({ p with iconGeom := iconGeomOf (getArrayReply reply .cardinal) }, [])
  | .wmIcon =>
      let icons := readIcon reply
      ({ p with
        icons := p.icons.reset.setFrom 0 icons, iconCount := icons.length, iconSizes := none }, [])
  | .wmFrameExtents =>
      let data := getArrayReply reply .cardinal
      -- The reply about `_KDE_NET_WM_FRAME_STRUT` is discarded unless the other one is empty.
      let data := if data = [] then getArrayReply reply' .cardinal else data
      ({ p with frameStrut := strutOf data }, [])
  | .frameOverlap => ({ p with frameOverlap := strutOf (getArrayReply reply .cardinal) }, [])
  | .activities => ({ p with activities := readString reply .string }, [])
  | .blockCompositing =>
      let block := getValueReply? reply .cardinal
      let bypass := getValueReply? reply' .cardinal
      ({ p with blockCompositing := blockCompositingOf block bypass }, [])
  | .wmPid => ({ p with pid := (getValueReply reply .cardinal 0).toInt32 }, [])
  | .startupId => ({ p with startupId := readString reply utf8String }, [])
  | .opacity => ({ p with opacity := (getValueReply reply .cardinal 0xffffffff).toUInt64 }, [])
  | .allowedActions =>
      ({ p with
        allowedActions := collectFlags atoms actionChain 0 (getArrayReply reply .atom) }, [])
  | .userTime =>
      let userTime := match getValueReply? reply .cardinal with
        | some value => value
        | none => 0xffffffff
      ({ p with userTime }, [])
  | .transientFor => ({ p with transientFor := getValueReply reply .window 0 }, [])
  | .hints =>
      match hints? reply with
      | some value => (p.readHints value, [])
      | none => (p, [])
  | .windowClass =>
      match getStringlistReply reply .string with
      | [className, classClass] =>
          ({ p with
            className := some (cString className), classClass := some (cString classClass) }, [])
      | [only] => ({ p with className := some (cString only), classClass := some (cString only) }, [])
      | _ => ({ p with className := none, classClass := none }, [])
  | .windowRole => ({ p with windowRole := readString reply .string }, [])
  | .clientMachine => ({ p with clientMachine := readString reply .string }, [])
  | .protocols =>
      ({ p with protocols := collectFlags atoms protocolChain 0 (getArrayReply reply .atom) }, [])
  | .opaqueRegion => ({ p with opaqueRegion := rects (getArrayReply reply .cardinal) }, [])
  | .desktopFileName => ({ p with desktopFile := readString reply utf8String }, [])
  | .gtkApplicationId => ({ p with gtkApplicationId := readString reply utf8String }, [])
  | .gtkFrameExtents => ({ p with gtkFrameExtents := strutOf (getArrayReply reply .cardinal) }, [])
  | .appMenuObjectPath => ({ p with appmenuObjectPath := readString reply .string }, [])
  | .appMenuServiceName => ({ p with appmenuServiceName := readString reply .string }, [])

def reader : Batch.Reader Branch Reply NETWinInfo WinSignal where
  wanted := Branch.wanted dirty dirty2
  arity := Branch.arity
  read := Branch.read atoms

/-- The blocks in the order in which they take their replies. -/
def readOrder : List Branch :=
  [.xawmState, .wmState, .wmDesktop, .wmName, .wmVisibleName, .wmIconName, .wmVisibleIconName,
    .wmWindowType, .wmStrut, .extendedStrut, .fullscreenMonitors, .wmIconGeometry, .wmIcon,
    .wmFrameExtents, .frameOverlap, .activities, .blockCompositing, .wmPid, .startupId, .opacity,
    .allowedActions, .userTime, .transientFor, .hints, .windowClass, .windowRole, .clientMachine,
    .protocols, .opaqueRegion, .desktopFileName, .gtkApplicationId, .gtkFrameExtents,
    .appMenuObjectPath, .appMenuServiceName]

def update (display : Display) (dirtyProperties dirtyProperties2 : Flags) :
    NETWinInfo × List WinSignal :=
  let dirty := dirtyFlags dirtyProperties p.properties
  let dirty2 := dirtyProperties2 &&& p.properties2
  let cookies := (Batch.send (p.sent atoms dirty dirty2)).map display.answer
  (reader atoms dirty dirty2).receive readOrder cookies p

end Update

/-- The constructor. -/
def new (atoms : Atoms) (display : Display) (window rootWindow : XcbWindow)
    (properties properties2 : Flags) (role : Role) : NETWinInfo :=
  let p : NETWinInfo := { role, window, root := rootWindow, properties, properties2 }
  (p.update atoms display p.properties p.properties2).1

/-! ## event -/

inductive Event where
  | clientMessage (format : UInt8) (type : XcbAtom) (data32 : Vector UInt32 5)
  | propertyNotify (atom : XcbAtom)
  | configureNotify (x y : Int16) (width height : UInt16)
deriving DecidableEq, Repr

structure Dirty where
  properties : Flags := 0
  properties2 : Flags := 0
deriving DecidableEq, Repr

/-- The state change that a `_NET_WM_STATE` message asks for: the mask of the two atoms, to be
removed, set or toggled. -/
def stateMessage (atoms : Atoms) (p : NETWinInfo) (data : Vector UInt32 5) : WinSignal :=
  let mask := collectFlags atoms stateChain 0 [data[1]!, data[2]!]
  if data[0]! = 1 then .changeState mask mask
  else if data[0]! = 2 then .changeState ((p.state &&& mask) ^^^ mask) mask
  else .changeState 0 mask

/-- The client messages, which only a window manager handles. -/
def clientMessage (atoms : Atoms) (p : NETWinInfo) (type : XcbAtom) (data : Vector UInt32 5) :
    Dirty × List WinSignal :=
  if type = atoms.atom .netWmState then
    ({ properties := mask Property.wmState }, [stateMessage atoms p data])
  else if type = atoms.atom .netWmDesktop then
    ({ properties := mask Property.wmDesktop },
      if data[0]! = 0xffffffff then [.changeDesktop (-1)]
      else [.changeDesktop (data[0]! + 1).toInt32])
  else if type = atoms.atom .netWmFullscreenMonitors then
    ({ properties2 := mask Property2.fullscreenMonitors },
      [.changeFullscreenMonitors
        ⟨data[0]!.toInt32, data[1]!.toInt32, data[2]!.toInt32, data[3]!.toInt32⟩])
  else ({}, [])

/-- The `else if` chain over the atom of a `PropertyNotify`. -/
def notifyChain : List (AtomName × Dirty) :=
  [(.kws .netWmName, { properties := mask Property.wmName }),
    (.kws .netWmVisibleName, { properties := mask Property.wmVisibleName }),
    (.kws .netWmDesktop, { properties := mask Property.wmDesktop }),
    (.kws .netWmWindowType, { properties := mask Property.wmWindowType }),
    (.kws .netWmState, { properties := mask Property.wmState }),
    (.kws .netWmStrut, { properties := mask Property.wmStrut }),
    (.kws .netWmStrutPartial, { properties2 := mask Property2.extendedStrut }),
    (.kws .netWmIconGeometry, { properties := mask Property.wmIconGeometry }),
    (.kws .netWmIcon, { properties := mask Property.wmIcon }),
    (.kws .netWmPid, { properties := mask Property.wmPid }),
    (.kws .netWmHandledIcons, { properties := mask Property.wmHandledIcons }),
    (.kws .netStartupId, { properties2 := mask Property2.startupId }),
    (.kws .netWmWindowOpacity, { properties2 := mask Property2.opacity }),
    (.kws .netWmAllowedActions, { properties2 := mask Property2.allowedActions }),
    (.kws .wmState, { properties := mask Property.xawmState }),
    (.kws .netFrameExtents, { properties := mask Property.wmFrameExtents }),
    (.kws .kdeNetWmFrameStrut, { properties := mask Property.wmFrameExtents }),
    (.kws .netWmFrameOverlap, { properties2 := mask Property2.frameOverlap }),
    (.kws .netWmIconName, { properties := mask Property.wmIconName }),
    (.kws .netWmVisibleIconName, { properties := mask Property.wmVisibleIconName }),
    (.kws .netWmUserTime, { properties2 := mask Property2.userTime }),
    (.predefined .wmHints,
      { properties2 := mask Property2.groupLeader ||| mask Property2.urgency |||
          mask Property2.input ||| mask Property2.initialMappingState |||
          mask Property2.iconPixmap }),
    (.predefined .wmTransientFor, { properties2 := mask Property2.transientFor }),
    (.predefined .wmClass, { properties2 := mask Property2.windowClass }),
    (.kws .wmWindowRole, { properties2 := mask Property2.windowRole }),
    (.predefined .wmClientMachine, { properties2 := mask Property2.clientMachine }),
    (.kws .kdeNetWmActivities, { properties2 := mask Property2.activities }),
    (.kws .kdeNetWmBlockCompositing, { properties2 := mask Property2.blockCompositing }),
    (.kws .netWmBypassCompositor, { properties2 := mask Property2.blockCompositing }),
    (.kws .kdeNetWmShadow, { properties2 := mask Property2.kdeShadow }),
    (.kws .wmProtocols, { properties2 := mask Property2.protocols }),
    (.kws .netWmOpaqueRegion, { properties2 := mask Property2.opaqueRegion }),
    (.kws .kdeNetWmDesktopFile, { properties2 := mask Property2.desktopFileName }),
    (.kws .gtkApplicationId, { properties2 := mask Property2.gtkApplicationId }),
    (.kws .netWmFullscreenMonitors, { properties2 := mask Property2.fullscreenMonitors }),
    (.kws .gtkFrameExtents, { properties2 := mask Property2.gtkFrameExtents }),
    (.kws .gtkShowWindowMenu, { properties2 := mask Property2.gtkShowWindowMenu }),
    (.kws .kdeNetWmAppmenuServiceName, { properties2 := mask Property2.appMenuServiceName }),
    (.kws .kdeNetWmAppmenuObjectPath, { properties2 := mask Property2.appMenuObjectPath })]

/-- The new state with the calls, and the flags that the caller of `event` gets. -/
def event (atoms : Atoms) (display : Display) (p : NETWinInfo) (e : Event) :
    (NETWinInfo × List WinSignal) × Dirty :=
  match e with
  | .clientMessage format type data32 =>
      if p.role = .windowManager ∧ format = 32 then
        let handled := clientMessage atoms p type data32
        ((p, handled.2), handled.1)
      else ((p, []), {})
  | .propertyNotify atom =>
      let dirty := (lookupAtom atoms.value notifyChain atom).getD {}
      (p.update atoms display dirty.properties dirty.properties2, dirty)
  | .configureNotify x y width height =>
      (({ p with winGeom :=
          ⟨⟨x.toInt32, y.toInt32⟩, ⟨width.toUInt32.toInt32, height.toUInt32.toInt32⟩⟩ }, []),
        { properties := mask Property.wmGeometry })

end NETWinInfo

end KWindowSystem
