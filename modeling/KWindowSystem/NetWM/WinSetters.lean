import KWindowSystem.KX11Extras.SetStrut
import KWindowSystem.NetWM.ClientRequests
import KWindowSystem.NetWM.IconProperty

/-!
# The setters of NETWinInfo

The functions with which clients and the window manager write the properties of a window.  Most of them are
for one of the two roles only; all of them keep what they write, but for the window type.
-/

open Qt

namespace KWindowSystem

open NET

/-- `KDE_ALL_ACTIVITIES_UUID`. -/
def allActivities : QByteArray := toUtf8 "00000000-0000-0000-0000-000000000000".toList

/-- The order in which the sides are written. -/
def NETStrut.words (strut : NETStrut) : List UInt32 :=
  [strut.left.toUInt32, strut.right.toUInt32, strut.top.toUInt32, strut.bottom.toUInt32]

namespace NETWinInfo

section Setters

variable (atoms : Atoms) (p : NETWinInfo)

/-- Objects of the other role do nothing. -/
def ofRole (role : Role) (set : NETWinInfo × List Outgoing) : NETWinInfo × List Outgoing :=
  if p.role ≠ role then (p, []) else set

def replaceProperty (property : KwsAtom) (type : XcbAtom) (data : PropertyData) : Outgoing :=
  .property p.window ⟨atoms.atom property, some ⟨type, data⟩⟩

def replaceCardinals (property : KwsAtom) (words : List UInt32) : Outgoing :=
  replaceProperty atoms p property .cardinal (.data32 words)

def deleteProperty (property : KwsAtom) : Outgoing := .property p.window ⟨atoms.atom property, none⟩

/-- A setter that changes one property at most. -/
def ofChange (set : NETWinInfo × Option Change) : NETWinInfo × List Outgoing :=
  (set.1, set.2.toList.map (.property p.window))

/-! ## Texts -/

/-- A name is kept as a copy, and deleted when it is empty. -/
def setNameText (property : KwsAtom) (kept : CharPtr → NETWinInfo) (text : QByteArray) :
    NETWinInfo × List Outgoing :=
  let copy := cString text
  (kept (some copy),
    [if copy ≠ [] then replaceProperty atoms p property (atoms.atom .utf8String) (.data8 copy)
      else deleteProperty atoms p property])

/-- Other texts are written as they are. -/
def setText (property : KwsAtom) (type : XcbAtom) (kept : CharPtr → NETWinInfo) (text : QByteArray) :
    NETWinInfo × List Outgoing :=
  let copy := cString text
  (kept (some copy), [replaceProperty atoms p property type (.data8 copy)])

def setName (name : QByteArray) : NETWinInfo × List Outgoing :=
  ofRole p .client (setNameText atoms p .netWmName (fun name => { p with name }) name)

def setVisibleName (visibleName : QByteArray) : NETWinInfo × List Outgoing :=
  ofRole p .windowManager
    (setNameText atoms p .netWmVisibleName (fun visibleName => { p with visibleName }) visibleName)

def setIconName (iconName : QByteArray) : NETWinInfo × List Outgoing :=
  ofRole p .client (setNameText atoms p .netWmIconName (fun iconName => { p with iconName }) iconName)

def setVisibleIconName (visibleIconName : QByteArray) : NETWinInfo × List Outgoing :=
  ofRole p .windowManager
    (setNameText atoms p .netWmVisibleIconName (fun visibleIconName => { p with visibleIconName })
      visibleIconName)

def setStartupId (id : QByteArray) : NETWinInfo × List Outgoing :=
  ofRole p .client
    (setText atoms p .netStartupId (atoms.atom .utf8String) (fun startupId => { p with startupId }) id)

def setDesktopFileName (name : QByteArray) : NETWinInfo × List Outgoing :=
  ofRole p .client
    (setText atoms p .kdeNetWmDesktopFile (atoms.atom .utf8String) (fun desktopFile => { p with desktopFile })
      name)

def setAppMenuObjectPath (name : QByteArray) : NETWinInfo × List Outgoing :=
  ofRole p .client
    (setText atoms p .kdeNetWmAppmenuObjectPath .string
      (fun appmenuObjectPath => { p with appmenuObjectPath }) name)

def setAppMenuServiceName (name : QByteArray) : NETWinInfo × List Outgoing :=
  ofRole p .client
    (setText atoms p .kdeNetWmAppmenuServiceName .string
      (fun appmenuServiceName => { p with appmenuServiceName }) name)

/-- The activities that are written: a null pointer and an empty text mean all of them. -/
def activitiesText (activities : CharPtr) : QByteArray :=
  if (activities.map cString).getD [] = [] then allActivities else activities.getD []

/-- Whatever the role. -/
def setActivities (activities : CharPtr) : NETWinInfo × List Outgoing :=
  setText atoms p .kdeNetWmActivities .string (fun activities => { p with activities })
    (activitiesText activities)

/-! ## Numbers -/

def setPid (pid : Int32) : NETWinInfo × List Outgoing :=
  ofRole p .client ({ p with pid }, [replaceCardinals atoms p .netWmPid [pid.toUInt32]])

def setHandledIcons (handled : Bool) : NETWinInfo × List Outgoing :=
  ofRole p .client
    ({ p with handledIcons := handled },
      [replaceCardinals atoms p .netWmHandledIcons [if handled then 1 else 0]])

def setUserTime (time : UInt32) : NETWinInfo × List Outgoing :=
  ofRole p .client ({ p with userTime := time }, [replaceCardinals atoms p .netWmUserTime [time]])

/-- Whatever the role; of the `unsigned long` that is kept the first four bytes are sent. -/
def setOpacity (opacity : UInt64) : NETWinInfo × List Outgoing :=
  ({ p with opacity }, [replaceCardinals atoms p .netWmWindowOpacity [opacity.toUInt32]])

def setBlockingCompositing (active : Bool) : NETWinInfo × List Outgoing :=
  ofRole p .client
    ({ p with blockCompositing := active },
      if active then
        [replaceCardinals atoms p .kdeNetWmBlockCompositing [1],
          replaceCardinals atoms p .netWmBypassCompositor [1]]
      else
        [deleteProperty atoms p .kdeNetWmBlockCompositing, deleteProperty atoms p .netWmBypassCompositor])

/-! ## Rectangles and struts -/

/-- The geometry is multiplied by `qApp->devicePixelRatio()`, a `qreal`: `scale` is what becomes of an `int`. -/
def setIconGeometry (scale : Int32 → Int32) (geometry : NETRect) : NETWinInfo × List Outgoing :=
  let geometry : NETRect :=
    ⟨⟨scale geometry.pos.x, scale geometry.pos.y⟩, ⟨scale geometry.size.width, scale geometry.size.height⟩⟩
  ofRole p .client
    ({ p with iconGeom := geometry },
      [if geometry.size.width = 0 then deleteProperty atoms p .netWmIconGeometry
        else replaceCardinals atoms p .netWmIconGeometry
          [geometry.pos.x.toUInt32, geometry.pos.y.toUInt32, geometry.size.width.toUInt32,
            geometry.size.height.toUInt32]])

/-- The second property is the one that came before `_NET_FRAME_EXTENTS`. -/
def setFrameExtents (strut : NETStrut) : NETWinInfo × List Outgoing :=
  ofRole p .windowManager
    ({ p with frameStrut := strut },
      [replaceCardinals atoms p .netFrameExtents strut.words,
        replaceCardinals atoms p .kdeNetWmFrameStrut strut.words])

/-- No side is negative, unless all of them are −1. -/
def overlapOf (strut : NETStrut) : NETStrut :=
  if strut.left ≠ -1 ∨ strut.top ≠ -1 ∨ strut.right ≠ -1 ∨ strut.bottom ≠ -1 then
    ⟨max 0 strut.left, max 0 strut.right, max 0 strut.top, max 0 strut.bottom⟩
  else strut

/-- Whatever the role. -/
def setFrameOverlap (strut : NETStrut) : NETWinInfo × List Outgoing :=
  let strut := overlapOf strut
  ({ p with frameOverlap := strut }, [replaceCardinals atoms p .netWmFrameOverlap strut.words])

/-- Whatever the role. -/
def setGtkFrameExtents (strut : NETStrut) : NETWinInfo × List Outgoing :=
  ({ p with gtkFrameExtents := strut }, [replaceCardinals atoms p .gtkFrameExtents strut.words])

/-! ## Lists of atoms -/

/-- The atoms that are written for a type: some types have a second one for who does not know the first. -/
def typeAtoms : WindowType → List KwsAtom
  | .override => [.kdeNetWmWindowTypeOverride, .netWmWindowTypeNormal]
  | .dialog => [.netWmWindowTypeDialog]
  | .menu => [.netWmWindowTypeMenu]
  | .topMenu => [.kdeNetWmWindowTypeTopmenu, .netWmWindowTypeDock]
  | .toolbar => [.netWmWindowTypeToolbar]
  | .dock => [.netWmWindowTypeDock]
  | .desktop => [.netWmWindowTypeDesktop]
  | .utility => [.netWmWindowTypeUtility, .netWmWindowTypeDialog]
  | .splash => [.netWmWindowTypeSplash, .netWmWindowTypeDock]
  | .dropdownMenu => [.netWmWindowTypeDropdownMenu]
  | .popupMenu => [.netWmWindowTypePopupMenu]
  | .tooltip => [.netWmWindowTypeTooltip]
  | .notification => [.netWmWindowTypeNotification]
  | .comboBox => [.netWmWindowTypeCombo]
  | .dndIcon => [.netWmWindowTypeDnd]
  | .onScreenDisplay => [.kdeNetWmWindowTypeOnScreenDisplay, .netWmWindowTypeNotification]
  | .criticalNotification => [.kdeNetWmWindowTypeCriticalNotification, .netWmWindowTypeNotification]
  | .appletPopup => [.kdeNetWmWindowTypeAppletPopup]
  | .unknown | .normal => [.netWmWindowTypeNormal]

/-- The types that the object has itself stay as they are. -/
def setWindowType (type : WindowType) : NETWinInfo × List Outgoing :=
  ofRole p .client
    (p, [replaceProperty atoms p .netWmWindowType .atom (.data32 ((typeAtoms type).map atoms.atom))])

/-- The atoms of the actions, in the order in which they are written. -/
def actionAtoms : List (Action × List KwsAtom) :=
  [(.move, [.netWmActionMove]), (.resize, [.netWmActionResize]), (.minimize, [.netWmActionMinimize]),
    (.shade, [.netWmActionShade]), (.stick, [.netWmActionStick]), (.maxVert, [.netWmActionMaximizeVert]),
    (.maxHoriz, [.netWmActionMaximizeHorz]), (.fullScreen, [.netWmActionFullscreen]),
    (.changeDesktop, [.netWmActionChangeDesktop]), (.close, [.netWmActionClose])]

/-- The atoms of the flags that are set. -/
def flagAtoms {α : Type} [Flag α] (table : List (α × List KwsAtom)) (flags : Flags) : List XcbAtom :=
  table.flatMap fun e => if flags.has e.1 then e.2.map atoms.atom else []

def setAllowedActions (actions : Flags) : NETWinInfo × List Outgoing :=
  ofRole p .windowManager
    ({ p with allowedActions := actions },
      [replaceProperty atoms p .netWmAllowedActions .atom (.data32 (flagAtoms atoms actionAtoms actions))])

/-- The requests of `setState`, as what they ask the server for. -/
def stateRequest : StateRequest → Outgoing
  | .message data32 => .message ⟨p.window, atoms.atom .netWmState, data32⟩
  | .property list => replaceProperty atoms p .netWmState .atom (.data32 list)

end Setters

end NETWinInfo

/-! ## Calls -/

/-- A call of a setter. -/
inductive WinCall where
  | setIcon (icon : NETIcon) (replace : Bool)
  | setIconGeometry (geometry : NETRect)
  | setExtendedStrut (strut : NETExtendedStrut)
  | setStrut (strut : NETStrut)
  | setFullscreenMonitors (topology : NETFullscreenMonitors)
  | setState (state mask : Flags)
  | setWindowType (type : WindowType)
  | setName (name : QByteArray)
  | setVisibleName (visibleName : QByteArray)
  | setIconName (iconName : QByteArray)
  | setVisibleIconName (visibleIconName : QByteArray)
  | setDesktop (desktop : Int32)
  | setPid (pid : Int32)
  | setHandledIcons (handled : Bool)
  | setStartupId (id : QByteArray)
  | setOpacity (opacity : UInt64)
  | setAllowedActions (actions : Flags)
  | setFrameExtents (strut : NETStrut)
  | setFrameOverlap (strut : NETStrut)
  | setGtkFrameExtents (strut : NETStrut)
  | setAppMenuObjectPath (name : QByteArray)
  | setAppMenuServiceName (name : QByteArray)
  | setUserTime (time : UInt32)
  | setActivities (activities : CharPtr)
  | setBlockingCompositing (active : Bool)
  | setDesktopFileName (name : QByteArray)

namespace WinCall

variable (atoms : Atoms) (scale : Int32 → Int32)

/-- What a call does where desktops are no viewports. -/
def perform (display : Display) (p : NETWinInfo) : WinCall → NETWinInfo × List Outgoing
  | .setIcon icon replace => p.ofChange (p.setIcon atoms icon replace)
  | .setIconGeometry geometry => p.setIconGeometry atoms scale geometry
  | .setExtendedStrut strut => p.ofChange (p.setExtendedStrut atoms strut)
  | .setStrut strut => p.ofChange (p.setStrut atoms strut)
  | .setFullscreenMonitors topology => p.setFullscreenMonitors atoms topology
  | .setState state mask =>
      let set := p.setState atoms display state mask
      (set.1, set.2.map (p.stateRequest atoms))
  | .setWindowType type => p.setWindowType atoms type
  | .setName name => p.setName atoms name
  | .setVisibleName visibleName => p.setVisibleName atoms visibleName
  | .setIconName iconName => p.setIconName atoms iconName
  | .setVisibleIconName visibleIconName => p.setVisibleIconName atoms visibleIconName
  | .setDesktop desktop => p.setDesktop atoms display false desktop false
  | .setPid pid => p.setPid atoms pid
  | .setHandledIcons handled => p.setHandledIcons atoms handled
  | .setStartupId id => p.setStartupId atoms id
  | .setOpacity opacity => p.setOpacity atoms opacity
  | .setAllowedActions actions => p.setAllowedActions atoms actions
  | .setFrameExtents strut => p.setFrameExtents atoms strut
  | .setFrameOverlap strut => p.setFrameOverlap atoms strut
  | .setGtkFrameExtents strut => p.setGtkFrameExtents atoms strut
  | .setAppMenuObjectPath name => p.setAppMenuObjectPath atoms name
  | .setAppMenuServiceName name => p.setAppMenuServiceName atoms name
  | .setUserTime time => p.setUserTime atoms time
  | .setActivities activities => p.setActivities atoms activities
  | .setBlockingCompositing active => p.setBlockingCompositing atoms active
  | .setDesktopFileName name => p.setDesktopFileName atoms name

end WinCall

/-- What a request does to the properties. -/
def Outgoing.apply (display : Display) : Outgoing → Display
  | .property window change => change.apply window display
  | _ => display

/-- The property that a request changes. -/
def Outgoing.atom? : Outgoing → Option XcbAtom
  | .property _ change => some change.atom
  | _ => none

/-- The properties that requests, one after the other, are notified under. -/
def Outgoing.notices (display : Display) : List Outgoing → List XcbAtom
  | [] => []
  | .property window change :: outgoing =>
      let rest := notices (change.apply window display) outgoing
      if change.notifies window display then change.atom :: rest else rest
  | _ :: outgoing => notices display outgoing

theorem Outgoing.notices_property (window : XcbWindow) (change : Change) (outgoing : List Outgoing)
    (display : Display) : notices display (.property window change :: outgoing) =
      if change.notifies window display then change.atom :: notices (change.apply window display) outgoing
      else notices display outgoing := by
  rw [notices]
  split
  · rfl
  · rename_i h
    rw [Change.apply_of_not_notifies h]

end KWindowSystem
