import KWindowSystem.NetWM.RootInfo
import KWindowSystem.NetWM.WinInfo
import KWindowSystem.Qt.Rect

/-!
# The event filter of KX11Extras

`NETEventFilter` as it is created for `INFO_WINDOWS`: the client windows, the struts that are cached
for `workArea`, and what changes them.  The filter runs against the X server, where any client may
change any property at any time.
-/

open Qt

namespace KWindowSystem

open NET

/-- The bounding rectangle of the screens. -/
structure DisplayGeometry where
  rect : QRect
  bounding : rect = {} ∨ (rect.x1 ≤ rect.x2 ∧ rect.y1 ≤ rect.y2)

namespace NETRootInfo

variable (p : NETRootInfo)

/-- `numberOfDesktops(true)`. -/
def getNumberOfDesktops : Int32 := if p.numberOfDesktops = 0 then 1 else p.numberOfDesktops

/-- `currentDesktop(true)`. -/
def getCurrentDesktop : Int32 := if p.currentDesktop = 0 then 1 else p.currentDesktop

def desktopGeometry : NETSize := if p.geometry.width ≠ 0 then p.geometry else p.rootSize

def desktopViewport (desktop : Int32) : NETPoint :=
  if desktop < 1 then {} else p.viewport.get (desktop - 1).toInt.toNat

end NETRootInfo

namespace KX11Extras

/-! ## Viewports as desktops -/

section Viewport

variable (screens : DisplayGeometry) (p : NETRootInfo)

/-- Whether the parts of one large desktop stand for desktops. -/
def mapViewport : Bool :=
  p.properties.has Property.desktopViewport && p.getNumberOfDesktops ≤ 1 &&
    (p.desktopGeometry.width.toInt > screens.rect.width ||
      p.desktopGeometry.height.toInt > screens.rect.height)

def viewportToDesktop (x y : Int) : Int :=
  let s := p.desktopGeometry
  let part (position size view : Int) : Int :=
    if position < 0 then 0
    else if position ≥ size then size.tdiv view - 1
    else position.tdiv view
  part y s.height.toInt screens.rect.height * s.width.toInt.tdiv screens.rect.width +
    part x s.width.toInt screens.rect.width + 1

/-- From the position relative to the current viewport. -/
def viewportWindowToDesktop (rect : QRect) : Int :=
  let viewport := p.desktopViewport p.getCurrentDesktop
  let center := rect.center
  viewportToDesktop screens p (center.1 + viewport.x.toInt) (center.2 + viewport.y.toInt)

/-- `NETRootInfo::currentDesktop`, which asks KX11Extras. -/
def currentDesktop : Int32 :=
  if mapViewport screens p then
    let viewport := p.desktopViewport p.getCurrentDesktop
    Int32.ofInt (viewportToDesktop screens p viewport.x.toInt viewport.y.toInt)
  else p.getCurrentDesktop

end Viewport

/-! ## The filter -/

/-- `NET::OnAllDesktops`. -/
def onAllDesktops : Int32 := -1

structure StrutData where
  window : XcbWindow
  strut : NETStrut
  desktop : Int32
deriving DecidableEq, Repr

structure NETEventFilter where
  rootInfo : NETRootInfo
  windows : List XcbWindow := []
  strutWindows : List StrutData := []
  possibleStrutWindows : List XcbWindow := []
  strutSignalConnected : Bool := false

/-- The signals of KX11Extras about windows. -/
inductive Signal where
  | windowAdded (window : XcbWindow)
  | windowRemoved (window : XcbWindow)
  | windowChanged (window : XcbWindow) (dirty : NETWinInfo.Dirty)
  | strutChanged

/-- `windowsProperties`. -/
def windowsProperties : Flags :=
  mask Property.clientList ||| mask Property.clientListStacking ||| mask Property.supported |||
    mask Property.numberOfDesktops ||| mask Property.desktopGeometry |||
    mask Property.desktopViewport ||| mask Property.currentDesktop ||| mask Property.desktopNames |||
    mask Property.activeWindow ||| mask Property.workArea

def windowsProperties2 : Flags := mask Property2.showingDesktop

section Filter

variable (atoms : Atoms) (root : XcbWindow) (screens : DisplayGeometry)

/-- What a fresh `NETWinInfo` of the window says about its strut and its desktop.  With viewports, the
desktop is found by a `KWindowInfo`, from the state and the geometry of the window. -/
def strutData (display : Display) (geometry : XcbWindow → NETRect) (p : NETRootInfo)
    (w : XcbWindow) : StrutData :=
  let info := NETWinInfo.new atoms display w root (mask Property.wmStrut ||| mask Property.wmDesktop)
    0 .client
  let desktop :=
    if mapViewport screens p then
      let sticky := NETWinInfo.new atoms display w root (mask Property.wmState) 0 .client
      let geom := geometry w
      if sticky.state.has State.sticky then onAllDesktops
      else Int32.ofInt (viewportWindowToDesktop screens p
        (.ofSize geom.pos.x.toInt geom.pos.y.toInt geom.size.width.toInt geom.size.height.toInt))
    else info.desktop
  ⟨w, info.strut, desktop⟩

/-- `strut.left || strut.top || strut.right || strut.bottom`. -/
def hasStrut (strut : NETStrut) : Bool :=
  strut.left ≠ 0 || strut.top ≠ 0 || strut.right ≠ 0 || strut.bottom ≠ 0

/-- The first entry of the window goes. -/
def removeStrutWindow (filter : NETEventFilter) (w : XcbWindow) : NETEventFilter × Bool :=
  ({ filter with strutWindows := filter.strutWindows.eraseP (·.window = w) },
    filter.strutWindows.any (·.window = w))

def addClient (display : Display) (geometry : XcbWindow → NETRect) (filter : NETEventFilter)
    (w : XcbWindow) : NETEventFilter × List Signal :=
  if filter.strutSignalConnected then
    let data := strutData atoms root screens display geometry filter.rootInfo w
    if hasStrut data.strut then
      ({ filter with
        strutWindows := filter.strutWindows ++ [data], windows := filter.windows ++ [w] },
        [.windowAdded w, .strutChanged])
    else ({ filter with windows := filter.windows ++ [w] }, [.windowAdded w])
  else
    ({ filter with
      possibleStrutWindows := filter.possibleStrutWindows ++ [w], windows := filter.windows ++ [w] },
      [.windowAdded w])

-- Whatever its strut is, the window is the last of the list, and it is announced first.
theorem addClient_keeps (display : Display) (geometry : XcbWindow → NETRect) (filter : NETEventFilter)
    (w : XcbWindow) :
    (addClient atoms root screens display geometry filter w).1.rootInfo = filter.rootInfo ∧
      (addClient atoms root screens display geometry filter w).1.windows = filter.windows ++ [w] ∧
      ∃ c : Bool, (addClient atoms root screens display geometry filter w).2 =
        .windowAdded w :: if c then [.strutChanged] else [] := by
  unfold addClient
  dsimp only
  split
  · split
    · exact ⟨rfl, rfl, true, rfl⟩
    · exact ⟨rfl, rfl, false, rfl⟩
  · exact ⟨rfl, rfl, false, rfl⟩

def removeClient (display : Display) (filter : NETEventFilter) (w : XcbWindow) :
    NETEventFilter × List Signal :=
  let removed := removeStrutWindow filter w
  let info := NETWinInfo.new atoms display w root (mask Property.wmStrut) 0 .client
  let possible := filter.strutSignalConnected && decide (w ∈ filter.possibleStrutWindows) &&
    hasStrut info.strut
  ({ removed.1 with
    possibleStrutWindows := filter.possibleStrutWindows.filter (· ≠ w)
    windows := filter.windows.filter (· ≠ w) },
    .windowRemoved w :: if removed.2 || possible then [.strutChanged] else [])

/-- The flags that the names of the ICCCM add. -/
def oldNames (atom : XcbAtom) : Flags :=
  if atom = .wmHints then mask Property.wmIcon
  else if atom = .wmName then mask Property.wmName
  else if atom = .wmIconName then mask Property.wmIconName
  else 0

/-- `nativeEventFilter` for the change of a property of a client window. -/
def windowPropertyNotify (display : Display) (filter : NETEventFilter) (w : XcbWindow)
    (atom : XcbAtom) : NETEventFilter × List Signal :=
  let ni := NETWinInfo.new atoms display w root 0 0 .client
  let dirty := (ni.event atoms display (.propertyNotify atom)).2
  let properties := dirty.properties ||| oldNames atom
  let properties :=
    if mapViewport screens filter.rootInfo &&
        (properties.has Property.wmState || properties.has Property.wmGeometry) then
      properties ||| mask Property.wmDesktop
    else properties
  let strut := properties.has Property.wmStrut
  let filter :=
    if strut then
      let filter := (removeStrutWindow filter w).1
      if w ∈ filter.possibleStrutWindows then filter
      else { filter with possibleStrutWindows := filter.possibleStrutWindows ++ [w] }
    else filter
  (filter,
    if properties ≠ 0 ∨ dirty.properties2 ≠ 0 then
      .windowChanged w ⟨properties, dirty.properties2⟩ :: if strut then [.strutChanged] else []
    else [])

/-! ## The work area -/

/-- The screens without the strut. -/
def withoutStrut (all : QRect) (strut : NETStrut) : QRect where
  x1 := if strut.left > 0 then all.x1 + strut.left.toInt else all.x1
  y1 := if strut.top > 0 then all.y1 + strut.top.toInt else all.y1
  x2 := if strut.right > 0 then all.x2 - strut.right.toInt else all.x2
  y2 := if strut.bottom > 0 then all.y2 - strut.bottom.toInt else all.y2

/-- The work area that a window with this strut leaves. -/
def cutStrut (desktop : Int32) (data : StrutData) (a : QRect) : QRect :=
  if data.desktop = desktop ∨ data.desktop = onAllDesktops then
    a.intersected (withoutStrut screens.rect data.strut)
  else a

/-- The body of the loop of `workArea`: the strut of a window comes from the cache, or is read and
cached if the window may have one. -/
def workAreaStep (display : Display) (geometry : XcbWindow → NETRect) (exclude : List XcbWindow)
    (desktop : Int32) (acc : NETEventFilter × QRect) (w : XcbWindow) : NETEventFilter × QRect :=
  let filter := acc.1
  if w ∈ exclude then acc
  else match filter.strutWindows.find? (·.window = w) with
    | some data => (filter, cutStrut screens desktop data acc.2)
    | none =>
        if w ∈ filter.possibleStrutWindows then
          let data := strutData atoms root screens display geometry filter.rootInfo w
          ({ filter with
            possibleStrutWindows := filter.possibleStrutWindows.filter (· ≠ w)
            strutWindows := filter.strutWindows ++ [data] },
            cutStrut screens desktop data acc.2)
        else acc

def workArea (display : Display) (geometry : XcbWindow → NETRect) (filter : NETEventFilter)
    (exclude : List XcbWindow) (desktop : Int32) : NETEventFilter × QRect :=
  let desktop := if desktop = -1 then currentDesktop screens filter.rootInfo else desktop
  filter.windows.foldl (workAreaStep atoms root screens display geometry exclude desktop)
    (filter, screens.rect)

/-! ## The filter and the X server -/

/-- A filter with the server it watches.  The events come in order, each client window being watched
from the moment it is added; the calls of a root event are made one after the other, and whatever is
connected to their signals may ask for work areas in between. -/
structure Session where
  display : Display
  geometry : XcbWindow → NETRect
  watched : List XcbWindow
  queue : List (XcbWindow × XcbAtom)
  calls : List RootSignal
  filter : NETEventFilter

/-- What `init` creates and activates, when events may be waiting already. -/
def Session.start (rootSize : NETSize) (display : Display) (geometry : XcbWindow → NETRect)
    (watched : List XcbWindow) (queue : List (XcbWindow × XcbAtom)) : Session :=
  let activated := (NETRootInfo.newClient root rootSize windowsProperties windowsProperties2).update
    atoms display windowsProperties windowsProperties2
  { display, geometry, watched, queue, calls := activated.2, filter := { rootInfo := activated.1 } }

inductive Event where
  /-- Some client changes a property. -/
  | changeProperty (window : XcbWindow) (change : Change)
  /-- A window is moved or resized. -/
  | configure (window : XcbWindow) (geometry : NETRect)
  /-- The filter makes its next call, or handles its next event. -/
  | deliver
  | workArea (exclude : List XcbWindow) (desktop : Int32)
  /-- `connectNotify` for `strutChanged`. -/
  | connectStrutChanged

/-- The next call that the root information makes; only these two are about windows. -/
def Session.call (s : Session) (call : RootSignal) : Session × List Signal :=
  match call with
  | .addClient w =>
      let added := addClient atoms root screens s.display s.geometry s.filter w
      ({ s with filter := added.1, watched := w :: s.watched }, added.2)
  | .removeClient w =>
      let removed := removeClient atoms root s.display s.filter w
      ({ s with filter := removed.1 }, removed.2)
  | _ => (s, [])

/-- `nativeEventFilter` for the change of a property. -/
def Session.propertyNotify (s : Session) (w : XcbWindow) (atom : XcbAtom) : Session × List Signal :=
  if w = root then
    let handled := (s.filter.rootInfo.event atoms s.display (.propertyNotify atom)).1
    ({ s with calls := handled.2, filter := { s.filter with rootInfo := handled.1 } }, [])
  else if w ∈ s.filter.windows then
    let handled := windowPropertyNotify atoms root screens s.display s.filter w atom
    ({ s with filter := handled.1 }, handled.2)
  else (s, [])

def Session.step (s : Session) (e : Event) : Session × List Signal :=
  match e with
  | .changeProperty w change =>
      let queue := if w = root ∨ w ∈ s.watched then s.queue ++ [(w, change.atom)] else s.queue
      ({ s with display := change.apply w s.display, queue }, [])
  | .configure w rect => ({ s with geometry := Function.update s.geometry w rect }, [])
  | .deliver =>
      match s.calls with
      | call :: calls => Session.call atoms root screens { s with calls } call
      | [] =>
          match s.queue with
          | (w, atom) :: queue => Session.propertyNotify atoms root screens { s with queue } w atom
          | [] => (s, [])
  | .workArea exclude desktop =>
      let area := workArea atoms root screens s.display s.geometry s.filter exclude desktop
      ({ s with filter := area.1 }, [])
  | .connectStrutChanged => ({ s with filter := { s.filter with strutSignalConnected := true } }, [])

end Filter

end KX11Extras

end KWindowSystem
