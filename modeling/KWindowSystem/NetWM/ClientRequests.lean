import KWindowSystem.NetWM.RootInfo
import KWindowSystem.NetWM.SetState

/-!
# Client requests

The functions of `NETRootInfo` and `NETWinInfo` with which a client asks the window manager for
something, on both of their paths, and what the window manager's `event` makes of their messages.
-/

open Machine

namespace KWindowSystem

open NET

/-- A message of format 32, sent to the root window by `send_client_message`. -/
structure NetMessage where
  window : XcbWindow
  type : XcbAtom
  data32 : Vector UInt32 5
deriving DecidableEq, Repr

/-- What a call asks the server for. -/
inductive Outgoing where
  | message (m : NetMessage)
  /-- A property of a window is set or deleted. -/
  | property (window : XcbWindow) (change : Change)
  /-- The call is handed to `KX11Extras`, which maps desktops to viewports. -/
  | mapped (window : XcbWindow) (desktop : Int32)

def NET.RequestSource.value : RequestSource → UInt32
  | .fromUnknown => 0
  | .fromApplication => 1
  | .fromTool => 2

/-- `OnAllDesktops`. -/
def NET.onAllDesktops : Int32 := -1

namespace NETRootInfo

section Calls

variable (atoms : Atoms) (p : NETRootInfo)

/-- A message about a window, with all five words. -/
def sendClientMessage (window : XcbWindow) (message : KwsAtom) (data : Vector UInt32 5) : List Outgoing :=
  [.message ⟨window, atoms.atom message, data⟩]

/-- A property of the root window replaced by words. -/
def changeRoot (property : KwsAtom) (type : XcbAtom) (words : List UInt32) : List Outgoing :=
  [.property p.root ⟨atoms.atom property, some ⟨type, .data32 words⟩⟩]

def setNumberOfDesktops (numberOfDesktops : Int32) : NETRootInfo × List Outgoing :=
  if p.role = .windowManager then
    ({ p with numberOfDesktops },
      changeRoot atoms p .netNumberOfDesktops .cardinal [numberOfDesktops.toUInt32])
  else
    (p, sendClientMessage atoms p.root .netNumberOfDesktops #v[numberOfDesktops.toUInt32, 0, 0, 0, 0])

def setCurrentDesktop (mapViewport : Bool) (desktop : Int32) (ignoreViewport : Bool) :
    NETRootInfo × List Outgoing :=
  if p.role = .windowManager then
    ({ p with currentDesktop := desktop },
      changeRoot atoms p .netCurrentDesktop .cardinal [(desktop - 1).toUInt32])
  else if ¬ignoreViewport ∧ mapViewport then (p, [.mapped p.root desktop])
  else (p, sendClientMessage atoms p.root .netCurrentDesktop #v[(desktop - 1).toUInt32, 0, 0, 0, 0])

def setDesktopGeometry (geometry : NETSize) : NETRootInfo × List Outgoing :=
  let width := geometry.width.toUInt32
  let height := geometry.height.toUInt32
  if p.role = .windowManager then
    ({ p with geometry }, changeRoot atoms p .netDesktopGeometry .cardinal [width, height])
  else (p, sendClientMessage atoms p.root .netDesktopGeometry #v[width, height, 0, 0, 0])

/-- The loop that writes the viewports of all desktops, which it touches on the way. -/
def viewportWords (viewport : NETRArray NETPoint) (numberOfDesktops : Nat) :
    NETRArray NETPoint × List UInt32 :=
  (List.range numberOfDesktops).foldl (fun acc d =>
    let pt := acc.1.get d
    (acc.1.touch d, acc.2 ++ [pt.x.toUInt32, pt.y.toUInt32])) (viewport, [])

def setDesktopViewport (desktop : Int32) (viewport : NETPoint) : NETRootInfo × List Outgoing :=
  if desktop < 1 then (p, [])
  else if p.role = .windowManager then
    let written := viewportWords (p.viewport.set (desktop.toInt - 1).toNat viewport)
      p.numberOfDesktops.toInt.toNat
    ({ p with viewport := written.1 }, changeRoot atoms p .netDesktopViewport .cardinal written.2)
  else
    (p, sendClientMessage atoms p.root .netDesktopViewport
      #v[viewport.x.toUInt32, viewport.y.toUInt32, 0, 0, 0])

def setActiveWindow (window : XcbWindow) (src : RequestSource) (timestamp : UInt32)
    (activeWindow : XcbWindow) : NETRootInfo × List Outgoing :=
  if p.role = .windowManager then
    ({ p with active := window }, changeRoot atoms p .netActiveWindow .window [window])
  else
    (p, sendClientMessage atoms window .netActiveWindow #v[src.value, timestamp, activeWindow, 0, 0])

def setShowingDesktop (showing : Bool) : NETRootInfo × List Outgoing :=
  let word := if showing then 1 else 0
  if p.role = .windowManager then
    ({ p with showingDesktop := showing }, changeRoot atoms p .netShowingDesktop .cardinal [word])
  else (p, sendClientMessage atoms p.root .netShowingDesktop #v[word, 0, 0, 0, 0])

def closeWindowRequest (window : XcbWindow) : List Outgoing :=
  sendClientMessage atoms window .netCloseWindow #v[0, 0, 0, 0, 0]

def moveResizeRequest (window : XcbWindow) (xRoot yRoot : Int32) (direction : UInt32) (button : UInt8)
    (source : RequestSource) : List Outgoing :=
  sendClientMessage atoms window .netWmMoveresize
    #v[xRoot.toUInt32, yRoot.toUInt32, direction, button.toUInt32, source.value]

def moveResizeWindowRequest (window : XcbWindow) (flags x y width height : Int32) : List Outgoing :=
  sendClientMessage atoms window .netMoveresizeWindow
    #v[flags.toUInt32, x.toUInt32, y.toUInt32, width.toUInt32, height.toUInt32]

def showWindowMenuRequest (window : XcbWindow) (deviceId xRoot yRoot : Int32) : List Outgoing :=
  sendClientMessage atoms window .gtkShowWindowMenu
    #v[deviceId.toUInt32, xRoot.toUInt32, yRoot.toUInt32, 0, 0]

def restackRequest (window : XcbWindow) (src : RequestSource) (above : XcbWindow) (detail : Int32)
    (timestamp : UInt32) : List Outgoing :=
  sendClientMessage atoms window .netRestackWindow #v[src.value, above, detail.toUInt32, timestamp, 0]

end Calls

end NETRootInfo

namespace NETWinInfo

section Calls

variable (atoms : Atoms) (display : Display) (p : NETWinInfo)

/-- The object once it knows whether its window is managed. -/
def withMappingState : NETWinInfo :=
  if p.mappingStateDirty then updateWMState atoms display p else p

/-- The desktop as it stands in messages and properties. -/
def desktopWord (desktop : Int32) : UInt32 :=
  if desktop = NET.onAllDesktops then 0xffffffff else (desktop - 1).toUInt32

def setDesktop (mapViewport : Bool) (desktop : Int32) (ignoreViewport : Bool) :
    NETWinInfo × List Outgoing :=
  let p := withMappingState atoms display p
  if p.role = .client ∧ p.mappingState ≠ .withdrawn then
    if desktop = 0 then (p, [])
    else if ¬ignoreViewport ∧ mapViewport then (p, [.mapped p.window desktop])
    else (p, [.message ⟨p.window, atoms.atom .netWmDesktop, #v[desktopWord desktop, 0, 0, 0, 0]⟩])
  else
    let value : Option XProperty :=
      if desktop = 0 then none else some ⟨.cardinal, .data32 [desktopWord desktop]⟩
    ({ p with desktop }, [.property p.window ⟨atoms.atom .netWmDesktop, value⟩])

def setFullscreenMonitors (topology : NETFullscreenMonitors) : NETWinInfo × List Outgoing :=
  let top := topology.top.toUInt32
  let bottom := topology.bottom.toUInt32
  let left := topology.left.toUInt32
  let right := topology.right.toUInt32
  if p.role = .client then
    (p, [.message ⟨p.window, atoms.atom .netWmFullscreenMonitors, #v[top, bottom, left, right, 1]⟩])
  else
    ({ p with fullscreenMonitors := topology },
      [.property p.window ⟨atoms.atom .netWmFullscreenMonitors,
        some ⟨.cardinal, .data32 [top, bottom, left, right]⟩⟩])

end Calls

end NETWinInfo

/-! ## Requests and callbacks -/

/-- A call that asks the window manager for something. -/
inductive ClientRequest where
  | setNumberOfDesktops (numberOfDesktops : Int32)
  | setCurrentDesktop (desktop : Int32) (ignoreViewport : Bool)
  | setDesktopGeometry (geometry : NETSize)
  | setDesktopViewport (desktop : Int32) (viewport : NETPoint)
  | setActiveWindow (window : XcbWindow) (src : RequestSource) (timestamp : UInt32)
      (activeWindow : XcbWindow)
  | setShowingDesktop (showing : Bool)
  | closeWindowRequest (window : XcbWindow)
  | moveResizeRequest (window : XcbWindow) (xRoot yRoot : Int32) (direction : UInt32) (button : UInt8)
      (source : RequestSource)
  | moveResizeWindowRequest (window : XcbWindow) (flags x y width height : Int32)
  | restackRequest (window : XcbWindow) (src : RequestSource) (above : XcbWindow) (detail : Int32)
      (timestamp : UInt32)
  | showWindowMenuRequest (window : XcbWindow) (deviceId xRoot yRoot : Int32)
  | setDesktop (desktop : Int32) (ignoreViewport : Bool)
  | setFullscreenMonitors (topology : NETFullscreenMonitors)

namespace ClientRequest

/-- Those of `NETWinInfo`. -/
def ofWindow : ClientRequest → Bool
  | .setDesktop .. | .setFullscreenMonitors .. => true
  | _ => false

/-- The two that are refused for some desktops. -/
def Accepted : ClientRequest → Prop
  | .setDesktopViewport desktop _ => ¬desktop < 1
  | .setDesktop desktop _ => desktop ≠ 0
  | _ => True

/-- The type of the message. -/
def name : ClientRequest → KwsAtom
  | .setNumberOfDesktops _ => .netNumberOfDesktops
  | .setCurrentDesktop .. => .netCurrentDesktop
  | .setDesktopGeometry _ => .netDesktopGeometry
  | .setDesktopViewport .. => .netDesktopViewport
  | .setActiveWindow .. => .netActiveWindow
  | .setShowingDesktop _ => .netShowingDesktop
  | .closeWindowRequest _ => .netCloseWindow
  | .moveResizeRequest .. => .netWmMoveresize
  | .moveResizeWindowRequest .. => .netMoveresizeWindow
  | .restackRequest .. => .netRestackWindow
  | .showWindowMenuRequest .. => .gtkShowWindowMenu
  | .setDesktop .. => .netWmDesktop
  | .setFullscreenMonitors _ => .netWmFullscreenMonitors

/-- The words of the message. -/
def words : ClientRequest → Vector UInt32 5
  | .setNumberOfDesktops n => #v[n.toUInt32, 0, 0, 0, 0]
  | .setCurrentDesktop desktop _ => #v[(desktop - 1).toUInt32, 0, 0, 0, 0]
  | .setDesktopGeometry geometry => #v[geometry.width.toUInt32, geometry.height.toUInt32, 0, 0, 0]
  | .setDesktopViewport _ viewport => #v[viewport.x.toUInt32, viewport.y.toUInt32, 0, 0, 0]
  | .setActiveWindow _ src timestamp active => #v[src.value, timestamp, active, 0, 0]
  | .setShowingDesktop showing => #v[if showing then 1 else 0, 0, 0, 0, 0]
  | .closeWindowRequest _ => #v[0, 0, 0, 0, 0]
  | .moveResizeRequest _ xRoot yRoot direction button source =>
      #v[xRoot.toUInt32, yRoot.toUInt32, direction, button.toUInt32, source.value]
  | .moveResizeWindowRequest _ flags x y width height =>
      #v[flags.toUInt32, x.toUInt32, y.toUInt32, width.toUInt32, height.toUInt32]
  | .restackRequest _ src above detail timestamp =>
      #v[src.value, above, detail.toUInt32, timestamp, 0]
  | .showWindowMenuRequest _ deviceId xRoot yRoot =>
      #v[deviceId.toUInt32, xRoot.toUInt32, yRoot.toUInt32, 0, 0]
  | .setDesktop desktop _ => #v[NETWinInfo.desktopWord desktop, 0, 0, 0, 0]
  | .setFullscreenMonitors topology =>
      #v[topology.top.toUInt32, topology.bottom.toUInt32, topology.left.toUInt32,
        topology.right.toUInt32, 1]

/-- The window that a message of `NETRootInfo` is about. -/
def subject (root : XcbWindow) : ClientRequest → XcbWindow
  | .setActiveWindow window .. | .closeWindowRequest window | .moveResizeRequest window ..
  | .moveResizeWindowRequest window .. | .restackRequest window ..
  | .showWindowMenuRequest window .. => window
  | _ => root

end ClientRequest

/-- A client and the window manager, each with its object of the root window and of one window. -/
structure Desktop where
  display : Display
  client : NETRootInfo × NETWinInfo
  manager : NETRootInfo × NETWinInfo

namespace Desktop

variable (atoms : Atoms) (s : Desktop)

/-- What the client sends while no viewports are mapped. -/
def request : ClientRequest → List Outgoing
  | .setNumberOfDesktops n => (s.client.1.setNumberOfDesktops atoms n).2
  | .setCurrentDesktop desktop ignore => (s.client.1.setCurrentDesktop atoms false desktop ignore).2
  | .setDesktopGeometry geometry => (s.client.1.setDesktopGeometry atoms geometry).2
  | .setDesktopViewport desktop viewport => (s.client.1.setDesktopViewport atoms desktop viewport).2
  | .setActiveWindow window src timestamp active =>
      (s.client.1.setActiveWindow atoms window src timestamp active).2
  | .setShowingDesktop showing => (s.client.1.setShowingDesktop atoms showing).2
  | .closeWindowRequest window => NETRootInfo.closeWindowRequest atoms window
  | .moveResizeRequest window xRoot yRoot direction button source =>
      NETRootInfo.moveResizeRequest atoms window xRoot yRoot direction button source
  | .moveResizeWindowRequest window flags x y width height =>
      NETRootInfo.moveResizeWindowRequest atoms window flags x y width height
  | .restackRequest window src above detail timestamp =>
      NETRootInfo.restackRequest atoms window src above detail timestamp
  | .showWindowMenuRequest window deviceId xRoot yRoot =>
      NETRootInfo.showWindowMenuRequest atoms window deviceId xRoot yRoot
  | .setDesktop desktop ignore => (s.client.2.setDesktop atoms s.display false desktop ignore).2
  | .setFullscreenMonitors topology => (s.client.2.setFullscreenMonitors atoms topology).2

/-- What the window manager is called with, of either class, and the flags that `event` gives back. -/
structure Outcome where
  root : List RootSignal := []
  win : List WinSignal := []
  properties : Flags := 0
  properties2 : Flags := 0
deriving DecidableEq, Repr

/-- A message handed to the `event` of the object of the root window. -/
def rootEvent (m : NetMessage) : Outcome :=
  let handled := s.manager.1.event atoms s.display (.clientMessage 32 m.window m.type m.data32)
  { root := handled.1.2, properties := handled.2.properties, properties2 := handled.2.properties2 }

/-- A message handed to the `event` of the object of the window. -/
def winEvent (m : NetMessage) : Outcome :=
  let handled := s.manager.2.event atoms s.display (.clientMessage 32 m.type m.data32)
  { win := handled.1.2, properties := handled.2.properties, properties2 := handled.2.properties2 }

/-- The one callback of a request with the arguments of the call, and its flag.  Requests that ask for
no property to be changed have none. -/
def outcome : ClientRequest → Outcome
  | .setNumberOfDesktops n =>
      { root := [.changeNumberOfDesktops n], properties := mask Property.numberOfDesktops }
  | .setCurrentDesktop desktop _ =>
      { root := [.changeCurrentDesktop desktop], properties := mask Property.currentDesktop }
  | .setDesktopGeometry geometry =>
      { root := [.changeDesktopGeometry NET.onAllDesktops geometry],
        properties := mask Property.desktopGeometry }
  | .setDesktopViewport _ viewport =>
      { root := [.changeDesktopViewport s.manager.1.currentDesktop viewport],
        properties := mask Property.desktopViewport }
  | .setActiveWindow window src timestamp active =>
      { root := [.changeActiveWindow window src timestamp active],
        properties := mask Property.activeWindow }
  | .setShowingDesktop showing =>
      { root := [.changeShowingDesktop showing], properties2 := mask Property2.showingDesktop }
  | .closeWindowRequest window => { root := [.closeWindow window] }
  | .moveResizeRequest window xRoot yRoot direction button source =>
      { root := [.moveResize window xRoot yRoot direction button source.value] }
  | .moveResizeWindowRequest window flags x y width height =>
      { root := [.moveResizeWindow window flags x y width height] }
  | .restackRequest window src above detail timestamp =>
      { root := [.restackWindow window src above detail timestamp] }
  | .showWindowMenuRequest window deviceId xRoot yRoot =>
      { root := [.showWindowMenu window deviceId xRoot yRoot] }
  | .setDesktop desktop _ =>
      { win := [.changeDesktop desktop], properties := mask Property.wmDesktop }
  | .setFullscreenMonitors topology =>
      { win := [.changeFullscreenMonitors topology], properties2 := mask Property2.fullscreenMonitors }

/-- The message of a request reaches the object of its class. -/
def deliver (r : ClientRequest) (m : NetMessage) : Outcome :=
  if r.ofWindow then s.winEvent atoms m else s.rootEvent atoms m

/-- The client's objects are a client's, and its window is managed. -/
structure Connected : Prop where
  clientRoot : s.client.1.role = .client
  clientWin : s.client.2.role = .client
  managerRoot : s.manager.1.role = .windowManager
  managerWin : s.manager.2.role = .windowManager
  managed : (s.client.2.withMappingState atoms s.display).mappingState ≠ .withdrawn

/-! ## Delivery -/

theorem requestSource_value (src : RequestSource) : NETRootInfo.requestSource? src.value = some src := by
  cases src <;> rfl

-- The word of a desktop other than 0 is read as that desktop.
theorem changeDesktop_word {desktop : Int32} (h : desktop ≠ 0) :
    (if NETWinInfo.desktopWord desktop = 0xffffffff then [WinSignal.changeDesktop (-1)]
      else [.changeDesktop (NETWinInfo.desktopWord desktop + 1).toInt32]) =
      [.changeDesktop desktop] := by
  have hadd : (desktop - 1).toUInt32 + 1 = desktop.toUInt32 := by
    rw [Int32.toUInt32_sub]
    exact UInt32.sub_add_cancel _ _
  unfold NETWinInfo.desktopWord
  by_cases hall : desktop = NET.onAllDesktops
  · rw [if_pos hall, if_pos rfl, hall]
    rfl
  · rw [if_neg hall, hadd, Int32.toInt32_toUInt32, if_neg]
    -- The word of all desktops would be the one below 0.
    intro hword
    apply h
    have hzero : desktop.toUInt32 = 0 := by
      rw [← hadd, hword]
      rfl
    rw [← Int32.toInt32_toUInt32 desktop, hzero]
    rfl

theorem currentDesktop_word (desktop : Int32) : ((desktop - 1).toUInt32 + 1).toInt32 = desktop := by
  rw [Int32.toUInt32_sub, show (1 : Int32).toUInt32 = 1 from rfl, UInt32.sub_add_cancel,
    Int32.toInt32_toUInt32]

section Delivery

variable {atoms s}

theorem rootEvent_eq (hs : s.Connected atoms) (m : NetMessage) :
    s.rootEvent atoms m =
      { root := (s.manager.1.clientMessage atoms m.window m.type m.data32).2
        properties := (s.manager.1.clientMessage atoms m.window m.type m.data32).1.properties
        properties2 := (s.manager.1.clientMessage atoms m.window m.type m.data32).1.properties2 } := by
  simp only [rootEvent, NETRootInfo.event, hs.managerRoot, and_self, if_true]

theorem winEvent_eq (hs : s.Connected atoms) (m : NetMessage) :
    s.winEvent atoms m =
      { win := (s.manager.2.clientMessage atoms m.type m.data32).2
        properties := (s.manager.2.clientMessage atoms m.type m.data32).1.properties
        properties2 := (s.manager.2.clientMessage atoms m.type m.data32).1.properties2 } := by
  simp only [winEvent, NETWinInfo.event, hs.managerWin, and_self, if_true]

theorem withMappingState_role (hs : s.Connected atoms) :
    (s.client.2.withMappingState atoms s.display).role = .client := by
  unfold NETWinInfo.withMappingState
  split
  · exact (NETWinInfo.update_sameWindow atoms s.client.2 s.display _ _).2.2.2.trans hs.clientWin
  · exact hs.clientWin

theorem request_refused (hs : s.Connected atoms) {r : ClientRequest} (hr : ¬r.Accepted) :
    s.request atoms r = [] := by
  cases r with
  | setDesktopViewport desktop viewport =>
      have hdesktop : desktop < 1 := not_not.mp hr
      simp only [request, NETRootInfo.setDesktopViewport, if_pos hdesktop]
  | setDesktop desktop ignore =>
      have hdesktop : desktop = 0 := not_not.mp hr
      simp only [request, NETWinInfo.setDesktop, withMappingState_role hs, true_and,
        if_pos hs.managed, if_pos hdesktop]
  | _ => exact absurd trivial hr

-- A client of either class sends one message for an accepted request.
theorem request_message (hs : s.Connected atoms) {r : ClientRequest} (hr : r.Accepted) :
    ∃ window, s.request atoms r = [.message ⟨window, atoms.atom r.name, r.words⟩] ∧
      (r.ofWindow = false → window = r.subject s.client.1.root) := by
  have hclient : ¬s.client.1.role = .windowManager := by
    rw [hs.clientRoot]
    exact fun h => nomatch h
  have hwin := withMappingState_role hs
  cases r with
  | setDesktopViewport desktop viewport =>
      have hdesktop : ¬desktop < 1 := hr
      simp only [request, NETRootInfo.setDesktopViewport, if_neg hdesktop, if_neg hclient]
      exact ⟨_, rfl, fun _ => rfl⟩
  | setCurrentDesktop desktop ignore =>
      simp only [request, NETRootInfo.setCurrentDesktop, if_neg hclient, Bool.false_eq_true, and_false,
        if_false]
      exact ⟨_, rfl, fun _ => rfl⟩
  | setDesktop desktop ignore =>
      have hdesktop : ¬desktop = 0 := hr
      simp only [request, NETWinInfo.setDesktop, hwin, true_and, if_pos hs.managed, if_neg hdesktop,
        Bool.false_eq_true, and_false, if_false]
      exact ⟨_, rfl, fun h => nomatch h⟩
  | setFullscreenMonitors topology =>
      simp only [request, NETWinInfo.setFullscreenMonitors, if_pos hs.clientWin]
      exact ⟨_, rfl, fun h => nomatch h⟩
  | setNumberOfDesktops n =>
      simp only [request, NETRootInfo.setNumberOfDesktops, if_neg hclient]
      exact ⟨_, rfl, fun _ => rfl⟩
  | setDesktopGeometry geometry =>
      simp only [request, NETRootInfo.setDesktopGeometry, if_neg hclient]
      exact ⟨_, rfl, fun _ => rfl⟩
  | setActiveWindow window src timestamp active =>
      simp only [request, NETRootInfo.setActiveWindow, if_neg hclient]
      exact ⟨_, rfl, fun _ => rfl⟩
  | setShowingDesktop showing =>
      simp only [request, NETRootInfo.setShowingDesktop, if_neg hclient]
      exact ⟨_, rfl, fun _ => rfl⟩
  | _ => exact ⟨_, rfl, fun _ => rfl⟩

-- What the window manager makes of the message, whatever it is about if it is one of a window.
theorem deliver_message (hs : s.Connected atoms) {r : ClientRequest} (hr : r.Accepted)
    {window : XcbWindow} {root : XcbWindow} (hwindow : r.ofWindow = false → window = r.subject root) :
    s.deliver atoms r ⟨window, atoms.atom r.name, r.words⟩ = s.outcome r := by
  cases r with
  | setDesktop desktop ignore =>
      show s.winEvent atoms _ = _
      rw [winEvent_eq hs]
      simp only [ClientRequest.name, ClientRequest.words, NETWinInfo.clientMessage, Atoms.atom_inj,
        reduceCtorEq, if_false, if_true]
      exact congrArg (fun win => (Outcome.mk [] win _ _)) (changeDesktop_word hr)
  | setFullscreenMonitors topology =>
      show s.winEvent atoms _ = _
      rw [winEvent_eq hs]
      simp [ClientRequest.name, ClientRequest.words, NETWinInfo.clientMessage, Atoms.atom_inj, outcome]
  | setCurrentDesktop desktop ignore =>
      show s.rootEvent atoms _ = _
      rw [rootEvent_eq hs]
      simp only [ClientRequest.name, ClientRequest.words, NETRootInfo.clientMessage, Atoms.atom_inj,
        reduceCtorEq, if_false, if_true]
      exact congrArg (fun desktop => (Outcome.mk [.changeCurrentDesktop desktop] [] _ _))
        (currentDesktop_word desktop)
  | setShowingDesktop showing =>
      show s.rootEvent atoms _ = _
      rw [rootEvent_eq hs]
      cases showing <;>
        simp [ClientRequest.name, ClientRequest.words, NETRootInfo.clientMessage, Atoms.atom_inj, outcome]
  | _ =>
      have hsubject := hwindow rfl
      show s.rootEvent atoms _ = _
      rw [rootEvent_eq hs]
      simp [ClientRequest.name, ClientRequest.words, NETRootInfo.clientMessage, Atoms.atom_inj, outcome,
        hsubject, ClientRequest.subject, requestSource_value, NET.onAllDesktops]

/-- An accepted request is one message, and the window manager gets the callback of the request from it
and nothing else.  A refused one sends nothing. -/
theorem request_outcome (hs : s.Connected atoms) (r : ClientRequest) :
    (r.Accepted → ∃ m, s.request atoms r = [.message m] ∧ s.deliver atoms r m = s.outcome r) ∧
      (¬r.Accepted → s.request atoms r = []) := by
  apply And.intro
  · intro hr
    rcases request_message hs hr with ⟨window, hrequest, hwindow⟩
    exact ⟨_, hrequest, deliver_message hs hr hwindow⟩
  · exact request_refused hs

end Delivery

/-- A client and the window manager of root window 1, at an empty display, with a window that is
managed. -/
def exampleDesktop : Desktop where
  display _ _ := none
  client := (NETRootInfo.newClient 1 {} 0 0,
    { role := .client, window := 7, root := 1, mappingState := .visible, mappingStateDirty := false,
      properties := 0, properties2 := 0 })
  manager := (NETRootInfo.newWindowManager 1 2 [] 0 0 0 0 0,
    { role := .windowManager, window := 7, root := 1, properties := 0, properties2 := 0 })

theorem exampleDesktop_connected : exampleDesktop.Connected .inOrder where
  clientRoot := rfl
  clientWin := rfl
  managerRoot := rfl
  managerWin := rfl
  managed := show MappingState.visible ≠ .withdrawn by decide

/-- A request at the extreme values. -/
theorem moveResizeWindow_delivered :
    ∃ m, exampleDesktop.request .inOrder (.moveResizeWindowRequest 7 (-1) (-2147483648) 2147483647 0 0) =
        [.message m] ∧
      exampleDesktop.deliver .inOrder (.moveResizeWindowRequest 7 (-1) (-2147483648) 2147483647 0 0) m =
        { root := [.moveResizeWindow 7 (-1) (-2147483648) 2147483647 0 0] } :=
  (request_outcome exampleDesktop_connected _).1 trivial

/-- The viewport of no desktop is never asked for, and a request to close a window reports no flag. -/
theorem viewport_refused :
    exampleDesktop.Connected .inOrder ∧
      exampleDesktop.request .inOrder (.setDesktopViewport 0 ⟨5, 5⟩) = [] ∧
      exampleDesktop.request .inOrder (.closeWindowRequest 7) =
        [.message ⟨7, Atoms.inOrder.atom .netCloseWindow, #v[0, 0, 0, 0, 0]⟩] ∧
      (exampleDesktop.rootEvent .inOrder
        ⟨7, Atoms.inOrder.atom .netCloseWindow, #v[0, 0, 0, 0, 0]⟩).properties.has
          Property.closeWindow = false :=
  ⟨exampleDesktop_connected, rfl, rfl, by decide +kernel⟩

end Desktop

end KWindowSystem
