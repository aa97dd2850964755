import KWindowSystem.NetWM.DesktopNames
import KWindowSystem.NetWM.RootLists
import KWindowSystem.NetWM.WinSetters

/-!
# The setters of NETRootInfo

The functions that change what the root window says.  A window manager keeps the value and writes the
property; a client asks for the change with a message or, where there is none for it, does nothing.  The
names and the layout of the desktops are written by either.
-/

open Qt

namespace KWindowSystem

open NET

def NET.Orientation.value : Orientation → UInt32
  | .horizontal => 0
  | .vertical => 1

def NET.DesktopLayoutCorner.value : DesktopLayoutCorner → UInt32
  | .topLeft => 0
  | .topRight => 1
  | .bottomLeft => 2
  | .bottomRight => 3

/-- The order in which an area is written. -/
def NETRect.areaWords (rect : NETRect) : List UInt32 :=
  [rect.pos.x.toUInt32, rect.pos.y.toUInt32, rect.size.width.toUInt32, rect.size.height.toUInt32]

namespace NETRootInfo

section Setters

variable (atoms : Atoms) (p : NETRootInfo)

/-- The areas of all desktops are written, with the new one among them. -/
def setWorkArea (desktop : Int32) (workarea : NETRect) : NETRootInfo × List Outgoing :=
  if p.role ≠ .windowManager ∨ desktop < 1 then (p, [])
  else
    let workarea := p.workarea.set (desktop.toInt - 1).toNat workarea
    let n := p.numberOfDesktops.toInt.toNat
    ({ p with workarea := workarea.readTo n },
      changeRoot atoms p .netWorkarea .cardinal
        ((List.range n).flatMap fun i => (workarea.get i).areaWords))

/-- Whatever the role. -/
def setDesktopLayout (orientation : Orientation) (columns rows : Int32) (corner : DesktopLayoutCorner) :
    NETRootInfo × List Outgoing :=
  ({ p with
      desktopLayoutOrientation := orientation, desktopLayoutColumns := columns,
      desktopLayoutRows := rows, desktopLayoutCorner := corner },
    changeRoot atoms p .netDesktopLayout .cardinal
      [orientation.value, columns.toUInt32, rows.toUInt32, corner.value])

/-- A setter that changes one property of the root window at most. -/
def ofChange (set : NETRootInfo × Option Change) : NETRootInfo × List Outgoing :=
  (set.1, set.2.toList.map (.property p.root))

end Setters

/-! ## Calls -/

/-- The message that a request is sent as. -/
def messageOf (atoms : Atoms) (root : XcbWindow) (r : ClientRequest) : NetMessage :=
  ⟨r.subject root, atoms.atom r.name, r.words⟩

/-- A call of a setter. -/
inductive RootCall where
  | setNumberOfDesktops (numberOfDesktops : Int32)
  | setCurrentDesktop (desktop : Int32)
  | setDesktopGeometry (geometry : NETSize)
  | setDesktopViewport (desktop : Int32) (viewport : NETPoint)
  | setActiveWindow (window : XcbWindow) (src : RequestSource) (timestamp : UInt32)
      (activeWindow : XcbWindow)
  | setShowingDesktop (showing : Bool)
  | setDesktopName (desktop : Int32) (desktopName : Option QByteArray)
  | setWorkArea (desktop : Int32) (workarea : NETRect)
  | setDesktopLayout (orientation : Orientation) (columns rows : Int32) (corner : DesktopLayoutCorner)
  | setList (list : RootList) (windows : List XcbWindow)

namespace RootCall

/-- The branch of `update` that reads what the call is about. -/
def branch : RootCall → Branch
  | .setNumberOfDesktops _ => .numberOfDesktops
  | .setCurrentDesktop _ => .currentDesktop
  | .setDesktopGeometry _ => .desktopGeometry
  | .setDesktopViewport .. => .desktopViewport
  | .setActiveWindow .. => .activeWindow
  | .setShowingDesktop _ => .showingDesktop
  | .setDesktopName .. => .desktopNames
  | .setWorkArea .. => .workArea
  | .setDesktopLayout .. => .desktopLayout
  | .setList list _ => list.branch

variable (atoms : Atoms)

/-- What a call does where desktops are no viewports. -/
def perform (p : NETRootInfo) : RootCall → NETRootInfo × List Outgoing
  | .setNumberOfDesktops numberOfDesktops => p.setNumberOfDesktops atoms numberOfDesktops
  | .setCurrentDesktop desktop => p.setCurrentDesktop atoms false desktop false
  | .setDesktopGeometry geometry => p.setDesktopGeometry atoms geometry
  | .setDesktopViewport desktop viewport => p.setDesktopViewport atoms desktop viewport
  | .setActiveWindow window src timestamp activeWindow =>
      p.setActiveWindow atoms window src timestamp activeWindow
  | .setShowingDesktop showing => p.setShowingDesktop atoms showing
  | .setDesktopName desktop desktopName => p.ofChange (p.setDesktopName atoms desktop desktopName)
  | .setWorkArea desktop workarea => p.setWorkArea atoms desktop workarea
  | .setDesktopLayout orientation columns rows corner =>
      p.setDesktopLayout atoms orientation columns rows corner
  | .setList list windows => p.ofChange (list.set atoms p windows)

/-- The two setters that do not look at the role. -/
def anyRole : RootCall → Bool
  | .setDesktopName .. | .setDesktopLayout .. => true
  | _ => false

/-- What a client asks for with a call. -/
def request? : RootCall → Option ClientRequest
  | .setNumberOfDesktops numberOfDesktops => some (.setNumberOfDesktops numberOfDesktops)
  | .setCurrentDesktop desktop => some (.setCurrentDesktop desktop false)
  | .setDesktopGeometry geometry => some (.setDesktopGeometry geometry)
  | .setDesktopViewport desktop viewport =>
      if desktop < 1 then none else some (.setDesktopViewport desktop viewport)
  | .setActiveWindow window src timestamp activeWindow =>
      some (.setActiveWindow window src timestamp activeWindow)
  | .setShowingDesktop showing => some (.setShowingDesktop showing)
  | _ => none

/-! ## What a call can do -/

/-- Nothing, or it asks for something, or it writes its own property and keeps what it writes. -/
inductive Done (p : NETRootInfo) (c : RootCall) : NETRootInfo × List Outgoing → Prop where
  | refused : Done p c (p, [])
  | asked (m : NetMessage) : Done p c (p, [.message m])
  | written (q : NETRootInfo) (value : XProperty) (identity : q.identity = p.identity)
      (frame : ∀ b, b ≠ c.branch → b.owned q = b.owned p) :
      Done p c (q, [.property p.root ⟨atoms.atom c.branch.name, some value⟩])

theorem done_perform (p : NETRootInfo) (c : RootCall) : Done atoms p c (c.perform atoms p) := by
  cases c with
  | setNumberOfDesktops n =>
      unfold perform NETRootInfo.setNumberOfDesktops
      dsimp only
      split
      · refine .written _ _ rfl fun b hb => ?_
        cases b <;> first | rfl | exact absurd rfl hb
      · exact .asked _
  | setCurrentDesktop desktop =>
      unfold perform NETRootInfo.setCurrentDesktop
      dsimp only
      split
      · refine .written _ _ rfl fun b hb => ?_
        cases b <;> first | rfl | exact absurd rfl hb
      · rw [if_neg fun h => Bool.noConfusion h.2]
        exact .asked _
  | setDesktopGeometry geometry =>
      unfold perform NETRootInfo.setDesktopGeometry
      dsimp only
      split
      · refine .written _ _ rfl fun b hb => ?_
        cases b <;> first | rfl | exact absurd rfl hb
      · exact .asked _
  | setDesktopViewport desktop viewport =>
      unfold perform NETRootInfo.setDesktopViewport
      dsimp only
      split
      · exact .refused
      · split
        · refine .written _ _ rfl fun b hb => ?_
          cases b <;> first | rfl | exact absurd rfl hb
        · exact .asked _
  | setActiveWindow window src timestamp activeWindow =>
      unfold perform NETRootInfo.setActiveWindow
      dsimp only
      split
      · refine .written _ _ rfl fun b hb => ?_
        cases b <;> first | rfl | exact absurd rfl hb
      · exact .asked _
  | setShowingDesktop showing =>
      unfold perform NETRootInfo.setShowingDesktop
      dsimp only
      split
      · refine .written _ _ rfl fun b hb => ?_
        cases b <;> first | rfl | exact absurd rfl hb
      · exact .asked _
  | setDesktopName desktop name =>
      unfold perform NETRootInfo.setDesktopName NETRootInfo.ofChange
      dsimp only
      split
      · exact .refused
      · refine .written _ _ rfl fun b hb => ?_
        cases b <;> first | rfl | exact absurd rfl hb
  | setWorkArea desktop area =>
      unfold perform NETRootInfo.setWorkArea
      dsimp only
      split
      · exact .refused
      · refine .written _ _ rfl fun b hb => ?_
        cases b <;> first | rfl | exact absurd rfl hb
  | setDesktopLayout orientation columns rows corner =>
      refine .written _ _ rfl fun b hb => ?_
      cases b <;> first | rfl | exact absurd rfl hb
  | setList list windows =>
      cases list with
      | clientList =>
          simp only [perform, RootList.set, NETRootInfo.ofChange, NETRootInfo.setClientList]
          split
          · exact .refused
          · refine .written _ _ rfl fun b hb => ?_
            cases b <;> first | rfl | exact absurd rfl hb
      | clientListStacking =>
          simp only [perform, RootList.set, NETRootInfo.ofChange, NETRootInfo.setClientListStacking]
          split
          · exact .refused
          · refine .written _ _ rfl fun b hb => ?_
            cases b <;> first | rfl | exact absurd rfl hb
      | virtualRoots =>
          simp only [perform, RootList.set, NETRootInfo.ofChange, NETRootInfo.setVirtualRoots]
          split
          · exact .refused
          · refine .written _ _ rfl fun b hb => ?_
            cases b <;> first | rfl | exact absurd rfl hb

-- A client sends a message for a request, and nothing for other calls that have one.
theorem perform_request {p : NETRootInfo} (hp : p.role = .client) {c : RootCall} (hc : c.anyRole = false) :
    c.perform atoms p = (p, (c.request?.map (messageOf atoms p.root)).toList.map .message) := by
  have hrole : ¬p.role = .windowManager := by
    rw [hp]
    exact fun h => nomatch h
  cases c with
  | setDesktopViewport desktop viewport =>
      simp only [perform, NETRootInfo.setDesktopViewport, if_neg hrole, request?]
      split <;> rfl
  | setWorkArea desktop area =>
      simp only [perform, NETRootInfo.setWorkArea, ne_eq, hrole, not_false_eq_true, true_or, if_true]
      rfl
  | setList list windows =>
      cases list <;>
        simp only [perform, RootList.set, NETRootInfo.ofChange, NETRootInfo.setClientList,
          NETRootInfo.setClientListStacking, NETRootInfo.setVirtualRoots, ne_eq, hrole, not_false_eq_true,
          if_true] <;>
        rfl
  | setDesktopName desktop name => cases hc
  | setDesktopLayout orientation columns rows corner => cases hc
  | setCurrentDesktop desktop =>
      simp only [perform, NETRootInfo.setCurrentDesktop, if_neg hrole, Bool.false_eq_true, and_false,
        if_false]
      rfl
  | _ =>
      simp only [perform, NETRootInfo.setNumberOfDesktops, NETRootInfo.setDesktopGeometry,
        NETRootInfo.setActiveWindow, NETRootInfo.setShowingDesktop, if_neg hrole]
      rfl

end RootCall

end NETRootInfo

end KWindowSystem
