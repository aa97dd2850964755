import KWindowSystem.Lib.Machine
import KWindowSystem.NetWM.Atoms

/-!
# KSelectionOwner

`KSelectionOwner` with what it asks the X server for.  The replies of the server are part of the event
that makes the owner ask.
-/

namespace KWindowSystem

/-- `XCB_CURRENT_TIME`. -/
def currentTime : UInt32 := 0

/-- The atoms that `getAtoms` interns. -/
structure SelectionAtoms where
  manager : XcbAtom
  multiple : XcbAtom
  targets : XcbAtom
  timestamp : XcbAtom

/-- A `ChangeProperty` request as the parameters of `xcb_change_property` are bound. -/
structure ChangeProperty where
  mode : UInt8
  window : XcbWindow
  property : XcbAtom
  type : XcbAtom
  format : UInt8
  dataLen : UInt32
  data : List UInt32
deriving DecidableEq, Repr

namespace KSelectionOwner

inductive State where
  | idle
  | waitingForTimestamp
  | waitingForPreviousOwner
deriving DecidableEq, Repr

inductive Signal where
  | lostOwnership
  | claimedOwnership
  | failedToClaimOwnership
deriving DecidableEq, Repr

inductive Request where
  | selectInput (window : XcbWindow) (eventMask : UInt32)
  | createWindow (window : XcbWindow)
  | destroyWindow (window : XcbWindow)
  | changeProperty (change : ChangeProperty)
  | setSelectionOwner (window : XcbWindow) (selection : XcbAtom) (time : UInt32)
  | killClient (window : XcbWindow)
  /-- The client message to the root window that announces a manager. -/
  | announce (type : XcbAtom) (data32 : Vector UInt32 5)
deriving DecidableEq, Repr

inductive Output where
  | signal (s : Signal)
  | request (r : Request)
deriving DecidableEq, Repr

/-- `XCB_EVENT_MASK_STRUCTURE_NOTIFY`. -/
def structureNotifyMask : UInt32 := 0x20000

def propertyChangeMask : UInt32 := 0x400000

end KSelectionOwner

structure KSelectionOwner where
  state : KSelectionOwner.State := .idle
  selection : XcbAtom
  root : XcbWindow
  window : XcbWindow := 0
  prevOwner : XcbWindow := 0
  timestamp : UInt32 := currentTime
  extra1 : UInt32 := 0
  extra2 : UInt32 := 0
  /-- Whether the timer runs. -/
  timer : Bool := false
  forceKill : Bool := false

namespace KSelectionOwner

variable (atoms : SelectionAtoms)

def claimSucceeded (d : KSelectionOwner) : KSelectionOwner × List Output :=
  ({ d with state := .idle },
    [.request (.announce atoms.manager #v[d.timestamp, d.selection, d.window, d.extra1, d.extra2]),
      .signal .claimedOwnership])

/-- The owner that the server reports after the selection was set is `newOwner`. -/
def gotTimestamp (d : KSelectionOwner) (newOwner : XcbWindow) : KSelectionOwner × List Output :=
  let d := { d with state := .idle }
  let set : Output := .request (.setSelectionOwner d.window d.selection d.timestamp)
  if newOwner ≠ d.window then
    ({ d with timestamp := currentTime, window := 0 },
      [set, .request (.destroyWindow d.window), .signal .failedToClaimOwnership])
  else if d.prevOwner ≠ 0 ∧ d.forceKill = true then
    ({ d with timer := true, state := .waitingForPreviousOwner }, [set])
  else
    let succeeded := claimSucceeded atoms d
    (succeeded.1, set :: succeeded.2)

def timeout (d : KSelectionOwner) : KSelectionOwner × List Output :=
  let d := { d with state := .idle }
  if d.forceKill then
    let succeeded := claimSucceeded atoms d
    (succeeded.1, .request (.killClient d.prevOwner) :: succeeded.2)
  else (d, [.signal .failedToClaimOwnership])

def release (d : KSelectionOwner) : KSelectionOwner × List Output :=
  if d.timestamp = currentTime then (d, [])
  else
    ({ d with window := 0, timestamp := currentTime }, [.request (.destroyWindow d.window)])

/-- The selection is owned by `prevOwner`, and `window` is the id that is generated. -/
def claim (d : KSelectionOwner) (force forceKill : Bool) (prevOwner window : XcbWindow) :
    KSelectionOwner × List Output :=
  let released := if d.timestamp ≠ currentTime then release d else (d, [])
  let d := { released.1 with prevOwner }
  if prevOwner ≠ 0 ∧ force = false then (d, released.2 ++ [.signal .failedToClaimOwnership])
  else
    let watch : List Output :=
      if prevOwner ≠ 0 then [.request (.selectInput prevOwner structureNotifyMask)] else []
    let change : ChangeProperty :=
      { mode := 0, window, property := XcbAtom.atom, type := XcbAtom.atom, format := 32, dataLen := 1
        data := [XcbAtom.atom] }
    ({ d with window, forceKill, state := .waitingForTimestamp },
      released.2 ++ watch ++
        [.request (.createWindow window),
          .request (.selectInput window (propertyChangeMask ||| structureNotifyMask)),
          .request (.changeProperty change)])

/-! ## Events -/

inductive Event where
  /-- A call of `claim`, with the replies it gets. -/
  | claim (force forceKill : Bool) (prevOwner window : XcbWindow)
  | setData (extra1 extra2 : UInt32)
  | selectionClear (selection : XcbAtom) (owner : XcbWindow)
  | destroyNotify (window : XcbWindow)
  /-- A property change, with the owner that the server would report. -/
  | propertyNotify (window : XcbWindow) (time : UInt32) (newOwner : XcbWindow)
  | timer
deriving DecidableEq, Repr

def selectionClear (d : KSelectionOwner) (selection : XcbAtom) : KSelectionOwner × List Output :=
  if d.timestamp = currentTime ∨ selection ≠ d.selection then (d, [])
  else
    ({ d with timestamp := currentTime },
      [.signal .lostOwnership, .request (.selectInput d.window 0),
        .request (.destroyWindow d.window)])

/-- The second half of the case of a destroyed window: the helper window. -/
def ownDestroyed (d : KSelectionOwner) (window : XcbWindow) : KSelectionOwner × List Output :=
  if d.timestamp = currentTime ∨ window ≠ d.window then (d, [])
  else ({ d with timestamp := currentTime }, [.signal .lostOwnership])

def destroyNotify (d : KSelectionOwner) (window : XcbWindow) : KSelectionOwner × List Output :=
  if window = d.prevOwner then
    if d.state = .waitingForPreviousOwner then claimSucceeded atoms { d with timer := false }
    else ownDestroyed { d with prevOwner := 0 } window
  else ownDestroyed d window

def propertyNotify (d : KSelectionOwner) (window : XcbWindow) (time : UInt32)
    (newOwner : XcbWindow) : KSelectionOwner × List Output :=
  if window = d.window ∧ d.state = .waitingForTimestamp then
    gotTimestamp atoms { d with timestamp := time } newOwner
  else (d, [])

/-- A tick reaches the owner only while its timer runs. -/
def timerEvent (d : KSelectionOwner) : KSelectionOwner × List Output :=
  if d.timer then timeout atoms { d with timer := false } else (d, [])

def step (d : KSelectionOwner) (e : Event) : KSelectionOwner × List Output :=
  match e with
  | .claim force forceKill prevOwner window => claim d force forceKill prevOwner window
  | .setData extra1 extra2 => ({ d with extra1, extra2 }, [])
  | .selectionClear selection _ => selectionClear d selection
  | .destroyNotify window => destroyNotify atoms d window
  | .propertyNotify window time newOwner => propertyNotify atoms d window time newOwner
  | .timer => timerEvent atoms d

end KSelectionOwner

end KWindowSystem
